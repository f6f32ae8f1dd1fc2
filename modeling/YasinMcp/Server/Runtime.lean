import YasinMcp.Adapters.GitHub
import YasinMcp.Adapters.Operations
import YasinMcp.Adapters.ProjectRegistry
import YasinMcp.Capabilities.Registration
import YasinMcp.Config.Loading
import YasinMcp.Governance.Gate
import YasinMcp.Providers.RunflareCommands

/-!
# The server runtime

Creating the runtime registers the tools, derives the risk catalog, completes the
catalog of the gate by it and serves each tool under its name behind the gate.  The
registry and the gate can be supplied, so creations can share them.
-/

namespace YasinMcp

open Foundation

/-!
## What is served
-/

inductive DocsMethod where
  | listDocuments
  | getDocument
  | search
  | listAdrs
  | getAdr
  | listArchitecture
  | getProjectArchitecture
deriving DecidableEq, Repr

inductive GitHubMethod where
  | getRepository
  | listIssues
  | getIssue
  | listPullRequests
  | getPullRequest
  | listCommits
  | getCommitStatus
  | listWorkflowRuns
  | listBranches
  | listReleases
deriving DecidableEq, Repr

inductive RegistryMethod where
  | listProjects
  | getProject
  | listDependencies
deriving DecidableEq, Repr

inductive ReferenceMethod where
  | pingLowRisk
  | applyMark
deriving DecidableEq, Repr

inductive OperationsMethod where
  | listServices
  | serviceStatus
  | health
  | diagnostics
deriving DecidableEq, Repr

/-- A method of a toolset, bound to the adapter of the toolset. -/
inductive ToolBody where
  | docs (adapter : YasinDocsAdapter) (method : DocsMethod)
  | github (adapter : GitHubAdapter) (method : GitHubMethod)
  | registry (adapter : ProjectRegistryAdapter) (method : RegistryMethod)
  | reference (method : ReferenceMethod)
  | runflare (cli : Runflare.RunflareCLI) (method : Runflare.RunflareMethod)
  | operations (adapter : OperationsAdapter) (method : OperationsMethod)

def ToolBody.mutates : ToolBody -> Bool
  | .runflare _ .deploy => true
  | .runflare _ .start => true
  | .runflare _ .restart => true
  | .reference .applyMark => true
  | _ => false

structure ServedTool where
  name : String
  body : ToolBody

def docsTools (docs : YasinDocsAdapter) : List ServedTool :=
  [⟨toolListDocs, .docs docs .listDocuments⟩,
    ⟨toolGetDoc, .docs docs .getDocument⟩,
    ⟨toolSearchDocs, .docs docs .search⟩,
    ⟨toolListAdrs, .docs docs .listAdrs⟩,
    ⟨toolGetAdr, .docs docs .getAdr⟩,
    ⟨toolListArchitecture, .docs docs .listArchitecture⟩,
    ⟨toolGetProjectArchitecture, .docs docs .getProjectArchitecture⟩]

def githubTools (gh : GitHubAdapter) : List ServedTool :=
  [⟨toolGetRepo, .github gh .getRepository⟩,
    ⟨toolListIssues, .github gh .listIssues⟩,
    ⟨toolGetIssue, .github gh .getIssue⟩,
    ⟨toolListPrs, .github gh .listPullRequests⟩,
    ⟨toolGetPr, .github gh .getPullRequest⟩,
    ⟨toolListCommits, .github gh .listCommits⟩,
    ⟨toolCommitStatus, .github gh .getCommitStatus⟩,
    ⟨toolListWorkflows, .github gh .listWorkflowRuns⟩,
    ⟨toolListBranches, .github gh .listBranches⟩,
    ⟨toolListReleases, .github gh .listReleases⟩]

def registryTools (reg : ProjectRegistryAdapter) : List ServedTool :=
  [⟨toolListProjects, .registry reg .listProjects⟩,
    ⟨toolGetProject, .registry reg .getProject⟩,
    ⟨toolListDeps, .registry reg .listDependencies⟩]

def referenceTools : List ServedTool :=
  [⟨toolGovPingLowRisk, .reference .pingLowRisk⟩,
    ⟨toolGovApplyMark, .reference .applyMark⟩]

def runflareTools (cli : Runflare.RunflareCLI) : List ServedTool :=
  [⟨toolStatus, .runflare cli .status⟩,
    ⟨toolEvents, .runflare cli .events⟩,
    ⟨toolLogs, .runflare cli .logs⟩,
    ⟨toolDeploy, .runflare cli .deploy⟩,
    ⟨toolStart, .runflare cli .start⟩,
    ⟨toolRestart, .runflare cli .restart⟩]

def operationsTools (ops : OperationsAdapter) : List ServedTool :=
  [⟨toolListServices, .operations ops .listServices⟩,
    ⟨toolServiceStatus, .operations ops .serviceStatus⟩,
    ⟨toolHealth, .operations ops .health⟩,
    ⟨toolDiagnostics, .operations ops .diagnostics⟩]

/-!
## Completing a catalog
-/

namespace ToolRiskCatalog

def knownNames (catalog : ToolRiskCatalog) : List String :=
  catalog.entries.keys

/-- Add the names that a catalog does not know, with the risks of the derived one. -/
def complete (derived : ToolRiskCatalog) :
    List String -> ToolRiskCatalog -> Except PyException ToolRiskCatalog
  | [], catalog => .ok catalog
  | name :: rest, catalog =>
      if (catalog.entries.get? name).isSome = true then complete derived rest catalog
      else do
        let tool ← derived.resolve name
        let catalog ← catalog.register name tool.risk
        complete derived rest catalog

end ToolRiskCatalog

/-!
## Creating a runtime
-/

theorem defaultSubject_stripped : Text.strip "local-operator" = "local-operator" := by decide

theorem defaultSubject_nonempty : "local-operator" ≠ "" := by decide

theorem defaultSubject_short : "local-operator".length ≤ maxAuthSubjectLen := by decide

theorem defaultArgs_concurrency :
    1 ≤ ({} : ServerConfigArgs).maxConcurrentRequests ∧
      ({} : ServerConfigArgs).maxConcurrentRequests ≤ maxConcurrency := by
  decide

theorem defaultArgs_token (h : ({} : ServerConfigArgs).requireAuthentication = true) :
    secretPresent ({} : ServerConfigArgs).authToken = true := by
  cases h

def ServerConfig.default : ServerConfig where
  args := {}
  authSubjectId := "local-operator"
  subject_stripped := defaultSubject_stripped
  subject_nonempty := defaultSubject_nonempty
  subject_short := defaultSubject_short
  concurrency_bounds := defaultArgs_concurrency
  token_of_required := defaultArgs_token

def ServerSettings.default : ServerSettings where
  config := .default
  githubToken := none
  remoteHost := "127.0.0.1"

example (py : Builtins) : ServerConfig.postInit py {} = .ok .default := rfl

/-- What a creation finds around it. -/
structure Site where
  environ : Environ
  unicode : UnicodeData
  paths : Runflare.Paths
  gateway : (op : GatewayOp) -> GatewayRes op

/-- What a creation is given; a part that is absent is made. -/
structure CreateArgs where
  config : Option ServerSettings := none
  operationsAdapter : Option OperationsAdapter := none
  docsAdapter : Option YasinDocsAdapter := none
  githubAdapter : Option GitHubAdapter := none
  policy : Option GovernancePolicy := none
  governance : Option GovernanceGate := none

structure ServerRuntime where
  config : ServerSettings
  tools : List ServedTool
  governance : GovernanceGate
  operationsAvailable : Bool
  runflareAvailable : Bool

def osErrorNames : List String :=
  ["OSError", "BlockingIOError", "ChildProcessError", "ConnectionError", "BrokenPipeError",
    "ConnectionAbortedError", "ConnectionRefusedError", "ConnectionResetError",
    "FileExistsError", "FileNotFoundError", "InterruptedError", "IsADirectoryError",
    "NotADirectoryError", "PermissionError", "ProcessLookupError", "TimeoutError"]

def valueErrorNames : List String :=
  ["UnicodeError", "UnicodeDecodeError", "UnicodeEncodeError", "UnicodeTranslateError"]

def isOsOrValueError : PyException -> Bool
  | .valueError _ => true
  | .other name _ => name ∈ osErrorNames ++ valueErrorNames
  | _ => false

namespace ServerRuntime

variable {py : Builtins}

def setUpRunflare (py : Builtins) (site : Site) : Except PyException (Option Runflare.RunflareCLI) :=
  if environValue site.environ Runflare.runflareProjectDirEnv = none then .ok none
  else
    match Runflare.RunflareCLI.init py site.unicode site.paths site.environ with
    | .ok cli => .ok (some cli)
    | .error e => if isOsOrValueError e = true then .ok none else .error e

def operationsAvailability (site : Site) (adapter : OperationsAdapter) :
    Except PyException Bool :=
  (executableAvailable adapter.executable).under site.gateway

def resolveDocs (args : CreateArgs) (settings : ServerSettings) :
    Except PyException YasinDocsAdapter :=
  match args.docsAdapter with
  | some docs => .ok docs
  | none =>
      YasinDocsAdapter.init settings.githubToken settings.config.args.requestTimeoutSeconds

def resolveGithub (args : CreateArgs) (settings : ServerSettings) :
    Except PyException GitHubAdapter :=
  match args.githubAdapter with
  | some gh => .ok gh
  | none => GitHubAdapter.init settings.githubToken settings.config.args.requestTimeoutSeconds

/-- The supplied gate, or one over the derived catalog. -/
def resolveGate (args : CreateArgs) (settings : ServerSettings) (derived : ToolRiskCatalog) :
    GovernanceGate :=
  args.governance.getD
    { catalog := derived
      policy := args.policy.getD DefaultConservativePolicy.evaluate
      securityConfig := some settings.config
      approvalStore := true }

def registerTools (site : Site) (operations : OperationsAdapter) : Registering py Bool := do
  let _ ← registerDocsTools
  let _ ← registerGithubTools
  let _ ← registerRegistryTools
  let _ ← registerRunflareCapabilities
  let available ← Registering.construct (operationsAvailability site operations)
  let operationsRegistered ← registerOperationsTools available
  let _ ← registerGovernanceRefTools
  pure operationsRegistered

/-- The runtime with its tools, each of them served behind the gate. -/
def serve (settings : ServerSettings) (docs : YasinDocsAdapter) (gh : GitHubAdapter)
    (runflare : Option Runflare.RunflareCLI) (operations : OperationsAdapter)
    (operationsRegistered : Bool) (gate : GovernanceGate) : ServerRuntime where
  config := settings
  tools := docsTools docs ++ githubTools gh ++ registryTools ⟨docs⟩ ++ referenceTools ++
    (match runflare with
      | none => []
      | some cli => runflareTools cli) ++
    if operationsRegistered = true then operationsTools operations else []
  governance := gate
  operationsAvailable := operationsRegistered
  runflareAvailable := runflare.isSome

/-- What follows the registrations; it reads the registry and registers nothing. -/
def assemble (site : Site) (args : CreateArgs) (settings : ServerSettings)
    (docs : YasinDocsAdapter) (operations : OperationsAdapter) (operationsRegistered : Bool)
    (registry : CapabilityRegistry py) : Except PyException ServerRuntime := do
  let runflare ← setUpRunflare py site
  let derived ← catalogFromRegistry registry
  let gate := resolveGate args settings derived
  let catalog ← ToolRiskCatalog.complete derived derived.knownNames gate.catalog
  let gh ← resolveGithub args settings
  .ok (serve settings docs gh runflare operations operationsRegistered
    { gate with catalog := catalog })

/-- Create a runtime over the registry; its registrations stay when it raises. -/
def create (site : Site) (args : CreateArgs) : Registering py ServerRuntime := do
  let settings := args.config.getD .default
  let operations := args.operationsAdapter.getD {}
  let docs ← Registering.construct (resolveDocs args settings)
  let operationsRegistered ← registerTools site operations
  let registry ← get
  Registering.construct
    (assemble site args settings docs operations operationsRegistered registry)

end ServerRuntime

end YasinMcp
