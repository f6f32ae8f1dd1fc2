import YasinMcp.Security.MarkerCoverage

/-!
# What the tools answer

A toolset checks the arguments of a tool, calls its adapter and wraps what the adapter
returns.  Whatever the upstream sends, a text in an answer that is not one of the server's
or of the call's own stands inside an object that is labelled as untrusted.
-/

namespace YasinMcp

open Foundation Docs GitHub ProjectRegistry

def object (payload : Payload) : Value := .dict payload.entries

def textArgument (message : String) : Value -> Except PyException String
  | .str s => .ok s
  | _ => .error (validationError message)

/-!
## Documentation
-/

def refToDict (unicode : UnicodeData) (ref : DocumentRef) : Payload :=
  attachUntrustedEnvelope unicode
    (Dict.ofEntries
      [("path", .str ref.path), ("sha", .str ref.sha), ("size", .int ref.size),
        ("url", .str ref.url), ("repository", .str ref.repository), ("ref", .str ref.ref),
        ("provenance", .dict
          [("source", .str "yasin-docs"), ("repository", .str ref.repository),
            ("ref", .str ref.ref), ("path", .str ref.path), ("sha", .str ref.sha)])])
    "yasin-docs" (some ref.path)

def Docs.DocumentSearchResult.asDict (unicode : UnicodeData) (result : DocumentSearchResult) :
    Payload :=
  Dict.ofEntries
    [("document", object (result.document.asDict unicode)), ("matches", .int result.found)]

structure DocsToolset where
  adapter : YasinDocsAdapter

namespace DocsToolset

section

variable (py : Builtins) (unicode : UnicodeData) (toolset : DocsToolset)

def repository : String := docsOwner ++ "/" ++ docsRepository

def refsAnswer (name note : String) (refs : List DocumentRef) : Payload :=
  Dict.ofEntries
    [(.str name, .list (refs.map fun ref => object (refToDict unicode ref))),
      ("count", .int refs.length), ("repository", .str repository),
      ("evidence_status", .str "confirmed"), ("note", .str note)]

def documentsNote : String :=
  "Paths are CONFIRMED from the live YASIN-DOCS tree. " ++
    "Document body claims remain TARGET unless verified elsewhere."

def searchNote : String :=
  "Match counts are CONFIRMED against fetched file bodies. " ++
    "Matched text is documentation content, not runtime proof."

def adrsNote : String :=
  "ADR file presence is CONFIRMED from the repository tree. " ++
    "ADR decisions describe TARGET architecture intent unless " ++
    "independently verified in code."

def architectureNote : String :=
  "Architecture document paths are CONFIRMED from the tree. " ++
    "Architecture statements inside documents are TARGET intent."

def listDocuments : Fetch Payload := do
  let refs ← toolset.adapter.listDocuments py unicode
  .pure (refsAnswer unicode "documents" documentsNote refs)

def getDocument (path : Value) : Fetch Payload := do
  let path ← .ofExcept (textArgument "path must be a string" path)
  let document ← toolset.adapter.getDoc py path
  .pure (document.asDict unicode)

def prefixArgument : Value -> Except PyException (Option String)
  | .none => .ok none
  | .str s => .ok (some s)
  | _ => .error (validationError "path_prefix must be a string or omitted")

def search (query pathPrefix : Value) : Fetch Payload := do
  let query ← .ofExcept (textArgument "query must be a string" query)
  let pathPrefix ← .ofExcept (prefixArgument pathPrefix)
  let results ← toolset.adapter.searchDocsScoped py unicode query pathPrefix
  .pure (Dict.ofEntries
    [("query", .str query), ("path_prefix", .ofOption pathPrefix),
      ("results", .list (results.map fun result => object (result.asDict unicode))),
      ("count", .int results.length), ("repository", .str repository),
      ("evidence_status", .str "confirmed"), ("note", .str searchNote)])

def listAdrs : Fetch Payload := do
  let refs ← toolset.adapter.listAdrs py unicode
  .pure (refsAnswer unicode "adrs" adrsNote refs)

def getAdr (name : Value) : Fetch Payload := do
  let name ← .ofExcept (textArgument "name must be a string" name)
  let document ← toolset.adapter.getAdr py name
  .pure (document.asDict unicode)

def listArchitecture : Fetch Payload := do
  let refs ← toolset.adapter.listArchitectureDocs py unicode
  .pure (refsAnswer unicode "architecture_docs" architectureNote refs)

def getProjectArchitecture (project : Value) : Fetch Payload := do
  let project ← .ofExcept (textArgument "project must be a string" project)
  let document ← toolset.adapter.getProjectArchitecture py unicode project
  .pure (document.asDict unicode)

end

end DocsToolset

/-!
## GitHub
-/

def GitHub.CommitStatus.asDict (unicode : UnicodeData) (info : CommitStatus) : Payload :=
  Dict.update
    (Dict.ofEntries
      [("sha", .str info.sha), ("state", .str info.state), ("total_count", .int info.totalCount)])
    (githubMeta unicode info.sourceUrl)

structure GitHubToolset where
  adapter : GitHubAdapter

namespace GitHubToolset

def repositoryArguments (owner repository : Value) : Except PyException (String × String) :=
  match owner, repository with
  | .str owner, .str repository => .ok (owner, repository)
  | _, _ => .error (validationError "owner and repository must be strings")

def itemsAnswer (name owner repository : String) (items : List Payload) : Payload :=
  Dict.ofEntries
    [("owner", .str owner), ("repository", .str repository),
      (.str name, .list (items.map object)), ("count", .int items.length),
      ("evidence_status", .str "confirmed")]

def listMethod {a : Type} (name : String) (list : String -> String -> Fetch (List a))
    (asDict : a -> Payload) (owner repository : Value) : Fetch Payload := do
  let (owner, repository) ← .ofExcept (repositoryArguments owner repository)
  let items ← list owner repository
  .pure (itemsAnswer name owner repository (items.map asDict))

def getMethod {a : Type} (get : String -> String -> Fetch a) (asDict : a -> Payload)
    (owner repository : Value) : Fetch Payload := do
  let (owner, repository) ← .ofExcept (repositoryArguments owner repository)
  let info ← get owner repository
  .pure (asDict info)

section

variable (py : Builtins) (unicode : UnicodeData) (toolset : GitHubToolset)
  (owner repository : Value)

def getRepository : Fetch Payload :=
  getMethod (toolset.adapter.getRepository py) (RepositoryInfo.asDict unicode) owner repository

def listIssues (limit : Int := 20) : Fetch Payload :=
  listMethod "issues"
    (fun owner repository => toolset.adapter.listIssues py unicode owner repository limit)
    (IssueInfo.asDict unicode) owner repository

def getIssue (number : Int) : Fetch Payload :=
  getMethod (fun owner repository => toolset.adapter.getIssue py owner repository number)
    (IssueInfo.asDict unicode) owner repository

def listPullRequests (limit : Int := 20) : Fetch Payload :=
  listMethod "pull_requests"
    (fun owner repository => toolset.adapter.listPullRequests py unicode owner repository limit)
    (PullRequestInfo.asDict unicode) owner repository

def getPullRequest (number : Int) : Fetch Payload :=
  getMethod (fun owner repository => toolset.adapter.getPullRequest py owner repository number)
    (PullRequestInfo.asDict unicode) owner repository

def listCommits (limit : Int := 20) : Fetch Payload :=
  listMethod "commits"
    (fun owner repository => toolset.adapter.listCommits py owner repository limit)
    (CommitInfo.asDict unicode) owner repository

/-- The names are checked before the hash of the commit. -/
def getCommitStatus (sha : Value) : Fetch Payload := do
  let (owner, repository) ← .ofExcept (repositoryArguments owner repository)
  let sha ← .ofExcept (textArgument "sha must be a string" sha)
  let status ← toolset.adapter.getCommitStatus py unicode owner repository sha
  .pure (status.asDict unicode)

/-- The runs are wrapped one by one, and so is the answer. -/
def listWorkflowRuns (limit : Int := 20) : Fetch Payload := do
  let (owner, repository) ← .ofExcept (repositoryArguments owner repository)
  let runs ← toolset.adapter.listWorkflowRuns owner repository limit
  let wrapped ← .ofExcept (runs.mapM fun run => run.wrapped unicode py)
  .pure (attachUntrustedEnvelope unicode
    (Dict.ofEntries
      [("owner", .str owner), ("repository", .str repository),
        ("workflow_runs", .list (wrapped.map object)), ("count", .int wrapped.length),
        ("evidence_status", .str "confirmed"),
        ("provenance", .dict [("source", .str "github")])])
    "github" (some repository))

def listBranches (limit : Int := 20) : Fetch Payload :=
  listMethod "branches"
    (fun owner repository => toolset.adapter.listBranches py owner repository limit)
    (BranchInfo.asDict unicode) owner repository

def listReleases (limit : Int := 20) : Fetch Payload :=
  listMethod "releases"
    (fun owner repository => toolset.adapter.listReleases py owner repository limit)
    (ReleaseInfo.asDict unicode) owner repository

end

end GitHubToolset

/-!
## The project registry
-/

namespace ProjectRegistryAdapter

/-- The declared dependencies of a project; when there are none this is said to be unknown. -/
def dependenciesAnswer (unicode : UnicodeData) (project : ProjectMetadata) : Payload :=
  attachUntrustedEnvelope unicode
    (Dict.ofEntries
      [("project", .str project.name),
        ("depends_on", .list (project.dependencies.map .str)),
        ("dependency_direction", .str "outbound"),
        ("evidence_status", .str project.evidenceStatus.value),
        ("provenance", .dict
          [("source", .str "yasin-docs-registry"), ("path", .str project.sourcePath),
            ("source_url", .str project.sourceUrl)]),
        ("unknowns", .list
          (if project.dependencies.isEmpty then
            [.str "dependencies not declared in registry"]
          else []))])
    "yasin-docs-registry" (some project.name)

def listDependencies (py : Builtins) (yaml : Option YamlLibrary)
    (adapter : ProjectRegistryAdapter) (unicode : UnicodeData) (name : String) :
    Fetch Payload := do
  let project ← adapter.getProject py yaml unicode name
  .pure (dependenciesAnswer unicode project)

end ProjectRegistryAdapter

structure RegistryToolset where
  adapter : ProjectRegistryAdapter

namespace RegistryToolset

section

variable (py : Builtins) (yaml : Option YamlLibrary) (unicode : UnicodeData)
  (toolset : RegistryToolset)

def listProjects : Fetch Payload := do
  let projects ← toolset.adapter.listProjects py yaml
  .pure (attachUntrustedEnvelope unicode
    (Dict.ofEntries
      [("projects", .list (projects.map fun project => object (project.asDict unicode))),
        ("count", .int projects.length),
        ("evidence_status", .str (if projects.isEmpty then "unresolved" else "confirmed"))])
    "yasin-docs-registry" (some "registry-list"))

def getProject (name : Value) : Fetch Payload := do
  let name ← .ofExcept (textArgument "name must be a string" name)
  let project ← toolset.adapter.getProject py yaml unicode name
  .pure (project.asDict unicode)

def listDependencies (name : Value) : Fetch Payload := do
  let name ← .ofExcept (textArgument "name must be a string" name)
  toolset.adapter.listDependencies py yaml unicode name

end

end RegistryToolset

/-!
## Operations
-/

structure OperationsToolset where
  adapter : OperationsAdapter

namespace OperationsToolset

section

variable (py : Builtins) (interpreter : String) (recursionLimit : Nat) (unicode : UnicodeData)
  (toolset : OperationsToolset)

def resultToDict (result : Gateway OperationsResult) : Gateway Payload := do
  let result ← result
  .ofExcept (result.asDict py unicode)

def listServices : Gateway Payload :=
  resultToDict py unicode (toolset.adapter.listServices py interpreter recursionLimit)

def serviceStatus (serviceName : Value) : Gateway Payload := do
  let serviceName ← .ofExcept (textArgument "service_name must be a string" serviceName)
  resultToDict py unicode
    (toolset.adapter.serviceStatus py interpreter recursionLimit serviceName)

def health : Gateway Payload :=
  resultToDict py unicode (toolset.adapter.health py interpreter recursionLimit)

def diagnostics : Gateway Payload :=
  resultToDict py unicode (toolset.adapter.diagnostics py interpreter recursionLimit)

end

end OperationsToolset

end YasinMcp
