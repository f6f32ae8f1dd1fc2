import YasinMcp.Capabilities.Contract

/-!
# Tool definitions

The tables of the tools that the server knows: the name a client calls, the text
and the schema it is shown, and for the provider and the reference tools the risk
they are published with.  Registration goes through these tables in their order.
-/

namespace YasinMcp

open Foundation

def closedSchema (properties : List (Key × Value)) : List (Key × Value) :=
  [("type", .str "object"), ("properties", .dict properties),
    ("additionalProperties", .bool false)]

def closedSchemaRequiring (properties : List (Key × Value)) (required : List String) :
    List (Key × Value) :=
  [("type", .str "object"), ("properties", .dict properties),
    ("required", .list (required.map .str)), ("additionalProperties", .bool false)]

def openSchema (properties : List (Key × Value)) : List (Key × Value) :=
  [("type", .str "object"), ("properties", .dict properties)]

def typedProperty (name type : String) : Key × Value :=
  (.str name, .dict [("type", .str type)])

structure ToolDefinition where
  name : String
  description : String
  inputSchema : List (Key × Value)
deriving DecidableEq

/-!
## Documentation tools
-/

def toolListDocs : String := "yasin_docs_list_documents"
def toolGetDoc : String := "yasin_docs_get_document"
def toolSearchDocs : String := "yasin_docs_search"
def toolListAdrs : String := "yasin_docs_list_adrs"
def toolGetAdr : String := "yasin_docs_get_adr"
def toolListArchitecture : String := "yasin_docs_list_architecture"
def toolGetProjectArchitecture : String := "yasin_docs_get_project_architecture"

def docsToolDefinitions : List ToolDefinition :=
  [{ name := toolListDocs
     description :=
      "List bounded text documents in the canonical YASIN-DOCS repository " ++
        "(read-only, with provenance)."
     inputSchema := closedSchema [] },
    { name := toolGetDoc
      description :=
        "Read one YASIN-DOCS document by path (read-only). Returns content with " ++
          "source provenance and evidence_status."
      inputSchema := closedSchemaRequiring [typedProperty "path" "string"] ["path"] },
    { name := toolSearchDocs
      description :=
        "Search YASIN-DOCS document bodies for a query string (read-only). " ++
          "Optional path_prefix scopes the search (e.g. docs/adr)."
      inputSchema := closedSchemaRequiring
        [typedProperty "query" "string", typedProperty "path_prefix" "string"] ["query"] },
    { name := toolListAdrs
      description := "List Architecture Decision Records under docs/adr/ (read-only)."
      inputSchema := closedSchema [] },
    { name := toolGetAdr
      description :=
        "Read an ADR by filename or path (read-only). Resolves docs/adr/<name>.md " ++
          "when only a short name is given."
      inputSchema := closedSchemaRequiring [typedProperty "name" "string"] ["name"] },
    { name := toolListArchitecture
      description :=
        "List architecture documentation paths (ARCHITECTURE.md and " ++
          "docs/architecture/*) from YASIN-DOCS (read-only)."
      inputSchema := closedSchema [] },
    { name := toolGetProjectArchitecture
      description :=
        "Find a project architecture document by project name without inventing " ++
          "missing docs (read-only)."
      inputSchema := closedSchemaRequiring [typedProperty "project" "string"] ["project"] }]

/-!
## GitHub tools
-/

def toolGetRepo : String := "yasin_github_get_repository"
def toolListIssues : String := "yasin_github_list_issues"
def toolGetIssue : String := "yasin_github_get_issue"
def toolListPrs : String := "yasin_github_list_pull_requests"
def toolGetPr : String := "yasin_github_get_pull_request"
def toolListCommits : String := "yasin_github_list_commits"
def toolCommitStatus : String := "yasin_github_get_commit_status"
def toolListWorkflows : String := "yasin_github_list_workflow_runs"
def toolListBranches : String := "yasin_github_list_branches"
def toolListReleases : String := "yasin_github_list_releases"

def repoProps : List (Key × Value) :=
  [typedProperty "owner" "string", typedProperty "repository" "string"]

def limitProps : List (Key × Value) :=
  [("limit", .dict [("type", .str "integer"), ("minimum", .int 1), ("maximum", .int 50)])]

def repositoryTool (name description : String) (others : List (Key × Value))
    (required : List String) : ToolDefinition where
  name := name
  description := description
  inputSchema := closedSchemaRequiring (repoProps ++ others)
    (["owner", "repository"] ++ required)

def githubToolDefinitions : List ToolDefinition :=
  [repositoryTool toolGetRepo "Get repository metadata (read-only)." [] [],
    repositoryTool toolListIssues "List repository issues (read-only, bounded)." limitProps [],
    repositoryTool toolGetIssue "Get one issue by number (read-only)."
      [typedProperty "number" "integer"] ["number"],
    repositoryTool toolListPrs "List pull requests (read-only, bounded)." limitProps [],
    repositoryTool toolGetPr "Get one pull request by number (read-only)."
      [typedProperty "number" "integer"] ["number"],
    repositoryTool toolListCommits "List recent commits (read-only, bounded)." limitProps [],
    repositoryTool toolCommitStatus "Get combined commit status (read-only)."
      [typedProperty "sha" "string"] ["sha"],
    repositoryTool toolListWorkflows "List recent workflow/CI runs (read-only, bounded)."
      limitProps [],
    repositoryTool toolListBranches "List repository branches (read-only, bounded)."
      limitProps [],
    repositoryTool toolListReleases "List repository releases (read-only, bounded)."
      limitProps []]

/-!
## Project registry tools
-/

def toolListProjects : String := "yasin_registry_list_projects"
def toolGetProject : String := "yasin_registry_get_project"
def toolListDeps : String := "yasin_registry_list_dependencies"

def registryToolDefinitions : List ToolDefinition :=
  [{ name := toolListProjects
     description := "List projects from the YASIN-DOCS registry (read-only)."
     inputSchema := closedSchema [] },
    { name := toolGetProject
      description := "Get one project metadata entry from the registry."
      inputSchema := closedSchemaRequiring [typedProperty "name" "string"] ["name"] },
    { name := toolListDeps
      description := "List outbound dependencies for a registry project."
      inputSchema := closedSchemaRequiring [typedProperty "name" "string"] ["name"] }]

/-!
## Operations tools
-/

def toolListServices : String := "yasin_operations_list_services"
def toolServiceStatus : String := "yasin_operations_service_status"
def toolHealth : String := "yasin_operations_health"
def toolDiagnostics : String := "yasin_operations_diagnostics"

def operationsToolDefinitions : List ToolDefinition :=
  [{ name := toolListServices
     description := "List known Yasin-Operations managed services (read-only)."
     inputSchema := closedSchema [] },
    { name := toolServiceStatus
      description := "Get the current status of a named service (read-only)."
      inputSchema :=
        closedSchemaRequiring [typedProperty "service_name" "string"] ["service_name"] },
    { name := toolHealth
      description := "Get the Yasin-Operations runtime health summary (read-only)."
      inputSchema := closedSchema [] },
    { name := toolDiagnostics
      description := "Get the Yasin-Operations runtime diagnostic snapshot (read-only)."
      inputSchema := closedSchema [] }]

/-!
## Provider tools
-/

def toolStatus : String := "runflare_status"
def toolEvents : String := "runflare_events"
def toolLogs : String := "runflare_logs"
def toolDeploy : String := "runflare_deploy"
def toolStart : String := "runflare_start"
def toolRestart : String := "runflare_restart"

structure RunflareCapabilityDefinition extends ToolDefinition where
  operation : String
  risk : RiskLevel
  isMutating : Bool := false

/-- The provider publishes one operation more than there are tools: stopping. -/
def runflareCapabilityDefinitions : List RunflareCapabilityDefinition :=
  [{ name := "runflare_status"
     operation := "status"
     description := "Read the configured Runflare project's current status/diagnostics."
     risk := .readOnly
     inputSchema := closedSchema [] },
    { name := "runflare_events"
      operation := "events"
      description := "Read bounded, sanitized Runflare project events."
      risk := .readOnly
      inputSchema := closedSchema [] },
    { name := "runflare_logs"
      operation := "logs"
      description := "Read bounded, sanitized Runflare project logs."
      risk := .readOnly
      inputSchema := closedSchema [] },
    { name := "runflare_deploy"
      operation := "deploy"
      description := "Deploy the explicitly configured Runflare project target."
      risk := .mutation
      inputSchema := closedSchema []
      isMutating := true },
    { name := "runflare_start"
      operation := "start"
      description := "Start the explicitly configured Runflare project target."
      risk := .mutation
      inputSchema := closedSchema []
      isMutating := true },
    { name := "runflare_restart"
      operation := "restart"
      description := "Restart the explicitly configured Runflare project target."
      risk := .mutation
      inputSchema := closedSchema []
      isMutating := true },
    { name := "runflare_stop"
      operation := "stop"
      description :=
        "Stop the explicitly configured Runflare project target; confirmation is required."
      risk := .mutation
      inputSchema := closedSchema []
      isMutating := true }]

/-!
## Governance reference tools
-/

def toolGovPingLowRisk : String := "yasin_gov_ping_low_risk"
def toolGovApplyMark : String := "yasin_gov_apply_mark"

end YasinMcp
