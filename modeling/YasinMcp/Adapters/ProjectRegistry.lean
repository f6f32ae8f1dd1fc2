import YasinMcp.Adapters.DocsListing

/-!
# Project registry

The registry is a YAML document of the documentation repository, looked for under
several names.  It is a list of rows, or a mapping that has the rows under one of three
keys, as a list or by name.  A row without a name is left out of the listing; the other
fields of a project are looked up under several names each.
-/

namespace YasinMcp

open Foundation Docs

/-!
## Loaded documents
-/

/-- What a YAML document is loaded as, as far as the registry tells values apart. -/
inductive Yaml where
  | null
  | bool (flag : Bool)
  | int (n : Int)
  | str (s : String)
  | list (items : List Yaml)
  | mapping (members : List (Yaml × Yaml))
  | other

namespace Yaml

abbrev Members := List (Yaml × Yaml)

def isKey (name : String) : Yaml -> Bool
  | .str s => decide (s = name)
  | _ => false

def lookup (members : Members) (name : String) : Option Yaml :=
  (members.find? fun entry => entry.1.isKey name).map Prod.snd

def get (members : Members) (name : String) : Yaml :=
  (lookup members name).getD .null

def members? : Yaml -> Option Members
  | .mapping members => some members
  | _ => none

def withName (name : Yaml) (fields : Members) : Members :=
  (.str "name", (lookup fields "name").getD name) ::
    fields.filter fun entry => !entry.1.isKey "name"

end Yaml

/-- How the loader fails: with an exception of its own, or with one of the interpreter. -/
inductive YamlFailure where
  | yamlError
  | raised (e : PyException) (raw : ¬ IsMcpError e)

structure YamlLibrary where
  safeLoad : String -> Except YamlFailure Yaml

namespace ProjectRegistry

open Yaml

def registryCandidates : List String :=
  ["docs/projects/PROJECT_REGISTRY.yaml", "docs/projects/PROJECT_REGISTRY.yml",
    "PROJECT_REGISTRY.yaml", "PROJECT_REGISTRY.yml"]

structure ProjectMetadata where
  name : String
  role : Option String
  repository : Option String
  documentation : Option String
  status : Option String
  owner : Option String
  dependencies : List String
  publicContracts : List String
  operationalState : Option String
  mcpCapabilities : List String
  sourcePath : String
  sourceUrl : String
  evidenceStatus : EvidenceStatus
deriving DecidableEq

inductive Registry where
  | list (items : List Yaml)
  | mapping (members : Members)

def IsValidation : PyException -> Bool
  | .mcp error => decide (error.errorClass = .validationError)
  | _ => false

/-!
## Rows
-/

/-- The first of the members that is a text with more than white space. -/
def firstString (entry : Members) : List String -> Option String
  | [] => none
  | key :: rest =>
      match get entry key with
      | .str s => if Text.strip s = "" then firstString entry rest else some (Text.strip s)
      | _ => firstString entry rest

/-- The text of an item that is a text or an integer, where there is more than white space. -/
def listItem : Yaml -> Except PyException (Option String)
  | .str s => .ok (if Text.strip s = "" then none else some (Text.strip s))
  | .int n => do
      let text ← intText n
      .ok (if Text.strip text = "" then none else some (Text.strip text))
  | .bool flag => .ok (some (if flag then "True" else "False"))
  | _ => .ok none

def stringList (entry : Members) : List String -> Except PyException (List String)
  | [] => .ok []
  | key :: rest =>
      match get entry key with
      | .list items => do
          let texts ← items.mapM listItem
          .ok (texts.filterMap id)
      | .str s => if Text.strip s = "" then stringList entry rest else .ok [Text.strip s]
      | _ => stringList entry rest

def nameKeys : List String := ["name", "project", "id"]

def normalize (entry : Members) (source : Document) : Except PyException ProjectMetadata :=
  match firstString entry nameKeys with
  | none => .error (validationError "project registry entry is missing a name")
  | some name => do
      let dependencies ← stringList entry ["dependencies", "depends_on", "deps"]
      let publicContracts ← stringList entry ["public_contracts", "contracts", "apis"]
      let mcpCapabilities ← stringList entry ["mcp_capabilities", "mcp_tools", "capabilities"]
      .ok
        { name := name
          role := firstString entry ["role", "type", "kind"]
          repository := firstString entry ["repository", "repo", "github"]
          documentation := firstString entry ["documentation", "docs", "doc"]
          status := firstString entry ["status", "state"]
          owner := firstString entry ["owner", "maintainer"]
          dependencies := dependencies
          publicContracts := publicContracts
          operationalState :=
            firstString entry ["operational_state", "ops_state", "runtime_state"]
          mcpCapabilities := mcpCapabilities
          sourcePath := source.path
          sourceUrl := source.sourceUrl
          evidenceStatus := source.evidenceStatus }

def containers : List String := ["projects", "repositories", "items"]

def rowsIn : Yaml -> Option (List Members)
  | .list items => some (items.filterMap members?)
  | .mapping named =>
      some (named.filterMap fun entry => (members? entry.2).map (withName entry.1))
  | _ => none

def extractEntries : Registry -> List Members
  | .list items => items.filterMap members?
  | .mapping members =>
      match containers.findSome? fun key => rowsIn (get members key) with
      | some rows => rows
      | none =>
          if nameKeys.any fun key => (lookup members key).isSome then [members] else []

/-- The projects of the rows; a row that is not valid is left out. -/
def collectProjects (source : Document) :
    List Members -> List ProjectMetadata -> Except PyException (List ProjectMetadata)
  | [], results => .ok results
  | entry :: rest, results =>
      match normalize entry source with
      | .ok project => collectProjects source rest (results ++ [project])
      | .error e =>
          if IsValidation e then collectProjects source rest results else .error e

/-!
## Loading
-/

def parseRegistry (yaml : Option YamlLibrary) (content : String) : Except PyException Registry :=
  match yaml with
  | none =>
      .error (unavailableDependencyError
        "PyYAML is required to parse the YASIN-DOCS project registry")
  | some library =>
      match library.safeLoad content with
      | .error .yamlError => .error (validationError "YASIN-DOCS project registry is invalid YAML")
      | .error (.raised e _) => .error e
      | .ok .null => .error (validationError "YASIN-DOCS project registry is empty")
      | .ok (.list items) => .ok (.list items)
      | .ok (.mapping members) => .ok (.mapping members)
      | .ok _ =>
          .error (validationError "YASIN-DOCS project registry must be a mapping or list")

end ProjectRegistry

open ProjectRegistry

structure ProjectRegistryAdapter where
  docs : YasinDocsAdapter

namespace ProjectRegistryAdapter

section

variable (py : Builtins) (yaml : Option YamlLibrary) (adapter : ProjectRegistryAdapter)

def tryDoc (path : String) : Fetch (Option Document) :=
  (do
    let document ← adapter.docs.getDoc py path
    .pure (some document)).rescue fun e => if IsNotFound e then .pure none else .raise e

def loadFirst : List String -> Fetch (Registry × Document)
  | [] =>
      .raise (unavailableDependencyError
        "YASIN-DOCS project registry is unavailable or not documented")
  | path :: rest => do
      match ← adapter.tryDoc py path with
      | none => loadFirst rest
      | some document => do
          let data ← .ofExcept (parseRegistry yaml document.content)
          .pure (data, document)

def loadRegistry : Fetch (Registry × Document) :=
  adapter.loadFirst py yaml registryCandidates

def listProjects : Fetch (List ProjectMetadata) := do
  let (data, source) ← adapter.loadRegistry py yaml
  .ofExcept (collectProjects source (extractEntries data) [])

def getProject (unicode : UnicodeData) (name : String) : Fetch ProjectMetadata :=
  let normalized := unicode.casefold (Text.strip name)
  if normalized = "" then .raise (validationError "project name must not be empty")
  else do
    let projects ← adapter.listProjects py yaml
    match projects.find? fun project => decide (unicode.casefold project.name = normalized) with
    | some project => .pure project
    | none =>
        .raise (notFoundError
          ("project " ++ py.repr (.str name) ++ " is not present in the registry"))

end

end ProjectRegistryAdapter

end YasinMcp
