import Mathlib.Data.List.Sort
import YasinMcp.Adapters.Docs
import YasinMcp.Adapters.Payload
import YasinMcp.Foundation.Occurrences

/-!
# Listing and searching the documentation

The listing goes over the tree of the repository and keeps its text documents of
supported size, up to a number of files; then it sorts them.  Everything else is
built on it: the lists of decision records and of architecture documents filter
it, and a search fetches each listed document and counts a query in it.
-/

namespace YasinMcp

open Foundation

namespace Foundation
namespace Text

/-- How often the part occurs; the empty one occurs around every character. -/
def count (part s : String) : Nat :=
  if part = "" then s.length + 1 else countFrom part.toList 0 s.toList

example : count "aa" "aaaaa" = 2 := by decide

end Text
end Foundation

namespace Docs

structure DocumentRef where
  path : String
  sha : String
  size : Int
  url : String
  repository : String := docsOwner ++ "/" ++ docsRepository
  ref : String := docsRef
deriving DecidableEq

structure DocumentSearchResult where
  document : Document
  found : Nat
deriving DecidableEq

def textSuffixes : List String := [".md", ".mdx", ".txt", ".yaml", ".yml", ".json"]

def isTextDocument (path : String) : Bool :=
  textSuffixes.any fun suffix => Text.endsWith (Text.lower path) suffix

/-- More matches first, then the path. -/
def DocumentSearchResult.before (a b : DocumentSearchResult) : Bool :=
  decide (b.found < a.found) ||
    (decide (a.found = b.found) && decide (a.document.path ≤ b.document.path))

end Docs

open Docs

def IsNotFound : PyException -> Bool
  | .mcp error => decide (error.errorClass = .notFoundError)
  | _ => false

namespace YasinDocsAdapter

/-!
## The listing
-/

def treesPath : String :=
  "/repos/" ++ docsOwner ++ "/" ++ docsRepository ++ "/git/trees/" ++ docsRef ++ "?recursive=1"

def readItem (py : Builtins) (unicode : UnicodeData) (item : Value) :
    Except PyException (Option DocumentRef) := do
  if (← item.get "type") ≠ some (.str "blob") then .ok none
  else do
    let path ← ((← item.get "path").getD (.str "")).toStr py
    if !isTextDocument path then .ok none
    else do
      let size ← (((← item.get "size").getD (.int 0)).orElse (.int 0)).toInt py unicode
      if (maxDocumentBytes : Int) < size then .ok none
      else do
        let sha ← ((← item.get "sha").getD (.str "")).toStr py
        let url ← ((← item.get "url").getD (.str "")).toStr py
        .ok (some { path := path, sha := sha, size := size, url := url })

def collect (py : Builtins) (unicode : UnicodeData) (adapter : YasinDocsAdapter) :
    List Value -> List DocumentRef -> Except PyException (List DocumentRef)
  | [], refs => .ok refs
  | item :: rest, refs => do
      match ← readItem py unicode item with
      | none => collect py unicode adapter rest refs
      | some ref =>
          if adapter.maxFiles ≤ (refs ++ [ref]).length then .ok (refs ++ [ref])
          else collect py unicode adapter rest (refs ++ [ref])

def sortByPath (refs : List DocumentRef) : List DocumentRef :=
  refs.insertionSort fun a b => a.path ≤ b.path

def readTree (py : Builtins) (unicode : UnicodeData) (adapter : YasinDocsAdapter)
    (payload : Value) : Except PyException (List DocumentRef) := do
  if ((← payload.get "truncated").getD .none).truthy then
    .error (upstreamError "YASIN-DOCS tree response was truncated")
  else do
    let items ← ((← payload.get "tree").getD (.list [])).items
    let refs ← collect py unicode adapter items []
    .ok (sortByPath refs)

def listDocuments (py : Builtins) (unicode : UnicodeData) (adapter : YasinDocsAdapter) :
    Fetch (List DocumentRef) := do
  let payload ← adapter.get treesPath
  .ofExcept (readTree py unicode adapter payload)

def isAdr (ref : DocumentRef) : Bool :=
  Text.startsWith ref.path "docs/adr/"

def listAdrs (py : Builtins) (unicode : UnicodeData) (adapter : YasinDocsAdapter) :
    Fetch (List DocumentRef) := do
  let refs ← listDocuments py unicode adapter
  .pure (refs.filter isAdr)

def isArchitecture (ref : DocumentRef) : Bool :=
  decide (ref.path = "ARCHITECTURE.md") || Text.startsWith (Text.lower ref.path) "docs/architecture/"

def listArchitectureDocs (py : Builtins) (unicode : UnicodeData) (adapter : YasinDocsAdapter) :
    Fetch (List DocumentRef) := do
  let refs ← listDocuments py unicode adapter
  .pure (refs.filter isArchitecture)

/-!
## Searching
-/

def searchResult? (unicode : UnicodeData) (normalized : String) (document : Document) :
    Option DocumentSearchResult :=
  let found := Text.count normalized (unicode.casefold document.content)
  if found = 0 then none else some ⟨document, found⟩

def searchRefs (py : Builtins) (unicode : UnicodeData) (adapter : YasinDocsAdapter)
    (normalized : String) : List DocumentRef -> List DocumentSearchResult ->
      Fetch (List DocumentSearchResult)
  | [], results => .pure results
  | ref :: rest, results => do
      let document ← getDoc py adapter ref.path
      searchRefs py unicode adapter normalized rest
        (results ++ (searchResult? unicode normalized document).toList)

def searchDocs (py : Builtins) (unicode : UnicodeData) (adapter : YasinDocsAdapter)
    (query : String) : Fetch (List DocumentSearchResult) :=
  let normalized := unicode.casefold (Text.strip query)
  if normalized = "" then .raise (validationError "query must not be empty")
  else do
    let refs ← listDocuments py unicode adapter
    let results ← searchRefs py unicode adapter normalized refs []
    .pure (results.insertionSort fun a b => a.before b = true)

/-- The path without white space around it and slashes behind it. -/
def scopeOf (pathPrefix : Option String) : String :=
  match pathPrefix with
  | none => ""
  | some path => String.ofList ((Text.strip path).toList.rdropWhile fun c => c = '/')

def inScope (scope : String) (result : DocumentSearchResult) : Bool :=
  decide (result.document.path = scope) || Text.startsWith result.document.path (scope ++ "/")

def searchDocsScoped (py : Builtins) (unicode : UnicodeData) (adapter : YasinDocsAdapter)
    (query : String) (pathPrefix : Option String) : Fetch (List DocumentSearchResult) := do
  .ofExcept (if scopeOf pathPrefix = "" then .ok () else validatePath (scopeOf pathPrefix))
  let results ← searchDocs py unicode adapter query
  if scopeOf pathPrefix = "" then .pure results
  else .pure (results.filter (inScope (scopeOf pathPrefix)))

/-!
## Looking up one document
-/

def getFirst (py : Builtins) (adapter : YasinDocsAdapter) (missing : PyException) :
    List String -> Fetch Document
  | [] => .raise missing
  | path :: rest =>
      (getDoc py adapter path).rescue fun e =>
        if IsNotFound e then getFirst py adapter missing rest else .raise e

def adrCandidates (normalized : String) : List String :=
  if normalized.toList.contains '/' ||
      [".md", ".mdx"].any (fun suffix => Text.endsWith (Text.lower normalized) suffix) then
    [normalized]
  else ["docs/adr/" ++ normalized ++ ".md", "docs/adr/" ++ normalized ++ ".mdx"]

def getAdr (py : Builtins) (adapter : YasinDocsAdapter) (name : String) : Fetch Document :=
  if Text.strip name = "" then .raise (validationError "ADR name must not be empty")
  else
    getFirst py adapter (notFoundError ("ADR " ++ py.repr (.str name) ++ " was not found"))
      (adrCandidates (Text.strip name))

def isArchitectureOf (unicode : UnicodeData) (normalized : String)
    (result : DocumentSearchResult) : Bool :=
  Text.isPartOf "architecture" (Text.lower result.document.path) &&
    Text.isPartOf (unicode.casefold normalized) (unicode.casefold result.document.content)

def getProjectArchitecture (py : Builtins) (unicode : UnicodeData) (adapter : YasinDocsAdapter)
    (project : String) : Fetch Document :=
  if Text.strip project = "" then .raise (validationError "project must not be empty")
  else do
    let results ← searchDocs py unicode adapter (Text.strip project)
    match results.find? (isArchitectureOf unicode (Text.strip project)) with
    | some result => .pure result.document
    | none =>
        .raise (notFoundError
          ("No architecture document was found for project " ++ py.repr (.str project)))

end YasinDocsAdapter

end YasinMcp
