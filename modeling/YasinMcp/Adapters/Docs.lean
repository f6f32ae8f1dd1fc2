import YasinMcp.Adapters.Requester
import YasinMcp.Capabilities.Contract
import YasinMcp.Config
import YasinMcp.Foundation.Base64
import YasinMcp.Foundation.Uri

/-!
# Documentation adapter

The adapter reads documents of one repository at one ref through the contents
API.  The path of a document is checked for its slashes and dot segments only and
is put into the URL as it is.  The URL therefore names the document it is meant to
name only when the path is plain: characters that stand for themselves in the path
of a URL, and no segment that is a dot.
-/

namespace YasinMcp

open Foundation

namespace Docs

def githubApi : String := "https://api.github.com"
def docsOwner : String := "yusi20006-max"
def docsRepository : String := "YASIN-DOCS"
def docsRef : String := "main"
def apiVersion : String := "2026-03-10"
def maxDocumentBytes : Nat := 1000000

structure Document where
  path : String
  content : String
  sourceUrl : String
  sha : String
  evidenceStatus : EvidenceStatus
  repository : String := docsOwner ++ "/" ++ docsRepository
  ref : String := docsRef
  contentKind : String := "documentation"
deriving DecidableEq

/-- Where the document says it comes from. -/
def Document.provenance (document : Document) : List (Key × Value) :=
  [("source", .str "yasin-docs"),
    ("repository", .str document.repository),
    ("ref", .str document.ref),
    ("path", .str document.path),
    ("sha", .str document.sha),
    ("source_url", .str document.sourceUrl)]

end Docs

open Docs

structure YasinDocsAdapter where
  token : Option SecretStr
  timeout : Int
  maxFiles : Int
  timeout_positive : 0 < timeout
  max_files_bounds : 1 ≤ maxFiles ∧ maxFiles ≤ 200

namespace YasinDocsAdapter

def init (token : Option SecretStr) (timeoutSeconds : Int := 30) (maxFiles : Int := 50) :
    Except PyException YasinDocsAdapter :=
  if htimeout : timeoutSeconds ≤ 0 then
    .error (validationError "timeout_seconds must be positive")
  else if hfiles : 1 ≤ maxFiles ∧ maxFiles ≤ 200 then
    .ok
      { token := token
        timeout := timeoutSeconds
        maxFiles := maxFiles
        timeout_positive := timeout_pos htimeout
        max_files_bounds := hfiles }
  else .error (validationError "max_files must be between 1 and 200")

/-!
## Reading a document
-/

def validatePath (path : String) : Except PyException Unit :=
  if path.isEmpty || path.toList.head? == some '/' ||
      (path.toList.splitOn '/').contains "..".toList then
    .error (validationError "invalid documentation path")
  else .ok ()

def headers (adapter : YasinDocsAdapter) : List (String × String) :=
  [("Accept", "application/vnd.github+json"),
    ("X-GitHub-Api-Version", apiVersion),
    ("User-Agent", "Yasin-MCP")] ++
  match adapter.token with
  | none => []
  | some token =>
      if token.getSecretValue = "" then [] else [("Authorization", "Bearer " ++ token.getSecretValue)]

def get (adapter : YasinDocsAdapter) (path : String) : Fetch Value :=
  requester
    { url := githubApi ++ path
      headers := adapter.headers
      timeout := adapter.timeout }

def decodeContent (encoded : String) : Except PyException String :=
  match Base64.decode? (encoded.toList.filter fun c => c ≠ '\n') with
  | none => .error (upstreamError "YASIN-DOCS file content could not be decoded")
  | some bytes =>
      match String.fromUTF8? bytes.toByteArray with
      | none => .error (upstreamError "YASIN-DOCS file content could not be decoded")
      | some content => .ok content

def readDocument (py : Builtins) (path : String) (payload : Value) :
    Except PyException Document := do
  if (← payload.get "type") ≠ some (.str "file") then
    .error (validationError "requested documentation path is not a file")
  else
    match ← payload.get "content" with
    | some (.str encoded) => do
        let content ← decodeContent encoded
        if maxDocumentBytes < content.utf8ByteSize then
          .error (validationError "document exceeds the maximum supported size")
        else
          let sourceUrl ← ((← payload.get "html_url").getD (.str "")).toStr py
          let sha ← ((← payload.get "sha").getD (.str "")).toStr py
          .ok
            { path := path
              content := content
              sourceUrl := sourceUrl
              sha := sha
              evidenceStatus := .confirmed }
    | _ => .error (upstreamError "YASIN-DOCS file response did not contain content")

def contentsPath : String := "/repos/" ++ docsOwner ++ "/" ++ docsRepository ++ "/contents/"

def getDoc (py : Builtins) (adapter : YasinDocsAdapter) (path : String) : Fetch Document := do
  .ofExcept (validatePath path)
  let payload ← adapter.get (contentsPath ++ path ++ "?ref=" ++ docsRef)
  .ofExcept (readDocument py path payload)

/-!
## What is fetched
-/

def site : Uri.Site where
  scheme := "https".toList
  authority := "api.github.com".toList
  scheme_marks := by decide
  authority_marks := by decide
  scheme_wellFormed := by decide
  authority_wellFormed := by decide

def NamesDocument (url path ref : String) : Prop :=
  Uri.Identifies url "api.github.com" (contentsPath ++ path).toList ("ref=" ++ ref).toList

def States (document : Document) (name text : String) : Prop :=
  Dict.lookupIn (Key.str name) document.provenance = some (.str text)

/--
Every request stands for the document at the fixed ref, and a document that is
returned says what the one request for it stood for.
-/
def FetchesExactly (py : Builtins) (adapter : YasinDocsAdapter) (path : String) : Prop :=
  forall trace rest, Program.Emits (adapter.getDoc py path) trace rest ->
    (forall event, event ∈ trace -> NamesDocument event.1.url path docsRef) ∧
      forall document, rest = .pure document ->
        exists event statedPath statedRef, trace = [event] ∧
          States document "path" statedPath ∧ States document "ref" statedRef ∧
          NamesDocument event.1.url statedPath statedRef

/-- The path stands for itself in a URL. -/
def PlainPath (path : String) : Prop :=
  Uri.IsPlain path.toList

instance (path : String) : Decidable (PlainPath path) :=
  inferInstanceAs (Decidable (Uri.IsPlain path.toList))

section

variable {py : Builtins} {adapter : YasinDocsAdapter} {path : String}

def documentRequest (adapter : YasinDocsAdapter) (path : String) : UpstreamRequest :=
  { url := githubApi ++ (contentsPath ++ path ++ "?ref=" ++ docsRef)
    headers := adapter.headers
    timeout := adapter.timeout }

theorem getDoc_of_rejected {e : PyException} (h : validatePath path = .error e) :
    adapter.getDoc py path = .raise e := by
  rw [getDoc, h]
  rfl

theorem getDoc_of_accepted (h : validatePath path = .ok ()) :
    adapter.getDoc py path =
      .perform (documentRequest adapter path) fun response =>
        .ofExcept (response >>= readDocument py path) := by
  rw [getDoc, h, Program.ofExcept_ok, Program.pure_bind, get, requester, Program.perform_bind]
  congr 1
  funext response
  cases response with
  | error e => rfl
  | ok payload => rfl

theorem readDocument_origin {payload : Value} {document : Document}
    (h : readDocument py path payload = .ok document) :
    document.path = path ∧ document.ref = docsRef := by
  rcases bind_eq_ok h with ⟨kind, _, h⟩
  split at h
  · cases h
  · rcases bind_eq_ok h with ⟨encoded, _, h⟩
    split at h
    · rcases bind_eq_ok h with ⟨content, _, h⟩
      split at h
      · cases h
      · rcases bind_eq_ok h with ⟨htmlUrl, _, h⟩
        rcases bind_eq_ok h with ⟨sourceUrl, _, h⟩
        rcases bind_eq_ok h with ⟨shaMember, _, h⟩
        rcases bind_eq_ok h with ⟨sha, _, h⟩
        cases h
        exact ⟨rfl, rfl⟩
    · cases h

theorem states_origin {document : Document} (h : document.path = path ∧ document.ref = docsRef) :
    States document "path" path ∧ States document "ref" docsRef := by
  constructor
  · rw [← h.1]
    rfl
  · rw [← h.2]
    rfl

theorem emits_getDoc (haccepted : validatePath path = .ok ())
    {trace : List (Program.Event UpstreamAnswer)} {rest : Fetch Document}
    (h : Program.Emits (adapter.getDoc py path) trace rest) :
    (trace = [] ∧ rest = adapter.getDoc py path) ∨
      exists response, trace = [⟨documentRequest adapter path, response⟩] ∧
        rest = .ofExcept (response >>= readDocument py path) := by
  rw [getDoc_of_accepted haccepted] at h ⊢
  cases h with
  | refl => exact Or.inl ⟨rfl, rfl⟩
  | perform hrest =>
      rcases Program.emits_ofExcept hrest with ⟨htrace, hended⟩
      subst htrace
      exact Or.inr ⟨_, rfl, hended⟩

/-- The path of the contents, without its slashes at both ends. -/
def contentsRoot : List Char := "repos/yusi20006-max/YASIN-DOCS/contents".toList

theorem contentsPath_append (path : String) :
    (contentsPath ++ path).toList = '/' :: (contentsRoot ++ '/' :: path.toList) := by
  have hroot : contentsPath.toList = '/' :: (contentsRoot ++ ['/']) := by decide
  rw [String.toList_append, hroot]
  simp

theorem documentRequest_url (adapter : YasinDocsAdapter) (path : String) :
    (documentRequest adapter path).url =
      site.text (contentsRoot ++ '/' :: path.toList) "ref=main".toList := by
  refine String.toList_injective ?_
  have hquery : ("?ref=" ++ docsRef).toList = '?' :: "ref=main".toList := by decide
  have hapi : githubApi.toList = site.scheme ++ ':' :: '/' :: '/' :: site.authority := by decide
  have hurl : (documentRequest adapter path).url =
      githubApi ++ ((contentsPath ++ path) ++ ("?ref=" ++ docsRef)) := by
    rw [documentRequest, String.append_assoc]
  rw [hurl, String.toList_append, String.toList_append, contentsPath_append, hquery, hapi,
    Uri.Site.text, String.toList_ofList]
  simp

/-- The URL stands for the document exactly when the path stands for itself. -/
theorem namesDocument_iff (adapter : YasinDocsAdapter) (path : String) :
    NamesDocument (documentRequest adapter path).url path docsRef <-> PlainPath path := by
  have hquery : ("ref=" ++ docsRef).toList = "ref=main".toList := by decide
  have hplain : forall c, c ∈ "ref=main".toList -> Uri.isQueryChar c = true :=
    List.all_eq_true.mp (by decide)
  have hroot : Uri.IsPlain ('/' :: contentsRoot) := by decide
  rw [NamesDocument, documentRequest_url, contentsPath_append, hquery,
    show "api.github.com" = site.host by decide, Uri.identifies_iff site _ hplain,
    ← List.cons_append, Uri.isPlain_append_slash]
  exact and_iff_right hroot

theorem plainPath_of_fetchesExactly (haccepted : validatePath path = .ok ())
    (h : adapter.FetchesExactly py path) : PlainPath path := by
  have hfirst : Program.Emits (adapter.getDoc py path)
      [⟨documentRequest adapter path, .ok .none⟩]
      (.ofExcept (Except.ok .none >>= readDocument py path)) := by
    rw [getDoc_of_accepted haccepted]
    exact Program.Emits.perform (Program.Emits.refl _)
  have hnames := (h _ _ hfirst).1 ⟨documentRequest adapter path, .ok .none⟩ List.mem_cons_self
  exact (namesDocument_iff adapter path).mp hnames

/--
An accepted path is fetched exactly if and only if every character of it is a slash or
stands for itself in a segment, and no segment is a dot.
-/
theorem fetchesExactly_iff (haccepted : validatePath path = .ok ()) :
    adapter.FetchesExactly py path <-> PlainPath path := by
  constructor
  · exact plainPath_of_fetchesExactly haccepted
  · intro hplain trace rest hemits
    have hnames := (namesDocument_iff adapter path).mpr hplain
    rcases emits_getDoc haccepted hemits with ⟨htrace, hrest⟩ | ⟨response, htrace, hrest⟩
    · subst htrace
      refine ⟨fun event hevent => absurd hevent List.not_mem_nil, ?_⟩
      intro document hdocument
      rw [hrest, getDoc_of_accepted haccepted] at hdocument
      cases hdocument
    · subst htrace
      constructor
      · intro event hevent
        rw [List.mem_singleton] at hevent
        subst hevent
        exact hnames
      · intro document hdocument
        have hread : response >>= readDocument py path = .ok document :=
          Program.ofExcept_injective (hrest.symm.trans hdocument)
        rcases bind_eq_ok hread with ⟨payload, _, hdoc⟩
        have hstates := states_origin (readDocument_origin hdoc)
        exact ⟨_, path, docsRef, rfl, hstates.1, hstates.2, hnames⟩

end

def withDefaults : YasinDocsAdapter where
  token := none
  timeout := 30
  maxFiles := 50
  timeout_positive := by decide
  max_files_bounds := by decide

example : init none = .ok withDefaults := rfl

theorem fetchesExactly_record :
    withDefaults.FetchesExactly plainBuiltins "docs/adr/ADR-0001.md" :=
  (fetchesExactly_iff (by decide)).mpr (by decide)

/-- A path with a query and a fragment of its own is accepted, and another ref is read. -/
theorem other_ref_fetched :
    validatePath "README.md?ref=other#" = .ok () ∧
      (Uri.parse? (documentRequest withDefaults "README.md?ref=other#").url).map
        (fun uri => (uri.query, uri.fragment)) =
          some (some "ref=other".toList, some "?ref=main".toList) ∧
      ¬ withDefaults.FetchesExactly plainBuiltins "README.md?ref=other#" := by
  have haccepted : validatePath "README.md?ref=other#" = .ok () := by decide
  refine ⟨haccepted, by decide +kernel, ?_⟩
  intro h
  exact absurd (plainPath_of_fetchesExactly haccepted h) (by decide)

end YasinDocsAdapter

end YasinMcp
