import YasinMcp.Adapters.DocsTree
import YasinMcp.Adapters.Fetchers
import YasinMcp.Foundation.JsonWriting
import YasinMcp.Foundation.Utf8

/-!
# Reading the listed documents

The listing bounds the size of a file, and the default requester bounds what is read
of a response with the same number.  A response has the file in base64 and is longer
than the file, so a listed file can be cut off.  Such a file is read only when nothing
but white space is cut off; and since the path goes into the URL as it is, the URL has
to stand for the file.
-/

namespace YasinMcp

open Foundation Docs

/-!
## What is read of a response
-/

section

variable {recursionLimit : Nat}

theorem decodeBody_eq_ok_iff {raw : List UInt8} {v : Value} :
    decodeBody recursionLimit raw = .ok v <->
      exists text, decodeUtf8? raw = some text ∧ Json.loads recursionLimit text = .ok v := by
  unfold decodeBody
  constructor
  · intro h
    split at h
    · cases h
    · rename_i text htext
      split at h
      · cases h
      · cases h
      · cases h
      · rename_i v' hloads
        cases h
        exact ⟨text, htext, hloads⟩
  · intro h
    rcases h with ⟨text, htext, hloads⟩
    rw [decodeUtf8?] at htext
    rw [htext]
    simp only [hloads]

/-- What is cut off behind so many bytes is white space. -/
def OnlySpaceBeyond (limit : Nat) (bytes : List UInt8) : Prop :=
  exists front back : String, bytes.take limit = encodeUtf8 front ∧
    bytes.drop limit = encodeUtf8 back ∧ Json.AllSpace back.toList

/-- What is read of an object is that object, exactly when only white space is cut off. -/
theorem decodeBody_take {limit : Nat} {bytes : List UInt8} {entries : List (Key × Value)}
    (h : decodeBody recursionLimit bytes = .ok (.dict entries)) :
    (OnlySpaceBeyond limit bytes ->
      decodeBody recursionLimit (bytes.take limit) = .ok (.dict entries)) ∧
    forall v, decodeBody recursionLimit (bytes.take limit) = .ok v ->
      OnlySpaceBeyond limit bytes := by
  rcases decodeBody_eq_ok_iff.mp h with ⟨text, htext, hloads⟩
  have hbytes := Utf8.encode_of_decode htext
  rcases Json.exists_objectText hloads with
    ⟨before, object, after, hparts, hbefore, hafter, hobject⟩
  constructor
  · intro hspace
    rcases hspace with ⟨front, back, hfront, hback, hall⟩
    have hjoined : front ++ back = text := by
      have hencoded : encodeUtf8 (front ++ back) = bytes := by
        rw [Utf8.encodeUtf8_append, ← hfront, ← hback, List.take_append_drop]
      rw [← hencoded, Utf8.decode_encode] at htext
      exact Option.some.inj htext
    rw [← hjoined, String.toList_append] at hparts
    rw [decodeBody_eq_ok_iff, hfront]
    exact ⟨front, Utf8.decode_encode front,
      Json.loads_front hparts hbefore hafter hobject hall⟩
  · intro v hv
    rcases decodeBody_eq_ok_iff.mp hv with ⟨front, hfront, hfrontLoads⟩
    have hall : bytes.take limit ++ bytes.drop limit = encodeUtf8 text := by
      rw [List.take_append_drop, hbytes]
    rcases Utf8.exists_of_decode_front hall hfront with ⟨behind, hsplit, hdrop⟩
    refine ⟨front, String.ofList behind, Utf8.encode_of_decode hfront, ?_, ?_⟩
    · rw [hdrop, encodeUtf8, String.toList_ofList]
    · rw [String.toList_ofList]
      exact Json.allSpace_of_loads_front (hsplit.symm.trans hparts) hbefore hafter hobject
        hfrontLoads

end

/-!
## Repositories of files
-/

/-- The members of a contents response for these bytes of a file. -/
structure IsContents (members : List (Key × Value)) (file : List UInt8) : Prop where
  kind : Dict.lookupIn (Key.str "type") members = some (.str "file")
  content : exists encoded : String,
    Dict.lookupIn (Key.str "content") members = some (.str encoded) ∧
      Base64.decode? (encoded.toList.filter fun c => c ≠ '\n') = some file
  source_url : IsStrable ((Dict.lookupIn (Key.str "html_url") members).getD (.str ""))
  sha : IsStrable ((Dict.lookupIn (Key.str "sha") members).getD (.str ""))

/--
A tree, its files, and the bodies of the responses for them.  The tree states the size
of each file, and each response is a contents response of its file.
-/
structure Repository (recursionLimit : Nat) where
  entries : List TreeEntry
  file : String -> List UInt8
  response : String -> List UInt8
  listing : List UInt8
  listing_tree : exists members,
    decodeBody recursionLimit (listing.take (maxDocumentBytes + 1)) = .ok (.dict members) ∧
      IsTree (.dict members) entries
  sizes : forall entry, entry ∈ entries -> entry.kind = "blob" ->
    entry.size = some (file entry.path).length
  responses : forall entry, entry ∈ entries -> entry.kind = "blob" ->
    exists members, decodeBody recursionLimit (response entry.path) = .ok (.dict members) ∧
      IsContents members (file entry.path)

namespace YasinDocsAdapter

section

variable {recursionLimit : Nat}

def fetchedFrom (recursionLimit : Nat) (upstream : UpstreamRequest -> HttpOutcome)
    (request : UpstreamRequest) : UpstreamAnswer request :=
  Docs.fetched recursionLimit request (upstream request)

/-- The upstream sends the tree, and for a URL that stands for a file the response for it. -/
structure Serves (adapter : YasinDocsAdapter) (repository : Repository recursionLimit)
    (upstream : UpstreamRequest -> HttpOutcome) : Prop where
  tree : upstream adapter.treesRequest = .body repository.listing
  contents : forall entry, entry ∈ repository.entries -> entry.kind = "blob" ->
    forall request : UpstreamRequest, NamesDocument request.url entry.path docsRef ->
      upstream request = .body (repository.response entry.path)

def IsUtf8 (bytes : List UInt8) : Prop :=
  (decodeUtf8? bytes).isSome = true

/--
Whatever upstream serves the repository, every listed document that is a text is read
as it is, and a search does not fail when all of them are texts.
-/
def ListedReadable (py : Builtins) (unicode : UnicodeData) (adapter : YasinDocsAdapter)
    (repository : Repository recursionLimit) : Prop :=
  forall upstream, Serves adapter repository upstream ->
    forall refs,
      (listDocuments py unicode adapter).under (fetchedFrom recursionLimit upstream) = .ok refs ->
      (forall ref, ref ∈ refs -> forall text,
        decodeUtf8? (repository.file ref.path) = some text ->
          exists document,
            IsAt py adapter (fetchedFrom recursionLimit upstream) ref.path document ∧
              document.content = text) ∧
      ((forall ref, ref ∈ refs -> IsUtf8 (repository.file ref.path)) ->
        forall query, Text.strip query ≠ "" -> exists results,
          (searchDocs py unicode adapter query).under (fetchedFrom recursionLimit upstream) =
            .ok results)

/--
The path is accepted, and its URL stands for a file of the same bytes whose response
loses nothing but white space.
-/
def WithinReach (adapter : YasinDocsAdapter) (repository : Repository recursionLimit)
    (path : String) : Prop :=
  validatePath path = .ok () ∧
    exists entry, entry ∈ repository.entries ∧ entry.kind = "blob" ∧
      NamesDocument (documentRequest adapter path).url entry.path docsRef ∧
      repository.file entry.path = repository.file path ∧
      OnlySpaceBeyond (maxDocumentBytes + 1) (repository.response entry.path)

/-- Every listed text is within reach. -/
def AllWithinReach (adapter : YasinDocsAdapter) (repository : Repository recursionLimit) : Prop :=
  forall entry, entry ∈ adapter.kept repository.entries -> IsUtf8 (repository.file entry.path) ->
    WithinReach adapter repository entry.path

section

variable {py : Builtins} {unicode : UnicodeData} {adapter : YasinDocsAdapter}
  {repository : Repository recursionLimit} {upstream : UpstreamRequest -> HttpOutcome}

/-!
## One document
-/

theorem fetched_ok_iff {request : UpstreamRequest} {bytes : List UInt8} {payload : Value} :
    Docs.fetched recursionLimit request (.body bytes) = .ok payload <->
      exists members, payload = .dict members ∧
        decodeBody recursionLimit (bytes.take (maxDocumentBytes + 1)) = .ok (.dict members) := by
  rw [Docs.fetched_body]
  constructor
  · intro h
    split at h
    · cases h
    · rename_i members hread
      cases h
      exact ⟨members, rfl, hread⟩
    · cases h
  · intro h
    rcases h with ⟨members, hpayload, hread⟩
    rw [hread, hpayload]

theorem isAt_fetchedFrom_iff {path : String} (haccepted : validatePath path = .ok ())
    {document : Document} :
    IsAt py adapter (fetchedFrom recursionLimit upstream) path document <->
      (Docs.fetched recursionLimit (documentRequest adapter path)
        (upstream (documentRequest adapter path)) >>= readDocument py path) = .ok document := by
  rw [IsAt, getDoc_of_accepted haccepted, Program.under_perform, Program.under_ofExcept]
  rfl

variable (py) in
theorem readDocument_of_isContents {members : List (Key × Value)} {file : List UInt8}
    (h : IsContents members file) {text : String} (htext : decodeUtf8? file = some text)
    (hsize : file.length ≤ maxDocumentBytes) (path : String) :
    exists document, readDocument py path (.dict members) = .ok document ∧
      document.content = text := by
  rcases h.content with ⟨encoded, hcontent, hdecode⟩
  rcases (checks_toStr py _).returns h.source_url with ⟨sourceUrl, hsourceUrl⟩
  rcases (checks_toStr py _).returns h.sha with ⟨sha, hsha⟩
  have hdecoded : decodeContent encoded = .ok text := by
    rw [decodeContent, hdecode]
    rw [decodeUtf8?] at htext
    simp only [htext]
  have hfits : ¬ maxDocumentBytes < text.utf8ByteSize := by
    rw [← Utf8.length_encodeUtf8, ← Utf8.encode_of_decode htext]
    omega
  rw [readDocument]
  simp only [Value.get, ok_bind, h.kind, hcontent, hdecoded, hsourceUrl, hsha, ne_eq,
    not_true_eq_false, if_false, if_neg hfits]
  exact ⟨_, rfl, rfl⟩

theorem decode_of_readDocument {members : List (Key × Value)} {file : List UInt8}
    (h : IsContents members file) {path : String} {document : Document}
    (hread : readDocument py path (.dict members) = .ok document) :
    decodeUtf8? file = some document.content := by
  rcases h.content with ⟨encoded, hcontent, hdecode⟩
  rw [readDocument] at hread
  simp only [Value.get, ok_bind, h.kind, hcontent, ne_eq, not_true_eq_false, if_false] at hread
  rcases bind_eq_ok hread with ⟨content, hdecoded, hread⟩
  split at hread
  · cases hread
  · rcases bind_eq_ok hread with ⟨sourceUrl, _, hread⟩
    rcases bind_eq_ok hread with ⟨sha, _, hread⟩
    cases hread
    rw [decodeContent, hdecode] at hdecoded
    rw [decodeUtf8?]
    split at hdecoded
    · cases hdecoded
    · rename_i bytes hbytes
      cases hbytes
      split at hdecoded
      · cases hdecoded
      · rename_i text htext
        cases hdecoded
        exact htext

theorem isAt_of_withinReach (hserves : Serves adapter repository upstream) {path text : String}
    (hreach : WithinReach adapter repository path)
    (htext : decodeUtf8? (repository.file path) = some text)
    (hsize : (repository.file path).length ≤ maxDocumentBytes) :
    exists document, IsAt py adapter (fetchedFrom recursionLimit upstream) path document ∧
      document.content = text := by
  rcases hreach with ⟨haccepted, entry, hentry, hblob, hnames, hsame, hspace⟩
  rcases repository.responses entry hentry hblob with ⟨members, hresponse, hcontents⟩
  have hfetched : Docs.fetched recursionLimit (documentRequest adapter path)
      (upstream (documentRequest adapter path)) = .ok (.dict members) := by
    rw [hserves.contents entry hentry hblob _ hnames, fetched_ok_iff]
    exact ⟨members, rfl, (decodeBody_take hresponse).1 hspace⟩
  rw [hsame] at hcontents
  rcases readDocument_of_isContents py hcontents htext hsize path with
    ⟨document, hread, hcontent⟩
  refine ⟨document, (isAt_fetchedFrom_iff haccepted).mpr ?_, hcontent⟩
  rw [hfetched, ok_bind, hread]

/-!
## The listing
-/

theorem listing_of_serves (hserves : Serves adapter repository upstream) :
    (listDocuments py unicode adapter).under (fetchedFrom recursionLimit upstream) =
      .ok (sortByPath ((adapter.kept repository.entries).map TreeEntry.ref)) := by
  rcases repository.listing_tree with ⟨members, hlisting, htree⟩
  have hfetched : fetchedFrom recursionLimit upstream adapter.treesRequest =
      .ok (.dict members) := by
    rw [fetchedFrom, hserves.tree, fetched_ok_iff]
    exact ⟨members, rfl, hlisting⟩
  rw [listDocuments_under, hfetched, ok_bind, readTree_of_isTree htree]

theorem file_of_kept {entry : TreeEntry} (h : entry ∈ adapter.kept repository.entries) :
    (repository.file entry.path).length ≤ maxDocumentBytes := by
  rcases List.mem_filter.mp (List.mem_of_mem_take h) with ⟨hentry, heligible⟩
  simp only [TreeEntry.eligible, Bool.and_eq_true, decide_eq_true_eq] at heligible
  have hsize := heligible.2
  rw [repository.sizes entry hentry heligible.1.1, Option.getD_some] at hsize
  exact hsize

theorem mem_sortByPath_kept {ref : DocumentRef} :
    ref ∈ sortByPath ((adapter.kept repository.entries).map TreeEntry.ref) <->
      exists entry, entry ∈ adapter.kept repository.entries ∧ entry.ref = ref := by
  rw [(sortByPath_perm _).mem_iff, List.mem_map]

variable (unicode) in
theorem searchRefs_returns {answers : (request : UpstreamRequest) -> UpstreamAnswer request}
    (normalized : String) {refs : List DocumentRef}
    (h : forall ref, ref ∈ refs -> exists document, IsAt py adapter answers ref.path document)
    (results : List DocumentSearchResult) :
    exists results',
      (searchRefs py unicode adapter normalized refs results).under answers = .ok results' := by
  induction refs generalizing results with
  | nil => exact ⟨results, rfl⟩
  | cons ref rest ih =>
      rcases h ref List.mem_cons_self with ⟨document, hread⟩
      rw [searchRefs, Program.under_bind_ok hread]
      exact ih (fun other hother => h other (List.mem_cons_of_mem _ hother)) _

theorem listedReadable_of_allWithinReach (h : AllWithinReach adapter repository) :
    ListedReadable py unicode adapter repository := by
  intro upstream hserves refs hrefs
  rw [listing_of_serves hserves] at hrefs
  cases hrefs
  have hread : forall ref, ref ∈ sortByPath ((adapter.kept repository.entries).map TreeEntry.ref) ->
      forall text, decodeUtf8? (repository.file ref.path) = some text -> exists document,
        IsAt py adapter (fetchedFrom recursionLimit upstream) ref.path document ∧
          document.content = text := by
    intro ref href text htext
    rcases mem_sortByPath_kept.mp href with ⟨entry, hentry, hentryRef⟩
    subst hentryRef
    exact isAt_of_withinReach hserves (h entry hentry (Option.isSome_of_eq_some htext)) htext
      (file_of_kept hentry)
  refine ⟨hread, ?_⟩
  intro htexts query hquery
  have hread' : forall ref,
      ref ∈ sortByPath ((adapter.kept repository.entries).map TreeEntry.ref) ->
        exists document,
          IsAt py adapter (fetchedFrom recursionLimit upstream) ref.path document := by
    intro ref href
    rcases Option.isSome_iff_exists.mp (htexts ref href) with ⟨text, htext⟩
    rcases hread ref href text htext with ⟨document, hat, _⟩
    exact ⟨document, hat⟩
  rcases searchRefs_returns unicode (unicode.casefold (Text.strip query)) hread' [] with
    ⟨results, hresults⟩
  rw [searchDocs, if_neg (unicode.casefold_ne_empty hquery),
    Program.under_bind_ok (listing_of_serves hserves), Program.under_bind_ok hresults]
  exact ⟨_, rfl⟩

/-!
## An upstream that serves nothing else
-/

theorem namesDocument_unique {url path path' ref : String} (h : NamesDocument url path ref)
    (h' : NamesDocument url path' ref) : path = path' := by
  rcases h with ⟨uri, huri, _, hpath, _⟩
  rcases h' with ⟨uri', huri', _, hpath', _⟩
  rw [huri] at huri'
  cases huri'
  have hchars := Uri.utf8_injective (hpath.symm.trans hpath')
  exact (String.append_right_inj _).mp (String.toList_injective hchars)

theorem not_namesDocument_treesRequest (path : String) :
    ¬ NamesDocument adapter.treesRequest.url path docsRef := by
  intro h
  rcases h with ⟨uri, huri, _, _, _, hquery, _⟩
  have hparsed : (Uri.parse? (githubApi ++ treesPath)).map (fun uri => uri.query) =
      some (some "recursive=1".toList) := by
    decide +kernel
  have hurl : Uri.parse? (githubApi ++ treesPath) = some uri := huri
  rw [hurl, Option.map_some, hquery, Option.some.injEq, Option.some.injEq] at hparsed
  exact absurd hparsed (by decide)

open Classical in
/-- The upstream has the tree and the files, and finds nothing under any other URL. -/
noncomputable def onlyServes (adapter : YasinDocsAdapter) (repository : Repository recursionLimit)
    (request : UpstreamRequest) : HttpOutcome :=
  if request = adapter.treesRequest then .body repository.listing
  else if h : exists entry, entry ∈ repository.entries ∧ entry.kind = "blob" ∧
      NamesDocument request.url entry.path docsRef then
    .body (repository.response h.choose.path)
  else .httpError 404

theorem serves_onlyServes : Serves adapter repository (onlyServes adapter repository) where
  tree := if_pos rfl
  contents := by
    intro entry hentry hblob request hnames
    have hother : request ≠ adapter.treesRequest := by
      intro htrees
      rw [htrees] at hnames
      exact not_namesDocument_treesRequest _ hnames
    have hnamed : exists entry, entry ∈ repository.entries ∧ entry.kind = "blob" ∧
        NamesDocument request.url entry.path docsRef := ⟨entry, hentry, hblob, hnames⟩
    rw [onlyServes, if_neg hother, dif_pos hnamed,
      namesDocument_unique hnamed.choose_spec.2.2 hnames]

theorem withinReach_of_isAt {path : String} {document : Document}
    (hat : IsAt py adapter (fetchedFrom recursionLimit (onlyServes adapter repository)) path
      document)
    (htext : decodeUtf8? (repository.file path) = some document.content) :
    WithinReach adapter repository path := by
  cases haccepted : validatePath path with
  | error e =>
      rw [IsAt, getDoc_of_rejected haccepted] at hat
      cases hat
  | ok accepted =>
      refine ⟨haccepted, ?_⟩
      rw [isAt_fetchedFrom_iff haccepted, onlyServes,
        if_neg (documentRequest_ne_treesRequest path)] at hat
      rcases bind_eq_ok hat with ⟨payload, hfetched, hread⟩
      split at hfetched
      · rename_i hnamed
        rcases hnamed.choose_spec with ⟨hentry, hblob, hnames⟩
        rcases repository.responses _ hentry hblob with ⟨members, hresponse, hcontents⟩
        rcases fetched_ok_iff.mp hfetched with ⟨members', hpayload, hcut⟩
        have hspace := (decodeBody_take hresponse).2 _ hcut
        have hsame := (decodeBody_take hresponse).1 hspace
        rw [hcut] at hsame
        cases hsame
        subst hpayload
        refine ⟨hnamed.choose, hentry, hblob, hnames, ?_, hspace⟩
        rw [Utf8.encode_of_decode (decode_of_readDocument hcontents hread),
          Utf8.encode_of_decode htext]
      · rw [Docs.fetched_httpError] at hfetched
        cases hfetched

theorem allWithinReach_of_listedReadable (h : ListedReadable py unicode adapter repository) :
    AllWithinReach adapter repository := by
  intro entry hentry hutf8
  rcases Option.isSome_iff_exists.mp hutf8 with ⟨text, htext⟩
  rcases (h _ serves_onlyServes _ (listing_of_serves serves_onlyServes)).1 entry.ref
    (mem_sortByPath_kept.mpr ⟨entry, hentry, rfl⟩) text htext with ⟨document, hat, hcontent⟩
  refine withinReach_of_isAt hat ?_
  rw [hcontent]
  exact htext

/-- For a file whose path stands for itself in a URL, only the response for it matters. -/
theorem withinReach_iff_of_plain {entry : TreeEntry} (hentry : entry ∈ repository.entries)
    (hblob : entry.kind = "blob") (hplain : PlainPath entry.path) :
    WithinReach adapter repository entry.path <->
      validatePath entry.path = .ok () ∧
        OnlySpaceBeyond (maxDocumentBytes + 1) (repository.response entry.path) := by
  have hnames := (namesDocument_iff adapter entry.path).mpr hplain
  constructor
  · intro h
    rcases h with ⟨haccepted, other, _, _, hother, _, hspace⟩
    rw [namesDocument_unique hother hnames] at hspace
    exact ⟨haccepted, hspace⟩
  · intro h
    exact ⟨h.1, entry, hentry, hblob, hnames, rfl, h.2⟩

end

/--
The listed texts are read, and searched, under every upstream that serves the repository
if and only if each is within reach: its path is accepted, its URL stands for it, and
only white space of its response is beyond what is read.
-/
theorem listedReadable_iff (py : Builtins) (unicode : UnicodeData) (adapter : YasinDocsAdapter)
    (repository : Repository recursionLimit) :
    ListedReadable py unicode adapter repository <-> AllWithinReach adapter repository :=
  ⟨allWithinReach_of_listedReadable, listedReadable_of_allWithinReach⟩

end

/-!
## A file that is listed and cut off
-/

def letterGroups (n : Nat) : List Char :=
  (List.replicate n "QUFB".toList).flatten

def wrappedLetters (lines : Nat) : String :=
  String.ofList (List.replicate lines (letterGroups 15 ++ ['\n'])).flatten

def largeMembers (lines : Nat) : List (String × String × Value) :=
  [("type", Json.writeString "file", .str "file"),
    ("content", Json.writeString (wrappedLetters lines), .str (wrappedLetters lines))]

def largeResponse (lines : Nat) : String :=
  Json.writeObject ((largeMembers lines).map fun member => (member.1, member.2.1))

theorem decode?_letterGroups (n : Nat) :
    Base64.decode? (letterGroups n) = some (List.replicate (3 * n) 0x41) := by
  induction n with
  | zero => rfl
  | succ n ih =>
      have hgroup : forall rest, (rest.all (· == '=') = true -> rest = []) ->
          Base64.decode? ('Q' :: 'U' :: 'F' :: 'B' :: rest) =
            (Base64.decode? rest).map fun bytes => 0x41 :: 0x41 :: 0x41 :: bytes := by
        intro rest hrest
        rw [Base64.decode?]
        · by_cases hpad : rest.all (· == '=') = true
          · rw [if_pos hpad, hrest hpad]
            rfl
          · rw [if_neg hpad]
            cases Base64.decode? rest <;> rfl
        · intro hpad
          exact absurd hpad (by decide)
        · intro hpad
          exact absurd hpad (by decide)
      rw [letterGroups, List.replicate_succ, List.flatten_cons]
      have hnone : (letterGroups n).all (· == '=') = true -> letterGroups n = [] := by
        intro hpad
        cases n with
        | zero => rfl
        | succ n => cases hpad
      refine (hgroup (letterGroups n) hnone).trans ?_
      rw [ih]
      rfl

theorem filter_wrappedLetters (lines : Nat) :
    ((wrappedLetters lines).toList.filter fun c => c ≠ '\n') = letterGroups (15 * lines) := by
  rw [wrappedLetters, String.toList_ofList]
  induction lines with
  | zero => rfl
  | succ lines ih =>
      have hline : ((letterGroups 15 ++ ['\n']).filter fun c => c ≠ '\n') = letterGroups 15 := by
        decide
      rw [List.replicate_succ, List.flatten_cons, List.filter_append, hline, ih, Nat.mul_succ,
        Nat.add_comm, letterGroups, letterGroups, letterGroups, List.replicate_add,
        List.flatten_append]

theorem length_wrappedLetters (lines : Nat) :
    (wrappedLetters lines).toList.length = lines * 61 := by
  have hline : (letterGroups 15 ++ ['\n']).length = 61 := by decide
  rw [wrappedLetters, String.toList_ofList, List.length_flatten, List.map_replicate, hline,
    List.sum_replicate_nat]

theorem isContents_large (lines : Nat) :
    exists members, Json.membersRead (largeMembers lines) = .dict members ∧
      IsContents members (List.replicate (45 * lines) 0x41) := by
  refine ⟨_, rfl, rfl, ⟨wrappedLetters lines, rfl, ?_⟩, rfl, rfl⟩
  rw [filter_wrappedLetters, decode?_letterGroups, ← Nat.mul_assoc]

theorem decodeBody_large (depth lines : Nat) :
    decodeBody (depth + 1) (encodeUtf8 (largeResponse lines)) =
      .ok (Json.membersRead (largeMembers lines)) := by
  rw [decodeBody_eq_ok_iff]
  refine ⟨_, Utf8.decode_encode _, Json.loads_writeObject ?_⟩
  intro member hmember
  rcases List.mem_cons.mp hmember with hmember | hmember
  · rw [hmember]
    exact Json.written_string depth "file"
  · rw [List.mem_singleton.mp hmember]
    exact Json.written_string depth (wrappedLetters lines)

theorem length_le_utf8 (cs : List Char) : cs.length ≤ (Uri.utf8 cs).length := by
  induction cs with
  | nil => exact Nat.le_refl 0
  | cons c cs ih =>
      have hpositive := Char.utf8Size_pos c
      rw [Uri.utf8_cons, List.length_append, String.length_utf8EncodeChar, List.length_cons]
      omega

theorem length_largeResponse (lines : Nat) :
    lines * 61 < (encodeUtf8 (largeResponse lines)).length := by
  have hescaped := Json.length_le_rawEscaped (wrappedLetters lines).toList
  rw [length_wrappedLetters] at hescaped
  refine Nat.lt_of_lt_of_le ?_ (length_le_utf8 _)
  rw [largeResponse, Json.toList_writeObject, largeMembers, List.map_cons, List.map_cons,
    List.map_nil, String.intercalate_cons_cons, String.intercalate_singleton,
    String.toList_append, String.toList_append, Json.toList_memberText, Json.toList_memberText,
    Json.toList_writeString]
  simp only [List.length_cons, List.length_append]
  rw [Json.toList_writeString]
  simp only [List.length_cons, List.length_append]
  omega

theorem not_onlySpaceBeyond {limit : Nat} {text : String}
    (hlast : text.toList.getLast? = some '}') (hlong : limit < (encodeUtf8 text).length) :
    ¬ OnlySpaceBeyond limit (encodeUtf8 text) := by
  intro h
  rcases h with ⟨front, back, hfront, hback, hspace⟩
  have hjoined : front ++ back = text := by
    have hencoded : encodeUtf8 (front ++ back) = encodeUtf8 text := by
      rw [Utf8.encodeUtf8_append, ← hfront, ← hback, List.take_append_drop]
    exact String.toList_injective (Uri.utf8_injective hencoded)
  rcases List.eq_nil_or_concat back.toList with hnil | ⟨start, c, hstart⟩
  · have hempty : encodeUtf8 back = [] := by
      rw [encodeUtf8, hnil]
      rfl
    have hdrop := congrArg List.length hback
    rw [hempty, List.length_drop, List.length_nil] at hdrop
    omega
  · rw [← hjoined, String.toList_append, hstart, List.concat_eq_append, ← List.append_assoc,
      List.getLast?_concat] at hlast
    cases hlast
    exact absurd (hspace '}' (by rw [hstart]; simp)) (by decide)

/-- The entry of a file of 20000 lines, and the listing of a tree with it. -/
def largeEntry : TreeEntry where
  path := "big.md"
  kind := "blob"
  sha := "1"
  size := some 900000
  url := none

def largeListing : String :=
  "\x7b\"tree\":[\x7b\"path\":\"big.md\",\"type\":\"blob\",\"sha\":\"1\",\"size\":900000\x7d]\x7d"

def largeTree : List (Key × Value) :=
  [("tree", .list [.dict [("path", .str "big.md"), ("type", .str "blob"), ("sha", .str "1"),
    ("size", .int 900000)]])]

theorem isTree_largeTree : IsTree (.dict largeTree) [largeEntry] where
  members :=
    ⟨largeTree, rfl, rfl, _, rfl,
      List.Forall₂.cons ⟨_, rfl, rfl, rfl, rfl, rfl, rfl⟩ List.Forall₂.nil⟩

def largeRepository : Repository 1000 where
  entries := [largeEntry]
  file _ := List.replicate (45 * 20000) 0x41
  response _ := encodeUtf8 (largeResponse 20000)
  listing := encodeUtf8 largeListing
  listing_tree := ⟨largeTree, by decide +kernel, isTree_largeTree⟩
  sizes := by
    intro entry hentry _
    rw [List.mem_singleton.mp hentry, List.length_replicate]
    rfl
  responses := by
    intro entry _ _
    rcases isContents_large 20000 with ⟨members, hmembers, hcontents⟩
    exact ⟨members, by rw [decodeBody_large 999, hmembers], hcontents⟩

/-- The file is listed and is a text, and it is not read. -/
theorem large_file_cut_off :
    largeEntry ∈ withDefaults.kept largeRepository.entries ∧
      IsUtf8 (largeRepository.file largeEntry.path) ∧
      ¬ ListedReadable plainBuiltins plainUnicode withDefaults largeRepository := by
  have hlisted : largeEntry ∈ withDefaults.kept largeRepository.entries := by decide
  have hfile : largeRepository.file largeEntry.path =
      encodeUtf8 (String.ofList (List.replicate (45 * 20000) 'A')) := by
    have hletters : forall n, List.replicate n (0x41 : UInt8) = Uri.utf8 (List.replicate n 'A') := by
      intro n
      induction n with
      | zero => rfl
      | succ n ih =>
          rw [List.replicate_succ, List.replicate_succ, Uri.utf8_cons, ← ih]
          rfl
    rw [encodeUtf8, String.toList_ofList, ← hletters]
    rfl
  have htext : IsUtf8 (largeRepository.file largeEntry.path) := by
    rw [IsUtf8, hfile, Utf8.decode_encode]
    rfl
  refine ⟨hlisted, htext, ?_⟩
  intro hreadable
  have hreach := allWithinReach_of_listedReadable hreadable largeEntry hlisted htext
  have hresponse : largeRepository.response largeEntry.path =
      encodeUtf8 (largeResponse 20000) := by
    simp only [largeRepository]
  have hmem : largeEntry ∈ largeRepository.entries := List.mem_singleton_self _
  have hplain : PlainPath largeEntry.path := by decide
  have hspace := ((withinReach_iff_of_plain hmem rfl hplain).mp hreach).2
  rw [hresponse] at hspace
  have hlong := Nat.lt_trans (show maxDocumentBytes + 1 < 20000 * 61 by decide)
    (length_largeResponse 20000)
  refine not_onlySpaceBeyond ?_ hlong hspace
  rw [largeResponse, Json.toList_writeObject, ← List.cons_append, List.getLast?_concat]

end YasinDocsAdapter

end YasinMcp
