import YasinMcp.Adapters.DocsListing

/-!
# Listings of a tree

A tree in the form the API documents is a list of entries.  Its listing is the
documents of the first entries that are eligible, as many as the adapter takes,
in the order of their paths.

The cap comes before the lists of decision records and of architecture documents
filter the listing.  Such a list is complete exactly when no document of its kind
comes after that many eligible ones.
-/

namespace YasinMcp

open Foundation Docs

structure TreeEntry where
  path : String
  kind : String
  sha : String
  size : Option Nat
  url : Option String
deriving DecidableEq

namespace TreeEntry

def Describes (entry : TreeEntry) (item : Value) : Prop :=
  exists members, item = .dict members ∧
    Dict.lookupIn (Key.str "type") members = some (.str entry.kind) ∧
    Dict.lookupIn (Key.str "path") members = some (.str entry.path) ∧
    Dict.lookupIn (Key.str "sha") members = some (.str entry.sha) ∧
    Dict.lookupIn (Key.str "size") members = (entry.size.map fun n : Nat => Value.int n) ∧
    Dict.lookupIn (Key.str "url") members = entry.url.map .str

def member (name : String) : Option Value -> List (Key × Value)
  | none => []
  | some v => [(name, v)]

def item (entry : TreeEntry) : Value :=
  .dict
    (("type", .str entry.kind) :: ("path", .str entry.path) :: ("sha", .str entry.sha) ::
      (member "size" (entry.size.map fun n : Nat => .int n) ++
        member "url" (entry.url.map .str)))

def eligible (entry : TreeEntry) : Bool :=
  decide (entry.kind = "blob") && isTextDocument entry.path &&
    decide (entry.size.getD 0 ≤ maxDocumentBytes)

def ref (entry : TreeEntry) : DocumentRef where
  path := entry.path
  sha := entry.sha
  size := entry.size.getD 0
  url := entry.url.getD ""

theorem describes_item (entry : TreeEntry) : entry.Describes entry.item := by
  refine ⟨_, rfl, rfl, rfl, rfl, ?_, ?_⟩
  · cases hsize : entry.size with
    | none => cases entry.url <;> rfl
    | some size => rfl
  · cases hurl : entry.url with
    | none => cases entry.size <;> rfl
    | some url => cases entry.size <;> rfl

end TreeEntry

/-- The payload is the whole tree of these entries. -/
structure IsTree (payload : Value) (entries : List TreeEntry) : Prop where
  members : exists members, payload = .dict members ∧
    ((Dict.lookupIn (Key.str "truncated") members).getD .none).truthy = false ∧
    exists items, Dict.lookupIn (Key.str "tree") members = some (.list items) ∧
      List.Forall₂ TreeEntry.Describes entries items

def treePayload (entries : List TreeEntry) : Value :=
  .dict [("truncated", .bool false), ("tree", .list (entries.map TreeEntry.item))]

theorem isTree_treePayload (entries : List TreeEntry) :
    IsTree (treePayload entries) entries where
  members := by
    refine ⟨_, rfl, rfl, _, rfl, ?_⟩
    rw [List.forall₂_map_right_iff]
    exact List.forall₂_same.mpr fun entry _ => entry.describes_item

namespace YasinDocsAdapter

section

variable {py : Builtins} {unicode : UnicodeData} {adapter : YasinDocsAdapter}

theorem toInt_size (size : Option Nat) :
    (((size.map fun n : Nat => Value.int n).getD (.int 0)).orElse (.int 0)).toInt py unicode =
      .ok ((size.getD 0 : Nat) : Int) := by
  cases size with
  | none => rfl
  | some n =>
      cases n with
      | zero => rfl
      | succ n => rfl

theorem toStr_str (s : String) : (Value.str s).toStr py = .ok s := rfl

theorem toStr_url (url : Option String) :
    ((url.map Value.str).getD (.str "")).toStr py = .ok (url.getD "") := by
  cases url <;> rfl

theorem readItem_of_describes {entry : TreeEntry} {item : Value} (h : entry.Describes item) :
    readItem py unicode item = .ok (if entry.eligible then some entry.ref else none) := by
  rcases h with ⟨members, hitem, hkind, hpath, hsha, hsize, hurl⟩
  subst hitem
  rw [readItem]
  simp only [Value.get, hkind, hpath, hsha, hsize, hurl, ok_bind, Option.getD_some, toStr_str,
    toStr_url]
  by_cases hblob : entry.kind = "blob"
  · rw [if_neg (by simp [hblob])]
    by_cases htext : isTextDocument entry.path = true
    · rw [if_neg (by simp [htext]), toInt_size, ok_bind]
      by_cases hsmall : entry.size.getD 0 ≤ maxDocumentBytes
      · have heligible : entry.eligible = true := by
          simp [TreeEntry.eligible, hblob, htext, hsmall]
        have hfits : ¬ (maxDocumentBytes : Int) < (entry.size.getD 0 : Nat) := by omega
        rw [if_neg hfits, heligible, if_pos rfl]
        rfl
      · have hineligible : entry.eligible = false := by simp [TreeEntry.eligible, hsmall]
        have hlarge : (maxDocumentBytes : Int) < (entry.size.getD 0 : Nat) := by omega
        rw [if_pos hlarge, hineligible, if_neg (by decide)]
    · have hineligible : entry.eligible = false := by simp [TreeEntry.eligible, htext]
      rw [if_pos (by simp [htext]), hineligible, if_neg (by decide)]
  · have hineligible : entry.eligible = false := by simp [TreeEntry.eligible, hblob]
    rw [if_pos (by simp [hblob]), hineligible, if_neg (by decide)]

theorem collect_of_describes {entries : List TreeEntry} {items : List Value}
    (h : List.Forall₂ TreeEntry.Describes entries items) {refs : List DocumentRef} {left : Nat}
    (hleft : ((refs.length + left : Nat) : Int) = adapter.maxFiles) (hpositive : 0 < left) :
    collect py unicode adapter items refs =
      .ok (refs ++ (((entries.filter TreeEntry.eligible).take left).map TreeEntry.ref)) := by
  induction h generalizing refs left with
  | nil => simp [collect]
  | @cons entry item entries items hentry _ ih =>
      rw [collect, readItem_of_describes hentry]
      cases heligible : entry.eligible with
      | false =>
          rw [List.filter_cons_of_neg (by simp [heligible])]
          exact ih hleft hpositive
      | true =>
          rcases Nat.exists_eq_succ_of_ne_zero (Nat.ne_of_gt hpositive) with ⟨more, hmore⟩
          subst hmore
          rw [List.filter_cons_of_pos heligible, List.take_succ_cons, List.map_cons]
          simp only [if_true, ok_bind]
          by_cases hlast : more = 0
          · subst hlast
            rw [if_pos (by rw [List.length_append, List.length_singleton]; omega)]
            rfl
          · have hmore : (((refs ++ [entry.ref]).length + more : Nat) : Int) = adapter.maxFiles := by
              rw [List.length_append, List.length_singleton]
              omega
            rw [if_neg (by rw [List.length_append, List.length_singleton]; omega),
              ih hmore (Nat.pos_of_ne_zero hlast), List.append_assoc]
            rfl

def capacity (adapter : YasinDocsAdapter) : Nat :=
  adapter.maxFiles.toNat

theorem capacity_eq (adapter : YasinDocsAdapter) : (adapter.capacity : Int) = adapter.maxFiles := by
  have hbounds := adapter.max_files_bounds
  unfold capacity
  omega

/-- The eligible entries in the order of the tree, as many as the adapter takes. -/
def kept (adapter : YasinDocsAdapter) (entries : List TreeEntry) : List TreeEntry :=
  (entries.filter TreeEntry.eligible).take adapter.capacity

theorem readTree_of_isTree {payload : Value} {entries : List TreeEntry}
    (h : IsTree payload entries) :
    readTree py unicode adapter payload =
      .ok (sortByPath ((adapter.kept entries).map TreeEntry.ref)) := by
  rcases h.members with ⟨members, hpayload, htruncated, items, htree, hitems⟩
  subst hpayload
  have hcapacity := adapter.capacity_eq
  have hbounds := adapter.max_files_bounds
  have hcollect : collect py unicode adapter items [] =
      .ok ([] ++ (adapter.kept entries).map TreeEntry.ref) :=
    collect_of_describes hitems (by simpa using hcapacity) (by omega)
  rw [readTree]
  simp only [Value.get, ok_bind, htruncated, htree, Option.getD_some, Value.items, hcollect]
  rfl

def treesRequest (adapter : YasinDocsAdapter) : UpstreamRequest :=
  { url := githubApi ++ treesPath
    headers := adapter.headers
    timeout := adapter.timeout }

theorem listDocuments_eq :
    listDocuments py unicode adapter =
      .perform adapter.treesRequest fun response =>
        .ofExcept (response >>= readTree py unicode adapter) := by
  rw [listDocuments, get, requester, Program.perform_bind]
  congr 1
  funext response
  cases response with
  | error e => rfl
  | ok payload => rfl

theorem listDocuments_under {answers : (request : UpstreamRequest) -> UpstreamAnswer request} :
    (listDocuments py unicode adapter).under answers =
      (answers adapter.treesRequest >>= readTree py unicode adapter) := by
  rw [listDocuments_eq, Program.under_perform, Program.under_ofExcept]

theorem documentRequest_ne_treesRequest (path : String) :
    documentRequest adapter path ≠ adapter.treesRequest := by
  intro h
  have hurl : githubApi ++ (contentsPath ++ path ++ "?ref=" ++ docsRef) = githubApi ++ treesPath :=
    congrArg UpstreamRequest.url h
  have hlists := congrArg String.toList ((String.append_right_inj _).mp hurl)
  simp only [String.toList_append] at hlists
  have hleading : contentsPath.toList <+: treesPath.toList := by
    rw [← hlists, List.append_assoc, List.append_assoc]
    exact List.prefix_append _ _
  exact absurd hleading (by decide)

def IsAt (py : Builtins) (adapter : YasinDocsAdapter)
    (answers : (request : UpstreamRequest) -> UpstreamAnswer request) (path : String)
    (document : Document) : Prop :=
  (getDoc py adapter path).under answers = .ok document

theorem path_of_isAt {answers : (request : UpstreamRequest) -> UpstreamAnswer request}
    {path : String} {document : Document}
    (h : IsAt py adapter answers path document) : document.path = path := by
  unfold IsAt at h
  cases haccepted : validatePath path with
  | error e =>
      rw [getDoc_of_rejected haccepted] at h
      cases h
  | ok accepted =>
      rw [getDoc_of_accepted haccepted, Program.under_perform, Program.under_ofExcept] at h
      rcases bind_eq_ok h with ⟨payload, _, hread⟩
      exact (readDocument_origin hread).1

/-!
## Lists of one kind
-/

/-- The eligible entries of a kind, in the order of the tree. -/
def ofKind (isKind : DocumentRef -> Bool) (entries : List TreeEntry) : List TreeEntry :=
  (entries.filter TreeEntry.eligible).filter fun entry => isKind entry.ref

/-- There are no more entries of the kind than the adapter takes documents. -/
def KindFits (adapter : YasinDocsAdapter) (isKind : DocumentRef -> Bool)
    (entries : List TreeEntry) : Prop :=
  (ofKind isKind entries).length ≤ adapter.capacity

instance (adapter : YasinDocsAdapter) (isKind : DocumentRef -> Bool) (entries : List TreeEntry) :
    Decidable (KindFits adapter isKind entries) :=
  Nat.decLe _ _

def ListsAll (answers : (request : UpstreamRequest) -> UpstreamAnswer request)
    (listing : Fetch (List DocumentRef)) (wanted : List TreeEntry) : Prop :=
  exists refs, listing.under answers = .ok refs ∧ refs.Perm (wanted.map TreeEntry.ref)

/-- No entry of the kind comes after the eligible entries that the adapter takes. -/
def NoneBeyond (adapter : YasinDocsAdapter) (isKind : DocumentRef -> Bool)
    (entries : List TreeEntry) : Prop :=
  forall entry, entry ∈ (entries.filter TreeEntry.eligible).drop adapter.capacity ->
    isKind entry.ref = false

instance (adapter : YasinDocsAdapter) (isKind : DocumentRef -> Bool) (entries : List TreeEntry) :
    Decidable (NoneBeyond adapter isKind entries) :=
  decidable_of_iff
    (((entries.filter TreeEntry.eligible).drop adapter.capacity).any
      (fun entry => isKind entry.ref) = false)
    (List.any_eq_false.trans (forall₂_congr fun _ _ => Bool.eq_false_iff.symm))

theorem sortByPath_perm (refs : List DocumentRef) : (sortByPath refs).Perm refs :=
  List.perm_insertionSort _ refs

variable (py unicode) in
theorem filtered_under {answers : (request : UpstreamRequest) -> UpstreamAnswer request}
    {payload : Value} {entries : List TreeEntry} (htree : IsTree payload entries)
    (hanswer : answers adapter.treesRequest = .ok payload) (isKind : DocumentRef -> Bool) :
    exists refs,
      (listDocuments py unicode adapter >>= fun refs => .pure (refs.filter isKind)).under answers =
          .ok refs ∧
        refs.Perm (((adapter.kept entries).filter fun entry => isKind entry.ref).map
          TreeEntry.ref) := by
  have hlisting : (listDocuments py unicode adapter).under answers =
      .ok (sortByPath ((adapter.kept entries).map TreeEntry.ref)) := by
    rw [listDocuments_under, hanswer, ok_bind, readTree_of_isTree htree]
  refine ⟨(sortByPath ((adapter.kept entries).map TreeEntry.ref)).filter isKind, ?_, ?_⟩
  · rw [Program.under_bind_ok hlisting, Program.under_pure]
  · have hfilter : ((adapter.kept entries).map TreeEntry.ref).filter isKind =
        ((adapter.kept entries).filter fun entry => isKind entry.ref).map TreeEntry.ref := by
      rw [List.filter_map]
      rfl
    rw [← hfilter]
    exact (sortByPath_perm _).filter isKind

/-- All of a kind are kept exactly when none comes beyond those that are. -/
theorem filter_kept_perm_iff (isKind : DocumentRef -> Bool) (entries : List TreeEntry) :
    (((adapter.kept entries).filter fun entry => isKind entry.ref).map TreeEntry.ref).Perm
        ((ofKind isKind entries).map TreeEntry.ref) <->
      adapter.NoneBeyond isKind entries := by
  have hsplit : ofKind isKind entries =
      ((adapter.kept entries).filter fun entry => isKind entry.ref) ++
        ((entries.filter TreeEntry.eligible).drop adapter.capacity).filter
          fun entry => isKind entry.ref := by
    rw [ofKind, kept, ← List.filter_append, List.take_append_drop]
  constructor
  · intro h
    have hlength := h.length_eq
    rw [hsplit, List.length_map, List.length_map, List.length_append] at hlength
    have hnone : ((entries.filter TreeEntry.eligible).drop adapter.capacity).filter
        (fun entry => isKind entry.ref) = [] :=
      List.length_eq_zero_iff.mp (by omega)
    intro entry hentry
    have hnot := List.filter_eq_nil_iff.mp hnone entry hentry
    exact Bool.eq_false_iff.mpr hnot
  · intro h
    have hnone : ((entries.filter TreeEntry.eligible).drop adapter.capacity).filter
        (fun entry => isKind entry.ref) = [] :=
      List.filter_eq_nil_iff.mpr fun entry hentry => Bool.eq_false_iff.mp (h entry hentry)
    rw [hsplit, hnone, List.append_nil]

theorem listsAll_filtered_iff {answers : (request : UpstreamRequest) -> UpstreamAnswer request}
    {payload : Value} {entries : List TreeEntry} (htree : IsTree payload entries)
    (hanswer : answers adapter.treesRequest = .ok payload) (isKind : DocumentRef -> Bool) :
    ListsAll answers
        (listDocuments py unicode adapter >>= fun refs => .pure (refs.filter isKind))
        (ofKind isKind entries) <->
      adapter.NoneBeyond isKind entries := by
  rcases filtered_under py unicode htree hanswer isKind with
    ⟨refs, hrefs, hperm⟩
  rw [← filter_kept_perm_iff]
  constructor
  · intro h
    rcases h with ⟨refs', hrefs', hperm'⟩
    rw [hrefs] at hrefs'
    cases hrefs'
    exact hperm.symm.trans hperm'
  · intro h
    exact ⟨refs, hrefs, hperm.trans h⟩

/--
The lists of decision records and of architecture documents, of which there are no
more than the adapter takes documents, are complete if and only if none of them
comes in the tree after as many eligible documents as the adapter takes.
-/
theorem listings_complete_iff (py : Builtins) (unicode : UnicodeData) (adapter : YasinDocsAdapter)
    {answers : (request : UpstreamRequest) -> UpstreamAnswer request} {payload : Value}
    {entries : List TreeEntry} (htree : IsTree payload entries)
    (hanswer : answers adapter.treesRequest = .ok payload) :
    ((adapter.KindFits isAdr entries ->
        ListsAll answers (listAdrs py unicode adapter) (ofKind isAdr entries)) <->
      (adapter.KindFits isAdr entries -> adapter.NoneBeyond isAdr entries)) ∧
    ((adapter.KindFits isArchitecture entries ->
        ListsAll answers (listArchitectureDocs py unicode adapter)
          (ofKind isArchitecture entries)) <->
      (adapter.KindFits isArchitecture entries -> adapter.NoneBeyond isArchitecture entries)) :=
  ⟨imp_congr_right fun _ => listsAll_filtered_iff htree hanswer isAdr,
    imp_congr_right fun _ => listsAll_filtered_iff htree hanswer isArchitecture⟩

end

def takingOne : YasinDocsAdapter :=
  { withDefaults with
    maxFiles := 1
    max_files_bounds := by decide }

def markdown (path : String) : TreeEntry where
  path := path
  kind := "blob"
  sha := "1"
  size := some 9
  url := none

def treeAnswers (entries : List TreeEntry) (_ : UpstreamRequest) : Except PyException Value :=
  .ok (treePayload entries)

def sampleFile : Value :=
  .dict [("type", .str "file"), ("content", .str "QQ==\n")]

def filesAnswers (adapter : YasinDocsAdapter) (paths : List String) (request : UpstreamRequest) :
    Except PyException Value :=
  if request = adapter.treesRequest then .ok (treePayload (paths.map markdown))
  else if paths.any (fun path => decide (request = documentRequest adapter path)) then
    .ok sampleFile
  else .error (notFoundError "YASIN-DOCS resource was not found")

def sampleDocument (path : String) : Document where
  path := path
  content := "A"
  sourceUrl := ""
  sha := ""
  evidenceStatus := .confirmed

theorem listings_complete_record :
    ListsAll (treeAnswers [markdown "docs/adr/1.md", markdown "README.md"])
      (listAdrs plainBuiltins plainUnicode takingOne) [markdown "docs/adr/1.md"] :=
  (listings_complete_iff plainBuiltins plainUnicode takingOne
    (isTree_treePayload [markdown "docs/adr/1.md", markdown "README.md"]) rfl).1.mpr
    (fun _ => by decide) (by decide)

/-- The one decision record comes after the one document that is taken. -/
theorem record_lost :
    takingOne.KindFits isAdr [markdown "README.md", markdown "docs/adr/1.md"] ∧
      ¬ ListsAll (treeAnswers [markdown "README.md", markdown "docs/adr/1.md"])
        (listAdrs plainBuiltins plainUnicode takingOne)
        (ofKind isAdr [markdown "README.md", markdown "docs/adr/1.md"]) := by
  refine ⟨by decide, ?_⟩
  intro h
  have hnone := (listsAll_filtered_iff
    (isTree_treePayload [markdown "README.md", markdown "docs/adr/1.md"]) rfl isAdr).mp h
  exact absurd hnone (by decide)

end YasinDocsAdapter

end YasinMcp
