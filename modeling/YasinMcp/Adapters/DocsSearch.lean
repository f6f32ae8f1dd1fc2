import YasinMcp.Adapters.DocsTree

/-!
# Searching the documentation

A search fetches the listed documents one by one and keeps those in which the query
occurs.  With distinct paths and no more documents than are taken, its results are
determined by the documents: the order of the tree does not show in them.  A search
in a part of the documentation is a part of the whole search.
-/

namespace YasinMcp

open Foundation Docs

namespace YasinDocsAdapter

section

variable (py : Builtins) (adapter : YasinDocsAdapter)
  (answers : (request : UpstreamRequest) -> UpstreamAnswer request)

/-- The upstream has a tree of distinct paths that fits, and the documents in it. -/
structure Searchable (entries : List TreeEntry) (documents : String -> Document) : Prop where
  tree : exists payload, answers adapter.treesRequest = .ok payload ∧ IsTree payload entries
  distinct : (entries.map TreeEntry.path).Nodup
  few : (entries.filter TreeEntry.eligible).length ≤ adapter.capacity
  fetched : forall entry, entry ∈ entries -> entry.eligible = true ->
    IsAt py adapter answers entry.path (documents entry.path)

end

def needle (unicode : UnicodeData) (query : String) : List Char :=
  (unicode.casefold (Text.strip query)).toList

def haystack (unicode : UnicodeData) (document : Document) : List Char :=
  (unicode.casefold document.content).toList

/-- The first result comes before the second. -/
def Precedes (a b : DocumentSearchResult) : Prop :=
  b.found < a.found ∨ a.found = b.found ∧ a.document.path < b.document.path

/--
The results are those of the listed documents in which the query occurs, one each, with
the number of its occurrences that do not overlap, and in their strict order.
-/
structure Ranked (unicode : UnicodeData) (query : String) (refs : List DocumentRef)
    (documents : String -> Document) (results : List DocumentSearchResult) : Prop where
  exact : forall result, result ∈ results <->
    exists ref, ref ∈ refs ∧ result.document = documents ref.path ∧
      needle unicode query <:+: haystack unicode result.document ∧
      IsGreatest {n | Apart (needle unicode query) (haystack unicode result.document) n} result.found
  once : (results.map fun result => result.document.path).Nodup
  ordered : results.Pairwise Precedes

/-- The path itself, or what is under it. -/
def Within (scope path : String) : Prop :=
  path = scope ∨ exists rest, path = scope ++ "/" ++ rest

section

variable {py : Builtins} {unicode : UnicodeData} {adapter : YasinDocsAdapter}
  {answers : (request : UpstreamRequest) -> UpstreamAnswer request}
  {entries : List TreeEntry} {documents : String -> Document} {query : String}

/-!
## The listed documents
-/

theorem Searchable.listing (h : Searchable py adapter answers entries documents) :
    (listDocuments py unicode adapter).under answers =
      .ok (sortByPath ((entries.filter TreeEntry.eligible).map TreeEntry.ref)) := by
  rcases h.tree with ⟨payload, hanswer, htree⟩
  rw [listDocuments_under, hanswer, ok_bind, readTree_of_isTree htree, kept,
    List.take_of_length_le h.few]

theorem Searchable.mem_listing {ref : DocumentRef}
    (hmem : ref ∈ sortByPath ((entries.filter TreeEntry.eligible).map TreeEntry.ref)) :
    exists entry, entry ∈ entries ∧ entry.eligible = true ∧ entry.ref = ref := by
  rcases List.mem_map.mp ((sortByPath_perm _).mem_iff.mp hmem) with ⟨entry, hentry, href⟩
  rcases List.mem_filter.mp hentry with ⟨hentry, heligible⟩
  exact ⟨entry, hentry, heligible, href⟩

theorem Searchable.fetched_ref (h : Searchable py adapter answers entries documents)
    {ref : DocumentRef}
    (hmem : ref ∈ sortByPath ((entries.filter TreeEntry.eligible).map TreeEntry.ref)) :
    IsAt py adapter answers ref.path (documents ref.path) := by
  rcases Searchable.mem_listing hmem with ⟨entry, hentry, heligible, href⟩
  subst href
  exact h.fetched entry hentry heligible

theorem Searchable.paths_nodup (h : Searchable py adapter answers entries documents) :
    ((sortByPath ((entries.filter TreeEntry.eligible).map TreeEntry.ref)).map
      DocumentRef.path).Nodup := by
  have hperm := (sortByPath_perm ((entries.filter TreeEntry.eligible).map TreeEntry.ref)).map
    DocumentRef.path
  have hpaths : (((entries.filter TreeEntry.eligible).map TreeEntry.ref).map DocumentRef.path) =
      (entries.filter TreeEntry.eligible).map TreeEntry.path := by
    rw [List.map_map]
    rfl
  rw [hperm.nodup_iff, hpaths]
  exact h.distinct.sublist (List.filter_sublist.map _)

/-!
## The results
-/

def matched (unicode : UnicodeData) (normalized : String) (document : Document) : Bool :=
  Text.count normalized (unicode.casefold document.content) != 0

def resultOf (unicode : UnicodeData) (normalized : String) (document : Document) :
    DocumentSearchResult :=
  ⟨document, Text.count normalized (unicode.casefold document.content)⟩

theorem searchResult?_eq (normalized : String) (document : Document) :
    searchResult? unicode normalized document =
      if matched unicode normalized document then some (resultOf unicode normalized document)
      else none := by
  by_cases hnone : Text.count normalized (unicode.casefold document.content) = 0
  · simp [searchResult?, matched, hnone]
  · simp [searchResult?, matched, hnone, resultOf]

variable (unicode) in
theorem searchRefs_under (normalized : String) {refs : List DocumentRef}
    (h : forall ref, ref ∈ refs -> IsAt py adapter answers ref.path (documents ref.path))
    (results : List DocumentSearchResult) :
    (searchRefs py unicode adapter normalized refs results).under answers =
      .ok (results ++
        ((refs.map fun ref => documents ref.path).filter (matched unicode normalized)).map
          (resultOf unicode normalized)) := by
  induction refs generalizing results with
  | nil => simp [searchRefs]
  | cons ref rest ih =>
      have hfirst := h ref List.mem_cons_self
      rw [searchRefs, Program.under_bind_ok hfirst,
        ih fun other hother => h other (List.mem_cons_of_mem _ hother), searchResult?_eq,
        List.map_cons]
      cases hmatched : matched unicode normalized (documents ref.path) with
      | true =>
          rw [List.filter_cons_of_pos hmatched, List.map_cons, if_pos rfl]
          simp
      | false =>
          rw [List.filter_cons_of_neg (by simp [hmatched]), if_neg Bool.false_ne_true]
          simp

theorem normalized_ne_empty (hquery : Text.strip query ≠ "") :
    unicode.casefold (Text.strip query) ≠ "" :=
  unicode.casefold_ne_empty hquery

theorem needle_ne_nil (hquery : Text.strip query ≠ "") : needle unicode query ≠ [] :=
  fun hnil => normalized_ne_empty hquery (String.toList_eq_nil_iff.mp hnil)

theorem count_eq (hquery : Text.strip query ≠ "") (document : Document) :
    Text.count (unicode.casefold (Text.strip query)) (unicode.casefold document.content) =
      countFrom (needle unicode query) 0 (haystack unicode document) :=
  if_neg (normalized_ne_empty hquery)

theorem matched_iff (hquery : Text.strip query ≠ "") (document : Document) :
    matched unicode (unicode.casefold (Text.strip query)) document = true <->
      needle unicode query <:+: haystack unicode document := by
  rw [matched, count_eq hquery, bne_iff_ne]
  exact countFrom_ne_zero_iff (needle_ne_nil hquery) _

def resultsOf (unicode : UnicodeData) (query : String) (refs : List DocumentRef)
    (documents : String -> Document) : List DocumentSearchResult :=
  (((refs.map fun ref => documents ref.path).filter
    (matched unicode (unicode.casefold (Text.strip query)))).map
      (resultOf unicode (unicode.casefold (Text.strip query)))).insertionSort
        fun a b => a.before b = true

theorem Searchable.search (h : Searchable py adapter answers entries documents)
    (hquery : Text.strip query ≠ "") :
    (searchDocs py unicode adapter query).under answers =
      .ok (resultsOf unicode query
        (sortByPath ((entries.filter TreeEntry.eligible).map TreeEntry.ref)) documents) := by
  have hresults := searchRefs_under unicode (unicode.casefold (Text.strip query))
    (fun ref href => h.fetched_ref href) []
  rw [searchDocs, if_neg (normalized_ne_empty hquery), Program.under_bind_ok h.listing,
    Program.under_bind_ok hresults, Program.under_pure]
  rfl

/-!
## The order of the results
-/

theorem before_iff (a b : DocumentSearchResult) :
    a.before b = true <->
      b.found < a.found ∨ a.found = b.found ∧ a.document.path ≤ b.document.path := by
  rw [DocumentSearchResult.before, Bool.or_eq_true, Bool.and_eq_true, decide_eq_true_eq,
    decide_eq_true_eq, decide_eq_true_eq]

instance before_total : Std.Total fun a b : DocumentSearchResult => a.before b = true where
  total a b := by
    rw [before_iff, before_iff]
    rcases Nat.lt_trichotomy a.found b.found with h | h | h
    · exact Or.inr (Or.inl h)
    · rcases String.le_total a.document.path b.document.path with hpath | hpath
      · exact Or.inl (Or.inr ⟨h, hpath⟩)
      · exact Or.inr (Or.inr ⟨h.symm, hpath⟩)
    · exact Or.inl (Or.inl h)

instance before_trans : IsTrans DocumentSearchResult fun a b => a.before b = true where
  trans a b c hab hbc := by
    rw [before_iff] at hab hbc ⊢
    rcases hab with hab | ⟨hab, hpath⟩
    · rcases hbc with hbc | ⟨hbc, _⟩ <;> exact Or.inl (by omega)
    · rcases hbc with hbc | ⟨hbc, hpath'⟩
      · exact Or.inl (by omega)
      · exact Or.inr ⟨hab.trans hbc, String.le_trans hpath hpath'⟩

theorem precedes_of_before {a b : DocumentSearchResult} (h : a.before b = true)
    (hpath : a.document.path ≠ b.document.path) : Precedes a b := by
  rcases (before_iff a b).mp h with h | ⟨hfound, h⟩
  · exact Or.inl h
  · refine Or.inr ⟨hfound, String.not_le.mp fun hback => hpath ?_⟩
    exact String.le_antisymm h hback

theorem Precedes.asymm {a b : DocumentSearchResult} (h : Precedes a b) : ¬ Precedes b a := by
  intro hback
  rcases h with h | ⟨_, h⟩
  · rcases hback with hback | ⟨hback, _⟩ <;> omega
  · rcases hback with hback | ⟨_, hback⟩
    · omega
    · exact String.lt_asymm h hback

theorem ranked_resultsOf (hquery : Text.strip query ≠ "") {refs : List DocumentRef}
    (hat : forall ref, ref ∈ refs -> (documents ref.path).path = ref.path)
    (hpaths : (refs.map DocumentRef.path).Nodup) :
    Ranked unicode query refs documents (resultsOf unicode query refs documents) := by
  have honce : ((resultsOf unicode query refs documents).map
      fun result => result.document.path).Nodup := by
    have hperm := (List.perm_insertionSort (fun a b => a.before b = true)
      (((refs.map fun ref => documents ref.path).filter
        (matched unicode (unicode.casefold (Text.strip query)))).map
          (resultOf unicode (unicode.casefold (Text.strip query))))).map
            fun result => result.document.path
    have hsame : (refs.map fun ref => documents ref.path).map Document.path =
        refs.map DocumentRef.path := by
      rw [List.map_map]
      exact List.map_congr_left hat
    rw [← hsame] at hpaths
    refine hperm.nodup_iff.mpr ?_
    rw [List.map_map]
    exact hpaths.sublist (List.filter_sublist.map Document.path)
  refine ⟨?_, honce, ?_⟩
  · intro result
    rw [resultsOf, List.mem_insertionSort, List.mem_map]
    constructor
    · intro h
      rcases h with ⟨document, hdocument, hresult⟩
      rcases List.mem_filter.mp hdocument with ⟨hmem, hmatched⟩
      rcases List.mem_map.mp hmem with ⟨ref, href, hread⟩
      subst hresult
      refine ⟨ref, href, hread.symm, (matched_iff hquery document).mp hmatched, ?_⟩
      rw [resultOf, count_eq hquery]
      exact isGreatest_countFrom (needle_ne_nil hquery) _
    · intro h
      rcases h with ⟨ref, href, hdocument, hoccurs, hgreatest⟩
      refine ⟨result.document, List.mem_filter.mpr ⟨?_, (matched_iff hquery _).mpr hoccurs⟩, ?_⟩
      · rw [hdocument]
        exact List.mem_map_of_mem href
      · have hfound := hgreatest.unique (isGreatest_countFrom (needle_ne_nil hquery) _)
        rw [resultOf, count_eq hquery, ← hfound]
  · have hsorted := List.pairwise_insertionSort (fun a b : DocumentSearchResult => a.before b = true)
      (((refs.map fun ref => documents ref.path).filter
        (matched unicode (unicode.casefold (Text.strip query)))).map
          (resultOf unicode (unicode.casefold (Text.strip query))))
    rw [List.Nodup, List.pairwise_map] at honce
    exact hsorted.imp₂ (fun _ _ => precedes_of_before) honce

theorem Ranked.unique {refs refs' : List DocumentRef} (hrefs : refs.Perm refs')
    {results results' : List DocumentSearchResult}
    (h : Ranked unicode query refs documents results)
    (h' : Ranked unicode query refs' documents results') : results = results' := by
  have hmem : forall result, result ∈ results <-> result ∈ results' := by
    intro result
    rw [h.exact, h'.exact]
    exact exists_congr fun ref => and_congr_left' hrefs.mem_iff
  have hperm : results.Perm results' :=
    (List.perm_ext_iff_of_nodup h.once.of_map h'.once.of_map).mpr hmem
  exact hperm.eq_of_pairwise (fun a b _ _ hab hba => absurd hba hab.asymm) h.ordered h'.ordered

/-!
## A part of the documentation
-/

theorem inScope_iff (scope : String) (result : DocumentSearchResult) :
    inScope scope result = true <-> Within scope result.document.path := by
  rw [inScope, Bool.or_eq_true, decide_eq_true_eq, Text.startsWith, List.isPrefixOf_iff_prefix]
  refine or_congr_right ⟨?_, ?_⟩
  · intro h
    rcases h with ⟨rest, hrest⟩
    refine ⟨String.ofList rest, String.toList_injective ?_⟩
    rw [String.toList_append, String.toList_ofList, hrest]
  · intro h
    rcases h with ⟨rest, hrest⟩
    simp only [hrest, String.toList_append]
    exact List.prefix_append _ _

theorem searchDocsScoped_under {results : List DocumentSearchResult} {pathPrefix : String}
    (hsearch : (searchDocs py unicode adapter query).under answers = .ok results)
    (hscope : scopeOf (some pathPrefix) ≠ "")
    (hvalid : validatePath (scopeOf (some pathPrefix)) = .ok ()) :
    (searchDocsScoped py unicode adapter query (some pathPrefix)).under answers =
      .ok (results.filter (inScope (scopeOf (some pathPrefix)))) := by
  rw [searchDocsScoped, if_neg hscope, hvalid, Program.ofExcept_ok, Program.pure_bind,
    Program.under_bind_ok hsearch, if_neg hscope, Program.under_pure]

/--
A search is exact and ranked, another order of the tree gives the same results, and a
search in a part of the documentation gives the results within it.
-/
theorem search_exact (py : Builtins) (unicode : UnicodeData) (adapter : YasinDocsAdapter)
    {answers : (request : UpstreamRequest) -> UpstreamAnswer request}
    {entries : List TreeEntry} {documents : String -> Document}
    (h : Searchable py adapter answers entries documents) {query : String}
    (hquery : Text.strip query ≠ "") :
    exists refs results,
      (listDocuments py unicode adapter).under answers = .ok refs ∧
      (searchDocs py unicode adapter query).under answers = .ok results ∧
      Ranked unicode query refs documents results ∧
      (forall entries' answers', entries'.Perm entries ->
        Searchable py adapter answers' entries' documents ->
          (searchDocs py unicode adapter query).under answers' = .ok results) ∧
      forall pathPrefix, scopeOf (some pathPrefix) ≠ "" ->
        validatePath (scopeOf (some pathPrefix)) = .ok () ->
          exists part,
            (searchDocsScoped py unicode adapter query (some pathPrefix)).under answers =
              .ok part ∧
            part.Sublist results ∧
            forall result, result ∈ part <->
              result ∈ results ∧ Within (scopeOf (some pathPrefix)) result.document.path := by
  have hranked : forall {entries' answers'},
      Searchable py adapter answers' entries' documents ->
        Ranked unicode query
          (sortByPath ((entries'.filter TreeEntry.eligible).map TreeEntry.ref)) documents
          (resultsOf unicode query
            (sortByPath ((entries'.filter TreeEntry.eligible).map TreeEntry.ref)) documents) :=
    fun h' => ranked_resultsOf hquery (fun ref href => path_of_isAt (h'.fetched_ref href))
      h'.paths_nodup
  refine ⟨_, _, h.listing, h.search hquery, hranked h, ?_, ?_⟩
  · intro entries' answers' hperm h'
    have hrefs : (sortByPath ((entries'.filter TreeEntry.eligible).map TreeEntry.ref)).Perm
        (sortByPath ((entries.filter TreeEntry.eligible).map TreeEntry.ref)) :=
      (sortByPath_perm _).trans
        (((hperm.filter _).map _).trans (sortByPath_perm _).symm)
    rw [h'.search hquery, (hranked h').unique hrefs (hranked h)]
  · intro pathPrefix hscope hvalid
    refine ⟨_, searchDocsScoped_under (h.search hquery) hscope hvalid, List.filter_sublist, ?_⟩
    intro result
    rw [List.mem_filter, inScope_iff]

end

structure SampleFile where
  path : String
  encoded : String
  content : String

/-- Two documents with as many letters, one with more, one with less, and one with none. -/
def sampleLibrary : List SampleFile :=
  [⟨"ARCHITECTURE.md", "QQ==", "A"⟩, ⟨"docs/architecture/b.md", "QUFB", "AAA"⟩,
    ⟨"docs/notes.md", "QUFBQQ==", "AAAA"⟩, ⟨"README.md", "Qg==", "B"⟩,
    ⟨"docs/architecture/a.md", "QUFB", "AAA"⟩]

def libraryAnswers (adapter : YasinDocsAdapter) (files : List SampleFile)
    (request : UpstreamRequest) : Except PyException Value :=
  if request = adapter.treesRequest then
    .ok (treePayload (files.map fun file => markdown file.path))
  else
    match files.find? fun file => decide (request = documentRequest adapter file.path) with
    | some file => .ok (.dict [("type", .str "file"), ("content", .str file.encoded)])
    | none => .error (notFoundError "YASIN-DOCS resource was not found")

def libraryDocument (files : List SampleFile) (path : String) : Document where
  path := path
  content := ((files.find? fun file => file.path = path).map SampleFile.content).getD ""
  sourceUrl := ""
  sha := ""
  evidenceStatus := .confirmed

theorem searchable_sampleLibrary {files : List SampleFile}
    (hpaths : (files.map SampleFile.path).Nodup) (hfew : files.length ≤ 50)
    (hfetched : files.Forall fun file =>
      IsAt plainBuiltins withDefaults (libraryAnswers withDefaults files) file.path
        (libraryDocument sampleLibrary file.path)) :
    Searchable plainBuiltins withDefaults (libraryAnswers withDefaults files)
      (files.map fun file => markdown file.path) (libraryDocument sampleLibrary) where
  tree := ⟨_, rfl, isTree_treePayload _⟩
  distinct := by
    rw [List.map_map]
    exact hpaths
  few := by
    refine (List.length_filter_le _ _).trans ?_
    rw [List.length_map]
    exact hfew
  fetched := by
    intro entry hentry _
    rcases List.mem_map.mp hentry with ⟨file, hfile, rfl⟩
    exact List.forall_iff_forall_mem.mp hfetched file hfile

theorem search_exact_library :
    exists results part,
      (searchDocs plainBuiltins plainUnicode withDefaults " a ").under
        (libraryAnswers withDefaults sampleLibrary) = .ok results ∧
      (results.map fun result => (result.document.path, result.found)) =
        [("docs/notes.md", 4), ("docs/architecture/a.md", 3), ("docs/architecture/b.md", 3),
          ("ARCHITECTURE.md", 1)] ∧
      (searchDocs plainBuiltins plainUnicode withDefaults " a ").under
        (libraryAnswers withDefaults sampleLibrary.reverse) = .ok results ∧
      (searchDocsScoped plainBuiltins plainUnicode withDefaults " a "
        (some "docs/architecture/")).under (libraryAnswers withDefaults sampleLibrary) =
          .ok part ∧
      (part.map fun result => result.document.path) =
        ["docs/architecture/a.md", "docs/architecture/b.md"] := by
  have hsearchable : Searchable _ _ _ (sampleLibrary.map fun file => markdown file.path) _ :=
    searchable_sampleLibrary (by decide) (by decide) (by
      unfold IsAt
      decide +kernel)
  have hreversed : Searchable _ _ _
      (sampleLibrary.reverse.map fun file => markdown file.path) _ :=
    searchable_sampleLibrary (by decide) (by decide) (by
      unfold IsAt
      decide +kernel)
  rcases search_exact plainBuiltins plainUnicode withDefaults hsearchable
    (show Text.strip " a " ≠ "" by decide) with ⟨refs, results, _, hresults, _, hpermuted, hscoped⟩
  rcases hscoped "docs/architecture/" (by decide) (by decide) with ⟨part, hpart, _⟩
  have hranking : ((searchDocs plainBuiltins plainUnicode withDefaults " a ").under
      (libraryAnswers withDefaults sampleLibrary)).map
        (List.map fun result => (result.document.path, result.found)) =
      .ok [("docs/notes.md", 4), ("docs/architecture/a.md", 3), ("docs/architecture/b.md", 3),
        ("ARCHITECTURE.md", 1)] := by
    decide +kernel
  have hwithin : ((searchDocsScoped plainBuiltins plainUnicode withDefaults " a "
      (some "docs/architecture/")).under (libraryAnswers withDefaults sampleLibrary)).map
        (List.map fun result => result.document.path) =
      .ok ["docs/architecture/a.md", "docs/architecture/b.md"] := by
    decide +kernel
  rw [hresults] at hranking
  rw [hpart] at hwithin
  refine ⟨results, part, hresults, Except.ok.inj hranking, ?_, hpart, Except.ok.inj hwithin⟩
  apply hpermuted _ _ _ hreversed
  exact (List.reverse_perm sampleLibrary).map _

end YasinDocsAdapter

end YasinMcp
