import YasinMcp.Adapters.DocsSearch

/-!
# The architecture document of a project

The architecture document of a project is looked up with a search for the project: it is
the first result with `architecture` in its path.  So among the documents that mention the
project and have such a path it is the one with the most mentions, the order of the tree
does not show in it, and it exists when a listed architecture document mentions the
project.
-/

namespace YasinMcp

open Foundation Docs

theorem first_of_find? {a : Type} {r : a -> a -> Prop} {p : a -> Bool} {xs : List a} {x : a}
    (hordered : xs.Pairwise r) (h : xs.find? p = some x) :
    x ∈ xs ∧ p x = true ∧ forall y, y ∈ xs -> p y = true -> y = x ∨ r x y := by
  rcases List.find?_eq_some_iff_append.mp h with ⟨hp, front, back, hxs, hfront⟩
  subst hxs
  refine ⟨List.mem_append_right _ List.mem_cons_self, hp, ?_⟩
  intro y hy hpy
  rcases List.mem_append.mp hy with hmem | hmem
  · have hnot := hfront y hmem
    rw [hpy] at hnot
    cases hnot
  · rcases List.mem_cons.mp hmem with heq | hback
    · exact Or.inl heq
    · have hsuffix := (List.pairwise_append.mp hordered).2.1
      exact Or.inr (List.rel_of_pairwise_cons hsuffix hback)

namespace YasinDocsAdapter

/-- The document is one of architecture by its path, and mentions the project so often. -/
structure Describes (unicode : UnicodeData) (project : String) (document : Document)
    (mentions : Nat) : Prop where
  path : "architecture".toList <:+: (Text.lower document.path).toList
  mentioned : needle unicode project <:+: haystack unicode document
  greatest : IsGreatest {n | Apart (needle unicode project) (haystack unicode document) n} mentions

/-- The listed document with the most mentions, and of those the first by its path. -/
structure ArchitectureOf (unicode : UnicodeData) (project : String) (refs : List DocumentRef)
    (documents : String -> Document) (document : Document) : Prop where
  listed : exists ref, ref ∈ refs ∧ document = documents ref.path
  foremost : exists mentions, Describes unicode project document mentions ∧
    forall ref, ref ∈ refs -> forall others, Describes unicode project (documents ref.path) others ->
      documents ref.path = document ∨ others < mentions ∨
        mentions = others ∧ document.path < (documents ref.path).path

section

variable {unicode : UnicodeData} {project : String} {refs : List DocumentRef}
  {documents : String -> Document}

theorem describes_iff {results : List DocumentSearchResult}
    (hranked : Ranked unicode project refs documents results) (document : Document)
    (mentions : Nat) :
    (exists ref, ref ∈ refs ∧ document = documents ref.path) ∧
        Describes unicode project document mentions <->
      ⟨document, mentions⟩ ∈ results ∧
        isArchitectureOf unicode (Text.strip project) ⟨document, mentions⟩ = true := by
  rw [isArchitectureOf, Bool.and_eq_true, Text.isPartOf, Text.isPartOf, decide_eq_true_eq,
    decide_eq_true_eq, hranked.exact]
  constructor
  · intro h
    rcases h with ⟨⟨ref, href, hdocument⟩, hdescribes⟩
    exact ⟨⟨ref, href, hdocument, hdescribes.mentioned, hdescribes.greatest⟩, hdescribes.path,
      hdescribes.mentioned⟩
  · intro h
    rcases h with ⟨⟨ref, href, hdocument, hoccurs, hgreatest⟩, hpath, _⟩
    exact ⟨⟨ref, href, hdocument⟩, hpath, hoccurs, hgreatest⟩

theorem architectureOf_of_find? {results : List DocumentSearchResult}
    (hranked : Ranked unicode project refs documents results) {result : DocumentSearchResult}
    (h : results.find? (isArchitectureOf unicode (Text.strip project)) = some result) :
    ArchitectureOf unicode project refs documents result.document := by
  rcases first_of_find? hranked.ordered h with ⟨hmem, hkind, hfirst⟩
  rcases (describes_iff hranked _ _).mpr ⟨hmem, hkind⟩ with ⟨hlisted, hdescribes⟩
  refine ⟨hlisted, result.found, hdescribes, ?_⟩
  intro ref href others hothers
  rcases (describes_iff hranked _ _).mp ⟨⟨ref, href, rfl⟩, hothers⟩ with ⟨hother, hotherKind⟩
  rcases hfirst _ hother hotherKind with heq | hprecedes
  · left
    rw [← heq]
  · exact Or.inr hprecedes

theorem ArchitectureOf.unique {document other : Document}
    (h : ArchitectureOf unicode project refs documents document)
    (h' : ArchitectureOf unicode project refs documents other) : document = other := by
  rcases h.listed with ⟨ref, href, hdocument⟩
  rcases h'.listed with ⟨ref', href', hother⟩
  rcases h.foremost with ⟨mentions, hdescribes, hfirst⟩
  rcases h'.foremost with ⟨mentions', hdescribes', hfirst'⟩
  subst hdocument hother
  rcases hfirst ref' href' mentions' hdescribes' with heq | hless
  · exact heq.symm
  · rcases hfirst' ref href mentions hdescribes with heq | hless'
    · exact heq
    · have hback : Precedes ⟨documents ref'.path, mentions'⟩ ⟨documents ref.path, mentions⟩ := hless'
      exact absurd hback (Precedes.asymm (show Precedes ⟨documents ref.path, mentions⟩
        ⟨documents ref'.path, mentions'⟩ from hless))

end

section

variable {py : Builtins} {unicode : UnicodeData} {adapter : YasinDocsAdapter}
  {answers : (request : UpstreamRequest) -> UpstreamAnswer request} {entries : List TreeEntry}
  {documents : String -> Document} {project : String}

def listed (entries : List TreeEntry) : List DocumentRef :=
  sortByPath ((entries.filter TreeEntry.eligible).map TreeEntry.ref)

theorem listed_perm {entries' : List TreeEntry} (h : entries'.Perm entries) :
    (listed entries').Perm (listed entries) :=
  ((sortByPath_perm _).trans ((h.filter _).map _)).trans (sortByPath_perm _).symm

variable (unicode) in
theorem Searchable.ranked (h : Searchable py adapter answers entries documents)
    (hproject : Text.strip project ≠ "") :
    Ranked unicode project (listed entries) documents
      (resultsOf unicode (Text.strip project) (listed entries) documents) := by
  have hquery : Text.strip (Text.strip project) ≠ "" := by rwa [Text.strip_strip]
  have hranked : Ranked unicode (Text.strip project) (listed entries) documents _ :=
    ranked_resultsOf hquery (fun ref href => path_of_isAt (h.fetched_ref href)) h.paths_nodup
  have hneedle : needle unicode (Text.strip project) = needle unicode project := by
    rw [needle, needle, Text.strip_strip]
  have hexact := hranked.exact
  simp only [hneedle] at hexact
  exact ⟨hexact, hranked.once, hranked.ordered⟩

variable (unicode) in
theorem Searchable.architecture (h : Searchable py adapter answers entries documents)
    (hproject : Text.strip project ≠ "") :
    (getProjectArchitecture py unicode adapter project).under answers =
      match (resultsOf unicode (Text.strip project) (listed entries) documents).find?
          (isArchitectureOf unicode (Text.strip project)) with
      | some result => .ok result.document
      | none => .error (notFoundError
          ("No architecture document was found for project " ++ py.repr (.str project))) := by
  have hquery : Text.strip (Text.strip project) ≠ "" := by rwa [Text.strip_strip]
  rw [getProjectArchitecture, if_neg hproject, Program.under_bind_ok (h.search hquery)]
  change (match (resultsOf unicode (Text.strip project) (listed entries) documents).find?
    (isArchitectureOf unicode (Text.strip project)) with
      | some result => Program.pure result.document
      | none => _).under answers = _
  split
  · exact Program.under_pure _
  · rfl

variable (unicode) in
theorem Searchable.architecture_iff (h : Searchable py adapter answers entries documents)
    (hproject : Text.strip project ≠ "") (document : Document) :
    (getProjectArchitecture py unicode adapter project).under answers = .ok document <->
      ArchitectureOf unicode project (listed entries) documents document := by
  have hranked := h.ranked unicode hproject
  rw [h.architecture unicode hproject]
  cases hfind : (resultsOf unicode (Text.strip project) (listed entries) documents).find?
      (isArchitectureOf unicode (Text.strip project)) with
  | some result =>
      have hof := architectureOf_of_find? hranked hfind
      constructor
      · intro hok
        cases hok
        exact hof
      · intro hdocument
        exact congrArg Except.ok (hof.unique hdocument)
  | none =>
      constructor
      · intro hok
        cases hok
      · intro hdocument
        rcases hdocument.foremost with ⟨mentions, hdescribes, _⟩
        rcases (describes_iff hranked document mentions).mp ⟨hdocument.listed, hdescribes⟩ with
          ⟨hmem, hkind⟩
        exact absurd hkind (List.find?_eq_none.mp hfind _ hmem)

theorem infix_of_isArchitecture {ref : DocumentRef} (h : isArchitecture ref = true) :
    "architecture".toList <:+: (Text.lower ref.path).toList := by
  rw [isArchitecture, Bool.or_eq_true, decide_eq_true_eq] at h
  rcases h with hpath | hunder
  · rw [hpath]
    decide
  · rw [Text.startsWith, List.isPrefixOf_iff_prefix] at hunder
    have hpart : "architecture".toList <:+: "docs/architecture/".toList := by decide
    exact hpart.trans hunder.isInfix

/--
The lookup of a project returns its architecture document, exactly when there is one, and
otherwise reports that none was found.  A listed architecture document that mentions the
project makes it succeed, and another order of the tree does not change it.
-/
theorem architecture_exact (py : Builtins) (unicode : UnicodeData) (adapter : YasinDocsAdapter)
    {answers : (request : UpstreamRequest) -> UpstreamAnswer request}
    {entries : List TreeEntry} {documents : String -> Document}
    (h : Searchable py adapter answers entries documents) {project : String}
    (hproject : Text.strip project ≠ "") :
    exists refs,
      (listDocuments py unicode adapter).under answers = .ok refs ∧
      (forall document,
        (getProjectArchitecture py unicode adapter project).under answers = .ok document <->
          ArchitectureOf unicode project refs documents document) ∧
      ((forall document, ¬ ArchitectureOf unicode project refs documents document) ->
        (getProjectArchitecture py unicode adapter project).under answers =
          .error (notFoundError
            ("No architecture document was found for project " ++ py.repr (.str project)))) ∧
      (forall ref, ref ∈ refs -> isArchitecture ref = true ->
        needle unicode project <:+: haystack unicode (documents ref.path) ->
          exists document,
            (getProjectArchitecture py unicode adapter project).under answers = .ok document) ∧
      forall entries' answers', entries'.Perm entries ->
        Searchable py adapter answers' entries' documents ->
          (getProjectArchitecture py unicode adapter project).under answers' =
            (getProjectArchitecture py unicode adapter project).under answers := by
  refine ⟨listed entries, h.listing, h.architecture_iff unicode hproject, ?_, ?_, ?_⟩
  · intro hnone
    have hiff := h.architecture_iff unicode hproject
    rw [h.architecture unicode hproject] at hiff ⊢
    split
    · rename_i result hfind
      rw [hfind] at hiff
      exact absurd ((hiff result.document).mp rfl) (hnone result.document)
    · rfl
  · intro ref href hkind hoccurs
    have hpath : "architecture".toList <:+:
        (Text.lower (documents ref.path).path).toList := by
      rw [path_of_isAt (h.fetched_ref href)]
      exact infix_of_isArchitecture hkind
    have hdescribes : Describes unicode project (documents ref.path)
        (countFrom (needle unicode project) 0 (haystack unicode (documents ref.path))) :=
      ⟨hpath, hoccurs, isGreatest_countFrom (needle_ne_nil hproject) _⟩
    rcases (describes_iff (h.ranked unicode hproject) _ _).mp ⟨⟨ref, href, rfl⟩, hdescribes⟩ with
      ⟨hmem, htaken⟩
    rw [h.architecture unicode hproject]
    split
    · exact ⟨_, rfl⟩
    · rename_i hfind
      exact absurd htaken (List.find?_eq_none.mp hfind _ hmem)
  · intro entries' answers' hperm h'
    have hresults := Ranked.unique (listed_perm hperm) (h'.ranked unicode hproject)
      (h.ranked unicode hproject)
    rw [h'.architecture unicode hproject, h.architecture unicode hproject, hresults]

end

theorem architecture_exact_library :
    exists document,
      (getProjectArchitecture plainBuiltins plainUnicode withDefaults " a ").under
        (libraryAnswers withDefaults sampleLibrary) = .ok document ∧
      document.path = "docs/architecture/a.md" ∧
      (getProjectArchitecture plainBuiltins plainUnicode withDefaults " a ").under
        (libraryAnswers withDefaults sampleLibrary.reverse) = .ok document := by
  have hsearchable : Searchable _ _ _ (sampleLibrary.map fun file => markdown file.path) _ :=
    searchable_sampleLibrary (by decide) (by decide) (by
      unfold IsAt
      decide +kernel)
  have hreversed : Searchable _ _ _
      (sampleLibrary.reverse.map fun file => markdown file.path) _ :=
    searchable_sampleLibrary (by decide) (by decide) (by
      unfold IsAt
      decide +kernel)
  rcases architecture_exact plainBuiltins plainUnicode withDefaults hsearchable
    (show Text.strip " a " ≠ "" by decide) with ⟨refs, hrefs, _, _, hfound, hpermuted⟩
  have hlisted : (listDocuments plainBuiltins plainUnicode withDefaults).under
      (libraryAnswers withDefaults sampleLibrary) =
        .ok ((["ARCHITECTURE.md", "README.md", "docs/architecture/a.md",
          "docs/architecture/b.md", "docs/notes.md"].map markdown).map TreeEntry.ref) := by
    decide +kernel
  have htaken : ((getProjectArchitecture plainBuiltins plainUnicode withDefaults " a ").under
      (libraryAnswers withDefaults sampleLibrary)).map Document.path =
        .ok "docs/architecture/a.md" := by
    decide +kernel
  rw [hlisted, Except.ok.injEq] at hrefs
  rcases hfound (markdown "ARCHITECTURE.md").ref (by rw [← hrefs]; decide) (by decide)
    (by decide +kernel) with ⟨document, hdocument⟩
  have hsame := hpermuted _ _ ((List.reverse_perm sampleLibrary).map _) hreversed
  rw [hdocument] at htaken
  exact ⟨document, hdocument, Except.ok.inj htaken, hsame.trans hdocument⟩

end YasinDocsAdapter

end YasinMcp
