import YasinMcp.Adapters.DocsTree
import YasinMcp.Foundation.Lines

/-!
# Looking up decision records

The listing finds the decision records by the directory they are in.  The lookup
guesses the path of a record from its name: a name with a slash or with the
extension of a record is taken as the path itself, and any other name is put
between the directory and an extension.  The file name of a listed record has the
extension and no slash.  It is therefore looked for outside the directory, and the
record is never found by it.
-/

namespace YasinMcp

open Foundation Docs

namespace YasinDocsAdapter

section

variable (py : Builtins) (unicode : UnicodeData) (adapter : YasinDocsAdapter)
  (answers : (request : UpstreamRequest) -> UpstreamAnswer request)

/-- The record is in the list of decision records. -/
def ListedAdr (ref : DocumentRef) : Prop :=
  exists refs, (listAdrs py unicode adapter).under answers = .ok refs ∧ ref ∈ refs

/-- The path of a record: a file of the directory, with one of the extensions in any case. -/
structure IsRecord (path stem ext : String) : Prop where
  path_eq : path = "docs/adr/" ++ (stem ++ ext)
  no_slash : '/' ∉ (stem ++ ext).toList
  extension : Text.lower ext = ".md" ∨ Text.lower ext = ".mdx"

def Finds (name : String) (document : Document) : Prop :=
  (getAdr py adapter name).under answers = .ok document

/-- No other listed record has this stem. -/
def StemUnique (path stem : String) : Prop :=
  forall other ext, ListedAdr py unicode adapter answers other -> IsRecord other.path stem ext ->
    other.path = path

/--
Every listed record is found by its path, by its file name, and by its stem when no
other listed record has that.
-/
def LookupAgrees : Prop :=
  forall ref stem ext document, ListedAdr py unicode adapter answers ref ->
    IsRecord ref.path stem ext -> IsAt py adapter answers ref.path document ->
      Finds py adapter answers ref.path document ∧
        Finds py adapter answers (stem ++ ext) document ∧
        (StemUnique py unicode adapter answers ref.path stem ->
          Finds py adapter answers stem document)

/-- The name ends as a file name does, and is taken as a path. -/
def hasExtension (name : String) : Bool :=
  [".md", ".mdx"].any fun suffix => Text.endsWith (Text.lower name) suffix

/--
The stem is the name of its record: nothing is stripped from it, it is not taken for a
path, and with the second extension there is no record with the first.
-/
structure StemLeads (stem ext : String) : Prop where
  stripped : Text.strip stem = stem
  nonempty : stem ≠ ""
  no_extension : hasExtension stem = false
  first : ext = ".md" ∨ ext = ".mdx" ∧
    exists e, (getDoc py adapter ("docs/adr/" ++ stem ++ ".md")).under answers = .error e ∧
      IsNotFound e = true

end

section

variable {py : Builtins} {unicode : UnicodeData} {adapter : YasinDocsAdapter}
  {answers : (request : UpstreamRequest) -> UpstreamAnswer request}

/-!
## The documents of the candidates
-/

theorem getFirst_under_ok {missing : PyException} {path : String} {rest : List String}
    {document : Document} (h : IsAt py adapter answers path document) :
    (getFirst py adapter missing (path :: rest)).under answers = .ok document := by
  rw [getFirst, Program.under_rescue, h]

theorem getFirst_under_notFound {missing e : PyException} {path : String} {rest : List String}
    (h : (getDoc py adapter path).under answers = .error e) (hmissing : IsNotFound e = true) :
    (getFirst py adapter missing (path :: rest)).under answers =
      (getFirst py adapter missing rest).under answers := by
  rw [getFirst, Program.under_rescue, h]
  simp only [hmissing, if_true]

theorem getFirst_under_error {missing e : PyException} {path : String} {rest : List String}
    (h : (getDoc py adapter path).under answers = .error e) (hother : IsNotFound e = false) :
    (getFirst py adapter missing (path :: rest)).under answers = .error e := by
  rw [getFirst, Program.under_rescue, h]
  simp only [hother, Bool.false_eq_true, if_false, Program.under_raise]

theorem mem_of_getFirst {missing : PyException} {paths : List String} {document : Document}
    (h : (getFirst py adapter missing paths).under answers = .ok document) :
    document.path ∈ paths := by
  induction paths with
  | nil => cases h
  | cons path rest ih =>
      cases hget : (getDoc py adapter path).under answers with
      | ok first =>
          rw [getFirst_under_ok hget] at h
          cases h
          rw [path_of_isAt hget]
          exact List.mem_cons_self
      | error e =>
          cases hmissing : IsNotFound e with
          | true =>
              rw [getFirst_under_notFound hget hmissing] at h
              exact List.mem_cons_of_mem path (ih h)
          | false =>
              rw [getFirst_under_error hget hmissing] at h
              cases h

theorem mem_candidates_of_finds {name : String} {document : Document}
    (h : Finds py adapter answers name document) :
    document.path ∈ adrCandidates (Text.strip name) := by
  unfold Finds getAdr at h
  split at h
  · cases h
  · exact mem_of_getFirst h

theorem finds_eq {name : String} {document : Document} (hblank : Text.strip name ≠ "") :
    Finds py adapter answers name document <->
      (getFirst py adapter (notFoundError ("ADR " ++ py.repr (.str name) ++ " was not found"))
        (adrCandidates (Text.strip name))).under answers = .ok document := by
  rw [Finds, getAdr, if_neg hblank]

/-!
## The names of a record
-/

theorem IsRecord.printable {path stem ext : String} (h : IsRecord path stem ext) :
    forall c, c ∈ ext.toList -> Text.isSpace c = false := by
  intro c hc
  refine Text.isSpace_of_lower ?_ hc
  rcases h.extension with hext | hext
  · rw [hext]
    exact List.forall_iff_forall_mem.mp (by decide)
  · rw [hext]
    exact List.forall_iff_forall_mem.mp (by decide)

theorem IsRecord.ext_ne_nil {path stem ext : String} (h : IsRecord path stem ext) :
    ext.toList ≠ [] := by
  intro hnil
  rw [String.toList_eq_nil_iff] at hnil
  subst hnil
  rcases h.extension with hext | hext
  · exact absurd hext (by decide)
  · exact absurd hext (by decide)

theorem IsRecord.strip_append {path stem ext : String} (h : IsRecord path stem ext)
    (start : String) :
    Text.strip (start ++ ext) =
      String.ofList (start.toList.dropWhile Text.isSpace) ++ ext := by
  rw [Text.strip, String.toList_append, Text.stripChars_append h.ext_ne_nil h.printable,
    String.ofList_append, String.ofList_toList]

theorem IsRecord.hasExtension_append {path stem ext : String} (h : IsRecord path stem ext)
    (start : String) : hasExtension (start ++ ext) = true := by
  have hends : Text.endsWith (Text.lower (start ++ ext)) (Text.lower ext) = true := by
    rw [Text.lower_append, Text.endsWith, List.isSuffixOf_iff_suffix, String.toList_append]
    exact List.suffix_append _ _
  rw [hasExtension, List.any_eq_true]
  rcases h.extension with hext | hext
  · exact ⟨".md", List.mem_cons_self, hext ▸ hends⟩
  · exact ⟨".mdx", List.mem_cons_of_mem _ List.mem_cons_self, hext ▸ hends⟩

theorem adrCandidates_of_hasExtension {name : String} (h : hasExtension name = true) :
    adrCandidates name = [name] := by
  rw [adrCandidates]
  exact if_pos (by rw [Bool.or_eq_true]; exact Or.inr h)

theorem adrCandidates_of_stem {name : String} (hslash : '/' ∉ name.toList)
    (h : hasExtension name = false) :
    adrCandidates name = ["docs/adr/" ++ name ++ ".md", "docs/adr/" ++ name ++ ".mdx"] := by
  rw [adrCandidates]
  refine if_neg ?_
  rw [Bool.or_eq_true, not_or]
  refine ⟨fun hcontains => hslash (List.contains_iff_mem.mp hcontains), ?_⟩
  exact Bool.eq_false_iff.mp h

theorem finds_path {path stem ext : String} (h : IsRecord path stem ext) {document : Document}
    (hat : IsAt py adapter answers path document) : Finds py adapter answers path document := by
  have hpath : path = ("docs/adr/" ++ stem) ++ ext := by rw [h.path_eq, String.append_assoc]
  have hstart : ("docs/adr/" ++ stem).toList.dropWhile Text.isSpace = ("docs/adr/" ++ stem).toList := by
    rw [String.toList_append]
    rfl
  have hstrip : Text.strip path = path := by rw [hpath, h.strip_append, hstart, String.ofList_toList]
  have hblank : Text.strip path ≠ "" := by
    rw [hstrip, hpath, ne_eq, ← String.toList_eq_nil_iff, String.toList_append]
    exact List.append_ne_nil_of_right_ne_nil _ h.ext_ne_nil
  have hcandidates : adrCandidates path = [path] := by
    rw [hpath]
    exact adrCandidates_of_hasExtension (h.hasExtension_append _)
  rw [finds_eq hblank, hstrip, hcandidates]
  exact getFirst_under_ok hat

theorem not_finds_fileName {path stem ext : String} (h : IsRecord path stem ext)
    {document : Document} (hat : IsAt py adapter answers path document) :
    ¬ Finds py adapter answers (stem ++ ext) document := by
  intro hfinds
  have hmem := mem_candidates_of_finds hfinds
  rw [h.strip_append, adrCandidates_of_hasExtension (h.hasExtension_append _),
    List.mem_singleton, path_of_isAt hat, h.path_eq] at hmem
  have hslash : '/' ∈ (stem ++ ext).toList := by
    have hlist : '/' ∈ ("docs/adr/" ++ (stem ++ ext)).toList := by
      rw [String.toList_append]
      exact List.mem_append_left _ (by decide)
    rw [hmem, String.toList_append, String.toList_ofList, List.mem_append] at hlist
    rw [String.toList_append, List.mem_append]
    exact hlist.imp_left fun hfront => (List.dropWhile_suffix Text.isSpace).subset hfront
  exact h.no_slash hslash

theorem IsRecord.of_candidate {path stem ext suffix : String} (h : IsRecord path stem ext)
    (hsuffix : suffix = ".md" ∨ suffix = ".mdx")
    (hpath : path = "docs/adr/" ++ Text.strip stem ++ suffix) :
    Text.strip stem = stem ∧ ext = suffix := by
  have hname : stem ++ ext = Text.strip stem ++ suffix := by
    rw [h.path_eq, String.append_assoc] at hpath
    exact (String.append_right_inj _).mp hpath
  have hlower : Text.lower suffix = suffix := by
    rcases hsuffix with hsuffix | hsuffix <;> (subst hsuffix; decide)
  have hends : Text.lower stem ++ Text.lower ext = Text.lower (Text.strip stem) ++ suffix := by
    rw [← hlower, ← Text.lower_append, ← Text.lower_append, hname]
  have hext : Text.lower ext = suffix := by
    have hlast := congrArg (fun s : String => s.toList.getLast?) hends
    simp only [String.toList_append, List.getLast?_append] at hlast
    rcases h.extension with hext | hext
    · rcases hsuffix with hsuffix | hsuffix
      · rw [hext, hsuffix]
      · rw [hext, hsuffix] at hlast
        exact absurd hlast (by simp)
    · rcases hsuffix with hsuffix | hsuffix
      · rw [hext, hsuffix] at hlast
        exact absurd hlast (by simp)
      · rw [hext, hsuffix]
  rw [hext] at hends
  have hstem := Text.strip_eq_of_lower ((String.append_left_inj _).mp hends)
  rw [hstem] at hname
  exact ⟨hstem, (String.append_right_inj _).mp hname⟩

/-- A stem is looked for under both extensions when some document of the directory is found. -/
theorem of_finds_stem {path stem ext : String} (h : IsRecord path stem ext) {document : Document}
    (hat : IsAt py adapter answers path document)
    (hfinds : Finds py adapter answers stem document) :
    Text.strip stem ≠ "" ∧ hasExtension (Text.strip stem) = false ∧
      '/' ∉ (Text.strip stem).toList := by
  have hslash : '/' ∉ (Text.strip stem).toList := by
    intro hmem
    refine h.no_slash ?_
    rw [Text.strip, String.toList_ofList] at hmem
    rw [String.toList_append]
    exact List.mem_append_left _ ((List.dropWhile_suffix Text.isSpace).subset
      ((List.rdropWhile_prefix Text.isSpace _).subset hmem))
  refine ⟨?_, ?_, hslash⟩
  · intro hblank
    rw [Finds, getAdr, if_pos hblank] at hfinds
    cases hfinds
  · have hmem := mem_candidates_of_finds hfinds
    rw [path_of_isAt hat, h.path_eq] at hmem
    refine Bool.eq_false_iff.mpr fun hextension => hslash ?_
    rw [adrCandidates_of_hasExtension hextension, List.mem_singleton] at hmem
    rw [← hmem, String.toList_append]
    exact List.mem_append_left _ (by decide)

/-- A stem finds its record where it leads to it, and nowhere else. -/
theorem finds_stem_iff {path stem ext : String} (h : IsRecord path stem ext)
    {document : Document} (hat : IsAt py adapter answers path document) :
    Finds py adapter answers stem document <-> StemLeads py adapter answers stem ext := by
  have hslash : '/' ∉ stem.toList := by
    intro hmem
    refine h.no_slash ?_
    rw [String.toList_append]
    exact List.mem_append_left _ hmem
  constructor
  · intro hfinds
    have hdirectory := of_finds_stem h hat hfinds
    have hmem := mem_candidates_of_finds hfinds
    rw [path_of_isAt hat, adrCandidates_of_stem hdirectory.2.2 hdirectory.2.1, List.mem_cons,
      List.mem_singleton] at hmem
    rw [finds_eq hdirectory.1, adrCandidates_of_stem hdirectory.2.2 hdirectory.2.1] at hfinds
    rcases hmem with hpath | hpath
    · rcases h.of_candidate (Or.inl rfl) hpath with ⟨hstem, hext⟩
      rw [hstem] at hdirectory
      exact ⟨hstem, hdirectory.1, hdirectory.2.1, Or.inl hext⟩
    · rcases h.of_candidate (Or.inr rfl) hpath with ⟨hstem, hext⟩
      rw [hstem] at hdirectory hfinds
      refine ⟨hstem, hdirectory.1, hdirectory.2.1, Or.inr ⟨hext, ?_⟩⟩
      cases hget : (getDoc py adapter ("docs/adr/" ++ stem ++ ".md")).under answers with
      | ok first =>
          rw [getFirst_under_ok hget] at hfinds
          cases hfinds
          have hother : path = "docs/adr/" ++ Text.strip stem ++ ".md" := by
            rw [← path_of_isAt hat, path_of_isAt hget, hstem]
          exact absurd ((h.of_candidate (Or.inl rfl) hother).2.symm.trans hext) (by decide)
      | error e =>
          cases hmissing : IsNotFound e with
          | true => exact ⟨e, rfl, hmissing⟩
          | false =>
              rw [getFirst_under_error hget hmissing] at hfinds
              cases hfinds
  · intro hleads
    have hblank : Text.strip stem ≠ "" := by
      rw [hleads.stripped]
      exact hleads.nonempty
    rw [finds_eq hblank, hleads.stripped, adrCandidates_of_stem hslash hleads.no_extension]
    rcases hleads.first with hext | ⟨hext, e, hmissing, hnotFound⟩
    · have hpath : path = "docs/adr/" ++ stem ++ ".md" := by
        rw [h.path_eq, hext, String.append_assoc]
      rw [hpath] at hat
      exact getFirst_under_ok hat
    · have hpath : path = "docs/adr/" ++ stem ++ ".mdx" := by
        rw [h.path_eq, hext, String.append_assoc]
      rw [hpath] at hat
      rw [getFirst_under_notFound hmissing hnotFound]
      exact getFirst_under_ok hat

/--
A listed record is found by its path and never by its file name.  By its stem it is
found when the stem leads to it.  So the lookup agrees with the listing only where no
record is listed.
-/
theorem lookupAgrees_iff (py : Builtins) (unicode : UnicodeData) (adapter : YasinDocsAdapter)
    (answers : (request : UpstreamRequest) -> UpstreamAnswer request) :
    (LookupAgrees py unicode adapter answers <->
      forall ref stem ext document, ListedAdr py unicode adapter answers ref ->
        IsRecord ref.path stem ext -> ¬ IsAt py adapter answers ref.path document) ∧
    forall ref stem ext document, ListedAdr py unicode adapter answers ref ->
      IsRecord ref.path stem ext -> IsAt py adapter answers ref.path document ->
        Finds py adapter answers ref.path document ∧
          ¬ Finds py adapter answers (stem ++ ext) document ∧
          (Finds py adapter answers stem document <-> StemLeads py adapter answers stem ext) := by
  refine ⟨⟨?_, ?_⟩, ?_⟩
  · intro hagrees ref stem ext document hlisted hrecord hat
    exact not_finds_fileName hrecord hat (hagrees ref stem ext document hlisted hrecord hat).2.1
  · intro hnone ref stem ext document hlisted hrecord hat
    exact absurd hat (hnone ref stem ext document hlisted hrecord)
  · intro ref stem ext document _ hrecord hat
    exact ⟨finds_path hrecord hat, not_finds_fileName hrecord hat, finds_stem_iff hrecord hat⟩

end

/-- The one record of a repository is not found by the name of its file. -/
theorem record_not_found_by_fileName :
    ListedAdr plainBuiltins plainUnicode withDefaults
        (filesAnswers withDefaults ["docs/adr/ADR-0001.md"]) (markdown "docs/adr/ADR-0001.md").ref ∧
      ¬ LookupAgrees plainBuiltins plainUnicode withDefaults
        (filesAnswers withDefaults ["docs/adr/ADR-0001.md"]) := by
  have hlisted : ListedAdr plainBuiltins plainUnicode withDefaults
      (filesAnswers withDefaults ["docs/adr/ADR-0001.md"]) (markdown "docs/adr/ADR-0001.md").ref :=
    ⟨_, rfl, List.mem_cons_self⟩
  have hrecord : IsRecord (markdown "docs/adr/ADR-0001.md").ref.path "ADR-0001" ".md" :=
    ⟨rfl, by decide, Or.inl (by decide)⟩
  have hat : IsAt plainBuiltins withDefaults (filesAnswers withDefaults ["docs/adr/ADR-0001.md"])
      "docs/adr/ADR-0001.md" (sampleDocument "docs/adr/ADR-0001.md") := by
    unfold IsAt
    decide +kernel
  exact ⟨hlisted, fun hagrees =>
    not_finds_fileName hrecord hat (hagrees _ _ _ _ hlisted hrecord hat).2.1⟩

end YasinDocsAdapter

end YasinMcp
