import YasinMcp.Foundation.Text
import YasinMcp.Foundation.Uri

/-!
# Routes

An identifier whose path is put together from segments is read as these segments
exactly when each of them stands for itself and none is a dot segment.  What is not so
ends the path, is decoded to something else, or is resolved.
-/

namespace YasinMcp
namespace Foundation
namespace Uri

def queryPart : Option (List Char) -> List Char
  | none => []
  | some query => '?' :: query

def Site.route (site : Site) (segs : List (List Char)) (query : Option (List Char)) : String :=
  String.ofList (site.scheme ++ ':' :: '/' :: '/' :: site.authority ++
    '/' :: ['/'].intercalate segs ++ queryPart query)

/-- The text is read as an identifier of this host with these segments and this query. -/
def Routes (text host : String) (segs : List (List Char)) (query : Option (List Char)) : Prop :=
  exists uri, parse? text = some uri ∧ uri.host? = some host ∧
    (segments uri.path).map (decode? isPchar) = ([] :: segs).map (fun seg => some (utf8 seg)) ∧
    uri.hasDotSegment = false ∧ uri.query = query ∧ uri.fragment = none

/-- The segment stands for itself and is not resolved. -/
def IsPlainSegment (seg : List Char) : Prop :=
  (forall c, c ∈ seg -> isPchar c = true) ∧ seg ≠ ['.'] ∧ seg ≠ ['.', '.']

instance (seg : List Char) : Decidable (IsPlainSegment seg) :=
  decidable_of_iff (seg.all isPchar = true ∧ seg ≠ ['.'] ∧ seg ≠ ['.', '.'])
    (and_congr_left' List.all_eq_true)

/-!
## Splitting
-/

theorem split?_join_bare {scheme authority path : List Char}
    (hscheme : ':' ∉ scheme ∧ '?' ∉ scheme ∧ '#' ∉ scheme)
    (hauthority : '/' ∉ authority ∧ '?' ∉ authority ∧ '#' ∉ authority)
    (hpath : '?' ∉ path ∧ '#' ∉ path) :
    split? (scheme ++ ':' :: '/' :: '/' :: authority ++ '/' :: path) =
      some ⟨scheme, some (splitAuthority authority), '/' :: path, none, none⟩ := by
  have hquery : '?' ∉ scheme ++ ':' :: '/' :: '/' :: authority ++ '/' :: path := by
    simp [hscheme, hauthority, hpath]
  apply split?_authority _ hscheme.1 hauthority.1 (cut_of_not_mem hquery)
  simp [hscheme, hauthority, hpath]

theorem no_marks_of_split?_bare {cs : List Char} {parts : UriParts} (h : split? cs = some parts)
    (hquery : parts.query = none) (hfragment : parts.fragment = none) : '?' ∉ cs ∧ '#' ∉ cs := by
  rw [split?] at h
  split at h
  · cases h
  · cases h
    have hmark := not_mem_of_cut hfragment
    rw [cut_of_not_mem hmark] at hquery
    exact ⟨not_mem_of_cut hquery, hmark⟩

section

variable {site : Site} {segs : List (List Char)} {query : Option (List Char)}

theorem split?_route {path : List Char} (hpath : '?' ∉ path ∧ '#' ∉ path)
    (hquery : forall q, query = some q -> '#' ∉ q) :
    split? (site.scheme ++ ':' :: '/' :: '/' :: site.authority ++ '/' :: path ++
        queryPart query) =
      some ⟨site.scheme, some (splitAuthority site.authority), '/' :: path, query, none⟩ := by
  cases query with
  | none =>
      rw [queryPart, List.append_nil]
      exact split?_join_bare site.scheme_marks site.authority_marks hpath
  | some q => exact split?_join site.scheme_marks site.authority_marks hpath (hquery q rfl)

theorem no_marks_of_route {before : List Char} {parts : UriParts}
    (h : split? (before ++ queryPart query) = some parts) (hquery : parts.query = query)
    (hfragment : parts.fragment = none) : '?' ∉ before ∧ '#' ∉ before := by
  cases query with
  | none =>
      rw [queryPart, List.append_nil] at h
      exact no_marks_of_split?_bare h hquery hfragment
  | some q => exact no_marks_of_split? h hquery hfragment

/-!
## Segments
-/

theorem segments_intercalate (hne : segs ≠ []) (hslash : forall seg, seg ∈ segs -> '/' ∉ seg) :
    segments ('/' :: ['/'].intercalate segs) = [] :: segs := by
  have hsplit := List.splitOn_append_cons_self (a := '/') [] (['/'].intercalate segs)
  rw [List.nil_append, List.splitOn_nil, List.singleton_append,
    List.splitOn_intercalate '/' hslash hne] at hsplit
  exact hsplit

theorem slash_intercalate (hne : segs ≠ []) :
    '/' :: ['/'].intercalate segs = segs.flatMap fun seg => '/' :: seg := by
  induction segs with
  | nil => exact absurd rfl hne
  | cons seg segs ih =>
      cases segs with
      | nil => simp
      | cons other segs =>
          rw [List.intercalate_cons_cons, List.flatMap_cons, ← ih (List.cons_ne_nil _ _)]
          simp

theorem mem_intercalate {c : Char} (h : c ∈ ['/'].intercalate segs) :
    c = '/' ∨ exists seg, seg ∈ segs ∧ c ∈ seg := by
  induction segs with
  | nil => cases h
  | cons seg segs ih =>
      cases segs with
      | nil =>
          rw [List.intercalate_singleton] at h
          exact Or.inr ⟨seg, List.mem_cons_self, h⟩
      | cons other segs =>
          rw [List.intercalate_cons_cons, List.append_assoc, List.mem_append, List.mem_append,
            List.mem_singleton] at h
          rcases h with h | h | h
          · exact Or.inr ⟨seg, List.mem_cons_self, h⟩
          · exact Or.inl h
          · exact (ih h).imp_right fun ⟨found, hmem, hc⟩ =>
              ⟨found, List.mem_cons_of_mem seg hmem, hc⟩

theorem plain_iff_decoded :
    (forall seg, seg ∈ segs -> IsPlainSegment seg) <->
      segs.map (decode? isPchar) = segs.map (fun seg => some (utf8 seg)) ∧
        segs.any isDotSegment = false := by
  have hdecode := fun seg => decode?_eq_utf8_iff (show isPchar '%' = false by decide) seg
  rw [List.map_inj_left, List.any_eq_false]
  constructor
  · intro h
    refine ⟨fun seg hmem => (hdecode seg).mpr (h seg hmem).1, ?_⟩
    intro seg hmem
    rw [isDotSegment_iff (h seg hmem).1, not_or]
    exact (h seg hmem).2
  · intro h seg hmem
    have hchars := (hdecode seg).mp (h.1 seg hmem)
    have hdots := h.2 seg hmem
    rw [isDotSegment_iff hchars, not_or] at hdots
    exact ⟨hchars, hdots⟩

/-- Under a site and with a plain query, exactly the plain segments are read as they are. -/
theorem path_split_iff (site : Site) (hne : segs ≠ [])
    (hslash : forall seg, seg ∈ segs -> '/' ∉ seg)
    (hquery : forall q, query = some q -> forall c, c ∈ q -> isQueryChar c = true) :
    Routes (site.route segs query) site.host segs query <->
      forall seg, seg ∈ segs -> IsPlainSegment seg := by
  have hhash : forall q, query = some q -> '#' ∉ q := by
    intro q hq hmem
    exact absurd (hquery q hq '#' hmem) (by decide)
  have hsegments := segments_intercalate hne hslash
  have hempty : isDotSegment [] = false := by decide
  constructor
  · intro h
    rcases h with ⟨uri, hparse, _, hdecoded, hdots, hq, hfragment⟩
    rw [parse?_eq_some_iff, Site.route, String.toList_ofList] at hparse
    have hmarks := no_marks_of_route hparse hq hfragment
    simp only [List.mem_append, List.mem_cons, not_or] at hmarks
    rw [split?_route ⟨hmarks.1.2.2, hmarks.2.2.2⟩ hhash, Option.some.injEq] at hparse
    have hpath : uri.path = '/' :: ['/'].intercalate segs := by rw [← hparse]
    rw [hasDotSegment, hpath, hsegments, List.any_cons, hempty, Bool.false_or] at hdots
    rw [hpath, hsegments, List.map_cons, List.map_cons, List.cons.injEq] at hdecoded
    exact plain_iff_decoded.mpr ⟨hdecoded.2, hdots⟩
  · intro h
    have hchars : forall c, c ∈ ['/'].intercalate segs -> isPathChar c = true := by
      intro c hc
      rw [isPathChar, Bool.or_eq_true, decide_eq_true_eq]
      rcases mem_intercalate hc with hc | ⟨seg, hmem, hc⟩
      · exact Or.inr hc
      · exact Or.inl ((h seg hmem).1 c hc)
    have hmarks : '?' ∉ ['/'].intercalate segs ∧ '#' ∉ ['/'].intercalate segs :=
      ⟨fun hmem => absurd (hchars '?' hmem) (by decide),
        fun hmem => absurd (hchars '#' hmem) (by decide)⟩
    have hpath := (decode?_eq_utf8_iff (show isPathChar '%' = false by decide)
      ('/' :: ['/'].intercalate segs)).mpr
        (List.forall_mem_cons.mpr ⟨by decide, hchars⟩)
    have hwell : UriParts.wellFormed
        ⟨site.scheme, some (splitAuthority site.authority), '/' :: ['/'].intercalate segs, query,
          none⟩ = true := by
      have hq : query.all (fun cs => (decode? isQueryChar cs).isSome) = true := by
        cases query with
        | none => rfl
        | some q =>
            rw [Option.all_some, (decode?_eq_utf8_iff (show isQueryChar '%' = false by decide)
              q).mpr (hquery q rfl)]
            rfl
      simp [UriParts.wellFormed, site.scheme_wellFormed, site.authority_wellFormed, hpath, hq]
    rcases plain_iff_decoded.mp h with ⟨hdecoded, hdots⟩
    refine ⟨⟨_, hwell⟩, ?_, rfl, ?_, ?_, rfl, rfl⟩
    · rw [parse?_eq_some_iff, Site.route, String.toList_ofList]
      exact split?_route hmarks hhash
    · rw [hsegments, List.map_cons, List.map_cons, hdecoded]
      rfl
    · rw [hasDotSegment, hsegments, List.any_cons, hempty, hdots]
      rfl

end

/-!
## Integers
-/

theorem isPchar_of_isDigit {c : Char} (h : c.isDigit = true) : isPchar c = true := by
  have halphanum : c.isAlphanum = true := by
    delta Char.isAlphanum
    rw [h, Bool.or_true]
  rw [isPchar, isUnreserved, halphanum]
  rfl

theorem isDigit_of_mem_toString {n : Int} (hn : 0 ≤ n) {c : Char}
    (hc : c ∈ (toString n).toList) : c.isDigit = true := by
  cases n with
  | ofNat m => exact Text.isDigit_of_mem_repr hc
  | negSucc m => exact absurd hn (by omega)

theorem isPlainSegment_toString {n : Int} (hn : 0 ≤ n) :
    IsPlainSegment (toString n).toList := by
  refine ⟨fun c hc => isPchar_of_isDigit (isDigit_of_mem_toString hn hc), ?_, ?_⟩
  · intro hdot
    exact absurd (isDigit_of_mem_toString hn (hdot ▸ List.mem_cons_self)) (by decide)
  · intro hdots
    exact absurd (isDigit_of_mem_toString hn (hdots ▸ List.mem_cons_self)) (by decide)

theorem no_slash_toString {n : Int} (hn : 0 ≤ n) : '/' ∉ (toString n).toList :=
  fun hmem => absurd (isDigit_of_mem_toString hn hmem) (by decide)

end Uri
end Foundation
end YasinMcp
