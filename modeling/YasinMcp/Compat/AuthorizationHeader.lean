import YasinMcp.Compat.SecretRedaction

/-!
# Credentials after a header

The pattern of secret words knows the word of the header and the word of the scheme, but
not that a value follows a scheme: it is the scheme that is masked, and the credential
after it stays, unless the header begins in the value of another key.
-/

namespace YasinMcp

open Foundation

/-!
## Headers
-/

def authorizationHeader : KeyPattern Char where
  keys := ["authorization".toList]
  scheme := some "bearer".toList

/-- White space stands inside the header, and not only at its end. -/
def SpacedHeader (header : List Char) : Prop :=
  exists front c d back, header = front ++ c :: back ∧ Text.isSpace c = true ∧ d ∈ back ∧
    Text.isSpace d = false

/-- The header begins in the value of a key, and its scheme is not in that value. -/
def SchemeIsRead (before header : List Char) : Prop :=
  coreHeads.InValue before ∧ SpacedHeader header

/-- A header is what is read as a key, and its scheme with white space. -/
structure HeaderParts (header key scheme gap : List Char) : Prop where
  whole : header = key ++ (scheme ++ gap)
  isHead : coreValues.IsHead secretWordPattern key
  folds : scheme.map ignoreCase = "bearer".toList
  blank : coreValues.Blank gap
  gap_ne_nil : gap ≠ []

theorem not_isSpace_of_folds {word : List Char} {letters : String}
    (hletters : forall d, d ∈ letters.toList -> Text.isSpace d = false)
    (h : word.map ignoreCase = letters.toList) : forall c, c ∈ word -> Text.isSpace c = false := by
  intro c hc
  have hspace := hletters (ignoreCase c) (by
    rw [← h]
    exact List.mem_map_of_mem hc)
  rw [isSpace_ignoreCase] at hspace
  exact hspace

theorem HeaderParts.scheme_value {header key scheme gap : List Char}
    (h : HeaderParts header key scheme gap) : forall c, c ∈ scheme -> coreMask.isValue c = true :=
  fun c hc => (Bool.not_eq_true' _).mpr
    (not_isSpace_of_folds (List.forall_iff_forall_mem.mp (by decide)) h.folds c hc)

theorem HeaderParts.scheme_ne_nil {header key scheme gap : List Char}
    (h : HeaderParts header key scheme gap) : scheme ≠ [] := by
  intro hnil
  have hfolds := h.folds
  rw [hnil] at hfolds
  cases hfolds

theorem header_parts {header : List Char} (h : coreValues.IsHead authorizationHeader header) :
    exists key scheme gap, HeaderParts header key scheme gap ∧
      ((¬ SpacedHeader header ∧ forall c, c ∈ key -> coreMask.isValue c = true) ∨
        SpacedHeader header ∧ exists front c between, key = front ++ c :: between ∧
          front ≠ [] ∧ (forall d, d ∈ front -> coreMask.isValue d = true) ∧
          Text.isSpace c = true ∧
          forall d, d ∈ c :: between -> coreValues.isBoundary d = true) := by
  cases h with
  | @intro word gap gap' tail separator hword hgap hseparator hgap' htail =>
      have hletters : forall d, d ∈ "authorization".toList -> Text.isSpace d = false :=
        List.forall_iff_forall_mem.mp (by decide)
      have hfolds : word.map ignoreCase = "authorization".toList := List.mem_singleton.mp hword
      have hkey : word.map coreValues.fold ∈ secretWordPattern.keys := by
        rw [show word.map coreValues.fold = "authorization".toList from hfolds]
        decide
      have hwordNe : word ≠ [] := by
        intro hnil
        rw [hnil] at hfolds
        cases hfolds
      have hwordValue : forall c, c ∈ word -> coreMask.isValue c = true := fun c hc =>
        (Bool.not_eq_true' _).mpr (not_isSpace_of_folds hletters hfolds c hc)
      have hseparatorValue : coreMask.isValue separator = true :=
        (Bool.not_eq_true' _).mpr (isSpace_of_isKeySeparator separator hseparator)
      generalize hscheme : authorizationHeader.scheme = pattern at htail
      cases htail with
      | none => cases hscheme
      | @some scheme last hlast hne =>
          have hbearer : scheme.map ignoreCase = "bearer".toList :=
            (Option.some.inj hscheme).symm
          have hparts : HeaderParts
              (word ++ (gap ++ separator :: (gap' ++ (scheme ++ last))))
              (word ++ (gap ++ separator :: gap')) scheme last := by
            refine ⟨?_, ?_, hbearer, hlast, hne⟩
            · simp only [List.append_assoc, List.cons_append]
            · have hhead : coreValues.IsHead secretWordPattern
                  (word ++ (gap ++ separator :: (gap' ++ []))) :=
                Alphabet.IsHead.intro hkey hgap hseparator hgap' Alphabet.IsScheme.none
              rw [List.append_nil] at hhead
              exact hhead
          refine ⟨_, scheme, last, hparts, ?_⟩
          have hschemeCons := List.exists_cons_of_ne_nil hparts.scheme_ne_nil
          rcases hschemeCons with ⟨s, rest, hs⟩
          have hsSpace : Text.isSpace s = false := by
            have hsValue := hparts.scheme_value s (by rw [hs]; exact List.mem_cons_self)
            exact (Bool.not_eq_true' _).mp hsValue
          cases gap with
          | cons c gap =>
              have hc : Text.isSpace c = true := hgap c List.mem_cons_self
              right
              refine ⟨⟨word, c, s, _, rfl, hc, by simp [hs], hsSpace⟩,
                word, c, _, rfl, hwordNe, hwordValue, hc, ?_⟩
              intro d hd
              rcases List.mem_append.mp (show d ∈ (c :: gap) ++ separator :: gap' from hd) with
                hd | hd
              · exact Alphabet.isBoundary_of_blank (hgap d hd)
              · rcases List.mem_cons.mp hd with hd | hd
                · rw [hd]
                  exact Alphabet.isBoundary_of_separator hseparator
                · exact Alphabet.isBoundary_of_blank (hgap' d hd)
          | nil =>
              cases gap' with
              | cons c gap' =>
                  have hc : Text.isSpace c = true := hgap' c List.mem_cons_self
                  right
                  refine ⟨⟨word ++ [separator], c, s, gap' ++ (scheme ++ last), by simp, hc,
                      by simp [hs], hsSpace⟩,
                    word ++ [separator], c, gap', by simp, by simp, ?_, hc, ?_⟩
                  · intro d hd
                    rcases List.mem_append.mp hd with hd | hd
                    · exact hwordValue d hd
                    · rw [List.mem_singleton.mp hd]
                      exact hseparatorValue
                  · intro d hd
                    exact Alphabet.isBoundary_of_blank (hgap' d hd)
              | nil =>
                  left
                  have hkeyValue : forall c, c ∈ word ++ [separator] ->
                      coreMask.isValue c = true := by
                    intro d hd
                    rcases List.mem_append.mp hd with hd | hd
                    · exact hwordValue d hd
                    · rw [List.mem_singleton.mp hd]
                      exact hseparatorValue
                  refine ⟨?_, hkeyValue⟩
                  intro hspaced
                  rcases hspaced with ⟨front, c, d, back, hsplit, hc, hd, hdSpace⟩
                  have hwhole : (word ++ [separator] ++ scheme) ++ last = front ++ c :: back := by
                    rw [← hsplit]
                    simp
                  rcases List.append_eq_append_iff.mp hwhole with
                    ⟨more, hfront, hmore⟩ | ⟨more, hvalues, hmore⟩
                  · -- The white space is of the end, and so is all that follows.
                    have hblank := hlast d (by
                      rw [hmore]
                      exact List.mem_append_right _ (List.mem_cons_of_mem c hd))
                    rw [show coreValues.isBlank d = Text.isSpace d from rfl, hdSpace] at hblank
                    cases hblank
                  · cases more with
                    | nil =>
                        have hblank := hlast d (by
                          rw [← List.nil_append last, ← hmore]
                          exact List.mem_cons_of_mem c hd)
                        rw [show coreValues.isBlank d = Text.isSpace d from rfl, hdSpace] at hblank
                        cases hblank
                    | cons e more =>
                        rw [List.cons_append, List.cons.injEq] at hmore
                        have hvalue : coreMask.isValue c = true := by
                          have hmem : c ∈ word ++ [separator] ++ scheme := by
                            rw [hvalues, hmore.1]
                            exact List.mem_append_right _ List.mem_cons_self
                          rcases List.mem_append.mp hmem with hmem | hmem
                          · exact hkeyValue c hmem
                          · exact hparts.scheme_value c hmem
                        rw [show coreMask.isValue c = !Text.isSpace c from rfl, hc] at hvalue
                        cases hvalue

theorem blank_nil : coreValues.Blank [] := by
  intro c hc
  cases hc

theorem sub_scheme {scheme gap : List Char} (hfolds : scheme.map ignoreCase = "bearer".toList)
    (hgap : coreValues.Blank gap) (hne : gap ≠ []) {text : List Char}
    (hfirst : forall c rest, text = c :: rest ->
      Text.isSpace c = false ∧ isKeySeparator c = false) :
    coreValues.sub secretWordPattern (scheme ++ (gap ++ text)) =
      scheme ++ (gap ++ coreValues.sub secretWordPattern text) := by
  have hboundary : forall c, c ∈ gap -> coreValues.isBoundary c = true := fun c hc =>
    Alphabet.isBoundary_of_blank (hgap c hc)
  have hkey : "bearer".toList ∈ secretWordPattern.keys := by decide
  have hsuffix : forall front back : List Char, scheme = front ++ back ->
      coreValues.sub secretWordPattern (back ++ (gap ++ text)) =
        back ++ (gap ++ coreValues.sub secretWordPattern text) := by
    intro front back
    induction back generalizing front with
    | nil =>
        intro _
        exact sub_boundaries hboundary text
    | cons c back ih =>
        intro hsplit
        have hrest := ih (front ++ [c]) (by rw [hsplit, List.append_assoc]; rfl)
        have hnone : coreValues.head? secretWordPattern (c :: (back ++ (gap ++ text))) = none := by
          by_contra hsome
          rcases Option.ne_none_iff_exists'.mp hsome with ⟨⟨head, rest⟩, hfound⟩
          rcases Alphabet.head?_eq_some hfound with ⟨htext, hhead, _⟩
          cases hhead with
          | @intro word between between' tail separator hword hbetween hseparator _ htail =>
              rcases List.exists_cons_of_ne_nil hne with ⟨g, others, hcons⟩
              have hnot : g ∉ word := Alphabet.notMem_of_boundary secretWordPattern_clean hword
                (hboundary g (by rw [hcons]; exact List.mem_cons_self))
              have hstart : word <+: c :: back := by
                have hsplit : (c :: back) ++ g :: (others ++ text) =
                    word ++ (between ++ separator :: (between' ++ tail) ++ rest) := by
                  rw [← List.append_assoc, ← htext, hcons]
                  rfl
                exact prefix_of_notMem hnot hsplit
              have hin := hstart.map coreValues.fold
              cases front with
              | cons d front =>
                  apply secretWordPattern_clean.not_in_key _ hword _ hkey
                  rw [← hfolds, hsplit, List.cons_append, List.map_cons, List.tail_cons,
                    List.map_append]
                  exact hin.isInfix.trans (List.suffix_append _ _).isInfix
              | nil =>
                  rw [List.nil_append] at hsplit
                  rw [← hsplit, show scheme.map coreValues.fold = "bearer".toList from hfolds]
                    at hin
                  have hsame := secretWordPattern_clean.prefix_free _ hword _ hkey hin
                  have hlength : word.length = (c :: back).length := by
                    rw [← hsplit, ← List.length_map coreValues.fold, hsame, ← hfolds,
                      List.length_map]
                  have hwordEq : word = c :: back := hstart.eq_of_length hlength
                  subst hwordEq
                  have hbehind : gap ++ text =
                      between ++ separator :: (between' ++ tail ++ rest) := by
                    have hcancel : (c :: back) ++ (gap ++ text) =
                        (c :: back) ++ (between ++ separator :: (between' ++ tail ++ rest)) := by
                      rw [show (c :: back) ++ (gap ++ text) = c :: (back ++ (gap ++ text)) from rfl,
                        htext]
                      simp only [List.append_assoc, List.cons_append]
                    exact List.append_cancel_left hcancel
                  have hspace := isSpace_of_isKeySeparator separator hseparator
                  rcases List.append_eq_append_iff.mp hbehind with
                    ⟨more, hmore, htextSplit⟩ | ⟨more, hmore, hseparatorSplit⟩
                  · cases more with
                    | nil =>
                        have hnext := (hfirst _ _ htextSplit).2
                        rw [show isKeySeparator separator = true from hseparator] at hnext
                        cases hnext
                    | cons d more =>
                        have hnext := (hfirst d _ htextSplit).1
                        have hblank : Text.isSpace d = true := hbetween d (by
                          rw [hmore]
                          exact List.mem_append_right _ List.mem_cons_self)
                        rw [hblank] at hnext
                        cases hnext
                  · cases more with
                    | nil =>
                        have hnext := (hfirst _ _ hseparatorSplit.symm).2
                        rw [show isKeySeparator separator = true from hseparator] at hnext
                        cases hnext
                    | cons d more =>
                        rw [List.cons_append, List.cons.injEq] at hseparatorSplit
                        have hblank : Text.isSpace separator = true := hgap separator (by
                          rw [hmore, hseparatorSplit.1]
                          exact List.mem_append_right _ List.mem_cons_self)
                        rw [hblank] at hspace
                        cases hspace
        rw [← Alphabet.heads_sub secretWordPattern_clean] at hrest ⊢
        rw [List.cons_append, Heads.sub_of_none hnone, hrest, List.cons_append]
  exact hsuffix [] scheme rfl

/-- Before a separator the scheme is a key, and a value is read after it. -/
theorem sub_scheme_separator {scheme gap : List Char}
    (hfolds : scheme.map ignoreCase = "bearer".toList) (hgap : coreValues.Blank gap) {c : Char}
    (hseparator : isKeySeparator c = true) {text : List Char} (hvalue : coreMask.run text ≠ []) :
    coreValues.sub secretWordPattern (scheme ++ (gap ++ c :: text)) =
      scheme ++ (gap ++ c :: (coreMask.text ++
        coreValues.sub secretWordPattern (coreMask.afterRun text))) := by
  have hkey : scheme.map coreValues.fold ∈ secretWordPattern.keys := by
    rw [show scheme.map coreValues.fold = "bearer".toList from hfolds]
    decide
  have hhead : coreValues.IsHead secretWordPattern (scheme ++ (gap ++ [c])) :=
    Alphabet.IsHead.intro hkey hgap hseparator blank_nil Alphabet.IsScheme.none
  have hfound := Alphabet.head?_append secretWordPattern_clean hhead hvalue
  have hsplit : scheme ++ (gap ++ c :: text) = scheme ++ (gap ++ [c]) ++ text := by simp
  rw [← Alphabet.heads_sub secretWordPattern_clean, hsplit, Heads.sub_of_some hfound]
  simp [Alphabet.heads_sub secretWordPattern_clean]

section

variable {before header key scheme gap : List Char}

theorem afterRun_of_value {front : List Char} (hfront : forall c, c ∈ front ->
    coreMask.isValue c = true) {c : Char} (hc : Text.isSpace c = true) (text : List Char) :
    coreMask.run (front ++ c :: text) = front ∧
      coreMask.afterRun (front ++ c :: text) = c :: text := by
  have hnot : coreMask.isValue c = false := by simp [coreMask, isCoreValue, hc]
  constructor
  · rw [Mask.run_append hfront, (Mask.run_cons_eq_nil).mpr hnot, List.append_nil]
  · rw [Heads.afterRun_append_of_forall hfront]
    exact List.dropWhile_cons_of_neg (by simp [hnot])

theorem run_scheme (hparts : HeaderParts header key scheme gap) (text : List Char) :
    coreMask.run (scheme ++ (gap ++ text)) = scheme ∧
      coreMask.afterRun (scheme ++ (gap ++ text)) = gap ++ text := by
  rcases List.exists_cons_of_ne_nil hparts.gap_ne_nil with ⟨c, others, hcons⟩
  have hc : Text.isSpace c = true := hparts.blank c (by rw [hcons]; exact List.mem_cons_self)
  rw [hcons]
  exact afterRun_of_value hparts.scheme_value hc _

theorem sub_header_unread (hparts : HeaderParts header key scheme gap)
    (hkey : coreHeads.InValue before -> forall c, c ∈ key -> coreMask.isValue c = true) :
    exists front, forall text, coreValues.sub secretWordPattern (before ++ (header ++ text)) =
      front ++ (gap ++ coreValues.sub secretWordPattern text) := by
  have hboundary : forall c, c ∈ gap -> coreValues.isBoundary c = true := fun c hc =>
    Alphabet.isBoundary_of_blank (hparts.blank c hc)
  have hgap := sub_boundaries hboundary
  have hwhole : forall text, header ++ text = key ++ (scheme ++ (gap ++ text)) := by
    intro text
    rw [hparts.whole]
    simp only [List.append_assoc]
  have hseparate := Heads.separate_of_isHead (show coreHeads.IsHead key from hparts.isHead)
  by_cases hvalue : coreHeads.InValue before
  · refine ⟨coreValues.sub secretWordPattern (before ++ (key ++ scheme)), fun text => ?_⟩
    have hvalues : forall c, c ∈ key ++ scheme -> coreMask.isValue c = true := by
      intro c hc
      rcases List.mem_append.mp hc with hc | hc
      · exact hkey hvalue c hc
      · exact hparts.scheme_value c hc
    have hrun : coreMask.run (key ++ (scheme ++ (gap ++ text))) = key ++ scheme ∧
        coreMask.afterRun (key ++ (scheme ++ (gap ++ text))) = gap ++ text := by
      rcases List.exists_cons_of_ne_nil hparts.gap_ne_nil with ⟨c, others, hcons⟩
      have hc : Text.isSpace c = true := hparts.blank c (by rw [hcons]; exact List.mem_cons_self)
      rw [← List.append_assoc, hcons]
      exact afterRun_of_value hvalues hc _
    have hsub := hvalue.sub_append (hseparate (scheme ++ (gap ++ text)))
      (by rw [hrun.1]; exact List.append_ne_nil_of_right_ne_nil _ hparts.scheme_ne_nil)
    rw [hrun.1, hrun.2] at hsub
    rw [hwhole, ← hgap]
    exact hsub
  · refine ⟨coreValues.sub secretWordPattern before ++ (key ++ coreMask.text), fun text => ?_⟩
    have hrun := run_scheme hparts text
    have hfound : coreHeads.head? (key ++ (scheme ++ (gap ++ text))) =
        some (key, scheme ++ (gap ++ text)) :=
      Alphabet.head?_append secretWordPattern_clean hparts.isHead
        (by rw [hrun.1]; exact hparts.scheme_ne_nil)
    have hsub := Heads.sub_append_of_not_inValue hvalue (hseparate (scheme ++ (gap ++ text)))
    rw [Heads.sub_of_some hfound, hrun.2] at hsub
    rw [hwhole, ← hgap]
    simp only [List.append_assoc]
    exact hsub

theorem sub_header_read (hparts : HeaderParts header key scheme gap)
    (hvalue : coreHeads.InValue before) {front between : List Char} {c : Char}
    (hkey : key = front ++ c :: between) (hne : front ≠ [])
    (hfront : forall d, d ∈ front -> coreMask.isValue d = true) (hc : Text.isSpace c = true)
    (hbetween : forall d, d ∈ c :: between -> coreValues.isBoundary d = true) :
    exists front, forall text, coreValues.sub secretWordPattern (before ++ (header ++ text)) =
      front ++ coreValues.sub secretWordPattern (scheme ++ (gap ++ text)) := by
  refine ⟨coreValues.sub secretWordPattern (before ++ front) ++ c :: between, fun text => ?_⟩
  have hwhole : header ++ text = front ++ c :: (between ++ (scheme ++ (gap ++ text))) := by
    rw [hparts.whole, hkey]
    simp only [List.append_assoc, List.cons_append]
  have hseparate : coreHeads.Separate (header ++ text) := by
    rw [hparts.whole, List.append_assoc]
    exact Heads.separate_of_isHead (show coreHeads.IsHead key from hparts.isHead) _
  have hrun := afterRun_of_value hfront hc (between ++ (scheme ++ (gap ++ text)))
  rw [← hwhole] at hrun
  have hsub := hvalue.sub_append hseparate (by rw [hrun.1]; exact hne)
  rw [hrun.1, hrun.2] at hsub
  have hgap := sub_boundaries hbetween (scheme ++ (gap ++ text))
  rw [List.cons_append, List.cons_append] at hgap
  rw [List.append_assoc, List.cons_append, ← hgap]
  exact hsub

end

/-- What the first substitution makes of a text that goes on after a header. -/
inductive AfterHeader (before header front : List Char) (c : Char) (text : List Char) : Prop where
  | apart (hfree : ¬ (SchemeIsRead before header ∧
        exists d rest, text = d :: rest ∧ isKeySeparator d = true))
      (h : coreValues.sub secretWordPattern (before ++ (header ++ text)) =
        front ++ c :: coreValues.sub secretWordPattern text)
  | value (hread : SchemeIsRead before header) {d : Char} {rest : List Char}
      (htext : text = d :: rest) (hseparator : isKeySeparator d = true)
      (h : coreValues.sub secretWordPattern (before ++ (header ++ text)) =
        front ++ c :: d :: (coreMask.text ++
          coreValues.sub secretWordPattern (coreMask.afterRun rest)))

theorem sub_header {before header : List Char}
    (h : coreValues.IsHead authorizationHeader header) :
    exists front c, Text.isSpace c = true ∧
      coreValues.sub secretWordPattern (before ++ header) = front ++ [c] ∧
      forall text, (forall d rest, text = d :: rest -> Text.isSpace d = false ∧
          (isKeySeparator d = true -> coreMask.run rest ≠ [])) ->
        AfterHeader before header front c text := by
  rcases header_parts h with ⟨key, scheme, gap, hparts, hspaced⟩
  rcases List.eq_nil_or_concat gap with hnil | ⟨others, c, hgap⟩
  · exact absurd hnil hparts.gap_ne_nil
  rw [List.concat_eq_append] at hgap
  have hc : Text.isSpace c = true := hparts.blank c (by rw [hgap]; simp)
  by_cases hread : SchemeIsRead before header
  · rcases hspaced with ⟨hnot, _⟩ | ⟨_, front, d, between, hkey, hne, hfront, hd, hbetween⟩
    · exact absurd hread.2 hnot
    rcases sub_header_read hparts hread.1 hkey hne hfront hd hbetween with ⟨start, hsub⟩
    have hlast := hsub []
    rw [sub_scheme hparts.folds hparts.blank hparts.gap_ne_nil (by
      intro d rest hcons
      cases hcons), List.append_nil] at hlast
    refine ⟨start ++ (scheme ++ others), c, hc, ?_, ?_⟩
    · rw [hlast, hgap]
      simp [Alphabet.sub]
    · intro text htext
      by_cases hseparator : exists d rest, text = d :: rest ∧ isKeySeparator d = true
      · rcases hseparator with ⟨d, rest, hcons, hseparator⟩
        refine .value hread hcons hseparator ?_
        rw [hsub, hcons, sub_scheme_separator hparts.folds hparts.blank hseparator
          ((htext d rest hcons).2 hseparator), hgap]
        simp only [List.append_assoc, List.singleton_append]
      · refine .apart (fun hboth => hseparator hboth.2) ?_
        rw [hsub, sub_scheme hparts.folds hparts.blank hparts.gap_ne_nil (by
          intro d rest hcons
          refine ⟨(htext d rest hcons).1, ?_⟩
          by_contra hkeySeparator
          exact hseparator ⟨d, rest, hcons, by simpa using hkeySeparator⟩), hgap]
        simp only [List.append_assoc, List.singleton_append]
  · have hkey : coreHeads.InValue before -> forall d, d ∈ key -> coreMask.isValue d = true := by
      intro hvalue
      rcases hspaced with ⟨_, hvalues⟩ | ⟨hspace, _⟩
      · exact hvalues
      · exact absurd ⟨hvalue, hspace⟩ hread
    rcases sub_header_unread hparts hkey with ⟨start, hsub⟩
    refine ⟨start ++ others, c, hc, ?_, ?_⟩
    · have hlast := hsub []
      rw [List.append_nil] at hlast
      rw [hlast, hgap]
      simp [Alphabet.sub]
    · intro text _
      refine .apart (fun hboth => hread hboth.1) ?_
      rw [hsub, hgap]
      simp only [List.append_assoc, List.singleton_append]

/-!
## Tokens before and after white space
-/

/-- No token goes across such a symbol. -/
structure BetweenTokens (c : Char) : Prop where
  not_token : isTokenChar c = false
  not_dot : c ≠ '.'

theorem betweenTokens_of_isSpace {c : Char} (h : Text.isSpace c = true) : BetweenTokens c := by
  constructor
  · by_contra htoken
    rw [Bool.not_eq_false, isTokenChar, Bool.or_eq_true, Bool.or_eq_true, beq_iff_eq,
      beq_iff_eq] at htoken
    rcases htoken with (hletter | hc) | hc
    · rw [Text.isSpace_of_printable (Text.toNat_of_isAlphanum hletter)] at h
      cases h
    · subst hc
      cases h
    · subst hc
      cases h
  · intro hc
    subst hc
    cases h

theorem betweenTokens_of_isKeySeparator {c : Char} (h : isKeySeparator c = true) :
    BetweenTokens c := by
  rcases (isKeySeparator_iff c).mp h with hc | hc <;> subst hc <;>
    exact ⟨by decide, by decide⟩

theorem betweenTokens_star : BetweenTokens '*' := ⟨by decide, by decide⟩

section

variable {c : Char}

theorem tokenSegment?_between (hc : BetweenTokens c) (text back : List Char) :
    tokenSegment? (text ++ c :: back) = (tokenSegment? text).map (· ++ c :: back) := by
  have htake : (text ++ c :: back).takeWhile isTokenChar = text.takeWhile isTokenChar := by
    rw [List.takeWhile_append]
    split
    · next hall =>
        have hwhole : text.takeWhile isTokenChar = text :=
          (List.takeWhile_prefix isTokenChar).eq_of_length hall
        rw [List.takeWhile_cons_of_neg (by simp [hc.not_token]), List.append_nil, hwhole]
    · rfl
  have hdrop : (text ++ c :: back).dropWhile isTokenChar =
      text.dropWhile isTokenChar ++ c :: back := by
    rw [List.dropWhile_append]
    split
    · next hnil =>
        rw [List.dropWhile_cons_of_neg (by simp [hc.not_token]), List.isEmpty_iff.mp hnil]
        rfl
    · rfl
  rw [tokenSegment?, tokenSegment?, htake, hdrop]
  split <;> rfl

theorem dotSegment?_between (hc : BetweenTokens c) (text back : List Char) :
    dotSegment? (text ++ c :: back) = (dotSegment? text).map (· ++ c :: back) := by
  cases text with
  | nil =>
      rw [List.nil_append]
      unfold dotSegment?
      split
      · next rest hsplit =>
          rw [List.cons.injEq] at hsplit
          exact absurd hsplit.1 hc.not_dot
      · rfl
  | cons d text =>
      by_cases hdot : d = '.'
      · subst hdot
        exact tokenSegment?_between hc text back
      · have hnone : forall rest, dotSegment? (d :: rest) = none := by
          intro rest
          unfold dotSegment?
          split
          · next hsplit =>
              rw [List.cons.injEq] at hsplit
              exact absurd hsplit.1 hdot
          · rfl
        rw [List.cons_append, hnone, hnone]
        rfl

theorem jwtMatch?_between (hc : BetweenTokens c) (text back : List Char) :
    jwtMatch? (text ++ c :: back) =
      (jwtMatch? text).map fun found => (found.1, found.2 ++ c :: back) := by
  have hletters : forall d, d ∈ "eyJ".toList -> isTokenChar d = true :=
    List.forall_iff_forall_mem.mp (by decide)
  have hmark : forall d, d ∈ "eyJ".toList -> c ≠ d := by
    intro d hd hcd
    have hletter := hletters d hd
    rw [← hcd, hc.not_token] at hletter
    cases hletter
  have hstart : forall text, ¬ "eyJ".toList <+: text -> jwtMatch? text = none := by
    intro text hnot
    unfold jwtMatch?
    split
    · next rest => exact absurd ⟨rest, rfl⟩ hnot
    · rfl
  by_cases hprefix : "eyJ".toList <+: text
  · rcases hprefix with ⟨rest, htext⟩
    subst htext
    show (tokenSegment? (rest ++ c :: back) >>= fun text => dotSegment? text >>= fun text =>
        dotSegment? text >>= fun text => some ("***".toList, text)) =
      (tokenSegment? rest >>= fun text => dotSegment? text >>= fun text =>
        dotSegment? text >>= fun text => some ("***".toList, text)).map _
    rw [tokenSegment?_between hc]
    cases tokenSegment? rest with
    | none => rfl
    | some second =>
        show (dotSegment? (second ++ c :: back) >>= fun text => dotSegment? text >>= fun text =>
          some ("***".toList, text)) = (dotSegment? second >>= fun text => dotSegment? text >>=
            fun text => some ("***".toList, text)).map _
        rw [dotSegment?_between hc]
        cases dotSegment? second with
        | none => rfl
        | some third =>
            show (dotSegment? (third ++ c :: back) >>= fun text => some ("***".toList, text)) =
              (dotSegment? third >>= fun text => some ("***".toList, text)).map _
            rw [dotSegment?_between hc]
            cases dotSegment? third <;> rfl
  · rw [hstart text hprefix, hstart]
    · rfl
    · intro hlonger
      rcases hlonger with ⟨rest, hrest⟩
      apply hprefix
      exact prefix_of_notMem (fun hmem => hmark c hmem rfl) hrest.symm

theorem replaceAll_between (hc : BetweenTokens c) (text back : List Char) :
    replaceAll jwtMatch? (text ++ c :: back) =
      replaceAll jwtMatch? text ++ c :: replaceAll jwtMatch? back := by
  have hmatch := fun text => jwtMatch?_between hc text back
  induction text using jwtMatcher.induction with
  | nil =>
      have hnone : jwtMatch? (c :: back) = none := hmatch []
      rw [List.nil_append, replaceAll_of_none hnone]
      rfl
  | none d text hnone ih =>
      have hlonger : jwtMatch? (d :: (text ++ c :: back)) = none := by
        rw [← List.cons_append, hmatch, hnone]
        rfl
      rw [List.cons_append, replaceAll_of_none hlonger, replaceAll_of_none hnone, ih,
        List.cons_append]
  | some token rest hfound htoken ih =>
      have hlonger : jwtMatch? (token ++ rest ++ c :: back) =
          some (coreMask.text, rest ++ c :: back) := by
        rw [hmatch, hfound]
        rfl
      rw [replaceAll_of_some jwtMatcher.shrinks hlonger,
        replaceAll_of_some jwtMatcher.shrinks hfound, ih, List.append_assoc]

end

theorem replaceAll_credential {credential tail : List Char} (hjwt : ¬ HasJwt credential)
    (htail : EndsToken tail) :
    exists rest, replaceAll jwtMatch? (credential ++ tail) = credential ++ rest := by
  have hself : replaceAll jwtMatch? credential = credential := by
    apply replaceAll_eq_self
    intro front back hsplit
    cases hmatch : jwtMatch? back with
    | none => rfl
    | some found =>
        rcases jwtMatch?_found _ _ _ hmatch with ⟨_, token, htoken, hback⟩
        refine absurd ⟨token, htoken, front, found.2, ?_⟩ hjwt
        rw [hsplit, hback, List.append_assoc]
  cases tail with
  | nil => exact ⟨[], by rw [List.append_nil, hself]⟩
  | cons c tail =>
      have hc : BetweenTokens c := by
        rcases htail c tail rfl with hspace | hstar
        · exact betweenTokens_of_isSpace hspace
        · rw [hstar]
          exact betweenTokens_star
      exact ⟨_, by rw [replaceAll_between hc, hself]⟩

/-!
## Credentials after a header
-/

structure IsCredential (credential : String) : Prop where
  long : 8 ≤ credential.length
  not_blank : forall c, c ∈ credential.toList -> Text.isSpace c = false

/-- The credential in one place of a text: after a header, and before white space or the end. -/
structure InHeader (credential before header after : String) : Prop where
  isHeader : coreValues.IsHead authorizationHeader header.toList
  ends_word : EndsWord after.toList
  only_place : forall front back,
    before.toList ++ header.toList ++ credential.toList ++ after.toList =
        front ++ credential.toList ++ back ->
      front = before.toList ++ header.toList

/--
The header begins in the value of another key and its scheme does not, so the scheme is
read as a key: with a separator first, the credential gives it its value.
-/
def ReadAsValue (credential before header : List Char) : Prop :=
  SchemeIsRead before header ∧
    exists c rest, credential = c :: rest ∧ isKeySeparator c = true

/-- A mask put elsewhere, before the credential or after it, makes up the same text. -/
def MadeUp (credential before header after : List Char) (n : Nat) : Prop :=
  credential <:+: (cleanSecrets (before ++ header)).take n ∨
    ReadAsValue credential before header ∧
      credential <:+:
        (cleanSecrets after).take (n - ((cleanSecrets (before ++ header)).length + 4))

/--
The first so many symbols do not have the credential: it is hidden by what it says, or it
is read as a value or cut off, and made up nowhere else.
-/
def MaskedWithin (credential before header after : List Char) (n : Nat) : Prop :=
  HasJwt credential ∨ AssignsSecret credential ∨
    (ReadAsValue credential before header ∨
      n < (cleanSecrets (before ++ header)).length + credential.length) ∧
    ¬ MadeUp credential before header after n

section

variable {credential before header after : List Char}

/-- What is made of a text with a credential in it, up to the credential and after it. -/
theorem cleanSecrets_credential (hheader : coreValues.IsHead authorizationHeader header)
    (hlong : 8 ≤ credential.length)
    (hblank : forall c, c ∈ credential -> Text.isSpace c = false) (hafter : EndsWord after)
    (hjwt : ¬ HasJwt credential) (hassigns : ¬ AssignsSecret credential) :
    exists front c, Text.isSpace c = true ∧ cleanSecrets (before ++ header) = front ++ [c] ∧
      ((¬ ReadAsValue credential before header ∧
          exists rest, cleanSecrets (before ++ (header ++ (credential ++ after))) =
            front ++ c :: (credential ++ rest)) ∨
        ReadAsValue credential before header ∧
          exists d, cleanSecrets (before ++ (header ++ (credential ++ after))) =
            front ++ c :: (d :: coreMask.text ++ cleanSecrets after)) := by
  rcases @sub_header before header hheader with ⟨front, c, hc, hbefore, hsub⟩
  have hbetween := betweenTokens_of_isSpace hc
  refine ⟨replaceAll jwtMatch? front, c, hc, ?_, ?_⟩
  · rw [cleanSecrets, hbefore, replaceAll_between hbetween]
    rfl
  rcases List.exists_cons_of_length_pos (l := credential) (by omega) with ⟨d, rest, hcons⟩
  have hvalues : forall e, e ∈ rest -> coreMask.isValue e = true := fun e he =>
    (Bool.not_eq_true' _).mpr (hblank e (by rw [hcons]; exact List.mem_cons_of_mem d he))
  have hrestNe : rest ≠ [] := by
    intro hnil
    rw [hcons, hnil, List.length_singleton] at hlong
    omega
  have hfirst : forall e others, credential ++ after = e :: others ->
      Text.isSpace e = false ∧ (isKeySeparator e = true -> coreMask.run others ≠ []) := by
    intro e others hsplit
    rw [hcons, List.cons_append, List.cons.injEq] at hsplit
    rw [← hsplit.1, ← hsplit.2]
    exact ⟨hblank d (by rw [hcons]; exact List.mem_cons_self),
      fun _ => Mask.run_append_ne_nil hrestNe hvalues⟩
  cases hsub (credential ++ after) hfirst with
  | apart hfree h =>
      left
      constructor
      · intro hread
        rcases hread with ⟨hscheme, e, others, hsplit, hseparator⟩
        exact hfree ⟨hscheme, e, others ++ after, by rw [hsplit]; rfl, hseparator⟩
      · rcases sub_credential hblank hassigns hafter with ⟨tail, htail, hends⟩
        rcases replaceAll_credential hjwt hends with ⟨more, hmore⟩
        exact ⟨more, by rw [cleanSecrets, h, htail, replaceAll_between hbetween, hmore]⟩
  | @value hread e others hsplit hseparator h =>
      right
      rw [hcons, List.cons_append, List.cons.injEq] at hsplit
      rcases hsplit with ⟨hd, hothers⟩
      subst hd
      refine ⟨⟨hread, d, rest, hcons, hseparator⟩, d, ?_⟩
      have hrun : coreMask.afterRun others = after := by
        rw [← hothers, Heads.afterRun_append_of_forall hvalues]
        cases after with
        | nil => rfl
        | cons f after =>
            apply List.dropWhile_cons_of_neg
            simp [coreMask, isCoreValue, hafter f after rfl]
      have hstar := fun text => replaceAll_between betweenTokens_star [] text
      have hseparatorToken := replaceAll_between (betweenTokens_of_isKeySeparator hseparator) []
        (coreMask.text ++ coreValues.sub secretWordPattern after)
      have hstars : replaceAll jwtMatch? (coreMask.text ++ coreValues.sub secretWordPattern after) =
          coreMask.text ++ cleanSecrets after := by
        show replaceAll jwtMatch? ([] ++ '*' :: ([] ++ '*' :: ([] ++ '*' :: _))) = _
        rw [hstar, hstar, hstar]
        rfl
      rw [cleanSecrets, h, hrun, replaceAll_between hbetween]
      rw [List.nil_append, hstars] at hseparatorToken
      rw [hseparatorToken]
      rfl

theorem infix_take_masked_iff (hlong : 8 ≤ credential.length)
    (hblank : forall c, c ∈ credential -> Text.isSpace c = false) (d : Char)
    (hafter : EndsWord after) (n : Nat) :
    credential <:+: (d :: coreMask.text ++ after).take n <->
      credential <:+: after.take (n - 4) := by
  have hne : credential ≠ [] := List.ne_nil_of_length_pos (by omega)
  have hshort : forall text : List Char, text.length ≤ 4 -> forall n,
      ¬ credential <:+: text.take n := by
    intro text htext n hin
    have hlength := hin.length_le
    rw [List.length_take] at hlength
    omega
  have hfour : (d :: coreMask.text).length ≤ 4 := Nat.le_refl 4
  cases after with
  | nil =>
      rw [List.append_nil]
      exact iff_of_false (hshort _ hfour n) (hshort [] (by decide) _)
  | cons c after =>
      have hc : c ∉ credential := by
        intro hmem
        have hspace := hafter c after rfl
        rw [hblank c hmem] at hspace
        cases hspace
      have hempty : credential <:+: (([] : List Char) ++ c :: after).take (n - 4) <-> _ :=
        infix_take_append_cons_iff hne hc (n - 4)
      rw [List.nil_append] at hempty
      rw [infix_take_append_cons_iff hne hc, hempty]
      have hlengths : n - ((d :: coreMask.text).length + 1) = n - 4 - (([] : List Char).length + 1) := by
        rw [show (d :: coreMask.text).length = 4 from rfl]
        simp only [List.length_nil]
        omega
      rw [hlengths]
      exact or_congr_left (iff_of_false (hshort _ hfour n) (hshort [] (by decide) _))

theorem maskedWithin_iff (hheader : coreValues.IsHead authorizationHeader header)
    (hlong : 8 ≤ credential.length)
    (hblank : forall c, c ∈ credential -> Text.isSpace c = false) (hafter : EndsWord after)
    (n : Nat) :
    ¬ credential <:+: (cleanSecrets (before ++ (header ++ (credential ++ after)))).take n <->
      MaskedWithin credential before header after n := by
  have hne : credential ≠ [] := List.ne_nil_of_length_pos (by omega)
  by_cases hjwt : HasJwt credential
  · exact iff_of_true (fun hin => cleanSecrets_noJwt hjwt
      (hin.trans (List.take_prefix _ _).isInfix)) (Or.inl hjwt)
  by_cases hassigns : AssignsSecret credential
  · exact iff_of_true (fun hin => cleanSecrets_noAssignment hassigns hblank
      (hin.trans (List.take_prefix _ _).isInfix)) (Or.inr (Or.inl hassigns))
  rcases @cleanSecrets_credential credential before header after hheader hlong hblank hafter hjwt
    hassigns with ⟨front, c, hc, hbefore, hcases⟩
  have hnot : c ∉ credential := by
    intro hmem
    rw [hblank c hmem] at hc
    cases hc
  have hfront : credential <:+: (front ++ [c]).take n <-> credential <:+: front.take n := by
    rw [infix_take_append_cons_iff hne hnot, List.take_nil, List.infix_nil]
    exact or_iff_left hne
  have hlength : (front ++ [c]).length = front.length + 1 := List.length_append
  rw [MaskedWithin, MadeUp, hbefore, hfront, hlength]
  rcases hcases with ⟨hread, rest, hclean⟩ | ⟨hread, d, hclean⟩
  · rw [hclean, infix_take_append_cons_iff hne hnot, infix_take_append_iff]
    have hcut : ¬ credential.length ≤ n - (front.length + 1) <->
        n < front.length + 1 + credential.length := by omega
    simp only [hjwt, hassigns, hread, false_or, false_and, or_false, not_or, hcut]
    exact and_comm
  · have hends : EndsWord (cleanSecrets after) := by
      intro e others hcons
      have hsub := sub_of_endsWord hafter
      rw [cleanSecrets] at hcons
      generalize coreValues.sub secretWordPattern after = text at hsub hcons
      cases text with
      | nil => cases hcons
      | cons f text =>
          have hf := hsub f text rfl
          have hkept := replaceAll_between (betweenTokens_of_isSpace hf) [] text
          rw [List.nil_append] at hkept
          rw [hkept] at hcons
          cases hcons
          exact hf
    rw [hclean, infix_take_append_cons_iff hne hnot, infix_take_masked_iff hlong hblank d hends]
    have hsum : n - (front.length + 1) - 4 = n - (front.length + 1 + 4) := by omega
    simp only [hjwt, hassigns, hread, false_or, true_or, true_and, hsum]

end

theorem infix_of_cleanSecrets {word text : List Char} (hword : '*' ∉ word)
    (h : word <:+: cleanSecrets text) : word <:+: text := by
  have hstars : forall c, c ∈ coreMask.text -> c ∉ word := by
    intro c hc
    rw [eq_star_of_mem c hc]
    exact hword
  have hin := (cleanSecrets_replaced text).infix_of_notMem rfl hstars h
  have hreplaced := Heads.sub_replaced coreHeads none text
  exact hreplaced.infix_of_notMem rfl hstars hin

/-- A credential without a star, and in one place only, is not made up elsewhere. -/
theorem InHeader.not_madeUp {credential before header after : String}
    (hplace : InHeader credential before header after) (hlong : 8 ≤ credential.length)
    (hstar : '*' ∉ credential.toList) (n : Nat) :
    ¬ MadeUp credential.toList before.toList header.toList after.toList n := by
  rw [← String.length_toList] at hlong
  intro hmade
  rcases hmade with hbefore | ⟨_, hafter⟩
  · rcases infix_of_cleanSecrets hstar (hbefore.trans (List.take_prefix _ _).isInfix) with
      ⟨front, back, hsplit⟩
    have hfront := hplace.only_place front (back ++ credential.toList ++ after.toList) (by
      rw [← hsplit]
      simp only [List.append_assoc])
    have hlength := congrArg List.length hsplit
    rw [← hfront] at hlength
    simp only [List.length_append] at hlength
    omega
  · rcases infix_of_cleanSecrets hstar (hafter.trans (List.take_prefix _ _).isInfix) with
      ⟨front, back, hsplit⟩
    have hfront := hplace.only_place
      (before.toList ++ header.toList ++ credential.toList ++ front) back (by
      rw [← hsplit]
      simp only [List.append_assoc])
    have hlength := congrArg List.length hfront
    simp only [List.length_append] at hlength
    omega

/--
The redactor keeps a credential after a header out of its text exactly when the credential
is hidden by what it says, or is read as a value or cut off: of the header itself it masks
the scheme.  Masks make up a credential elsewhere only if it has a star.
-/
theorem masksCredential_iff {credential before header after : String}
    (h : IsCredential credential) (hplace : InHeader credential before header after) :
    (forall limit : Int,
      (¬ credential.toList <:+:
          (redactSecretsCompatible (before ++ header ++ credential ++ after) limit).toList) <->
        MaskedWithin credential.toList before.toList header.toList after.toList
          (max 1 limit).toNat) ∧
    (forall (e : McpError) (details : Option (List (Key × Value))) (record : CoreErrorInfo),
      e.message = before ++ header ++ credential ++ after ->
        mcpErrorToCoreInfo e details = .ok record ->
        (¬ credential.toList <:+: record.message.toList <->
          MaskedWithin credential.toList before.toList header.toList after.toList 500)) ∧
    ('*' ∉ credential.toList -> forall n,
      ¬ MadeUp credential.toList before.toList header.toList after.toList n) := by
  have hlimit : forall limit : Int,
      (¬ credential.toList <:+:
          (redactSecretsCompatible (before ++ header ++ credential ++ after) limit).toList) <->
        MaskedWithin credential.toList before.toList header.toList after.toList
          (max 1 limit).toNat := by
    intro limit
    have hiff := @maskedWithin_iff credential.toList before.toList header.toList after.toList
      hplace.isHeader (by rw [String.length_toList]; exact h.long) h.not_blank hplace.ends_word
      (max 1 limit).toNat
    rw [redactSecretsCompatible_eq, String.toList_ofList]
    simp only [String.toList_append, List.append_assoc]
    exact hiff
  refine ⟨hlimit, ?_, hplace.not_madeUp h.long⟩
  intro e details record hmessage hrecord
  rw [mcpErrorToCoreInfo_eq] at hrecord
  cases hrecord
  rw [hmessage]
  exact hlimit 500

theorem isHead_plainHeader :
    coreValues.IsHead authorizationHeader "Authorization: Bearer ".toList := by
  have hspace : coreValues.Blank [' '] := by
    intro c hc
    rw [List.mem_singleton.mp hc]
    rfl
  have htail : coreValues.IsScheme (some ("Bearer".toList.map coreValues.fold))
      ("Bearer".toList ++ [' ']) :=
    Alphabet.IsScheme.some hspace (List.cons_ne_nil _ _)
  show coreValues.IsHead authorizationHeader
    ("Authorization".toList ++ ([] ++ ':' :: ([' '] ++ ("Bearer".toList ++ [' ']))))
  exact Alphabet.IsHead.intro (by decide) blank_nil rfl hspace htail

theorem only_place {header credential front back : List Char} (hne : credential ≠ [])
    (hblank : forall c, c ∈ credential -> Text.isSpace c = false)
    (hheader : ¬ credential <:+: header)
    (h : header ++ ' ' :: credential = front ++ (credential ++ back)) :
    front = header ++ [' '] := by
  have hspace : ' ' ∉ credential := by
    intro hc
    exact absurd (hblank ' ' hc) (by decide)
  rcases List.append_eq_append_iff.mp h with ⟨more, hfront, hmore⟩ | ⟨more, hheaderSplit, hmore⟩
  · cases more with
    | nil =>
        cases credential with
        | nil => exact absurd rfl hne
        | cons c credential =>
            rw [List.nil_append, List.cons_append, List.cons.injEq] at hmore
            rw [← hmore.1] at hspace
            exact absurd List.mem_cons_self hspace
    | cons c more =>
        rw [List.cons_append, List.cons.injEq] at hmore
        have hlength := congrArg List.length hmore.2
        rw [List.length_append, List.length_append] at hlength
        have hmoreNil : more = [] := List.eq_nil_of_length_eq_zero (by omega)
        rw [hfront, ← hmore.1, hmoreNil]
  · refine absurd ?_ hheader
    rw [hheaderSplit]
    exact (prefix_of_notMem hspace hmore.symm).isInfix.trans (List.suffix_append _ _).isInfix

theorem inHeader_of_not_infix {credential before header : String} {front : List Char}
    (h : IsCredential credential) (hheader : coreValues.IsHead authorizationHeader header.toList)
    (hends : before.toList ++ header.toList = front ++ [' '])
    (hnot : ¬ credential.toList <:+: front) : InHeader credential before header "" := by
  have hne : credential.toList ≠ [] := by
    apply List.ne_nil_of_length_pos
    rw [String.length_toList]
    exact Nat.lt_of_lt_of_le (by decide) h.long
  refine ⟨hheader, ?_, ?_⟩
  · intro c rest hcons
    cases hcons
  · intro start back hsplit
    rw [hends, String.toList_empty, List.append_nil, List.append_assoc, List.append_assoc] at hsplit
    rw [hends]
    exact only_place hne h.not_blank hnot hsplit

/-- In the value of another key the scheme is a key, and the credential its value. -/
theorem masksCredential_value :
    ¬ ":abcdefgh".toList <:+:
      (redactSecretsCompatible ("token=" ++ "Authorization: Bearer " ++ ":abcdefgh" ++ "")
        100).toList := by
  have hcredential : IsCredential ":abcdefgh" :=
    ⟨by decide, List.forall_iff_forall_mem.mp (by decide)⟩
  have hplace : InHeader ":abcdefgh" "token=" "Authorization: Bearer " "" :=
    inHeader_of_not_infix hcredential isHead_plainHeader
      (show _ = "token=Authorization: Bearer".toList ++ [' '] from rfl) (by decide)
  have hkey : coreHeads.IsHead ("token".toList ++ ['=']) :=
    Alphabet.IsHead.of_key rfl (by decide) (by decide)
  have hvalue : coreHeads.InValue "token=".toList := by
    rw [← List.append_nil "token=".toList]
    refine .value hkey ?_
    intro c hc
    cases hc
  have hspaced : SpacedHeader "Authorization: Bearer ".toList :=
    ⟨"Authorization:".toList, ' ', 'B', "Bearer ".toList, rfl, by decide, by decide, by decide⟩
  rcases masksCredential_iff hcredential hplace with ⟨hiff, _, hmade⟩
  apply (hiff 100).mpr
  right
  right
  exact ⟨Or.inl ⟨⟨hvalue, hspaced⟩, ':', "abcdefgh".toList, rfl, by decide⟩,
    hmade (by decide) _⟩

def bearerError : McpError :=
  ⟨.upstreamError, .upstreamError, "Authorization: Bearer abcdefgh12", []⟩

theorem bearer_credential_kept :
    IsCredential "abcdefgh12" ∧ InHeader "abcdefgh12" "" "Authorization: Bearer " "" ∧
      redactSecretsCompatible "Authorization: Bearer abcdefgh12" =
        "Authorization: *** abcdefgh12" ∧
      exists record, mcpErrorToCoreInfo bearerError = .ok record ∧
        record.message = "Authorization: *** abcdefgh12" ∧
        "abcdefgh12".toList <:+: record.message.toList := by
  have hcredential : IsCredential "abcdefgh12" :=
    ⟨by decide, List.forall_iff_forall_mem.mp (by decide)⟩
  have hplace : InHeader "abcdefgh12" "" "Authorization: Bearer " "" :=
    inHeader_of_not_infix hcredential isHead_plainHeader
      (show _ = "Authorization: Bearer".toList ++ [' '] from rfl) (by decide)
  have hredacted : redactSecretsCompatible "Authorization: Bearer abcdefgh12" =
      "Authorization: *** abcdefgh12" := by decide +kernel
  refine ⟨hcredential, hplace, hredacted, _, mcpErrorToCoreInfo_eq _ _, hredacted, ?_⟩
  show "abcdefgh12".toList <:+: (redactSecretsCompatible "Authorization: Bearer abcdefgh12").toList
  rw [hredacted]
  exact ⟨"Authorization: *** ".toList, [], rfl⟩

end YasinMcp
