import Mathlib.Data.List.DropRight
import YasinMcp.Foundation.Json

/-!
# What a scanner has read

A scanner reads a part of its text and leaves the rest.  The part that it read
determines what it gives: the same part before another rest is read in the same
way.  Only a number looks at what follows it, to see that it goes on.

Here this is shown of strings, numbers and atoms.  A half of a surrogate pair
looks at the escape after it, which is still inside the string.
-/

namespace YasinMcp
namespace Foundation
namespace Json

def isJsonSpace (c : Char) : Bool :=
  c = ' ' || c = '\t' || c = '\n' || c = '\r'

def AllSpace (cs : List Char) : Prop :=
  forall c, c ∈ cs -> isJsonSpace c = true

/-- The part is read to this result before every rest that fits. -/
def Reads {a : Type} (scan : List Char -> Except LoadsError (a × List Char))
    (fits : List Char -> Prop) (used : List Char) (x : a) : Prop :=
  forall rest, fits rest -> scan (used ++ rest) = .ok (x, rest)

/-- What a scan gives is what it reads some part of its text to. -/
def Local {a : Type} (scan : List Char -> Except LoadsError (a × List Char))
    (fits : List Char -> Prop) : Prop :=
  forall cs x rest, scan cs = .ok (x, rest) ->
    exists used, used ≠ [] ∧ cs = used ++ rest ∧ Reads scan fits used x

/-- Whatever follows. -/
def Any (_ : List Char) : Prop := True

/-- What follows does not continue a number. -/
def Delimited (rest : List Char) : Prop :=
  forall c, rest.head? = some c -> isDigit c = false ∧ c ≠ '.' ∧ c ≠ 'e' ∧ c ≠ 'E'

/-!
## White space
-/

theorem skipSpace_cons_space {c : Char} (hc : isJsonSpace c = true) (cs : List Char) :
    skipSpace (c :: cs) = skipSpace cs :=
  List.dropWhile_cons_of_pos hc

theorem skipSpace_cons_mark {c : Char} (hc : isJsonSpace c = false) (cs : List Char) :
    skipSpace (c :: cs) = c :: cs :=
  List.dropWhile_cons_of_neg (Bool.eq_false_iff.mp hc)

theorem skipSpace_append {before : List Char} (h : AllSpace before) (cs : List Char) :
    skipSpace (before ++ cs) = skipSpace cs := by
  induction before with
  | nil => rfl
  | cons c before ih =>
      rw [List.cons_append, skipSpace_cons_space (h c List.mem_cons_self)]
      exact ih fun d hd => h d (List.mem_cons_of_mem c hd)

theorem exists_skipSpace (cs : List Char) :
    exists before, AllSpace before ∧ cs = before ++ skipSpace cs := by
  induction cs with
  | nil => exact ⟨[], fun c hc => absurd hc List.not_mem_nil, rfl⟩
  | cons c cs ih =>
      cases hc : isJsonSpace c with
      | true =>
          rcases ih with ⟨before, hspace, hcs⟩
          refine ⟨c :: before, List.forall_mem_cons.mpr ⟨hc, hspace⟩, ?_⟩
          rw [skipSpace_cons_space hc, List.cons_append, ← hcs]
      | false =>
          exact ⟨[], fun d hd => absurd hd List.not_mem_nil, (skipSpace_cons_mark hc cs).symm⟩

theorem skipSpace_eq_nil_iff (cs : List Char) : skipSpace cs = [] <-> AllSpace cs := by
  constructor
  · intro h
    rcases exists_skipSpace cs with ⟨before, hspace, hcs⟩
    rw [h, List.append_nil] at hcs
    exact hcs ▸ hspace
  · intro h
    have hskip := skipSpace_append h []
    rwa [List.append_nil] at hskip

theorem skipSpace_mark {before : List Char} (h : AllSpace before) {mark : Char}
    (hmark : isJsonSpace mark = false) (rest : List Char) :
    skipSpace (before ++ mark :: rest) = mark :: rest := by
  rw [skipSpace_append h, skipSpace_cons_mark hmark]

theorem delimited_cons {mark : Char}
    (hmark : isDigit mark = false ∧ mark ≠ '.' ∧ mark ≠ 'e' ∧ mark ≠ 'E') (rest : List Char) :
    Delimited (mark :: rest) := by
  intro c hc
  cases hc
  exact hmark

theorem delimited_of_mark {before : List Char} (h : AllSpace before) {mark : Char}
    (hmark : isDigit mark = false ∧ mark ≠ '.' ∧ mark ≠ 'e' ∧ mark ≠ 'E') (rest : List Char) :
    Delimited (before ++ mark :: rest) := by
  cases before with
  | nil => exact delimited_cons hmark rest
  | cons d before =>
      intro c hc
      cases hc
      have hd := h d List.mem_cons_self
      simp only [isJsonSpace, Bool.or_eq_true, decide_eq_true_eq] at hd
      rcases hd with ((hd | hd) | hd) | hd <;> subst hd <;> decide

/-!
## Strings
-/

theorem hex4?_local {cs rest : List Char} {n : Nat} (h : hex4? cs = some (n, rest)) :
    exists used, cs = used ++ rest ∧ forall rest', hex4? (used ++ rest') = some (n, rest') := by
  unfold hex4? at h
  split at h
  · rename_i a b c d tail
    simp only [Option.bind_eq_bind, Option.bind_eq_some_iff, Option.some.injEq,
      Prod.mk.injEq] at h
    rcases h with ⟨x, hx, y, hy, z, hz, w, hw, hn, htail⟩
    subst htail
    refine ⟨[a, b, c, d], rfl, ?_⟩
    intro rest'
    simp [hex4?, hx, hy, hz, hw, hn]
  · cases h

/-- The text shows by itself how it starts: an escape in front is complete. -/
def SelfContained (cs : List Char) : Prop :=
  cs ≠ [] ∧ forall rest, cs = '\\' :: rest -> escape? rest ≠ none

/-- The code of an escape that comes first, for a surrogate to be joined with. -/
def nextCode? : List Char -> Option (Nat × List Char)
  | '\\' :: 'u' :: second => hex4? second
  | _ => none

theorem unicodeEscape?_eq (cs : List Char) :
    unicodeEscape? cs = (hex4? cs).bind fun (n, rest) =>
      if isHighSurrogate n = true ∧ ['\\', 'u'] <+: rest then
        (nextCode? rest).bind fun (m, after) =>
          if isLowSurrogate m then
            some (Char.ofNat (0x10000 + (n - 0xd800) * 0x400 + (m - 0xdc00)), after)
          else some (charOf n, rest)
      else some (charOf n, rest) := by
  unfold unicodeEscape?
  cases hex4? cs with
  | none => rfl
  | some entry =>
      rcases entry with ⟨n, rest⟩
      simp only [Option.bind_eq_bind, Option.bind_some]
      split
      · rename_i second hhigh
        rw [if_pos ⟨hhigh, second, rfl⟩]
        rfl
      · rename_i hother
        rw [if_neg]
        intro h
        rcases h with ⟨hhigh, second, hrest⟩
        exact hother second hhigh hrest.symm

theorem nextCode?_local {cs rest : List Char} {m : Nat} (h : nextCode? cs = some (m, rest)) :
    exists used, cs = used ++ rest ∧ ['\\', 'u'] <+: used ∧
      forall rest', nextCode? (used ++ rest') = some (m, rest') := by
  unfold nextCode? at h
  split at h
  · rcases hex4?_local h with ⟨used, hsecond, hread⟩
    subst hsecond
    exact ⟨'\\' :: 'u' :: used, rfl, ⟨used, rfl⟩, fun rest' => hread rest'⟩
  · cases h

theorem nextCode?_eq_none {cs : List Char} (h : ¬ ['\\', 'u'] <+: cs) : nextCode? cs = none := by
  unfold nextCode?
  split
  · exact absurd (List.prefix_append ['\\', 'u'] _) h
  · rfl

theorem exists_nextCode? {start : List Char} (h : SelfContained start) :
    exists code : Option Nat, forall tail,
      (['\\', 'u'] <+: start ++ tail <-> code ≠ none) ∧
        (nextCode? (start ++ tail)).map Prod.fst = code := by
  rcases h with ⟨hne, hescape⟩
  cases start with
  | nil => exact absurd rfl hne
  | cons c cs =>
      by_cases hc : c = '\\'
      · subst hc
        have hcomplete := hescape cs rfl
        cases cs with
        | nil => exact absurd rfl hcomplete
        | cons x second =>
            by_cases hx : x = 'u'
            · subst hx
              rw [escape?, if_pos rfl, unicodeEscape?_eq] at hcomplete
              cases hhex : hex4? second with
              | none =>
                  rw [hhex] at hcomplete
                  exact absurd rfl hcomplete
              | some entry =>
                  rcases hex4?_local (show hex4? _ = some (entry.1, entry.2) from hhex) with
                    ⟨used, hsecond, hread⟩
                  refine ⟨some entry.1, ?_⟩
                  intro tail
                  refine ⟨iff_of_true ⟨second ++ tail, rfl⟩ (Option.some_ne_none _), ?_⟩
                  rw [hsecond, List.cons_append, List.cons_append, nextCode?, List.append_assoc,
                    hread]
                  rfl
            · refine ⟨none, ?_⟩
              intro tail
              have hstart : ¬ ['\\', 'u'] <+: '\\' :: x :: (second ++ tail) := by
                intro hstart
                rw [List.cons_prefix_cons, List.cons_prefix_cons] at hstart
                exact hx hstart.2.1.symm
              exact ⟨iff_of_false hstart (fun h => h rfl), by
                rw [List.cons_append, List.cons_append, nextCode?_eq_none hstart]; rfl⟩
      · refine ⟨none, ?_⟩
        intro tail
        have hstart : ¬ ['\\', 'u'] <+: c :: (cs ++ tail) := by
          intro hstart
          rw [List.cons_prefix_cons] at hstart
          exact hc hstart.1.symm
        exact ⟨iff_of_false hstart (fun h => h rfl), by
          rw [List.cons_append, nextCode?_eq_none hstart]; rfl⟩

theorem unicodeEscape?_local {cs rest : List Char} {d : Char}
    (h : unicodeEscape? cs = some (d, rest)) :
    exists used, cs = used ++ rest ∧ forall start tail tail', rest = start ++ tail ->
      SelfContained start ->
        unicodeEscape? (used ++ (start ++ tail')) = some (d, start ++ tail') := by
  rw [unicodeEscape?_eq] at h
  rcases Option.bind_eq_some_iff.mp h with ⟨⟨n, after⟩, hhex, h⟩
  rcases hex4?_local hhex with ⟨digits, hcs, hdigits⟩
  simp only at h
  split at h
  · rename_i hpair
    rcases Option.bind_eq_some_iff.mp h with ⟨⟨m, behind⟩, hnext, h⟩
    simp only at h
    split at h
    · rename_i hlow
      rw [Option.some.injEq, Prod.mk.injEq] at h
      rcases h with ⟨hd, hbehind⟩
      subst hbehind
      rcases nextCode?_local hnext with ⟨second, hafter, hmark, hsecond⟩
      refine ⟨digits ++ second, by rw [hcs, hafter, List.append_assoc], ?_⟩
      intro start tail tail' _ _
      rw [unicodeEscape?_eq, List.append_assoc, hdigits, Option.bind_some]
      simp only [hsecond, Option.bind_some]
      rw [if_pos ⟨hpair.1, hmark.trans (List.prefix_append second _)⟩, if_pos hlow, hd]
    · rename_i hlow
      cases h
      refine ⟨digits, hcs, ?_⟩
      intro start tail tail' hrest hstart
      rcases exists_nextCode? hstart with ⟨code, hcode⟩
      rw [hrest] at hnext
      have hm : some m = code := by
        rw [← (hcode tail).2, hnext]
        rfl
      have hnext' := (hcode tail').2
      rw [← hm] at hnext'
      rcases Option.map_eq_some_iff.mp hnext' with ⟨⟨m', behind'⟩, hentry, hm'⟩
      cases hm'
      rw [unicodeEscape?_eq, hdigits, Option.bind_some]
      simp only [hentry, Option.bind_some]
      rw [if_pos ⟨hpair.1, (hcode tail').1.mpr (hm ▸ Option.some_ne_none _)⟩, if_neg hlow]
  · rename_i hpair
    cases h
    refine ⟨digits, hcs, ?_⟩
    intro start tail tail' hrest hstart
    rcases exists_nextCode? hstart with ⟨code, hcode⟩
    rw [unicodeEscape?_eq, hdigits, Option.bind_some]
    simp only
    rw [if_neg]
    intro h
    refine hpair ⟨h.1, ?_⟩
    rw [hrest]
    exact (hcode tail).1.mpr ((hcode tail').1.mp h.2)

theorem escape?_local {cs rest : List Char} {d : Char} (h : escape? cs = some (d, rest)) :
    exists used, used ≠ [] ∧ cs = used ++ rest ∧ forall start tail tail', rest = start ++ tail ->
      SelfContained start -> escape? (used ++ (start ++ tail')) = some (d, start ++ tail') := by
  cases cs with
  | nil => cases h
  | cons c cs =>
      rw [escape?] at h
      split at h
      · rename_i hc
        rcases unicodeEscape?_local h with ⟨used, hcs, hread⟩
        refine ⟨c :: used, List.cons_ne_nil _ _, by rw [hcs]; rfl, ?_⟩
        intro start tail tail' hrest hstart
        rw [List.cons_append, escape?, if_pos hc]
        exact hread start tail tail' hrest hstart
      · rename_i hc
        rcases Option.map_eq_some_iff.mp h with ⟨entry, hfind, hentry⟩
        cases hentry
        refine ⟨[c], List.cons_ne_nil _ _, rfl, ?_⟩
        intro start tail tail' _ _
        rw [List.cons_append, escape?, if_neg hc, hfind]
        rfl

theorem scanChars_local {fuel : Nat} {cs seen rest : List Char} {s : String}
    (h : scanChars fuel cs seen = .ok (s, rest)) :
    exists used, used ≠ [] ∧ cs = used ++ rest ∧
      forall fuel' rest', used.length ≤ fuel' ->
        scanChars fuel' (used ++ rest') seen = .ok (s, rest') := by
  induction fuel generalizing cs seen with
  | zero => cases h
  | succ fuel ih =>
      cases cs with
      | nil => cases h
      | cons c cs =>
          rw [scanChars] at h
          split at h
          · rename_i hquote
            cases h
            refine ⟨[c], List.cons_ne_nil _ _, rfl, ?_⟩
            intro fuel' rest' hfuel
            rcases Nat.exists_eq_succ_of_ne_zero (Nat.ne_of_gt hfuel) with ⟨fuel'', hfuel'⟩
            rw [hfuel', List.cons_append, scanChars, if_pos hquote]
            rfl
          · rename_i hquote
            split at h
            · cases h
            · rename_i hcontrol
              split at h
              · rename_i hslash
                split at h
                · rename_i d after hescape
                  rcases ih h with ⟨used, hne, hafter, hread⟩
                  rcases escape?_local hescape with ⟨escape, hescapeNe, hcs, hreadEscape⟩
                  have hself : SelfContained used := by
                    refine ⟨hne, ?_⟩
                    intro behind hused hnone
                    have hagain := hread used.length [] (Nat.le_refl _)
                    rw [List.append_nil, hused, List.length_cons, scanChars, if_neg (by decide),
                      if_neg (by decide), if_pos rfl, hnone] at hagain
                    cases hagain
                  refine ⟨c :: (escape ++ used), List.cons_ne_nil _ _, ?_, ?_⟩
                  · rw [hcs, hafter, List.cons_append, List.append_assoc]
                  · intro fuel' rest' hfuel
                    rw [List.length_cons, List.length_append] at hfuel
                    rcases Nat.exists_eq_succ_of_ne_zero (show fuel' ≠ 0 by omega) with
                      ⟨fuel'', hfuel'⟩
                    rw [hfuel', List.cons_append, scanChars, if_neg hquote, if_neg hcontrol,
                      if_pos hslash, List.append_assoc, hreadEscape used rest rest' hafter hself]
                    exact hread fuel'' rest' (by omega)
                · cases h
              · rename_i hslash
                rcases ih h with ⟨used, hne, hcs, hread⟩
                refine ⟨c :: used, List.cons_ne_nil _ _, by rw [hcs]; rfl, ?_⟩
                intro fuel' rest' hfuel
                rw [List.length_cons] at hfuel
                rcases Nat.exists_eq_succ_of_ne_zero (show fuel' ≠ 0 by omega) with ⟨fuel'', hfuel'⟩
                rw [hfuel', List.cons_append, scanChars, if_neg hquote, if_neg hcontrol,
                  if_neg hslash]
                exact hread fuel'' rest' (by omega)

theorem scanString_local : Local scanString Any := by
  intro cs s rest h
  rcases scanChars_local h with ⟨used, hne, hcs, hread⟩
  refine ⟨used, hne, hcs, ?_⟩
  intro rest' _
  exact hread _ rest' (by rw [List.length_append]; omega)

/-!
## Numbers
-/

def NoDigit (rest : List Char) : Prop :=
  forall c, rest.head? = some c -> isDigit c = false

theorem Delimited.noDigit {rest : List Char} (h : Delimited rest) : NoDigit rest :=
  fun c hc => (h c hc).1

/-- A run of digits ends where there is no digit. -/
theorem span_digits {ds rest : List Char} (hds : forall c, c ∈ ds -> isDigit c = true)
    (hrest : NoDigit rest) :
    (ds ++ rest).takeWhile isDigit = ds ∧ (ds ++ rest).dropWhile isDigit = rest := by
  rw [List.takeWhile_append_of_pos hds, List.dropWhile_append_of_pos hds]
  cases rest with
  | nil => exact ⟨List.append_nil ds, rfl⟩
  | cons c rest =>
      have hc := Bool.eq_false_iff.mp (hrest c rfl)
      rw [List.takeWhile_cons_of_neg hc, List.dropWhile_cons_of_neg hc]
      exact ⟨List.append_nil ds, rfl⟩

theorem isDigit_of_mem_takeWhile {cs : List Char} {c : Char} (h : c ∈ cs.takeWhile isDigit) :
    isDigit c = true :=
  List.all_eq_true.mp (List.all_takeWhile) c h

theorem span_takeWhile (cs : List Char) {rest : List Char} (hrest : NoDigit rest) :
    (cs.takeWhile isDigit ++ rest).takeWhile isDigit = cs.takeWhile isDigit ∧
      (cs.takeWhile isDigit ++ rest).dropWhile isDigit = rest :=
  span_digits (fun _ hd => isDigit_of_mem_takeWhile hd) hrest

theorem integerPart?_local {cs whole rest : List Char}
    (h : integerPart? cs = some (whole, rest)) :
    cs = whole ++ rest ∧ whole ≠ [] ∧ (forall c, c ∈ whole -> isDigit c = true) ∧
      forall rest', NoDigit rest' -> integerPart? (whole ++ rest') = some (whole, rest') := by
  unfold integerPart? at h
  split at h
  · cases h
    refine ⟨rfl, List.cons_ne_nil _ _, ?_, fun _ _ => rfl⟩
    intro c hc
    rw [List.mem_singleton] at hc
    rw [hc]
    rfl
  · rename_i c tail hzero
    split at h
    · rename_i hc
      rw [Option.some.injEq, Prod.mk.injEq] at h
      rcases h with ⟨hwhole, hrest⟩
      have hfirst : (c :: tail).takeWhile isDigit = c :: tail.takeWhile isDigit :=
        List.takeWhile_cons_of_pos hc
      have hdigits : forall d, d ∈ whole -> isDigit d = true := by
        intro d hd
        rw [← hwhole] at hd
        exact isDigit_of_mem_takeWhile hd
      refine ⟨?_, ?_, hdigits, ?_⟩
      · rw [← hwhole, ← hrest, List.takeWhile_append_dropWhile]
      · rw [← hwhole, hfirst]
        exact List.cons_ne_nil _ _
      · intro rest' hnot
        have hspan := span_digits hdigits hnot
        rw [← hwhole, hfirst] at hspan ⊢
        rw [List.cons_append, integerPart?]
        · rw [if_pos hc, ← List.cons_append, hspan.1, hspan.2]
        · intro heq
          exact hzero heq
    · cases h
  · cases h

theorem fractionPart_local {cs fraction rest : List Char}
    (h : fractionPart cs = (fraction, rest)) :
    exists used, cs = used ++ rest ∧ (used = [] ∨ used.head? = some '.') ∧
      forall rest', NoDigit rest' -> rest'.head? ≠ some '.' ->
        fractionPart (used ++ rest') = (fraction, rest') := by
  unfold fractionPart at h
  split at h
  · rename_i tail
    split at h
    · cases h
      refine ⟨[], rfl, Or.inl rfl, ?_⟩
      intro rest' _ hpoint
      rw [List.nil_append]
      unfold fractionPart
      split
      · exact absurd rfl hpoint
      · rfl
    · rename_i hsome
      rw [Prod.mk.injEq] at h
      rcases h with ⟨hfraction, hrest⟩
      refine ⟨'.' :: fraction, ?_, Or.inr rfl, ?_⟩
      · rw [← hfraction, ← hrest, List.cons_append, List.takeWhile_append_dropWhile]
      · intro rest' hnot _
        have hspan := span_takeWhile tail hnot
        rw [← hfraction, List.cons_append, fractionPart, hspan.1, hspan.2, if_neg hsome]
  · cases h
    refine ⟨[], rfl, Or.inl rfl, ?_⟩
    intro rest' _ hpoint
    rw [List.nil_append]
    unfold fractionPart
    split
    · exact absurd rfl hpoint
    · rfl

theorem exponentPart?_local {cs rest : List Char} {e : Int}
    (h : exponentPart? cs = some (e, rest)) :
    exists used, cs = used ++ rest ∧ (used.head? = some 'e' ∨ used.head? = some 'E') ∧
      forall rest', NoDigit rest' -> exponentPart? (used ++ rest') = some (e, rest') := by
  unfold exponentPart? at h
  split at h
  · rename_i c tail
    split at h
    · rename_i hmark
      have hmark' : c = 'e' ∨ c = 'E' := by
        rw [Bool.or_eq_true, decide_eq_true_eq, decide_eq_true_eq] at hmark
        exact hmark
      simp only at h
      by_cases hsign : (tail.head? = some '+' || tail.head? = some '-') = true
      · rw [if_pos hsign] at h
        split at h
        · cases h
        · rename_i hsome
          rw [Option.some.injEq, Prod.mk.injEq] at h
          rcases h with ⟨he, hrest⟩
          cases tail with
          | nil => exact absurd hsign (by decide)
          | cons sign ds =>
              refine ⟨c :: sign :: ds.takeWhile isDigit, ?_, ?_, ?_⟩
              · rw [← hrest, List.cons_append, List.cons_append, List.tail_cons,
                  List.takeWhile_append_dropWhile]
              · exact hmark'.imp (congrArg some) (congrArg some)
              · intro rest' hnot
                have hspan := span_takeWhile ds hnot
                have hsign' : ((sign :: (ds.takeWhile isDigit ++ rest')).head? = some '+' ||
                    (sign :: (ds.takeWhile isDigit ++ rest')).head? = some '-') = true := hsign
                rw [List.cons_append, List.cons_append, exponentPart?, if_pos hmark]
                simp only
                rw [List.tail_cons] at hsome
                rw [if_pos hsign', List.tail_cons, hspan.1, hspan.2, if_neg hsome, ← he]
                rfl
      · rw [if_neg hsign] at h
        split at h
        · cases h
        · rename_i hsome
          rw [Option.some.injEq, Prod.mk.injEq] at h
          rcases h with ⟨he, hrest⟩
          refine ⟨c :: tail.takeWhile isDigit, ?_, ?_, ?_⟩
          · rw [← hrest, List.cons_append, List.takeWhile_append_dropWhile]
          · exact hmark'.imp (congrArg some) (congrArg some)
          · intro rest' hnot
            have hspan := span_takeWhile tail hnot
            have hhead : (tail.takeWhile isDigit ++ rest').head? = tail.head? := by
              cases tail with
              | nil => exact absurd rfl hsome
              | cons d ds =>
                  cases hd : isDigit d with
                  | true =>
                      rw [List.takeWhile_cons_of_pos hd]
                      rfl
                  | false =>
                      rw [List.takeWhile_cons_of_neg (Bool.eq_false_iff.mp hd)] at hsome
                      exact absurd rfl hsome
            rw [List.cons_append, exponentPart?, if_pos hmark]
            simp only [hhead]
            rw [if_neg hsign, hspan.1, hspan.2, if_neg hsome, he]
    · cases h
  · cases h

theorem exponentPart?_of_delimited {rest : List Char} (h : Delimited rest) :
    exponentPart? rest = none := by
  cases rest with
  | nil => rfl
  | cons c rest =>
      have hc := h c rfl
      rw [exponentPart?, if_neg]
      rw [Bool.or_eq_true, decide_eq_true_eq, decide_eq_true_eq, not_or]
      exact ⟨hc.2.2.1, hc.2.2.2⟩

def numberValue (negative : Bool) (whole fraction : List Char) :
    Option Int -> Except LoadsError Value
  | some e =>
      .ok (.float (.decimal negative (digitsValue (whole ++ fraction)) (e - fraction.length)))
  | none =>
      if fraction.isEmpty then
        if maxIntDigits < whole.length then .error (.digits whole.length)
        else
          let n : Int := digitsValue whole
          .ok (.int (if negative then -n else n))
      else
        .ok (.float (.decimal negative (digitsValue (whole ++ fraction)) (-fraction.length)))

section

variable {negative : Bool} {cs whole afterWhole fraction afterFraction rest : List Char}

theorem scanNumber_of_exponent {e : Int} (hwhole : integerPart? cs = some (whole, afterWhole))
    (hfraction : fractionPart afterWhole = (fraction, afterFraction))
    (hexponent : exponentPart? afterFraction = some (e, rest)) :
    scanNumber negative cs =
      (numberValue negative whole fraction (some e)).map fun v => (v, rest) := by
  rw [scanNumber, hwhole]
  simp only [hfraction, hexponent]
  rfl

theorem scanNumber_of_no_exponent (hwhole : integerPart? cs = some (whole, afterWhole))
    (hfraction : fractionPart afterWhole = (fraction, afterFraction))
    (hexponent : exponentPart? afterFraction = none) :
    scanNumber negative cs =
      (numberValue negative whole fraction none).map fun v => (v, afterFraction) := by
  rw [scanNumber, hwhole]
  simp only [hfraction, hexponent, numberValue]
  split
  · split <;> rfl
  · rfl

end

theorem map_rest_eq_ok {x : Except LoadsError Value} {v : Value} {after rest : List Char}
    (h : (x.map fun v => (v, after)) = .ok (v, rest)) : x = .ok v ∧ after = rest := by
  cases x with
  | error e => cases h
  | ok w =>
      cases h
      exact ⟨rfl, rfl⟩

theorem scanNumber_local {negative : Bool} {cs rest : List Char} {v : Value}
    (h : scanNumber negative cs = .ok (v, rest)) :
    exists used, cs = used ++ rest ∧ (exists d, used.head? = some d ∧ isDigit d = true) ∧
      Reads (scanNumber negative) Delimited used v := by
  cases hwhole : integerPart? cs with
  | none =>
      rw [scanNumber, hwhole] at h
      cases h
  | some entry =>
      rcases entry with ⟨whole, afterWhole⟩
      rcases integerPart?_local hwhole with ⟨hcs, hne, hdigits, hreadWhole⟩
      rcases hfraction : fractionPart afterWhole with ⟨fraction, afterFraction⟩
      rcases fractionPart_local hfraction with ⟨point, hafterWhole, hpoint, hreadFraction⟩
      have hfirst : forall tail, exists d, (whole ++ tail).head? = some d ∧ isDigit d = true := by
        intro tail
        rcases List.exists_cons_of_ne_nil hne with ⟨d, ds, hds⟩
        subst hds
        exact ⟨d, rfl, hdigits d List.mem_cons_self⟩
      have hnoDigit : forall tail, NoDigit tail -> NoDigit (point ++ tail) := by
        intro tail htail
        rcases hpoint with hempty | hmark
        · subst hempty
          exact htail
        · intro c hc
          rw [List.head?_append, hmark] at hc
          cases hc
          decide
      cases hexponent : exponentPart? afterFraction with
      | some entry =>
          rcases entry with ⟨e, afterExponent⟩
          rcases exponentPart?_local hexponent with ⟨mark, hafterFraction, hmark, hreadExponent⟩
          rw [scanNumber_of_exponent hwhole hfraction hexponent] at h
          rcases map_rest_eq_ok h with ⟨hvalue, hrest⟩
          subst hrest
          refine ⟨whole ++ (point ++ mark), ?_, hfirst _, ?_⟩
          · rw [hcs, hafterWhole, hafterFraction, List.append_assoc, List.append_assoc]
          · intro rest' hrest'
            have hletter : NoDigit (mark ++ rest') ∧ (mark ++ rest').head? ≠ some '.' := by
              rw [NoDigit, List.head?_append]
              rcases hmark with hmark | hmark <;> rw [hmark, Option.some_or]
              · exact ⟨fun c hc => by cases hc; decide, by decide⟩
              · exact ⟨fun c hc => by cases hc; decide, by decide⟩
            rw [List.append_assoc, List.append_assoc,
              scanNumber_of_exponent (hreadWhole _ (hnoDigit _ hletter.1))
                (hreadFraction _ hletter.1 hletter.2) (hreadExponent rest' hrest'.noDigit), hvalue]
            rfl
      | none =>
          rw [scanNumber_of_no_exponent hwhole hfraction hexponent] at h
          rcases map_rest_eq_ok h with ⟨hvalue, hrest⟩
          subst hrest
          refine ⟨whole ++ point, ?_, hfirst _, ?_⟩
          · rw [hcs, hafterWhole, List.append_assoc]
          · intro rest' hrest'
            have hnoPoint : rest'.head? ≠ some '.' := by
              intro hc
              exact (hrest' _ hc).2.1 rfl
            rw [List.append_assoc,
              scanNumber_of_no_exponent (hreadWhole _ (hnoDigit _ hrest'.noDigit))
                (hreadFraction _ hrest'.noDigit hnoPoint) (exponentPart?_of_delimited hrest'),
              hvalue]
            rfl

/-!
## Atoms
-/

theorem find?_atom_of_mem {name : String} {v : Value} (h : (name, v) ∈ atoms) (rest : List Char) :
    (atoms.find? fun atom => atom.1.toList.isPrefixOf (name.toList ++ rest)) = some (name, v) := by
  unfold atoms at h
  simp only [List.mem_cons, List.not_mem_nil, or_false, Prod.mk.injEq] at h
  rcases h with h | h | h | h | h | h <;> rcases h with ⟨hname, hv⟩ <;> subst hname hv <;> rfl

theorem head_of_atom {atom : String × Value} (h : atom ∈ atoms) :
    exists c rest, atom.1.toList = c :: rest ∧ isDigit c = false ∧
      (c = '-' -> exists c' rest', rest = c' :: rest' ∧ isDigit c' = false) := by
  unfold atoms at h
  simp only [List.mem_cons, List.not_mem_nil, or_false] at h
  rcases h with h | h | h | h | h | h <;> subst h <;>
    exact ⟨_, _, rfl, by decide, fun _ => ⟨_, _, rfl, by decide⟩⟩

theorem find?_atom_of_digit {d : Char} (h : isDigit d = true) (rest : List Char) :
    (atoms.find? fun atom => atom.1.toList.isPrefixOf (d :: rest)) = none ∧
      (atoms.find? fun atom => atom.1.toList.isPrefixOf ('-' :: d :: rest)) = none := by
  rw [List.find?_eq_none, List.find?_eq_none]
  constructor
  · intro atom hatom hleading
    rcases head_of_atom hatom with ⟨c, tail, hname, hc, _⟩
    rw [List.isPrefixOf_iff_prefix, hname, List.cons_prefix_cons] at hleading
    rw [hleading.1, h] at hc
    cases hc
  · intro atom hatom hleading
    rcases head_of_atom hatom with ⟨c, tail, hname, _, hsigned⟩
    rw [List.isPrefixOf_iff_prefix, hname, List.cons_prefix_cons] at hleading
    rcases hsigned hleading.1 with ⟨c', tail', htail, hc'⟩
    rw [htail, List.cons_prefix_cons] at hleading
    rw [hleading.2.1, h] at hc'
    cases hc'

theorem drop_name (name : String) (rest : List Char) :
    (name.toList ++ rest).drop name.length = rest := by
  rw [← String.length_toList, List.drop_left]

theorem scanAtom_local : Local scanAtom Delimited := by
  intro cs v rest h
  rw [scanAtom] at h
  split at h
  · rename_i name value hfind
    cases h
    have hmem := List.mem_of_find?_eq_some hfind
    have hleading := List.find?_some hfind
    rw [List.isPrefixOf_iff_prefix] at hleading
    rcases hleading with ⟨tail, htail⟩
    refine ⟨name.toList, ?_, ?_, ?_⟩
    · rcases head_of_atom hmem with ⟨c, rest, hname, _⟩
      rw [show name.toList = c :: rest from hname]
      exact List.cons_ne_nil c rest
    · rw [← htail, drop_name]
    · intro rest' _
      rw [scanAtom, find?_atom_of_mem hmem]
      simp only [drop_name]
  · split at h
    · rename_i hsign
      cases cs with
      | nil => cases hsign
      | cons c cs =>
          cases hsign
          rcases scanNumber_local h with ⟨used, hcs, ⟨d, hhead, hd⟩, hread⟩
          refine ⟨'-' :: used, List.cons_ne_nil _ _, congrArg ('-' :: ·) hcs, ?_⟩
          intro rest' hrest'
          cases used with
          | nil => cases hhead
          | cons d' used =>
              cases hhead
              rw [scanAtom, List.cons_append, List.cons_append, (find?_atom_of_digit hd _).2]
              exact hread rest' hrest'
    · rename_i hsign
      rcases scanNumber_local h with ⟨used, hcs, ⟨d, hhead, hd⟩, hread⟩
      refine ⟨used, ?_, hcs, ?_⟩
      · intro hnil
        rw [hnil] at hhead
        cases hhead
      · intro rest' hrest'
        cases used with
        | nil => cases hhead
        | cons d' used =>
            cases hhead
            have hd' : ¬ (d :: (used ++ rest')).head? = some '-' := by
              intro hminus
              cases hminus
              exact absurd hd (by decide)
            rw [scanAtom, List.cons_append, (find?_atom_of_digit hd _).1]
            simp only
            rw [if_neg hd']
            exact hread rest' hrest'

end Json
end Foundation
end YasinMcp
