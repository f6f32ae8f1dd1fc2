import Mathlib.Data.List.Infix
import Mathlib.Order.Bounds.Basic

/-!
# Occurrences that do not overlap

Going over a text from the left and skipping over every occurrence that is found
counts as many occurrences as can be marked in the text without an overlap.  A word
never goes across a symbol that it does not have.
-/

namespace YasinMcp
namespace Foundation

universe u

section

variable {alpha : Type u}

/-!
## Words in a text

A word without a certain symbol ends before the first such symbol of the text.
-/

theorem prefix_of_notMem {word behind front back : List alpha} {c : alpha} (hc : c ∉ word)
    (h : front ++ c :: back = word ++ behind) : word <+: front := by
  rcases List.append_eq_append_iff.mp h with ⟨more, hword, hmore⟩ | ⟨more, hfront, _⟩
  · cases more with
    | nil =>
        rw [List.append_nil] at hword
        rw [hword]
    | cons d more =>
        rw [List.cons_append, List.cons.injEq] at hmore
        refine absurd ?_ hc
        rw [hword, hmore.1]
        exact List.mem_append_right front List.mem_cons_self
  · exact ⟨more, hfront.symm⟩

/-- Where a symbol that is not in the word stands, the word does not go across. -/
theorem infix_of_notMem {word front back : List alpha} {c : alpha} (hc : c ∉ word)
    (h : word <:+: front ++ c :: back) : word <:+: front ∨ word <:+: back := by
  rcases h with ⟨before, behind, hsplit⟩
  rw [List.append_assoc] at hsplit
  rcases List.append_eq_append_iff.mp hsplit with ⟨more, hfront, hword⟩ | ⟨more, _, hmore⟩
  · left
    rw [hfront]
    exact (prefix_of_notMem hc hword.symm).isInfix.trans (List.suffix_append _ _).isInfix
  · cases more with
    | nil =>
        cases word with
        | nil => exact Or.inr (List.nil_infix)
        | cons d word =>
            rw [List.nil_append, List.cons_append, List.cons.injEq] at hmore
            refine absurd ?_ hc
            rw [hmore.1]
            exact List.mem_cons_self
    | cons d more =>
        rw [List.cons_append, List.cons.injEq] at hmore
        right
        rw [hmore.2]
        exact ⟨more, behind, (List.append_assoc _ _ _)⟩

/-!
## Marked occurrences
-/

/-- This many occurrences of the part can be marked in the text, none over another. -/
inductive Apart (part : List alpha) : List alpha -> Nat -> Prop where
  | nil : Apart part [] 0
  | skip {a : alpha} {rest : List alpha} {n : Nat} : Apart part rest n -> Apart part (a :: rest) n
  | mark {rest : List alpha} {n : Nat} : Apart part rest n -> Apart part (part ++ rest) (n + 1)

theorem Apart.none (part s : List alpha) : Apart part s 0 := by
  induction s with
  | nil => exact Apart.nil
  | cons a rest ih => exact Apart.skip ih

theorem Apart.after {part rest : List alpha} {n : Nat} (h : Apart part rest n)
    (start : List alpha) : Apart part (start ++ rest) n := by
  induction start with
  | nil => exact h
  | cons a start ih => exact Apart.skip ih

theorem Apart.one_of_isInfix {part s : List alpha} (h : part <:+: s) : Apart part s 1 := by
  rcases h with ⟨before, after, hs⟩
  rw [← hs, List.append_assoc]
  exact (Apart.mark (Apart.none part after)).after before

theorem Apart.isInfix {part s : List alpha} {n : Nat} (h : Apart part s n) (hn : n ≠ 0) :
    part <:+: s := by
  induction h with
  | nil => exact absurd rfl hn
  | skip _ ih => exact (ih hn).trans (List.suffix_cons _ _).isInfix
  | mark _ _ => exact (List.prefix_append part _).isInfix

variable [DecidableEq alpha]

/-- Occurrences found from the left; so many elements are skipped first. -/
def countFrom (part : List alpha) : Nat -> List alpha -> Nat
  | _, [] => 0
  | skip + 1, _ :: rest => countFrom part skip rest
  | 0, a :: rest =>
      if part.isPrefixOf (a :: rest) then countFrom part (part.length - 1) rest + 1
      else countFrom part 0 rest

theorem countFrom_skip (part : List alpha) (skip : Nat) (s : List alpha) :
    countFrom part skip s = countFrom part 0 (s.drop skip) := by
  induction s generalizing skip with
  | nil =>
      rw [List.drop_nil]
      cases skip <;> rfl
  | cons a rest ih =>
      cases skip with
      | zero => rfl
      | succ skip => exact ih skip

variable {part : List alpha}

theorem countFrom_append (hpart : part ≠ []) (rest : List alpha) :
    countFrom part 0 (part ++ rest) = countFrom part 0 rest + 1 := by
  cases part with
  | nil => exact absurd rfl hpart
  | cons a part =>
      have hleading : (a :: part).isPrefixOf (a :: (part ++ rest)) = true :=
        List.isPrefixOf_iff_prefix.mpr (List.prefix_append (a :: part) rest)
      rw [List.cons_append, countFrom, if_pos hleading, countFrom_skip, List.length_cons,
        Nat.add_sub_cancel, List.drop_left]

theorem countFrom_cons (hpart : part ≠ []) (a : alpha) (rest : List alpha) :
    (exists rest', a :: rest = part ++ rest' ∧ rest' = rest.drop (part.length - 1) ∧
      countFrom part 0 (a :: rest) = countFrom part 0 rest' + 1) ∨
    countFrom part 0 (a :: rest) = countFrom part 0 rest := by
  by_cases hleading : part.isPrefixOf (a :: rest) = true
  · rcases List.isPrefixOf_iff_prefix.mp hleading with ⟨rest', hrest⟩
    refine Or.inl ⟨rest', hrest.symm, ?_, ?_⟩
    · cases part with
      | nil => exact absurd rfl hpart
      | cons b part =>
          rw [List.cons_append, List.cons.injEq] at hrest
          rw [← hrest.2, List.length_cons, Nat.add_sub_cancel, List.drop_left]
    · rw [← hrest, countFrom_append hpart]
  · exact Or.inr (by rw [countFrom, if_neg hleading])

/--
Leaving out elements at the front leaves no more occurrences, and at most one fewer
when the elements are no more than the part has.
-/
theorem countFrom_drop (hpart : part ≠ []) (s : List alpha) (k : Nat) :
    countFrom part 0 (s.drop k) ≤ countFrom part 0 s ∧
      (k ≤ part.length -> countFrom part 0 s ≤ countFrom part 0 (s.drop k) + 1) := by
  -- Both bounds go by induction on the length: what follows an occurrence is shorter.
  induction hlength : s.length using Nat.strong_induction_on generalizing s k with
  | _ length ih =>
      subst hlength
      cases s with
      | nil => simp
      | cons a rest =>
          cases k with
          | zero => exact ⟨Nat.le_refl _, fun _ => Nat.le_succ _⟩
          | succ k =>
              have hrest := fun j => ih rest.length (Nat.lt_succ_self _) rest j rfl
              rw [List.drop_succ_cons]
              rcases countFrom_cons hpart a rest with ⟨rest', _, hdrop, hcount⟩ | hcount
              · have hsecond := (hrest (part.length - 1)).2 (Nat.sub_le _ _)
                rw [← hdrop] at hsecond
                rw [hcount]
                refine ⟨Nat.le_trans (hrest k).1 hsecond, fun hk => ?_⟩
                have hdropped : rest' = (rest.drop k).drop (part.length - 1 - k) := by
                  rw [List.drop_drop, hdrop]
                  congr 1
                  omega
                have hlength : (rest.drop k).length < (a :: rest).length := by
                  rw [List.length_drop, List.length_cons]
                  omega
                rw [hdropped]
                exact Nat.succ_le_succ (ih _ hlength (rest.drop k) _ rfl).1
              · rw [hcount]
                exact ⟨(hrest k).1, fun hk => (hrest k).2 (Nat.le_of_succ_le hk)⟩

theorem apart_countFrom (hpart : part ≠ []) (s : List alpha) :
    Apart part s (countFrom part 0 s) := by
  induction hlength : s.length using Nat.strong_induction_on generalizing s with
  | _ length ih =>
      subst hlength
      cases s with
      | nil => exact Apart.nil
      | cons a rest =>
          rcases countFrom_cons hpart a rest with ⟨rest', hs, _, hcount⟩ | hcount
          · have hshorter : rest'.length < (a :: rest).length := by
              have hpositive := List.length_pos_of_ne_nil hpart
              rw [hs, List.length_append]
              omega
            rw [hcount, hs]
            exact Apart.mark (ih _ hshorter rest' rfl)
          · rw [hcount]
            exact Apart.skip (ih _ (Nat.lt_succ_self _) rest rfl)

theorem Apart.le_countFrom (hpart : part ≠ []) {s : List alpha} {n : Nat} (h : Apart part s n) :
    n ≤ countFrom part 0 s := by
  induction h with
  | nil => exact Nat.zero_le _
  | @skip a rest n _ ih => exact Nat.le_trans ih (countFrom_drop hpart (a :: rest) 1).1
  | mark _ ih =>
      rw [countFrom_append hpart]
      exact Nat.succ_le_succ ih

/-- The occurrences found from the left are as many as can be marked. -/
theorem isGreatest_countFrom (hpart : part ≠ []) (s : List alpha) :
    IsGreatest {n | Apart part s n} (countFrom part 0 s) :=
  ⟨apart_countFrom hpart s, fun _ h => h.le_countFrom hpart⟩

theorem countFrom_ne_zero_iff (hpart : part ≠ []) (s : List alpha) :
    countFrom part 0 s ≠ 0 <-> part <:+: s := by
  constructor
  · exact (apart_countFrom hpart s).isInfix
  · intro h
    exact Nat.ne_of_gt ((Apart.one_of_isInfix h).le_countFrom hpart)

example : countFrom [1, 1] 0 [1, 1, 1, 1, 1] = 2 := by decide

end

end Foundation
end YasinMcp
