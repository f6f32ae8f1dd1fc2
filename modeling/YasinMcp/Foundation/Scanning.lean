import YasinMcp.Foundation.Masking
import YasinMcp.Foundation.Occurrences

/-!
# Passes over a text in two parts

A pass over two texts in a row is a pass over each of them, except for what the first one
leaves open: the value of a head may go on in the second.
-/

namespace YasinMcp
namespace Foundation

universe u

variable {symbol : Type u}

/-!
## The front of a text
-/

/-- A word without a certain symbol stands before it or after it. -/
theorem infix_take_append_cons_iff {word front back : List symbol} {c : symbol} (hne : word ≠ [])
    (hc : c ∉ word) (n : Nat) :
    word <:+: (front ++ c :: back).take n <->
      word <:+: front.take n ∨ word <:+: back.take (n - (front.length + 1)) := by
  rw [List.take_append]
  constructor
  · intro h
    cases hmore : n - front.length with
    | zero =>
        rw [hmore, List.take_zero, List.append_nil] at h
        exact Or.inl h
    | succ m =>
        rw [hmore, List.take_succ_cons] at h
        rw [show n - (front.length + 1) = m by omega]
        exact infix_of_notMem hc h
  · intro h
    rcases h with hfront | hback
    · exact hfront.trans (List.prefix_append _ _).isInfix
    · have hlong : n - (front.length + 1) ≠ 0 := by
        intro hzero
        rw [hzero, List.take_zero] at hback
        exact hne (List.infix_nil.mp hback)
      rw [show n - front.length = (n - (front.length + 1)) + 1 by omega, List.take_succ_cons]
      exact (hback.trans (List.suffix_cons _ _).isInfix).trans (List.suffix_append _ _).isInfix

theorem infix_take_append_iff {word : List symbol} (back : List symbol) {n : Nat} :
    word <:+: (word ++ back).take n <-> word.length ≤ n := by
  constructor
  · intro h
    have hlength := h.length_le
    rw [List.length_take] at hlength
    omega
  · intro hn
    rw [List.take_append, List.take_of_length_le hn]
    exact (List.prefix_append _ _).isInfix

namespace Heads

variable {mask : Mask symbol} {heads : Heads mask}

/-!
## Heads at the end of a text
-/

/-- No head that begins before this text goes over into it. -/
def Separate (heads : Heads mask) (text : List symbol) : Prop :=
  forall front back rest, heads.IsHead (front ++ back) -> front ≠ [] -> back ≠ [] ->
    text ≠ back ++ rest

theorem separate_of_isHead {head : List symbol} (h : heads.IsHead head) (rest : List symbol) :
    heads.Separate (head ++ rest) := by
  intro front back rest' hhead hfront hback hsplit
  exact heads.not_inside front back rest' head rest hhead hfront hback h hsplit.symm

theorem Separate.of_append {front back : List symbol} (h : heads.Separate (front ++ back)) :
    heads.Separate front := by
  intro front' back' rest hhead hfront hback hsplit
  exact h front' back' (rest ++ back) hhead hfront hback (by rw [hsplit, List.append_assoc])

theorem run_append_ne_nil_of_run {text : List symbol} (h : mask.run text ≠ [])
    (more : List symbol) : mask.run (text ++ more) ≠ [] := by
  cases text with
  | nil => exact absurd rfl h
  | cons c text => exact Mask.run_cons_ne_nil.mpr (Mask.run_cons_ne_nil.mp h)

theorem head?_append {text head rest : List symbol} (h : heads.head? text = some (head, rest))
    (more : List symbol) : heads.head? (text ++ more) = some (head, rest ++ more) := by
  rcases (heads.head?_eq_some_iff _ _ _).mp h with ⟨htext, hhead, hvalue⟩
  apply (heads.head?_eq_some_iff _ _ _).mpr
  exact ⟨by rw [htext, List.append_assoc], hhead, run_append_ne_nil_of_run hvalue more⟩

theorem head?_append_split {c : symbol} {text more head rest : List symbol}
    (hseparate : heads.Separate more)
    (h : heads.head? (c :: text ++ more) = some (head, rest)) :
    exists part, c :: text = head ++ part ∧ rest = part ++ more := by
  rcases (heads.head?_eq_some_iff _ _ _).mp h with ⟨htext, hhead, _⟩
  rcases List.append_eq_append_iff.mp htext with ⟨part, hsplit, hmore⟩ | ⟨part, hsplit, hrest⟩
  · cases part with
    | nil =>
        rw [List.append_nil] at hsplit
        exact ⟨[], by rw [hsplit, List.append_nil], hmore.symm⟩
    | cons d part =>
        rw [hsplit] at hhead
        exact absurd hmore
          (hseparate _ _ _ hhead (List.cons_ne_nil c text) (List.cons_ne_nil d part))
  · exact ⟨part, hsplit, hrest⟩

theorem head?_append_eq_none {c : symbol} {text more : List symbol}
    (hnone : heads.head? (c :: text) = none) (hnot : ¬ heads.IsHead (c :: text))
    (hseparate : heads.Separate more) : heads.head? (c :: text ++ more) = none := by
  by_contra hsome
  rcases Option.ne_none_iff_exists'.mp hsome with ⟨⟨head, rest⟩, hfound⟩
  rcases (heads.head?_eq_some_iff _ _ _).mp hfound with ⟨_, hhead, hvalue⟩
  rcases head?_append_split hseparate hfound with ⟨part, htext, hrest⟩
  cases part with
  | nil =>
      rw [List.append_nil] at htext
      rw [htext] at hnot
      exact hnot hhead
  | cons d part =>
      have hrun : mask.run (d :: part) ≠ [] := by
        rw [hrest] at hvalue
        exact Mask.run_cons_ne_nil.mpr (Mask.run_cons_ne_nil.mp hvalue)
      have hfirst : heads.head? (c :: text) = some (head, d :: part) :=
        (heads.head?_eq_some_iff _ _ _).mpr ⟨htext, hhead, hrun⟩
      rw [hnone] at hfirst
      cases hfirst

/-!
## Values at the end of a text
-/

/-- Read from the left, the text ends after a head, or in the value of one. -/
inductive InValue (heads : Heads mask) : List symbol -> Prop where
  | value {head part : List symbol} (hhead : heads.IsHead head)
      (hpart : forall c, c ∈ part -> mask.isValue c = true) : InValue heads (head ++ part)
  | past {text head rest : List symbol} (hfound : heads.head? text = some (head, rest))
      (hrest : InValue heads (mask.afterRun rest)) : InValue heads text
  | kept {c : symbol} {text : List symbol} (hnone : heads.head? (c :: text) = none)
      (hnot : ¬ heads.IsHead (c :: text)) (htext : InValue heads text) :
      InValue heads (c :: text)

theorem InValue.ne_nil {text : List symbol} (h : heads.InValue text) : text ≠ [] := by
  cases h with
  | value hhead _ => exact List.append_ne_nil_of_left_ne_nil (Heads.ne_nil hhead) _
  | past hfound _ =>
      rcases (heads.head?_eq_some_iff _ _ _).mp hfound with ⟨htext, hhead, _⟩
      rw [htext]
      exact List.append_ne_nil_of_left_ne_nil (Heads.ne_nil hhead) _
  | kept _ _ _ => exact List.cons_ne_nil _ _

theorem afterRun_append_of_ne_nil {part : List symbol} (h : mask.afterRun part ≠ [])
    (more : List symbol) : mask.afterRun (part ++ more) = mask.afterRun part ++ more := by
  unfold Mask.afterRun at h ⊢
  rw [List.dropWhile_append, if_neg (by simpa [List.isEmpty_iff] using h)]

theorem afterRun_append_of_forall {part : List symbol}
    (h : forall c, c ∈ part -> mask.isValue c = true) (more : List symbol) :
    mask.afterRun (part ++ more) = mask.afterRun more :=
  List.dropWhile_append_of_pos h

/-- What follows a text that ends in a value is read from where the value ends. -/
theorem InValue.sub_append {text more : List symbol} (h : heads.InValue text)
    (hseparate : heads.Separate more) (hvalue : mask.run more ≠ []) :
    heads.sub (text ++ more) =
      heads.sub (text ++ mask.run more) ++ heads.sub (mask.afterRun more) := by
  have hrunValue : mask.run (mask.run more) ≠ [] := by
    rw [Mask.run, List.takeWhile_eq_self_iff.mpr fun c hc => Mask.isValue_of_mem_run hc]
    exact hvalue
  have hprefix : heads.Separate (mask.run more) := by
    rw [← mask.run_append_afterRun more] at hseparate
    exact hseparate.of_append
  have hnothing : mask.afterRun (mask.run more) = [] :=
    List.dropWhile_eq_nil_iff.mpr fun c hc => Mask.isValue_of_mem_run hc
  induction h with
  | @value head part hhead hpart =>
      have hfound : forall later : List symbol, mask.run later ≠ [] ->
          heads.head? (head ++ part ++ later) = some (head, part ++ later) := by
        intro later hlater
        apply (heads.head?_eq_some_iff _ _ _).mpr
        refine ⟨List.append_assoc _ _ _, hhead, ?_⟩
        rw [Mask.run_append hpart]
        exact List.append_ne_nil_of_right_ne_nil _ hlater
      rw [sub_of_some (hfound more hvalue), sub_of_some (hfound _ hrunValue),
        afterRun_append_of_forall hpart, afterRun_append_of_forall hpart, hnothing]
      simp [sub]
  | @past text head rest hfound hrest ih =>
      have hmore := afterRun_append_of_ne_nil hrest.ne_nil
      rw [sub_of_some (head?_append hfound more), sub_of_some (head?_append hfound _), hmore,
        hmore, ih]
      simp only [List.append_assoc]
  | @kept c text hnone hnot htext ih =>
      have hnoneMore := head?_append_eq_none hnone hnot hseparate
      have hnoneRun := head?_append_eq_none hnone hnot hprefix
      rw [List.cons_append] at hnoneMore hnoneRun
      rw [List.cons_append, List.cons_append, sub_of_none hnoneMore, sub_of_none hnoneRun, ih,
        List.cons_append]

/-- What follows a text that does not end in a value is read on its own. -/
theorem sub_append_of_not_inValue {text more : List symbol} (h : ¬ heads.InValue text)
    (hseparate : heads.Separate more) :
    heads.sub (text ++ more) = heads.sub text ++ heads.sub more := by
  generalize hlength : text.length = n
  induction n using Nat.strong_induction_on generalizing text with
  | _ n ih =>
      subst hlength
      cases text with
      | nil => rfl
      | cons c text =>
          have hnot : ¬ heads.IsHead (c :: text) := by
            intro hhead
            apply h
            rw [← List.append_nil (c :: text)]
            refine InValue.value hhead ?_
            intro d hd
            cases hd
          cases hfound : heads.head? (c :: text) with
          | none =>
              have hrest : ¬ heads.InValue text := fun htext => h (.kept hfound hnot htext)
              have hnone := head?_append_eq_none hfound hnot hseparate
              rw [List.cons_append] at hnone ⊢
              rw [sub_of_none hnone, sub_of_none hfound,
                ih text.length (Nat.lt_succ_self _) hrest rfl, List.cons_append]
          | some found =>
              rcases found with ⟨head, rest⟩
              have hrest : ¬ heads.InValue (mask.afterRun rest) := fun hrest =>
                h (.past hfound hrest)
              have hne : mask.afterRun rest ≠ [] := by
                intro hnil
                rcases (heads.head?_eq_some_iff _ _ _).mp hfound with ⟨htext, hhead, _⟩
                apply h
                rw [htext]
                refine .value hhead ?_
                intro d hd
                exact List.dropWhile_eq_nil_iff.mp hnil d hd
              have hshort := shrinks _ _ _ (match?_eq_some hfound)
              rw [sub_of_some (head?_append hfound more), sub_of_some hfound,
                afterRun_append_of_ne_nil hne, ih _ hshort hrest rfl]
              simp only [List.append_assoc]

end Heads

end Foundation
end YasinMcp
