import YasinMcp.Foundation.Numeral

/-!
# Decimal texts

The decimal text of a number is read as the number, by the decoder of documents
and by the conversion of texts to integers.
-/

namespace YasinMcp
namespace Foundation

/-!
## Digits
-/

theorem isDigit_of_mem_repr_toList {n : Nat} {c : Char} (hc : c ∈ n.repr.toList) :
    Json.isDigit c = true := by
  have hdigit := Text.isDigit_of_mem_repr hc
  rw [Char.isDigit, Bool.and_eq_true, decide_eq_true_eq, decide_eq_true_eq] at hdigit
  rw [Json.isDigit, Bool.and_eq_true, decide_eq_true_eq, decide_eq_true_eq]
  exact hdigit

theorem digitsValue_eq (ds : List Char) : Json.digitsValue ds = Nat.ofDigitChars 10 ds 0 := by
  rw [Nat.ofDigitChars_eq_foldl, Json.digitsValue]
  congr 1
  funext n c
  rw [Nat.mul_comm]
  rfl

theorem digitsValue_repr (n : Nat) : Json.digitsValue n.repr.toList = n := by
  rw [digitsValue_eq, Nat.toList_repr, Nat.ofDigitChars_ten_toDigits]

theorem repr_toList_ne_nil (n : Nat) : n.repr.toList ≠ [] := by
  rw [Nat.toList_repr]
  exact Nat.toDigits_ne_nil

theorem length_repr_le_iff {n k : Nat} (hk : 0 < k) :
    n.repr.toList.length ≤ k <-> n < Nat.pow 10 k := by
  rw [Nat.toList_repr]
  exact Nat.length_toDigits_le_iff (by decide) hk

/-!
## Integers of any script
-/

/-- The interpreter reads the ASCII digits by their values. -/
def KnowsAsciiDigits (unicode : UnicodeData) : Prop :=
  forall c : Char, Json.isDigit c = true -> unicode.decimal? c = some (c.toNat - 48)

theorem plainUnicode_knowsAsciiDigits : KnowsAsciiDigits plainUnicode := by
  intro c hc
  exact if_pos hc

namespace UnicodeData

variable {unicode : UnicodeData}

theorem digits?_of_isDigit (h : KnowsAsciiDigits unicode) {cs : List Char} (hne : cs ≠ [])
    (hcs : forall c, c ∈ cs -> Json.isDigit c = true) :
    unicode.digits? cs = some (cs.map fun c => c.toNat - 48) := by
  induction cs with
  | nil => exact absurd rfl hne
  | cons c rest ih =>
      have hc := h c (hcs c List.mem_cons_self)
      cases rest with
      | nil =>
          rw [digits?, hc]
          rfl
      | cons d rest =>
          have hd : d ≠ '_' := by
            intro hunderscore
            have hdigit := hcs d (List.mem_cons_of_mem _ List.mem_cons_self)
            rw [hunderscore] at hdigit
            cases hdigit
          have hrest := ih (List.cons_ne_nil _ _) fun e he => hcs e (List.mem_cons_of_mem _ he)
          rw [digits?.eq_4 unicode c (d :: rest) (by simp) (by simp [hd]), hc, hrest]
          rfl

theorem foldl_digits (cs : List Char) (m : Nat) :
    (cs.map fun c => c.toNat - 48).foldl (fun (n : Int) (d : Nat) => n * 10 + d) m =
      ((cs.foldl (fun n c => n * 10 + (c.toNat - 48)) m : Nat) : Int) := by
  induction cs generalizing m with
  | nil => rfl
  | cons c rest ih =>
      have hnext := ih (m * 10 + (c.toNat - 48))
      rw [Int.natCast_add, Int.natCast_mul] at hnext
      exact hnext

theorem foldl_digits_repr (n : Nat) :
    (n.repr.toList.map fun c => c.toNat - 48).foldl (fun (n : Int) (d : Nat) => n * 10 + d) 0 =
      n := by
  have hvalue := foldl_digits n.repr.toList 0
  have hdigits : n.repr.toList.foldl (fun n c => n * 10 + (c.toNat - 48)) 0 = n :=
    digitsValue_repr n
  rwa [hdigits] at hvalue

theorem integer?_repr (h : KnowsAsciiDigits unicode) (n : Nat) :
    unicode.integer? n.repr = some (false, n.repr.toList.map fun c => c.toNat - 48) := by
  have hdigits : forall c, c ∈ n.repr.toList -> Json.isDigit c = true :=
    fun c hc => isDigit_of_mem_repr_toList hc
  have hspace : forall c, c ∈ n.repr.toList -> isIntegerSpace c = false := by
    intro c hc
    rw [isIntegerSpace, Text.isSpace_of_printable (Text.toNat_of_isAlphanum (by
      rw [Char.isAlphanum, Text.isDigit_of_mem_repr hc, Bool.or_true])), Bool.false_and]
  have hfront : n.repr.toList.dropWhile isIntegerSpace = n.repr.toList := by
    apply List.dropWhile_eq_self_iff.mpr
    intro hlength
    rw [hspace _ (List.getElem_mem hlength)]
    exact Bool.false_ne_true
  have hstrip : n.repr.toList.rdropWhile isIntegerSpace = n.repr.toList := by
    apply List.rdropWhile_eq_self_iff.mpr
    intro hne
    rw [hspace _ (List.getLast_mem hne)]
    exact Bool.false_ne_true
  have hread := digits?_of_isDigit h (repr_toList_ne_nil n) hdigits
  rcases List.exists_cons_of_ne_nil (repr_toList_ne_nil n) with ⟨c, rest, hcons⟩
  have hc : c ≠ '-' ∧ c ≠ '+' := by
    have hdigit := hdigits c (by rw [hcons]; exact List.mem_cons_self)
    constructor
    · intro hminus
      rw [hminus] at hdigit
      cases hdigit
    · intro hplus
      rw [hplus] at hdigit
      cases hdigit
  rw [integer?, hfront, hstrip, hcons]
  rw [hcons] at hread
  split
  · rename_i heq
    injection heq with hhead _
    exact absurd hhead hc.1
  · rename_i heq
    injection heq with hhead _
    exact absurd hhead hc.2
  · rw [hread]
    rfl

end UnicodeData

end Foundation
end YasinMcp
