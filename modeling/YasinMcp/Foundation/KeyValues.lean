import YasinMcp.Foundation.KeyPattern
import YasinMcp.Foundation.Text

/-!
# Keys and values in free text

The characters of the patterns that look for secrets: a key in any case, a colon or an
equals sign between white space, and a value.  The patterns differ in their keys, in the
characters of a value and in the mask.
-/

namespace YasinMcp
namespace Foundation

/-- The letter a character matches when case is ignored; four letters are not ASCII. -/
def ignoreCase (c : Char) : Char :=
  let n := c.toNat
  if 65 ≤ n && n ≤ 90 then Char.ofNat (n + 32)
  else if n == 0x130 || n == 0x131 then 'i'
  else if n == 0x17f then 's'
  else if n == 0x212a then 'k'
  else c

def isKeySeparator (c : Char) : Bool :=
  c == ':' || c == '='

theorem isKeySeparator_iff (c : Char) : isKeySeparator c = true <-> c = ':' ∨ c = '=' := by
  rw [isKeySeparator, Bool.or_eq_true, beq_iff_eq, beq_iff_eq]

theorem ignoreCase_cases (c : Char) :
    ignoreCase c = c ∨
      (64 < c.toNat ∧ c.toNat < 91 ∨ c.toNat = 0x130 ∨ c.toNat = 0x131 ∨ c.toNat = 0x17f ∨
        c.toNat = 0x212a) ∧
      96 < (ignoreCase c).toNat ∧ (ignoreCase c).toNat < 123 := by
  unfold ignoreCase
  dsimp only
  split
  · next hupper =>
      rw [Bool.and_eq_true, decide_eq_true_eq, decide_eq_true_eq] at hupper
      have hvalid : (c.toNat + 32).isValidChar := Or.inl (by omega)
      refine Or.inr ⟨Or.inl (by omega), ?_⟩
      have hletter : (Char.ofNat (c.toNat + 32)).toNat = c.toNat + 32 := by
        rw [Char.ofNat, dif_pos hvalid]
        rfl
      omega
  · split
    · next hi =>
        rw [Bool.or_eq_true, beq_iff_eq, beq_iff_eq] at hi
        exact Or.inr ⟨by omega, by decide⟩
    · split
      · next hs =>
          rw [beq_iff_eq] at hs
          exact Or.inr ⟨by omega, by decide⟩
      · split
        · next hk =>
            rw [beq_iff_eq] at hk
            exact Or.inr ⟨by omega, by decide⟩
        · exact Or.inl rfl

theorem isSpace_ignoreCase (c : Char) : Text.isSpace (ignoreCase c) = Text.isSpace c := by
  rcases ignoreCase_cases c with hsame | ⟨hletter, hlow, hhigh⟩
  · rw [hsame]
  · rw [Text.isSpace_of_printable ⟨by omega, by omega⟩]
    unfold Text.isSpace
    symm
    simp only [Bool.or_eq_false_iff, Bool.and_eq_false_iff, decide_eq_false_iff_not,
      beq_eq_false_iff_ne]
    omega

theorem isKeySeparator_ignoreCase (c : Char) :
    isKeySeparator (ignoreCase c) = isKeySeparator c := by
  have hnot : forall d : Char, d.toNat ≠ 58 -> d.toNat ≠ 61 -> isKeySeparator d = false := by
    intro d hcolon hequals
    rw [← Bool.not_eq_true, isKeySeparator_iff]
    intro hseparator
    rcases hseparator with hd | hd
    · exact hcolon (by rw [hd]; rfl)
    · exact hequals (by rw [hd]; rfl)
  rcases ignoreCase_cases c with hsame | ⟨hletter, hlow, hhigh⟩
  · rw [hsame]
  · rw [hnot c (by omega) (by omega), hnot _ (by omega) (by omega)]

theorem isSpace_of_isKeySeparator (c : Char) (h : isKeySeparator c = true) :
    Text.isSpace c = false := by
  rcases (isKeySeparator_iff c).mp h with hcolon | hequals
  · rw [hcolon]
    rfl
  · rw [hequals]
    rfl

/-- Keys and values as the patterns write them, for a mask without a separator. -/
def keyValues (mask : Mask Char)
    (hvalue : forall c, mask.isValue c = true -> Text.isSpace c = false)
    (hmask : forall c, c ∈ mask.text -> isKeySeparator c = false) : Alphabet mask where
  fold := ignoreCase
  isBlank := Text.isSpace
  isSeparator := isKeySeparator
  isBlank_fold := isSpace_ignoreCase
  isSeparator_fold := isKeySeparator_ignoreCase
  isBlank_of_isSeparator := isSpace_of_isKeySeparator
  isBlank_of_isValue := hvalue
  isSeparator_of_mem_mask := hmask

end Foundation
end YasinMcp
