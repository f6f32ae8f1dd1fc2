import YasinMcp.Foundation.Json
import YasinMcp.Foundation.Text

/-!
# Numerals

A decimal numeral stands for the double next to it.  Of that double only two
things are looked at here: whether it is zero, and its integer part.  An integer
is also read from text: in decimal digits of any script, with single underscores
between them.
-/

namespace YasinMcp
namespace Foundation

/-- The quotient, rounded to the nearest integer and to an even one between two. -/
def divHalfEven (numerator denominator : Nat) : Nat :=
  let quotient := numerator / denominator
  let remainder := numerator % denominator
  if 2 * remainder < denominator then quotient
  else if denominator < 2 * remainder then quotient + 1
  else quotient + quotient % 2

/--
The integer part of the double nearest to a fraction.  A double has 53 binary
digits, so the fraction is rounded at the last of them and cut off at the point.
-/
def doubleFloor (numerator denominator : Nat) : Nat :=
  let whole := numerator / denominator
  if whole < Nat.pow 2 53 then
    let bits := if whole = 0 then 53 else 52 - Nat.log2 whole
    divHalfEven (numerator * Nat.pow 2 bits) denominator / Nat.pow 2 bits
  else
    let shift := Nat.log2 whole - 52
    divHalfEven numerator (denominator * Nat.pow 2 shift) * Nat.pow 2 shift

namespace PyFloat

def fraction (digits : Nat) (exponent : Int) : Nat × Nat :=
  if 0 ≤ exponent then (digits * Nat.pow 10 exponent.toNat, 1)
  else (digits, Nat.pow 10 (-exponent).toNat)

def isZero : PyFloat -> Bool
  | .decimal _ digits exponent =>
      decide ((fraction digits exponent).1 * Nat.pow 2 1075 ≤ (fraction digits exponent).2)
  | _ => false

/-- What a float can be instead of having an integer part. -/
inductive NoInteger where
  | infinite
  | nan
deriving DecidableEq, Repr

/-- The integer part towards zero; numerals beyond the range of doubles are infinite. -/
def trunc : PyFloat -> Except NoInteger Int
  | .decimal negative digits exponent =>
      let n := doubleFloor (fraction digits exponent).1 (fraction digits exponent).2
      if Nat.pow 2 1024 ≤ n then .error .infinite
      else .ok (if negative then -n else n)
  | .infinity _ => .error .infinite
  | .nan => .error .nan

example : trunc (.decimal true 25 (-1)) = .ok (-2) := by decide +kernel
example : trunc (.decimal false 9007199254740993 0) = .ok 9007199254740992 := by decide +kernel

end PyFloat

/-- What the interpreter knows of characters beyond their classes. -/
structure UnicodeData where
  /-- The case folding of a character. -/
  fold : Char -> List Char
  /-- The value of a decimal digit of some script. -/
  decimal? : Char -> Option Nat
  fold_ne_nil : forall c, fold c ≠ []
  decimal_lt : forall c n, decimal? c = some n -> n < 10

def plainUnicode : UnicodeData where
  fold := Text.lowerChar
  decimal? c := if Json.isDigit c then some (c.toNat - 48) else none
  fold_ne_nil := Text.lowerChar_ne_nil
  decimal_lt c n h := by
    split at h
    · rename_i hdigit
      cases h
      simp only [Json.isDigit, Bool.and_eq_true, decide_eq_true_eq] at hdigit
      have hle : c.toNat ≤ 57 := hdigit.2
      omega
    · cases h

namespace UnicodeData

variable (unicode : UnicodeData)

def casefold (s : String) : String :=
  String.ofList (s.toList.flatMap unicode.fold)

/-- Digits with at most one underscore between two of them. -/
def digits? : List Char -> Option (List Nat)
  | [] => none
  | [c] => (unicode.decimal? c).map fun d => [d]
  | c :: '_' :: rest => do
      let d ← unicode.decimal? c
      let ds ← digits? rest
      some (d :: ds)
  | c :: rest => do
      let d ← unicode.decimal? c
      let ds ← digits? rest
      some (d :: ds)

/-- The information separators are white space, but not around an integer. -/
def isIntegerSpace (c : Char) : Bool :=
  Text.isSpace c && !(28 ≤ c.toNat && c.toNat ≤ 31)

/-- The sign and the digits of an integer with white space around it. -/
def integer? (s : String) : Option (Bool × List Nat) :=
  match (s.toList.dropWhile isIntegerSpace).rdropWhile isIntegerSpace with
  | '-' :: rest => (unicode.digits? rest).map fun ds => (true, ds)
  | '+' :: rest => (unicode.digits? rest).map fun ds => (false, ds)
  | cs => (unicode.digits? cs).map fun ds => (false, ds)

example : plainUnicode.integer? " -1_0\n" = some (true, [1, 0]) := by decide
example : plainUnicode.integer? "1__0" = none := by decide
example : plainUnicode.integer? "\u001c5" = none := by decide

theorem casefold_ne_empty {s : String} (h : s ≠ "") : unicode.casefold s ≠ "" := by
  intro hempty
  rw [casefold, ← String.toList_eq_nil_iff, String.toList_ofList, List.flatMap_eq_nil_iff] at hempty
  rw [ne_eq, ← String.toList_eq_nil_iff] at h
  rcases List.exists_cons_of_ne_nil h with ⟨c, rest, hs⟩
  exact unicode.fold_ne_nil c (hempty c (by rw [hs]; exact List.mem_cons_self))

end UnicodeData

end Foundation
end YasinMcp
