import Mathlib.Data.List.Sort
import YasinMcp.Foundation.Json

/-!
# Writing JSON texts

The encoder of the host language for flat objects, without white space.  Records
are written with the members sorted by name and everything but printable ASCII
escaped, requests with the members in order and only what must be escaped.
-/

namespace YasinMcp
namespace Foundation
namespace Json

/-- The escapes that are written; a slash stands for itself. -/
def writtenEscapes : List (Char × Char) :=
  simpleEscapes.filter fun escape => escape.1 ≠ '/'

def hex4 (n : Nat) : List Char :=
  [n / 4096 % 16, n / 256 % 16, n / 16 % 16, n % 16].map Nat.digitChar

def unicodeEscape (n : Nat) : List Char :=
  '\\' :: 'u' :: hex4 n

def escaped (c : Char) : List Char :=
  match writtenEscapes.find? fun escape => escape.2 = c with
  | some escape => ['\\', escape.1]
  | none =>
      if 0x20 ≤ c.toNat ∧ c.toNat ≤ 0x7e then [c]
      else if c.toNat < 0x10000 then unicodeEscape c.toNat
      else
        unicodeEscape (0xd800 + (c.toNat - 0x10000) / 0x400) ++
          unicodeEscape (0xdc00 + (c.toNat - 0x10000) % 0x400)

def encodeString (s : String) : String :=
  String.ofList ('"' :: s.toList.flatMap escaped ++ ['"'])

/-- The integer has more digits than the conversion limit. -/
def BeyondDigits (n : Int) : Prop :=
  Nat.pow 10 maxIntDigits ≤ n.natAbs

instance (n : Int) : Decidable (BeyondDigits n) := Nat.decLe _ _

theorem thousand_le_pow {k : Nat} (h : 3 ≤ k) : 1000 ≤ Nat.pow 10 k :=
  Nat.pow_le_pow_right (n := 10) (by decide) h

theorem not_beyondDigits_of_lt {n : Int} (h : n.natAbs < 1000) : ¬ BeyondDigits n := by
  intro hbeyond
  have hle : 1000 ≤ n.natAbs := (thousand_le_pow (k := maxIntDigits) (by decide)).trans hbeyond
  omega

def encodeScalar? (py : Builtins) : Value -> Option String
  | .none => some "null"
  | .bool b => some (if b then "true" else "false")
  | .int n => if BeyondDigits n then none else some (toString n)
  | .float .nan => some "NaN"
  | .float (.infinity negative) => some (if negative then "-Infinity" else "Infinity")
  | .float x => some (py.repr (.float x))
  | .str s => some (encodeString s)
  | _ => none

/-- An object of members whose values are written already. -/
def encodeObject (members : List (String × String)) : String :=
  "\x7b" ++
    ",".intercalate
      ((members.insertionSort fun a b => a.1 ≤ b.1).map fun entry =>
        encodeString entry.1 ++ ":" ++ entry.2) ++
    "\x7d"

def rawEscaped (c : Char) : List Char :=
  match writtenEscapes.find? fun escape => escape.2 = c with
  | some escape => ['\\', escape.1]
  | none => if c.toNat < 0x20 then unicodeEscape c.toNat else [c]

def writeString (s : String) : String :=
  String.ofList ('"' :: s.toList.flatMap rawEscaped ++ ['"'])

/-- An object of members whose values are written already, in their order. -/
def writeObject (members : List (String × String)) : String :=
  "\x7b" ++
    ",".intercalate (members.map fun entry => writeString entry.1 ++ ":" ++ entry.2) ++
    "\x7d"

example : encodeObject [("b", encodeString "é\n"), ("a", "3")] =
    "\x7b\"a\":3,\"b\":\"\\u00e9\\n\"\x7d" := by
  decide +kernel

end Json
end Foundation
end YasinMcp
