import YasinMcp.Foundation.Value

/-!
# Decoding JSON texts

The decoder of the host language: strict control characters, {lit}`NaN` and
{lit}`Infinity` accepted, the last of several equal keys kept.  Nesting is
bounded by the recursion limit and integers by the digit limit of the
interpreter; running into either is an error of its own kind.

Every inner loop consumes a character at each turn, so the length of the text
bounds its turns.  A lone surrogate escape is read as the replacement character.
-/

namespace YasinMcp
namespace Foundation
namespace Json

inductive LoadsError where
  /-- The text is not a JSON document. -/
  | decode
  /-- An integer literal with this many digits exceeds the conversion limit. -/
  | digits (count : Nat)
  /-- The nesting exceeds the recursion limit. -/
  | recursion
deriving DecidableEq, Repr

def maxIntDigits : Nat := 4300

def skipSpace (cs : List Char) : List Char :=
  cs.dropWhile fun c => c = ' ' || c = '\t' || c = '\n' || c = '\r'

/-!
## Strings
-/

def hexDigit? (c : Char) : Option Nat :=
  if '0' ≤ c && c ≤ '9' then some (c.toNat - 48)
  else if 'a' ≤ c && c ≤ 'f' then some (c.toNat - 87)
  else if 'A' ≤ c && c ≤ 'F' then some (c.toNat - 55)
  else none

def hex4? : List Char -> Option (Nat × List Char)
  | a :: b :: c :: d :: rest => do
      let a ← hexDigit? a
      let b ← hexDigit? b
      let c ← hexDigit? c
      let d ← hexDigit? d
      some (((a * 16 + b) * 16 + c) * 16 + d, rest)
  | _ => none

def isHighSurrogate (n : Nat) : Bool := 0xd800 ≤ n && n ≤ 0xdbff

def isLowSurrogate (n : Nat) : Bool := 0xdc00 ≤ n && n ≤ 0xdfff

/-- The character of a scalar value; a surrogate has none. -/
def charOf (n : Nat) : Char :=
  if isHighSurrogate n || isLowSurrogate n then Char.ofNat 0xfffd else Char.ofNat n

/-- The escape after {lit}`\u`, joining a surrogate pair. -/
def unicodeEscape? (cs : List Char) : Option (Char × List Char) := do
  let (n, rest) ← hex4? cs
  match isHighSurrogate n, rest with
  | true, '\\' :: 'u' :: second => do
      let (m, after) ← hex4? second
      if isLowSurrogate m then
        some (Char.ofNat (0x10000 + (n - 0xd800) * 0x400 + (m - 0xdc00)), after)
      else some (charOf n, rest)
  | _, _ => some (charOf n, rest)

def simpleEscapes : List (Char × Char) :=
  [('"', '"'), ('\\', '\\'), ('/', '/'), ('b', Char.ofNat 8), ('f', Char.ofNat 12),
    ('n', '\n'), ('r', '\r'), ('t', '\t')]

def escape? : List Char -> Option (Char × List Char)
  | [] => none
  | c :: rest =>
      if c = 'u' then unicodeEscape? rest
      else
        (simpleEscapes.find? fun escape => escape.1 = c).map fun escape => (escape.2, rest)

def scanChars : Nat -> List Char -> List Char -> Except LoadsError (String × List Char)
  | 0, _, _ => .error .decode
  | _ + 1, [], _ => .error .decode
  | fuel + 1, c :: rest, seen =>
      if c = '"' then .ok (String.ofList seen.reverse, rest)
      else if c.toNat < 0x20 then .error .decode
      else if c = '\\' then
        match escape? rest with
        | some (d, after) => scanChars fuel after (d :: seen)
        | none => .error .decode
      else scanChars fuel rest (c :: seen)

def scanString (cs : List Char) : Except LoadsError (String × List Char) :=
  scanChars (cs.length + 1) cs []

/-!
## Numbers
-/

def isDigit (c : Char) : Bool := '0' ≤ c && c ≤ '9'

def digitsValue (ds : List Char) : Nat :=
  ds.foldl (fun n c => n * 10 + (c.toNat - 48)) 0

def integerPart? : List Char -> Option (List Char × List Char)
  | '0' :: rest => some (['0'], rest)
  | c :: rest =>
      if isDigit c then some ((c :: rest).takeWhile isDigit, (c :: rest).dropWhile isDigit)
      else none
  | [] => none

def fractionPart : List Char -> List Char × List Char
  | '.' :: rest =>
      if (rest.takeWhile isDigit).isEmpty then ([], '.' :: rest)
      else (rest.takeWhile isDigit, rest.dropWhile isDigit)
  | cs => ([], cs)

/-- A decimal exponent, absent when no digit follows its mark. -/
def exponentPart? : List Char -> Option (Int × List Char)
  | c :: rest =>
      if c = 'e' || c = 'E' then
        let sign := rest.head?
        let ds := if sign = some '+' || sign = some '-' then rest.tail else rest
        if (ds.takeWhile isDigit).isEmpty then none
        else
          let n : Int := digitsValue (ds.takeWhile isDigit)
          some (if sign = some '-' then -n else n, ds.dropWhile isDigit)
      else none
  | [] => none

def scanNumber (negative : Bool) (cs : List Char) : Except LoadsError (Value × List Char) :=
  match integerPart? cs with
  | none => .error .decode
  | some (whole, rest) =>
      let (fraction, rest) := fractionPart rest
      match exponentPart? rest with
      | some (e, rest) =>
          .ok (.float (.decimal negative (digitsValue (whole ++ fraction))
            (e - fraction.length)), rest)
      | none =>
          if fraction.isEmpty then
            if maxIntDigits < whole.length then .error (.digits whole.length)
            else
              let n : Int := digitsValue whole
              .ok (.int (if negative then -n else n), rest)
          else
            .ok (.float (.decimal negative (digitsValue (whole ++ fraction))
              (-fraction.length)), rest)

/-!
## Values
-/

def scanMembers (value : List Char -> Except LoadsError (Value × List Char)) :
    Nat -> List Char -> List (Key × Value) -> Except LoadsError (Value × List Char)
  | 0, _, _ => .error .decode
  | fuel + 1, cs, seen =>
      match cs with
      | '"' :: rest => do
          let (k, rest) ← scanString rest
          match skipSpace rest with
          | ':' :: rest => do
              let (v, rest) ← value (skipSpace rest)
              let seen := seen ++ [(Key.str k, v)]
              match skipSpace rest with
              | ',' :: rest => scanMembers value fuel (skipSpace rest) seen
              | '}' :: rest => .ok (.dict (Dict.ofEntries seen).entries, rest)
              | _ => .error .decode
          | _ => .error .decode
      | _ => .error .decode

def scanItems (value : List Char -> Except LoadsError (Value × List Char)) :
    Nat -> List Char -> List Value -> Except LoadsError (Value × List Char)
  | 0, _, _ => .error .decode
  | fuel + 1, cs, seen => do
      let (v, rest) ← value cs
      let seen := seen ++ [v]
      match skipSpace rest with
      | ',' :: rest => scanItems value fuel (skipSpace rest) seen
      | ']' :: rest => .ok (.list seen, rest)
      | _ => .error .decode

def atoms : List (String × Value) :=
  [("null", .none), ("true", .bool true), ("false", .bool false), ("NaN", .float .nan),
    ("Infinity", .float (.infinity false)), ("-Infinity", .float (.infinity true))]

def scanAtom (cs : List Char) : Except LoadsError (Value × List Char) :=
  match atoms.find? fun atom => atom.1.toList.isPrefixOf cs with
  | some (name, value) => .ok (value, cs.drop name.length)
  | none => if cs.head? = some '-' then scanNumber true cs.tail else scanNumber false cs

/-- One value; the first argument bounds the nesting that may still follow. -/
def scanOnce : Nat -> List Char -> Except LoadsError (Value × List Char)
  | _, [] => .error .decode
  | depth, c :: rest =>
      if c = '"' then (scanString rest).map fun (s, rest) => (.str s, rest)
      else if c = '{' then
        match depth with
        | 0 => .error .recursion
        | depth + 1 =>
            match skipSpace rest with
            | '}' :: rest => .ok (.dict [], rest)
            | cs => scanMembers (scanOnce depth) cs.length cs []
      else if c = '[' then
        match depth with
        | 0 => .error .recursion
        | depth + 1 =>
            match skipSpace rest with
            | ']' :: rest => .ok (.list [], rest)
            | cs => scanItems (scanOnce depth) cs.length cs []
      else scanAtom (c :: rest)

def loads (recursionLimit : Nat) (s : String) : Except LoadsError Value :=
  match s.toList with
  | '\uFEFF' :: _ => .error .decode
  | cs => do
      let (v, rest) ← scanOnce recursionLimit (skipSpace cs)
      if (skipSpace rest).isEmpty then .ok v else .error .decode

example : loads 9 "\x7b\"a\": [1, -2.5e1, \"\\u0041\"], \"a\": null\x7d" =
    .ok (.dict [("a", .none)]) := by decide +kernel
example : loads 9 "[1, -2.5e1, \"x\\ty\"] " =
    .ok (.list [.int 1, .float (.decimal true 25 0), .str "x\ty"]) := by decide +kernel
example : loads 2 "[[[1]]]" = .error .recursion := by decide +kernel

end Json
end Foundation
end YasinMcp
