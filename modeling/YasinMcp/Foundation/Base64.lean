/-!
# Base64

The decoder of the host language in its strict mode: groups of four characters
of the alphabet, padding in the last group only.  Padding after a complete last
group is passed over, and the bits that padding cuts off are not looked at.
-/

namespace YasinMcp
namespace Foundation
namespace Base64

def digit? (c : Char) : Option Nat :=
  if 'A' ≤ c && c ≤ 'Z' then some (c.toNat - 65)
  else if 'a' ≤ c && c ≤ 'z' then some (c.toNat - 71)
  else if '0' ≤ c && c ≤ '9' then some (c.toNat + 4)
  else if c = '+' then some 62
  else if c = '/' then some 63
  else none

def decode? : List Char -> Option (List UInt8)
  | [] => some []
  | [a, b, '=', '='] => do
      let a ← digit? a
      let b ← digit? b
      some [UInt8.ofNat (a * 4 + b / 16)]
  | [a, b, c, '='] => do
      let a ← digit? a
      let b ← digit? b
      let c ← digit? c
      some [UInt8.ofNat (a * 4 + b / 16), UInt8.ofNat (b % 16 * 16 + c / 4)]
  | a :: b :: c :: d :: rest => do
      let a ← digit? a
      let b ← digit? b
      let c ← digit? c
      let d ← digit? d
      let bytes ← (if rest.all (· == '=') then some [] else decode? rest)
      some (UInt8.ofNat (a * 4 + b / 16) :: UInt8.ofNat (b % 16 * 16 + c / 4) ::
        UInt8.ofNat (c % 4 * 64 + d) :: bytes)
  | _ => none

example : decode? "eWFzaW4+/w==".toList = some [0x79, 0x61, 0x73, 0x69, 0x6e, 0x3e, 0xff] := by
  decide

example : decode? "eWF=aW4=".toList = none := by decide
example : decode? "eWFz=".toList = some [0x79, 0x61, 0x73] := by decide

end Base64
end Foundation
end YasinMcp
