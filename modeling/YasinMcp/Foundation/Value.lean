import YasinMcp.Foundation.Dict

/-!
# Dynamically typed values

Arguments, context metadata and decoded documents are values of one dynamic
type.  A float keeps the sign, digits and decimal exponent of its text; nothing
here computes with it.  A mapping key that is not a string is known only by the
text its string conversion yields.
-/

namespace YasinMcp
namespace Foundation

inductive Key where
  | str (text : String)
  | other (text : String)
deriving DecidableEq, Repr

def Key.text : Key -> String
  | .str text => text
  | .other text => text

instance : Coe String Key := ⟨Key.str⟩

inductive PyFloat where
  | decimal (negative : Bool) (digits : Nat) (exponent : Int)
  | infinity (negative : Bool)
  | nan
deriving DecidableEq, Repr

inductive Value where
  | none
  | bool (b : Bool)
  | int (n : Int)
  | float (x : PyFloat)
  | str (s : String)
  | list (items : List Value)
  | tuple (items : List Value)
  | dict (entries : List (Key × Value))

namespace Value

def typeName : Value -> String
  | .none => "NoneType"
  | .bool _ => "bool"
  | .int _ => "int"
  | .float _ => "float"
  | .str _ => "str"
  | .list _ => "list"
  | .tuple _ => "tuple"
  | .dict _ => "dict"

def ofOption : Option String -> Value
  | .none => .none
  | .some s => .str s

/-!
## Decidable equality
-/

mutual

def beq : Value -> Value -> Bool
  | .none, .none => true
  | .bool a, .bool b => a == b
  | .int a, .int b => a == b
  | .float a, .float b => a == b
  | .str a, .str b => a == b
  | .list xs, .list ys => beqList xs ys
  | .tuple xs, .tuple ys => beqList xs ys
  | .dict xs, .dict ys => beqEntries xs ys
  | _, _ => false

def beqList : List Value -> List Value -> Bool
  | [], [] => true
  | x :: xs, y :: ys => beq x y && beqList xs ys
  | _, _ => false

def beqEntries : List (Key × Value) -> List (Key × Value) -> Bool
  | [], [] => true
  | (k, x) :: xs, (j, y) :: ys => k == j && beq x y && beqEntries xs ys
  | _, _ => false

end

mutual

theorem beq_iff : forall a b : Value, beq a b = true <-> a = b
  | .none, b => by cases b <;> simp [beq]
  | .bool _, b => by cases b <;> simp [beq]
  | .int _, b => by cases b <;> simp [beq]
  | .float _, b => by cases b <;> simp [beq]
  | .str _, b => by cases b <;> simp [beq]
  | .list xs, b => by cases b <;> simp [beq, beqList_iff xs]
  | .tuple xs, b => by cases b <;> simp [beq, beqList_iff xs]
  | .dict xs, b => by cases b <;> simp [beq, beqEntries_iff xs]

theorem beqList_iff : forall xs ys : List Value, beqList xs ys = true <-> xs = ys
  | [], ys => by cases ys <;> simp [beqList]
  | x :: xs, ys => by cases ys <;> simp [beqList, beq_iff x, beqList_iff xs]

theorem beqEntries_iff :
    forall xs ys : List (Key × Value), beqEntries xs ys = true <-> xs = ys
  | [], ys => by cases ys <;> simp [beqEntries]
  | (k, x) :: xs, ys => by
      cases ys with
      | nil => simp [beqEntries]
      | cons entry ys =>
          rcases entry with ⟨j, y⟩
          simp [beqEntries, beq_iff x, beqEntries_iff xs]

end

instance : DecidableEq Value :=
  fun a b => decidable_of_iff (beq a b = true) (beq_iff a b)

example : Value.dict [("a", .list [.int 1, .none])] ≠ .dict [("a", .list [.int 1])] := by
  decide

end Value

/-- The interpreter's two conversions of a value to text, and its alphanumeric characters. -/
structure Builtins where
  str : Value -> String
  repr : Value -> String
  isAlnum : Char -> Bool

/-- Conversions that show every value by its type; only ASCII is alphanumeric. -/
def plainBuiltins : Builtins where
  str v := v.typeName
  repr v := v.typeName
  isAlnum := Char.isAlphanum

end Foundation
end YasinMcp
