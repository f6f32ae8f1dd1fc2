import YasinMcp.Adapters.Requester
import YasinMcp.Foundation.Numeral

/-!
# Payloads

What the adapters do with a decoded answer before they know its shape: test it,
convert it to an integer, go over its items, look for a name in it.  Each of
these raises an exception of the interpreter on some values.

A step answers for its failures when every exception of it is an error of the
application; otherwise the value that made it fail was malformed.
-/

namespace YasinMcp

open Foundation

namespace Foundation
namespace Value

def truthy : Value -> Bool
  | .none => false
  | .bool b => b
  | .int n => n != 0
  | .float x => !x.isZero
  | .str s => s != ""
  | .list items => !items.isEmpty
  | .tuple items => !items.isEmpty
  | .dict entries => !entries.isEmpty

def orElse (v w : Value) : Value :=
  if v.truthy then v else w

def toInt (py : Builtins) (unicode : UnicodeData) : Value -> Except PyException Int
  | .int n => .ok n
  | .bool b => .ok (if b then 1 else 0)
  | .float x =>
      match x.trunc with
      | .ok n => .ok n
      | .error .infinite => .error (.overflowError "cannot convert float infinity to integer")
      | .error .nan => .error (.valueError "cannot convert float NaN to integer")
  | .str s =>
      match unicode.integer? s with
      | .none =>
          .error (.valueError
            ("invalid literal for int() with base 10: " ++ py.repr (.str s)))
      | .some (negative, ds) =>
          if Json.maxIntDigits < ds.length then .error (.valueError (digitLimitMessage ds.length))
          else
            let n : Int := ds.foldl (fun n d => n * 10 + d) 0
            .ok (if negative then -n else n)
  | v =>
      .error (.typeError
        ("int() argument must be a string, a bytes-like object or a real number, not '" ++
          v.typeName ++ "'"))

/-- The items that a loop goes over: the names of a mapping, the characters of a string. -/
def items : Value -> Except PyException (List Value)
  | .list items => .ok items
  | .tuple items => .ok items
  | .dict entries => .ok (entries.map fun entry => .str entry.1.text)
  | .str s => .ok (s.toList.map fun c => .str c.toString)
  | v => .error (.typeError ("'" ++ v.typeName ++ "' object is not iterable"))

/-- Whether the name is a member of the value, an item of it, or a part of its text. -/
def hasName (name : String) : Value -> Except PyException Bool
  | .dict entries => .ok (Dict.lookupIn (Key.str name) entries).isSome
  | .list items => .ok (items.contains (.str name))
  | .tuple items => .ok (items.contains (.str name))
  | .str s => .ok (Text.isPartOf name s)
  | v => .error (.typeError ("argument of type '" ++ v.typeName ++ "' is not iterable"))

end Value
end Foundation

/-!
## Reading members
-/

def intText (n : Int) : Except PyException String :=
  if Json.BeyondDigits n then
    .error (.valueError
      ("Exceeds the limit (4300 digits) for integer string conversion; use " ++
        "sys.set_int_max_str_digits() to increase the limit"))
  else .ok (toString n)

def member (v : Value) (name : String) (default : Value := .none) : Except PyException Value := do
  let found ← v.get name
  .ok (found.getD default)

def memberText (py : Builtins) (v : Value) (name : String) (default : String := "") :
    Except PyException String := do
  let found ← member v name (.str default)
  found.toStr py

def memberInt (py : Builtins) (unicode : UnicodeData) (v : Value) (name : String) :
    Except PyException Int := do
  let found ← member v name (.int 0)
  found.toInt py unicode

def memberTrue (v : Value) (name : String) : Except PyException Bool := do
  let found ← member v name (.bool false)
  .ok found.truthy

def memberOrEmpty (v : Value) (name : String) : Except PyException Value := do
  let found ← member v name
  .ok (found.orElse (.dict []))

/-!
## Failures that are answered for
-/

def IsMcpError : PyException -> Prop
  | .mcp _ => True
  | _ => False

/-- The step returns, or raises an error of the application. -/
def AnswersFor {a : Type} (x : Except PyException a) : Prop :=
  RaisesOnly IsMcpError x

def IsStrable (v : Value) : Prop :=
  v.beyondDigits = false

def IsIntable (unicode : UnicodeData) : Value -> Prop
  | .int _ => True
  | .bool _ => True
  | .float x => exists n, x.trunc = .ok n
  | .str s => exists sign ds, unicode.integer? s = some (sign, ds) ∧ ds.length ≤ Json.maxIntDigits
  | _ => False

def IsIterable : Value -> Prop
  | .list _ => True
  | .tuple _ => True
  | .dict _ => True
  | .str _ => True
  | _ => False

def IsDict : Value -> Prop
  | .dict _ => True
  | _ => False

def MemberIs (v : Value) (name : String) (p : Value -> Prop) : Prop :=
  forall member, v.get name = .ok (some member) -> p member

def HasTexts (v : Value) (names : List String) : Prop :=
  IsDict v ∧ forall name, name ∈ names -> MemberIs v name IsStrable

section

variable {a b : Type}

theorem answersFor_ok (x : a) : AnswersFor (.ok x : Except PyException a) :=
  raisesOnly_ok x

theorem answersFor_error_iff (e : PyException) :
    AnswersFor (.error e : Except PyException a) <-> IsMcpError e := by
  constructor
  · intro h
    exact h e rfl
  · exact raisesOnly_error

/-- A sequence answers for its failures when its first step does, and its second if it comes to it. -/
theorem answersFor_bind_iff {x : Except PyException a} {f : a -> Except PyException b} :
    AnswersFor (x >>= f) <-> AnswersFor x ∧ forall value, x = .ok value -> AnswersFor (f value) := by
  cases x with
  | error e =>
      rw [error_bind, answersFor_error_iff, answersFor_error_iff]
      exact (and_iff_left fun value h => by cases h).symm
  | ok value =>
      rw [ok_bind]
      constructor
      · intro h
        refine ⟨answersFor_ok value, ?_⟩
        intro other hother
        cases hother
        exact h
      · intro h
        exact h.2 value rfl

theorem answersFor_map_iff {f : a -> b} {x : Except PyException a} :
    AnswersFor (x.map f) <-> AnswersFor x := by
  cases x with
  | error e => rw [Except.map, answersFor_error_iff, answersFor_error_iff]
  | ok value => exact iff_of_true (answersFor_ok _) (answersFor_ok _)

/-- The answer is a value of this shape, or an error of the application. -/
def GoodAnswer (shape : Value -> Prop) : Except PyException Value -> Prop
  | .ok payload => shape payload
  | .error e => IsMcpError e

theorem answersFor_answer_iff {shape : Value -> Prop} {read : Value -> Except PyException a}
    (h : forall payload, AnswersFor (read payload) <-> shape payload)
    (answer : Except PyException Value) :
    AnswersFor (answer >>= read) <-> GoodAnswer shape answer := by
  cases answer with
  | error e => exact answersFor_error_iff e
  | ok payload => exact h payload

/-!
## Steps that a condition decides
-/

/--
The step returns where the condition holds, and elsewhere raises what is not an error of
the application.
-/
structure Checks {a : Type} (x : Except PyException a) (fits : Prop) : Prop where
  returns : fits -> exists value, x = .ok value
  fails : ¬ fits -> exists e, x = .error e ∧ ¬ IsMcpError e

variable {x : Except PyException a} {fits fits' : Prop}

theorem Checks.answersFor_iff (h : Checks x fits) : AnswersFor x <-> fits := by
  by_cases hfits : fits
  · rcases h.returns hfits with ⟨value, hx⟩
    exact iff_of_true (hx ▸ answersFor_ok value) hfits
  · rcases h.fails hfits with ⟨e, hx, he⟩
    subst hx
    rw [answersFor_error_iff]
    exact iff_of_false he hfits

theorem Checks.of_ok (h : Checks x fits) {value : a} (hx : x = .ok value) : fits := by
  by_contra hfits
  rcases h.fails hfits with ⟨e, he, _⟩
  rw [hx] at he
  cases he

theorem Checks.congr (h : Checks x fits) (hiff : fits <-> fits') : Checks x fits' where
  returns := fun hfits => h.returns (hiff.mpr hfits)
  fails := fun hfits => h.fails fun hold => hfits (hiff.mp hold)

theorem checks_ok (value : a) : Checks (.ok value : Except PyException a) True where
  returns := fun _ => ⟨value, rfl⟩
  fails := fun h => absurd trivial h

theorem checks_error {e : PyException} (he : ¬ IsMcpError e) :
    Checks (.error e : Except PyException a) False where
  returns := fun h => h.elim
  fails := fun _ => ⟨e, rfl, he⟩

theorem Checks.bind_value {f : a -> Except PyException b} {next : a -> Prop} (h : Checks x fits)
    (hf : forall value, x = .ok value -> Checks (f value) (next value)) :
    Checks (x >>= f) (fits ∧ forall value, x = .ok value -> next value) where
  returns := by
    intro hboth
    rcases h.returns hboth.1 with ⟨value, hx⟩
    rw [hx, ok_bind]
    exact (hf value hx).returns (hboth.2 value hx)
  fails := by
    intro hnot
    by_cases hfits : fits
    · rcases h.returns hfits with ⟨value, hx⟩
      rw [hx, ok_bind]
      refine (hf value hx).fails fun hnext => hnot ⟨hfits, fun other hother => ?_⟩
      rw [hx] at hother
      cases hother
      exact hnext
    · rcases h.fails hfits with ⟨e, hx, he⟩
      exact ⟨e, by rw [hx]; rfl, he⟩

theorem Checks.bind {f : a -> Except PyException b} (h : Checks x fits)
    (hf : forall value, x = .ok value -> Checks (f value) fits') :
    Checks (x >>= f) (fits ∧ fits') := by
  refine (h.bind_value hf).congr (and_congr_right fun hfits => ?_)
  rcases h.returns hfits with ⟨value, hx⟩
  exact ⟨fun hall => hall value hx, fun hnext _ _ => hnext⟩

theorem Checks.branch {test : Except PyException Bool} {yes no : Except PyException b}
    {fitsYes fitsNo : Prop} (h : Checks test fits) (hyes : Checks yes fitsYes)
    (hno : Checks no fitsNo) :
    Checks (test >>= fun found => if found then yes else no)
      (fits ∧ (test = .ok true -> fitsYes) ∧ (test = .ok false -> fitsNo)) := by
  cases htest : test with
  | error e =>
      rw [htest] at h
      have hfits : ¬ fits := by
        intro hfits
        rcases h.returns hfits with ⟨value, hvalue⟩
        cases hvalue
      refine ⟨fun hboth => absurd hboth.1 hfits, fun _ => ?_⟩
      rcases h.fails hfits with ⟨e', he', hbad⟩
      cases he'
      exact ⟨e, rfl, hbad⟩
  | ok found =>
      have hfits : fits := h.of_ok htest
      rw [ok_bind]
      cases found with
      | true => exact hyes.congr (by simp [hfits])
      | false => exact hno.congr (by simp [hfits])

theorem checks_skip {c : Prop} [Decidable c] {value : a} (h : ¬ c -> Checks x fits) :
    Checks (if c then .ok value else x) (¬ c -> fits) := by
  by_cases hc : c
  · rw [if_pos hc]
    exact (checks_ok value).congr (iff_of_true trivial fun hnot => absurd hc hnot)
  · rw [if_neg hc]
    exact (h hc).congr ⟨fun hfits _ => hfits, fun hfits => hfits hc⟩

theorem Checks.bind_nested {c : Type} {g : a -> Except PyException b}
    {f : b -> Except PyException c} (h : Checks (x >>= g) fits)
    (hf : forall value, x >>= g = .ok value -> Checks (f value) fits') :
    Checks (x >>= fun value => g value >>= f) (fits ∧ fits') := by
  rw [← bind_assoc]
  exact h.bind hf

theorem Checks.map {f : a -> b} (h : Checks x fits) : Checks (x.map f) fits where
  returns := by
    intro hfits
    rcases h.returns hfits with ⟨value, hx⟩
    exact ⟨f value, by rw [hx]; rfl⟩
  fails := by
    intro hfits
    rcases h.fails hfits with ⟨e, hx, he⟩
    exact ⟨e, by rw [hx]; rfl, he⟩

theorem checks_mapM {f : a -> Except PyException b} {each : a -> Prop} {items : List a}
    (h : forall item, item ∈ items -> Checks (f item) (each item)) :
    Checks (items.mapM f) (forall item, item ∈ items -> each item) := by
  induction items with
  | nil => exact (checks_ok []).congr (iff_of_true trivial fun item hmem => absurd hmem List.not_mem_nil)
  | cons item items ih =>
      rw [List.mapM_cons, List.forall_mem_cons]
      refine (h item List.mem_cons_self).bind fun value _ => ?_
      refine ((ih fun other hother => h other (List.mem_cons_of_mem _ hother)).bind
        fun values _ => checks_ok (value :: values)).congr (and_iff_left trivial)

/-!
## Members
-/

theorem checks_get (v : Value) (name : String) : Checks (v.get name) (IsDict v) := by
  cases v with
  | dict entries => exact (checks_ok _).congr (iff_of_true trivial trivial)
  | _ => exact (checks_error id).congr (iff_of_false id id)

theorem checks_toStr (py : Builtins) (v : Value) : Checks (v.toStr py) (IsStrable v) := by
  unfold Value.toStr
  split
  · exact (checks_ok _).congr (iff_of_true trivial rfl)
  · split
    · rename_i hbeyond
      exact (checks_error id).congr (iff_of_false id (Bool.eq_false_iff.not.mpr
        fun h => h hbeyond))
    · rename_i hstrable
      exact (checks_ok _).congr (iff_of_true trivial (Bool.eq_false_iff.mpr hstrable))

theorem checks_toInt (py : Builtins) (unicode : UnicodeData) (v : Value) :
    Checks (v.toInt py unicode) (IsIntable unicode v) := by
  cases v with
  | int n => exact (checks_ok n).congr (iff_of_true trivial trivial)
  | bool flag => exact (checks_ok _).congr (iff_of_true trivial trivial)
  | float number =>
      simp only [Value.toInt, IsIntable]
      cases number.trunc with
      | ok n => exact (checks_ok n).congr (iff_of_true trivial ⟨n, rfl⟩)
      | error kind =>
          cases kind <;> exact (checks_error id).congr (iff_of_false id fun ⟨n, hn⟩ => by cases hn)
  | str s =>
      simp only [Value.toInt, IsIntable]
      cases unicode.integer? s with
      | none => exact (checks_error id).congr (iff_of_false id fun ⟨_, _, h, _⟩ => by cases h)
      | some numeral =>
          rcases numeral with ⟨negative, ds⟩
          simp only
          split
          · rename_i hlong
            refine (checks_error id).congr (iff_of_false id fun ⟨_, _, h, hshort⟩ => ?_)
            cases h
            exact absurd hlong (Nat.not_lt.mpr hshort)
          · rename_i hshort
            exact (checks_ok _).congr
              (iff_of_true trivial ⟨negative, ds, rfl, Nat.not_lt.mp hshort⟩)
  | _ => exact (checks_error id).congr (iff_of_false id id)

theorem checks_intText (n : Int) : Checks (intText n) (¬ Json.BeyondDigits n) := by
  unfold intText
  split
  · rename_i hbeyond
    exact (checks_error id).congr (iff_of_false id fun h => h hbeyond)
  · rename_i hshort
    exact (checks_ok _).congr (iff_of_true trivial hshort)

theorem checks_hasName (v : Value) (name : String) : Checks (v.hasName name) (IsIterable v) := by
  cases v with
  | dict entries => exact (checks_ok _).congr (iff_of_true trivial trivial)
  | list items => exact (checks_ok _).congr (iff_of_true trivial trivial)
  | tuple items => exact (checks_ok _).congr (iff_of_true trivial trivial)
  | str s => exact (checks_ok _).congr (iff_of_true trivial trivial)
  | _ => exact (checks_error id).congr (iff_of_false id id)

theorem checks_items (v : Value) : Checks v.items (IsIterable v) := by
  cases v with
  | dict entries => exact (checks_ok _).congr (iff_of_true trivial trivial)
  | list items => exact (checks_ok _).congr (iff_of_true trivial trivial)
  | tuple items => exact (checks_ok _).congr (iff_of_true trivial trivial)
  | str s => exact (checks_ok _).congr (iff_of_true trivial trivial)
  | _ => exact (checks_error id).congr (iff_of_false id id)

theorem isStrable_of_not_truthy {v : Value} (h : v.truthy = false) : IsStrable v := by
  cases v with
  | int n =>
      have hzero : n = 0 := by simpa [Value.truthy] using h
      subst hzero
      have hsmall : ¬ Json.BeyondDigits 0 := Json.not_beyondDigits_of_lt (by decide)
      rw [IsStrable, Value.beyondDigits, decide_eq_false hsmall]
  | list items =>
      have hnil : items = [] := by simpa [Value.truthy] using h
      subst hnil
      rfl
  | tuple items =>
      have hnil : items = [] := by simpa [Value.truthy] using h
      subst hnil
      rfl
  | dict entries =>
      have hnil : entries = [] := by simpa [Value.truthy] using h
      subst hnil
      rfl
  | _ => rfl

theorem isStrable_orElse_iff {v w : Value} (hw : v.truthy = false -> IsStrable w) :
    IsStrable (v.orElse w) <-> IsStrable v := by
  cases htruthy : v.truthy with
  | true => rw [Value.orElse, if_pos htruthy]
  | false =>
      rw [Value.orElse, if_neg (Bool.eq_false_iff.mp htruthy)]
      exact iff_of_true (hw htruthy) (isStrable_of_not_truthy htruthy)

variable {py : Builtins} {unicode : UnicodeData}

theorem checks_member (v : Value) (name : String) (default : Value) :
    Checks (member v name default) (IsDict v) :=
  ((checks_get v name).bind fun _ _ => checks_ok _).congr (and_iff_left trivial)

theorem forall_member_iff {v : Value} (hdict : IsDict v) {name : String} {default : Value}
    {p : Value -> Prop} (hdefault : p default) :
    (forall found, member v name default = .ok found -> p found) <-> MemberIs v name p := by
  cases v with
  | dict entries =>
      cases hlookup : Dict.lookupIn (Key.str name) entries with
      | none =>
          refine iff_of_true ?_ ?_
          · intro found hfound
            simp only [member, Value.get, hlookup, ok_bind] at hfound
            cases hfound
            exact hdefault
          · intro found hfound
            simp only [Value.get, hlookup] at hfound
            cases hfound
      | some stored =>
          have hget : (Value.dict entries).get name = .ok (some stored) := by
            rw [Value.get, hlookup]
          have hmember : member (.dict entries) name default = .ok stored := by
            rw [member, hget]
            rfl
          rw [MemberIs, hmember, hget]
          simp
  | _ => exact absurd hdict id

theorem checks_memberText (v : Value) (name default : String) :
    Checks (memberText py v name default) (IsDict v ∧ MemberIs v name IsStrable) :=
  ((checks_member v name (.str default)).bind_value fun found _ => checks_toStr py found).congr
    (and_congr_right fun hdict => forall_member_iff hdict rfl)

theorem checks_memberInt (v : Value) (name : String) :
    Checks (memberInt py unicode v name) (IsDict v ∧ MemberIs v name (IsIntable unicode)) :=
  ((checks_member v name (.int 0)).bind_value fun found _ => checks_toInt py unicode found).congr
    (and_congr_right fun hdict => forall_member_iff hdict trivial)

theorem checks_memberTrue (v : Value) (name : String) :
    Checks (memberTrue v name) (IsDict v) :=
  ((checks_member v name (.bool false)).bind fun _ _ => checks_ok _).congr (and_iff_left trivial)

theorem checks_memberOrEmpty (v : Value) (name : String) :
    Checks (memberOrEmpty v name) (IsDict v) :=
  ((checks_member v name .none).bind fun _ _ => checks_ok _).congr (and_iff_left trivial)

end

end YasinMcp
