import YasinMcp.Foundation.JsonLocality

/-!
# The names of decoded objects

A dictionary of the host language may have any key, an object of a JSON text has strings
for names.  So do all the objects of a value that was decoded.
-/

namespace YasinMcp
namespace Foundation

namespace Value

mutual

/-- The keys are strings, in the value and in all of its parts. -/
def stringNames : Value -> Bool
  | .list items => stringNamesList items
  | .tuple items => stringNamesList items
  | .dict entries => stringNamesEntries entries
  | _ => true

def stringNamesList : List Value -> Bool
  | [] => true
  | v :: rest => v.stringNames && stringNamesList rest

def stringNamesEntries : List (Key × Value) -> Bool
  | [] => true
  | (.str _, v) :: rest => v.stringNames && stringNamesEntries rest
  | (.other _, _) :: _ => false

end

/-- A member with a string for its name. -/
structure StringNamed (entry : Key × Value) : Prop where
  name : exists text, entry.1 = .str text
  value : entry.2.stringNames = true

theorem stringNames_list {items : List Value}
    (h : forall v, v ∈ items -> v.stringNames = true) :
    (Value.list items).stringNames = true := by
  rw [stringNames]
  induction items with
  | nil => rfl
  | cons v rest ih =>
      rw [stringNamesList, h v List.mem_cons_self, Bool.true_and]
      exact ih fun w hw => h w (List.mem_cons_of_mem v hw)

theorem stringNames_dict_iff {entries : List (Key × Value)} :
    (Value.dict entries).stringNames = true <->
      forall entry, entry ∈ entries -> StringNamed entry := by
  rw [stringNames]
  induction entries with
  | nil =>
      constructor
      · intro _ entry hentry
        cases hentry
      · intro _
        rfl
  | cons first rest ih =>
      rcases first with ⟨k, v⟩
      rw [List.forall_mem_cons, ← ih]
      cases k with
      | str text =>
          rw [stringNamesEntries, Bool.and_eq_true]
          constructor
          · intro h
            exact ⟨⟨⟨text, rfl⟩, h.1⟩, h.2⟩
          · intro h
            exact ⟨h.1.value, h.2⟩
      | other text =>
          constructor
          · intro h
            cases h
          · intro h
            rcases h.1.name with ⟨_, hname⟩
            cases hname

end Value

namespace Json

open Value

/-- The scan yields values with string names. -/
def NamesStrings (scan : List Char -> Except LoadsError (Value × List Char)) : Prop :=
  forall cs v rest, scan cs = .ok (v, rest) -> v.stringNames = true

theorem stringNamed_of_scanMember {value : List Char -> Except LoadsError (Value × List Char)}
    (hvalue : NamesStrings value) (cs : List Char) (entry : Key × Value) (rest : List Char)
    (h : scanMember value cs = .ok (entry, rest)) : StringNamed entry := by
  rcases exists_of_scanMember h with ⟨_, k, _, afterColon, v, _, _, _, hscan, hentry⟩
  subst hentry
  exact ⟨⟨k, rfl⟩, hvalue _ _ _ hscan⟩

theorem stringNames_of_scanBracket {a : Type} {P : a -> Prop}
    {item : List Char -> Except LoadsError (a × List Char)} {close : Char}
    {finish : List a -> Value} {empty : Value}
    (hitem : forall cs x rest, item cs = .ok (x, rest) -> P x)
    (hfinish : forall items, (forall x, x ∈ items -> P x) -> (finish items).stringNames = true)
    (hempty : empty.stringNames = true) : NamesStrings (scanBracket item close finish empty) := by
  intro cs v rest h
  rw [scanBracket] at h
  split at h
  · cases h
    exact hempty
  · rcases scanSeparated_items hitem (fun _ hx => absurd hx List.not_mem_nil) h with
      ⟨items, hv, hitems⟩
    rw [hv]
    exact hfinish items hitems

theorem stringNames_ofEntries {members : List (Key × Value)}
    (h : forall entry, entry ∈ members -> StringNamed entry) :
    (Value.dict (Dict.ofEntries members).entries).stringNames = true :=
  stringNames_dict_iff.mpr fun entry hentry => h entry (Dict.mem_of_mem_ofEntries hentry)

theorem stringNames_of_scanAtom : NamesStrings scanAtom := by
  intro cs v rest h
  have hatoms : forall atom, atom ∈ atoms -> atom.2.stringNames = true := by decide
  exact scanAtom_value (P := fun v => v.stringNames = true) hatoms (fun _ => rfl) (fun _ => rfl) h

/-- By strong induction on the nesting that may still follow. -/
theorem stringNames_of_scanOnce (depth : Nat) : NamesStrings (scanOnce depth) := by
  induction depth using Nat.strong_induction_on with
  | _ depth ih =>
      intro cs v rest h
      cases scan_of_scanOnce h with
      | @object depth cs _ _ hscan =>
          exact stringNames_of_scanBracket
            (stringNamed_of_scanMember (ih depth (Nat.lt_succ_self depth)))
            (fun _ hmembers => stringNames_ofEntries hmembers) rfl _ _ _ hscan
      | @array depth cs _ _ hscan =>
          exact stringNames_of_scanBracket (ih depth (Nat.lt_succ_self depth))
            (fun _ hitems => stringNames_list hitems) rfl _ _ _ hscan
      | string _ => rfl
      | atom _ _ _ hscan => exact stringNames_of_scanAtom _ _ _ hscan

theorem stringNames_of_loads {recursionLimit : Nat} {s : String} {v : Value}
    (h : loads recursionLimit s = .ok v) : v.stringNames = true := by
  rcases loads_eq_ok_iff.mp h with ⟨_, rest, hscan, _⟩
  exact stringNames_of_scanOnce recursionLimit _ _ _ hscan

end Json
end Foundation
end YasinMcp
