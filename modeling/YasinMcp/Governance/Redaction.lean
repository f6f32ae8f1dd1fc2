import YasinMcp.Governance.Audit

/-!
# What redaction hides and keeps

The redactor is determined by what stands under harmless keys: two values that
differ only under sensitive keys are redacted alike.  Under harmless keys it
keeps the shape, so the value at a path comes back redacted at the same path.
-/

namespace YasinMcp

open Foundation

/-!
## Values that differ under sensitive keys
-/

def IsScalar : Value -> Prop
  | .dict _ => False
  | .list _ => False
  | .tuple _ => False
  | _ => True

mutual

/-- Equal values, but for what stands under sensitive keys at any depth. -/
def SameButSecrets : Value -> Value -> Prop
  | .dict xs, .dict ys => SameEntries xs ys
  | .list xs, .list ys => SameItems xs ys
  | .tuple xs, .tuple ys => SameItems xs ys
  | v, w => v = w

def SameItems : List Value -> List Value -> Prop
  | [], [] => True
  | x :: xs, y :: ys => SameButSecrets x y ∧ SameItems xs ys
  | _, _ => False

def SameEntries : List (Key × Value) -> List (Key × Value) -> Prop
  | [], [] => True
  | (k, x) :: xs, (j, y) :: ys =>
      k = j ∧ (isSensitiveKey k = true ∨ SameButSecrets x y) ∧ SameEntries xs ys
  | _, _ => False

end

mutual

theorem sameButSecrets_refl : forall v : Value, SameButSecrets v v
  | .dict entries => sameEntries_refl entries
  | .list items => sameItems_refl items
  | .tuple items => sameItems_refl items
  | .none => rfl
  | .bool _ => rfl
  | .int _ => rfl
  | .float _ => rfl
  | .str _ => rfl

theorem sameItems_refl : forall items : List Value, SameItems items items
  | [] => trivial
  | item :: rest => ⟨sameButSecrets_refl item, sameItems_refl rest⟩

theorem sameEntries_refl : forall entries : List (Key × Value), SameEntries entries entries
  | [] => trivial
  | (_, item) :: rest => ⟨rfl, Or.inr (sameButSecrets_refl item), sameEntries_refl rest⟩

end

@[elab_as_elim]
theorem SameEntries.induction {motive : List (Key × Value) -> List (Key × Value) -> Prop}
    (nil : motive [] [])
    (cons : forall key x y xs ys, isSensitiveKey key = true ∨ SameButSecrets x y ->
      motive xs ys -> motive ((key, x) :: xs) ((key, y) :: ys)) :
    forall {xs ys}, SameEntries xs ys -> motive xs ys
  | [], [], _ => nil
  | (key, x) :: xs, (_, y) :: ys, h => by
      rcases h with ⟨hkey, hvalue, hrest⟩
      subst hkey
      exact cons key x y xs ys hvalue (SameEntries.induction nil cons hrest)
  | [], _ :: _, h => h.elim
  | _ :: _, [], h => h.elim

theorem SameButSecrets.eq_of_scalar {v w : Value} (h : SameButSecrets v w)
    (hv : IsScalar v) : v = w := by
  cases v with
  | dict entries => exact hv.elim
  | list items => exact hv.elim
  | tuple items => exact hv.elim
  | none => exact h
  | bool b => exact h
  | int n => exact h
  | float x => exact h
  | str s => exact h

mutual

/-- Redaction cannot tell values apart that differ only under sensitive keys. -/
theorem redact_congr : forall v w : Value, SameButSecrets v w -> redact v = redact w
  | .dict xs, w, h => by
      cases w with
      | dict ys => exact congrArg Value.dict (redactEntries_congr xs ys h)
      | _ => cases h
  | .list xs, w, h => by
      cases w with
      | list ys => exact congrArg Value.list (redactItems_congr xs ys h)
      | _ => cases h
  | .tuple xs, w, h => by
      cases w with
      | tuple ys => exact congrArg Value.list (redactItems_congr xs ys h)
      | _ => cases h
  | .none, _, h => congrArg redact (h.eq_of_scalar trivial)
  | .bool _, _, h => congrArg redact (h.eq_of_scalar trivial)
  | .int _, _, h => congrArg redact (h.eq_of_scalar trivial)
  | .float _, _, h => congrArg redact (h.eq_of_scalar trivial)
  | .str _, _, h => congrArg redact (h.eq_of_scalar trivial)

theorem redactItems_congr :
    forall xs ys : List Value, SameItems xs ys -> redactItems xs = redactItems ys
  | [], [], _ => rfl
  | x :: xs, y :: ys, h => by
      rw [redactItems, redactItems, redact_congr x y h.1, redactItems_congr xs ys h.2]
  | [], _ :: _, h => h.elim
  | _ :: _, [], h => h.elim

theorem redactEntries_congr :
    forall xs ys : List (Key × Value), SameEntries xs ys ->
      redactEntries xs = redactEntries ys
  | [], [], _ => rfl
  | (k, x) :: xs, (j, y) :: ys, h => by
      rcases h with ⟨hkey, hvalue, hrest⟩
      subst hkey
      rw [redactEntries, redactEntries, redactEntries_congr xs ys hrest]
      rcases hvalue with hsensitive | hsame
      · rw [if_pos hsensitive, if_pos hsensitive]
      · rw [redact_congr x y hsame]
  | [], _ :: _, h => h.elim
  | _ :: _, [], h => h.elim

end

/-!
## Redacting again
-/

mutual

theorem redact_redact : forall v : Value, redact (redact v) = redact v
  | .dict entries => congrArg Value.dict (redactEntries_redactEntries entries)
  | .list items => congrArg Value.list (redactItems_redactItems items)
  | .tuple items => congrArg Value.list (redactItems_redactItems items)
  | .none => rfl
  | .bool _ => rfl
  | .int _ => rfl
  | .float _ => rfl
  | .str _ => rfl

theorem redactItems_redactItems :
    forall items : List Value, redactItems (redactItems items) = redactItems items
  | [] => rfl
  | item :: rest => by
      simp only [redactItems, redact_redact item, redactItems_redactItems rest]

theorem redactEntries_redactEntries :
    forall entries : List (Key × Value),
      redactEntries (redactEntries entries) = redactEntries entries
  | [] => rfl
  | (key, item) :: rest => by
      have hitem : (if isSensitiveKey key then redacted
          else redact (if isSensitiveKey key then redacted else redact item)) =
            if isSensitiveKey key then redacted else redact item := by
        cases isSensitiveKey key with
        | true => rfl
        | false => exact redact_redact item
      simp only [redactEntries, redactEntries_redactEntries rest, hitem]

end

/-!
## What redaction keeps
-/

theorem redactItems_eq_map (items : List Value) : redactItems items = items.map redact := by
  induction items with
  | nil => rfl
  | cons item rest ih => rw [redactItems, ih, List.map_cons]

theorem redactEntries_eq_map (entries : List (Key × Value)) :
    redactEntries entries =
      entries.map fun entry =>
        (entry.1, if isSensitiveKey entry.1 then redacted else redact entry.2) := by
  induction entries with
  | nil => rfl
  | cons entry rest ih =>
      rcases entry with ⟨key, item⟩
      rw [redactEntries, ih, List.map_cons]

theorem lookupIn_redactEntries (key : Key) (entries : List (Key × Value)) :
    Dict.lookupIn key (redactEntries entries) =
      (Dict.lookupIn key entries).map fun item =>
        if isSensitiveKey key then redacted else redact item := by
  induction entries with
  | nil => rfl
  | cons entry rest ih =>
      rcases entry with ⟨other, item⟩
      by_cases h : other = key
      · subst h
        simp [redactEntries, Dict.lookupIn]
      · simp [redactEntries, Dict.lookupIn, h, ih]

/-!
## Paths
-/

/-- A step into a value: to what stands under a key, or at a position. -/
inductive PathStep where
  | under (key : Key)
  | position (i : Nat)

def PathStep.Harmless : PathStep -> Prop
  | .under key => isSensitiveKey key = false
  | .position _ => True

def child? : Value -> PathStep -> Option Value
  | .dict entries, .under key => Dict.lookupIn key entries
  | .list items, .position i => items[i]?
  | .tuple items, .position i => items[i]?
  | _, _ => none

def valueAt? : Value -> List PathStep -> Option Value
  | v, [] => some v
  | v, step :: path => (child? v step).bind fun inner => valueAt? inner path

def keysOf : Value -> List Key
  | .dict entries => entries.map Prod.fst
  | _ => []

def itemsOf : Value -> List Value
  | .list items => items
  | .tuple items => items
  | _ => []

theorem child?_redact (v : Value) {step : PathStep} (h : step.Harmless) :
    child? (redact v) step = (child? v step).map redact := by
  cases step with
  | under key =>
      cases v with
      | dict entries =>
          rw [redact, child?, lookupIn_redactEntries, show isSensitiveKey key = false from h]
          rfl
      | _ => rfl
  | position i =>
      cases v with
      | list items => simp [redact, child?, redactItems_eq_map]
      | tuple items => simp [redact, child?, redactItems_eq_map]
      | _ => rfl

/-- On harmless paths there are the same values, redacted. -/
theorem valueAt?_redact (v : Value) {path : List PathStep}
    (h : forall step, step ∈ path -> step.Harmless) :
    valueAt? (redact v) path = (valueAt? v path).map redact := by
  induction path generalizing v with
  | nil => rfl
  | cons step path ih =>
      rw [valueAt?, valueAt?, child?_redact v (h step List.mem_cons_self)]
      cases child? v step with
      | none => rfl
      | some inner =>
          exact ih inner fun step hstep => h step (List.mem_cons_of_mem _ hstep)

theorem keysOf_redact (v : Value) : keysOf (redact v) = keysOf v := by
  cases v with
  | dict entries => simp [redact, keysOf, redactEntries_eq_map]
  | _ => rfl

theorem itemsOf_redact (v : Value) : itemsOf (redact v) = (itemsOf v).map redact := by
  cases v with
  | list items => exact redactItems_eq_map items
  | tuple items => exact redactItems_eq_map items
  | _ => rfl

theorem redact_scalar {v : Value} (h : IsScalar v) : redact v = v := by
  cases v with
  | dict entries => exact h.elim
  | list items => exact h.elim
  | tuple items => exact h.elim
  | _ => rfl

/-!
## What an audit event shows of a context
-/

theorem lookupIn_idEntry_append (key : Key) (name : String) (value : Option String)
    (rest : List (Key × Value)) :
    Dict.lookupIn key (GovernanceContext.idEntry name value ++ rest) =
      if Key.str name = key then (value.map Value.str).or (Dict.lookupIn key rest)
      else Dict.lookupIn key rest := by
  cases value with
  | none => simp [GovernanceContext.idEntry]
  | some text => simp [GovernanceContext.idEntry, Dict.lookupIn]

theorem lookupIn_asDict_extra (c : GovernanceContext) :
    Dict.lookupIn (Key.str "extra") c.asDict =
      if c.extra.entries.isEmpty then none else some (.dict c.extra.entries) := by
  unfold GovernanceContext.asDict
  simp only [List.append_assoc, lookupIn_idEntry_append]
  cases c.extra.entries.isEmpty with
  | true => rfl
  | false => rfl

def AuditEvent.extraEntry? (event : AuditEvent) (key : Key) : Option Value :=
  (Dict.lookupIn (Key.str "extra") event.context).bind fun extra =>
    child? extra (.under key)

def shownEntry (context : Option GovernanceContext) (key : Key) : Option Value :=
  (context.bind fun c => c.extra.get? key).map fun item =>
    if isSensitiveKey key then redacted else redact item

theorem extraEntry?_of_context {event : AuditEvent} {context : Option GovernanceContext}
    (h : event.context = safeContext context) : event.extraEntry? = shownEntry context := by
  funext key
  rw [AuditEvent.extraEntry?, h]
  cases context with
  | none => rfl
  | some c =>
      have hharmless : isSensitiveKey (Key.str "extra") = false := by decide
      rw [safeContext, lookupIn_redactEntries, lookupIn_asDict_extra, hharmless]
      cases hentries : c.extra.entries with
      | nil => simp [shownEntry, Dict.get?, hentries, Dict.lookupIn]
      | cons entry rest =>
          rw [shownEntry, Option.bind_some, Dict.get?, hentries, ← lookupIn_redactEntries]
          rfl

end YasinMcp
