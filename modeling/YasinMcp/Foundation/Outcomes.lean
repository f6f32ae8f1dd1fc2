import YasinMcp.Foundation.Program

/-!
# Outcomes that the answers decide

How a run of a program ends can depend on nothing but the answers it got: it ends in an
exception outside a kind exactly when one of the answers was not good.  Programs with
this property are closed under sequence and under handlers that take up exceptions of
the kind only.  What a program returns can have a property whatever the answers are.
-/

namespace YasinMcp
namespace Foundation
namespace Program

universe u v w x

variable {Op : Type u} {Res : Op -> Type v} {exc : Type w} {a b : Type x}

def EndsWithin (kind : exc -> Prop) (result : Except exc a) : Prop :=
  forall e, result = .error e -> kind e

/-- A run ends within the kind exactly when all its answers were good. -/
def DecidedBy (kind : exc -> Prop) (good : Event Res -> Prop) (p : Program Op Res exc a) : Prop :=
  forall trace result, Emits p trace (ofExcept result) ->
    (EndsWithin kind result <-> forall event, event ∈ trace -> good event)

variable {kind : exc -> Prop} {good : Event Res -> Prop}

theorem endsWithin_ok (value : a) : EndsWithin kind (.ok value : Except exc a) :=
  fun e he => by cases he

theorem endsWithin_error_iff (e : exc) :
    EndsWithin kind (.error e : Except exc a) <-> kind e := by
  constructor
  · intro h
    exact h e rfl
  · intro h e' he
    cases he
    exact h

theorem decidedBy_ofExcept {x : Except exc a} (h : EndsWithin kind x) :
    DecidedBy kind good (ofExcept x : Program Op Res exc a) := by
  intro trace result hemits
  rcases emits_ofExcept_ended hemits with ⟨htrace, hresult⟩
  subst htrace hresult
  exact iff_of_true h fun event hevent => absurd hevent List.not_mem_nil

theorem decidedBy_pure (value : a) : DecidedBy kind good (.pure value : Program Op Res exc a) :=
  decidedBy_ofExcept (endsWithin_ok value)

theorem decidedBy_raise {e : exc} (h : kind e) :
    DecidedBy kind good (.raise e : Program Op Res exc a) :=
  decidedBy_ofExcept ((endsWithin_error_iff e).mpr h)

theorem decidedBy_perform {op : Op} {next : Res op -> Except exc a}
    (h : forall r, EndsWithin kind (next r) <-> good ⟨op, r⟩) :
    DecidedBy kind good (.perform op fun r => ofExcept (next r) : Program Op Res exc a) := by
  intro trace result hemits
  rcases emits_perform_ended hemits with ⟨r, rest, htrace, hrest⟩
  rcases emits_ofExcept_ended hrest with ⟨hnil, hresult⟩
  subst hnil hresult htrace
  rw [h r]
  simp

theorem DecidedBy.good_of_pure {p : Program Op Res exc a} (hp : DecidedBy kind good p)
    {trace : List (Event Res)} {value : a} (h : Emits p trace (.pure value)) :
    forall event, event ∈ trace -> good event :=
  (hp trace (.ok value) h).mp (endsWithin_ok value)

theorem DecidedBy.bind {p : Program Op Res exc a} {f : a -> Program Op Res exc b}
    (hp : DecidedBy kind good p) (hf : forall value, DecidedBy kind good (f value)) :
    DecidedBy kind good (p >>= f) := by
  intro trace result hemits
  rcases emits_bind_ended hemits with
    ⟨e, hraise, hresult⟩ | ⟨first, second, value, htrace, hfirst, hsecond⟩
  · have hraised := hp trace (.error e) hraise
    subst hresult
    rw [endsWithin_error_iff] at hraised ⊢
    exact hraised
  · subst htrace
    rw [hf value second result hsecond, List.forall_mem_append]
    exact (and_iff_right (hp.good_of_pure hfirst)).symm

/-!
## Handlers
-/

theorem Emits.rescue {p : Program Op Res exc a} {trace : List (Event Res)} {value : a}
    (h : Emits p trace (.pure value)) (handler : exc -> Program Op Res exc a) :
    Emits (p.rescue handler) trace (.pure value) := by
  induction p generalizing trace with
  | pure middle =>
      cases h
      exact Emits.refl _
  | raise e => cases h
  | perform op next ih =>
      cases h with
      | perform hrest => exact Emits.perform (ih _ hrest)

theorem emits_rescue_ended {p : Program Op Res exc a} {handler : exc -> Program Op Res exc a}
    {trace : List (Event Res)} {result : Except exc a}
    (h : Emits (p.rescue handler) trace (ofExcept result)) :
    (exists value, Emits p trace (.pure value) ∧ result = .ok value) ∨
      exists first second e, trace = first ++ second ∧ Emits p first (.raise e) ∧
        Emits (handler e) second (ofExcept result) := by
  induction p generalizing trace with
  | pure value =>
      rcases emits_ofExcept_ended (show Emits (ofExcept (.ok value)) trace (ofExcept result) from h)
        with ⟨htrace, hresult⟩
      subst htrace
      exact Or.inl ⟨value, Emits.refl _, hresult⟩
  | raise e => exact Or.inr ⟨[], trace, e, rfl, Emits.refl _, h⟩
  | perform op next ih =>
      rcases emits_perform_ended h with ⟨r, rest, htrace, hrest⟩
      subst htrace
      rcases ih r hrest with ⟨value, hemits, hresult⟩ | ⟨first, second, e, hsplit, hraise, hhandler⟩
      · exact Or.inl ⟨value, Emits.perform hemits, hresult⟩
      · subst hsplit
        exact Or.inr ⟨_, second, e, rfl, Emits.perform hraise, hhandler⟩

theorem DecidedBy.rescue {p : Program Op Res exc a} {handler : exc -> Program Op Res exc a}
    (hp : DecidedBy kind good p) (hkind : forall e, kind e -> DecidedBy kind good (handler e))
    (hother : forall e, ¬ kind e -> handler e = .raise e) :
    DecidedBy kind good (p.rescue handler) := by
  intro trace result hemits
  rcases emits_rescue_ended hemits with
    ⟨value, hreturned, hresult⟩ | ⟨first, second, e, htrace, hraise, hhandler⟩
  · subst hresult
    exact hp trace (.ok value) hreturned
  · have hfirst := hp first (.error e) hraise
    rw [endsWithin_error_iff] at hfirst
    subst htrace
    rw [List.forall_mem_append, ← hfirst]
    by_cases he : kind e
    · rw [hkind e he second result hhandler]
      exact (and_iff_right he).symm
    · rw [hother e he] at hhandler
      rcases emits_ofExcept_ended (show Emits (ofExcept (.error e)) second (ofExcept result) from
        hhandler) with ⟨_, hresult⟩
      subst hresult
      rw [endsWithin_error_iff]
      exact iff_of_false he fun h => he h.1

/-!
## Returned values
-/

def Returns (good : a -> Prop) (p : Program Op Res exc a) : Prop :=
  forall trace value, Emits p trace (.pure value) -> good value

theorem returns_pure {good : a -> Prop} {value : a} (h : good value) :
    Returns good (.pure value : Program Op Res exc a) := by
  intro trace value' hemits
  cases hemits
  exact h

theorem returns_ofExcept {good : a -> Prop} {x : Except exc a}
    (h : forall value, x = .ok value -> good value) :
    Returns good (ofExcept x : Program Op Res exc a) := by
  intro trace value hemits
  exact h value (emits_ofExcept_pure hemits).2

theorem returns_bind {good : b -> Prop} {p : Program Op Res exc a}
    {f : a -> Program Op Res exc b} (h : forall value, Returns good (f value)) :
    Returns good (p >>= f) := by
  intro trace value hemits
  rcases emits_bind_pure hemits with ⟨_, second, middle, _, _, hlast⟩
  exact h middle second value hlast

theorem returns_check {good : b -> Prop} {x : Except exc a} {f : a -> Program Op Res exc b}
    (h : forall value, x = .ok value -> Returns good (f value)) :
    Returns good (ofExcept x >>= f) := by
  intro trace value hemits
  rcases emits_bind_pure hemits with ⟨_, second, middle, _, hfirst, hlast⟩
  exact h middle (emits_ofExcept_pure hfirst).2 second value hlast

end Program
end Foundation
end YasinMcp
