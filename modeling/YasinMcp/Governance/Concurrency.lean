import YasinMcp.Governance.Wrapper

/-!
# Concurrent wrapped calls

Any number of calls of the tools wrapped by one gate take turns, one operation at
a time.  The gate's slots are one semaphore, and everything else the calls share,
the approval store and the audit trail among it, is moved by their other
operations alone.
-/

namespace YasinMcp

open Foundation

structure WrappedCall where
  ambient : Ambient
  toolName : String
  args : List Value := []
  kwargs : Kwargs := Dict.empty

def WrappedCall.executeCall (call : WrappedCall) : ExecuteCall :=
  { toolName := call.toolName, args := call.args, kwargs := call.kwargs }

def WrappedCall.program (py : Builtins) (gate : GovernanceGate) (call : WrappedCall) :
    WrapperProgram Value :=
  gate.syncWrapper py call.ambient call.toolName call.args call.kwargs

/-- Calls of the tools that one gate wraps, from the state in which all its slots are free. -/
abbrev WrappedRun {thread state env : Type} [DecidableEq thread]
    (step : state -> GateEvent -> state -> Prop) (move : state -> env -> state -> Prop)
    (py : Builtins) (gate : GovernanceGate) (calls : thread -> WrappedCall) (s : state)
    (trace : List ((thread × WrapperEvent) ⊕ env)) (rest : thread -> WrapperProgram Value)
    (s' : BoundedSemaphore × state) : Prop :=
  Program.Interleaves (Program.SlotStep step) (Program.SlotMove move)
    (fun i => (calls i).program py gate) (gate.concurrencySlots, s) trace rest s'

def acquiredSlot : WrapperEvent := ⟨.inr .acquire, true⟩
def foundNoSlot : WrapperEvent := ⟨.inr .acquire, false⟩
def releasedSlot : WrapperEvent := ⟨.inr .release, true⟩
def releasedNoSlot : WrapperEvent := ⟨.inr .release, false⟩

def entersBody : WrapperEvent -> Bool
  | ⟨.inl op, answer⟩ => isEnter ⟨op, answer⟩
  | _ => false

def leavesBody : WrapperEvent -> Bool
  | ⟨.inl op, answer⟩ => isLeave ⟨op, answer⟩
  | _ => false

section

variable {thread env : Type} [DecidableEq thread]

def admittedCalls (trace : List ((thread × WrapperEvent) ⊕ env)) : Finset thread :=
  Program.holders Program.tookSlot Program.gaveSlot trace

def activeBodies (trace : List ((thread × WrapperEvent) ⊕ env)) : Finset thread :=
  Program.holders entersBody leavesBody trace

end

namespace GovernanceGate

/-- How a call that ended went: refused without a slot, or executed with one. -/
inductive WrappedEnd (py : Builtins) (gate : GovernanceGate) (call : WrappedCall) :
    List WrapperEvent -> Except ToolException Value -> Prop where
  | refused {payload : ClientPayload} {message : String}
      (hpayload : mapMcpError py gate.limitReached = .ok payload)
      (h : formatToolErrorMessage py payload = .ok message) :
      WrappedEnd py gate call [foundNoSlot] (.error (.toolError message))
  | executed {inner : List GateEvent} {outcome : Except PyException Value}
      (h : Program.Emits (gate.execute py call.ambient call.executeCall) inner
        (Program.ofExcept outcome)) :
      WrappedEnd py gate call (acquiredSlot :: inner.map Program.amongSlots ++ [releasedSlot])
        (caughtMcpError py outcome)

section

variable {thread state env : Type} [DecidableEq thread]
  {step : state -> GateEvent -> state -> Prop} {move : state -> env -> state -> Prop}
  {py : Builtins} {gate : GovernanceGate} {calls : thread -> WrappedCall} {s : state}
  {trace : List ((thread × WrapperEvent) ⊕ env)} {rest : thread -> WrapperProgram Value}
  {s' : BoundedSemaphore × state}

theorem sections_of_wrappedRun (h : WrappedRun step move py gate calls s trace rest s') :
    Program.Interleaves (Program.SlotStep step) (Program.SlotMove move)
      (fun i => Program.withSlot (gate.execute py (calls i).ambient (calls i).executeCall)
        (raiseAsMcpToolError py gate.limitReached) releasedTooOften (caughtMcpError py))
      (gate.concurrencySlots, s) trace rest s' := by
  have hprograms : (fun i => (calls i).program py gate) =
      fun i => Program.withSlot (gate.execute py (calls i).ambient (calls i).executeCall)
        (raiseAsMcpToolError py gate.limitReached) releasedTooOften (caughtMcpError py) :=
    funext fun i => syncWrapper_eq py gate (calls i).ambient (calls i).toolName (calls i).args
      (calls i).kwargs
  rw [← hprograms]
  exact h

theorem stage_of_wrappedRun (h : WrappedRun step move py gate calls s trace rest s')
    (i : thread) :
    Program.SectionTrace (gate.execute py (calls i).ambient (calls i).executeCall)
      (raiseAsMcpToolError py gate.limitReached) releasedTooOften (caughtMcpError py)
      (Program.eventsOf i trace) (rest i) :=
  Program.sectionTrace_of_interleaves (sections_of_wrappedRun h) i

theorem releases_of_wrappedRun (h : WrappedRun step move py gate calls s trace rest s')
    (i : thread) : .inl (i, releasedNoSlot) ∉ trace :=
  Program.never_overReleased (sections_of_wrappedRun h) i

theorem end_of_wrappedRun (h : WrappedRun step move py gate calls s trace rest s') (i : thread)
    {result : Except ToolException Value} (hended : rest i = Program.ofExcept result) :
    WrappedEnd py gate (calls i) (Program.eventsOf i trace) result := by
  have hreleased := releases_of_wrappedRun h i
  rw [← Program.mem_eventsOf_iff] at hreleased
  have hstage := stage_of_wrappedRun h i
  rw [hended] at hstage
  generalize Program.eventsOf i trace = events at hreleased hstage ⊢
  generalize hq : (Program.ofExcept result : WrapperProgram Value) = q at hstage
  cases hstage with
  | waiting => cases result <;> cases hq
  | refused =>
      rcases raise_limitReached py gate with ⟨payload, message, hpayload, _, hmessage, hraise⟩
      rw [hraise] at hq
      cases result with
      | ok value => cases hq
      | error e =>
          cases hq
          exact .refused hpayload hmessage
  | running hinner => exact absurd hq.symm (Program.within_ne_ofExcept _ _ _ result)
  | released hinner =>
      rw [Program.ofExcept_injective hq]
      exact .executed hinner
  | overReleased hinner => exact absurd (by simp [releasedNoSlot]) hreleased

theorem countP_among (q : WrapperEvent -> Bool) {inner : List GateEvent}
    (later : List WrapperEvent) (hfirst : q acquiredSlot = false) :
    (acquiredSlot :: inner.map Program.amongSlots ++ later).countP q =
      (inner.countP fun event => q (Program.amongSlots event)) + later.countP q := by
  rw [List.cons_append, List.countP_cons, List.countP_append, List.countP_map, hfirst]
  rfl

theorem activeBodies_subset (h : WrappedRun step move py gate calls s trace rest s') :
    activeBodies trace ⊆ admittedCalls trace := by
  intro i hactive
  rw [activeBodies, Program.mem_holders_iff] at hactive
  rw [admittedCalls, Program.mem_holders_iff]
  have hstage := stage_of_wrappedRun h i
  generalize Program.eventsOf i trace = events at hactive hstage ⊢
  generalize rest i = q at hstage
  have hended : forall {inner : List GateEvent} {outcome : Except PyException Value} {last},
      Program.Emits (gate.execute py (calls i).ambient (calls i).executeCall) inner
        (Program.ofExcept outcome) ->
      entersBody last = false -> leavesBody last = false ->
        ¬ Program.Holds entersBody leavesBody
          (acquiredSlot :: inner.map Program.amongSlots ++ [last]) := by
    intro inner outcome last hinner henters hleaves hholds
    have hsame : inner.countP isEnter = inner.countP isLeave := left_of_execute hinner
    rw [Program.Holds, countP_among _ _ rfl, countP_among _ _ rfl] at hholds
    have henters' : [last].countP entersBody = 0 := by simp [henters]
    have hleaves' : [last].countP leavesBody = 0 := by simp [hleaves]
    have hcounts : inner.countP isEnter + [last].countP entersBody =
        inner.countP isLeave + [last].countP leavesBody + 1 := hholds
    omega
  cases hstage with
  | waiting => cases hactive
  | refused => cases hactive
  | running hinner => exact Program.holds_of_running _
  | released hinner => exact absurd hactive (hended hinner rfl rfl)
  | overReleased hinner => exact absurd hactive (hended hinner rfl rfl)

end

/--
Bounded concurrency, at any moment of any run.  The free slots and the admitted
calls that have not ended add up to the limit; a call that ended was refused with
the code of the limit, having done nothing else, or gave back the one slot it
took, however its execution ended.
-/
theorem bounded_concurrency {thread state env : Type} [DecidableEq thread]
    {step : state -> GateEvent -> state -> Prop} {move : state -> env -> state -> Prop}
    {py : Builtins} {gate : GovernanceGate} {calls : thread -> WrappedCall} {s : state}
    {trace : List ((thread × WrapperEvent) ⊕ env)} {rest : thread -> WrapperProgram Value}
    {s' : BoundedSemaphore × state}
    (h : WrappedRun step move py gate calls s trace rest s') :
    s'.1.value + (admittedCalls trace).card = gate.concurrencyLimit ∧
      (forall i, i ∈ admittedCalls trace <->
        .inl (i, acquiredSlot) ∈ trace ∧ forall result, rest i ≠ Program.ofExcept result) ∧
      (activeBodies trace ⊆ admittedCalls trace ∧
        (activeBodies trace).card ≤ gate.concurrencyLimit) ∧
      (admittedCalls trace = ∅ -> s'.1.value = gate.concurrencyLimit) ∧
      (forall i, .inl (i, releasedNoSlot) ∉ trace) ∧
      (forall i result, rest i = Program.ofExcept result ->
        WrappedEnd py gate (calls i) (Program.eventsOf i trace) result) ∧
      (forall i, .inl (i, foundNoSlot) ∈ trace -> Program.eventsOf i trace = [foundNoSlot] ∧
        exists payload message, mapMcpError py gate.limitReached = .ok payload ∧
          payload.code = .concurrencyLimit ∧ formatToolErrorMessage py payload = .ok message ∧
          rest i = .raise (.toolError message)) ∧
      (forall before after answer, Program.SlotStep step before ⟨.inr .acquire, answer⟩ after ->
        (answer = false <-> before.1.value = 0) ∧ (answer = false -> after = before)) := by
  have hsections := sections_of_wrappedRun h
  have hslots : s'.1.value + (admittedCalls trace).card = gate.concurrencyLimit :=
    (Program.slots_of_interleaves hsections).2
  have hsubset := activeBodies_subset h
  refine ⟨hslots, Program.mem_holders_iff_unfinished hsections, ⟨hsubset, ?_⟩, ?_,
    releases_of_wrappedRun h, fun i result => end_of_wrappedRun h i, ?_, ?_⟩
  · have hcard := Finset.card_le_card hsubset
    have hbound : (admittedCalls trace).card ≤ gate.concurrencyLimit := by
      rw [← hslots]
      exact Nat.le_add_left _ _
    exact hcard.trans hbound
  · intro hnone
    rw [← hslots, hnone]
    rfl
  · intro i hrefused
    rcases (stage_of_wrappedRun h i).refused_of_mem
      ((Program.mem_eventsOf_iff i foundNoSlot trace).mpr hrefused) with ⟨hevents, hrest⟩
    rcases raise_limitReached py gate with ⟨payload, message, hpayload, hcode, hmessage, hraise⟩
    exact ⟨hevents, payload, message, hpayload, hcode, hmessage, by rw [hrest, hraise]⟩
  · intro before after answer hstep
    cases hstep with
    | acquired htook =>
        refine ⟨iff_of_false (by simp) ?_, by simp⟩
        rw [← (BoundedSemaphore.acquire?_eq_some htook).2]
        exact Nat.succ_ne_zero _
    | full hnone =>
        exact ⟨iff_of_true rfl ((BoundedSemaphore.acquire?_eq_none_iff _).mp hnone), fun _ => rfl⟩

end GovernanceGate

def oneSlotConfig : ServerConfig :=
  { lockedConfig with
    args := { maxConcurrentRequests := 1 }
    concurrency_bounds := by decide
    token_of_required := by decide }

def oneSlotGate : GovernanceGate where
  catalog := statusGate.catalog
  securityConfig := some oneSlotConfig

namespace GovernanceGate

/-- Of two calls over one slot the second is refused while the first holds it. -/
theorem bounded_concurrency_status :
    exists (trace : List ((Bool × WrapperEvent) ⊕ Empty)) (rest : Bool -> WrapperProgram Value)
      (s' : BoundedSemaphore × HostState Unit),
      WrappedRun quietHost.Step (fun _ _ _ => False) plainBuiltins oneSlotGate
        (fun _ => { ambient := ⟨fun _ => none, {}⟩, toolName := "status" })
        (InMemoryApprovalStore.empty, ()) trace rest s' ∧
      s'.1.value + (admittedCalls trace).card = 1 ∧
      exists message, rest true = .raise (.toolError message) := by
  have hrun : WrappedRun quietHost.Step (fun _ (_ : Empty) _ => False) plainBuiltins oneSlotGate
      (fun _ : Bool => { ambient := ⟨fun _ => none, {}⟩, toolName := "status" })
      (InMemoryApprovalStore.empty, ()) [.inl (false, acquiredSlot), .inl (true, foundNoSlot)]
      _ (⟨1, 0, Nat.zero_le 1⟩, (InMemoryApprovalStore.empty, ())) :=
    .thread rfl (.acquired rfl) (.thread rfl (.full rfl) (.refl _ _))
  rcases bounded_concurrency hrun with ⟨hslots, _, _, _, _, _, hrefused, _⟩
  rcases hrefused true (by simp) with ⟨_, _, message, _, _, _, hmessage⟩
  exact ⟨_, _, _, hrun, hslots, message, hmessage⟩

end GovernanceGate

end YasinMcp
