import YasinMcp.Governance.ErrorOrigin
import YasinMcp.Reliability.HttpRetry

/-!
# Failures of the boundary told apart

The codes of the limit and of authentication are kept for failures of the boundary itself.
An error from outside with the class or the category of such a failure is reported as that
failure, and no other is.
-/

namespace YasinMcp

open Foundation

namespace GovernanceGate

/-!
## Failures told apart
-/

/--
The application error with which the policy, the recorder or the body ended the call: what
the policy raised when it was asked, what the recorder raised on an event, or what the body
was left with when every event was recorded.
-/
inductive EndedFromOutside (py : Builtins) (gate : GovernanceGate) (ambient : Ambient)
    (call : ExecuteCall) (trace : List WrapperEvent) (e : McpError) : Prop where
  | policy (asked : List GateEvent) (tool : ToolIdentity) (context : Option GovernanceContext)
      (htrace : trace = ⟨.inr .acquire, true⟩ :: asked.map Program.amongSlots ++
        [⟨.inr .release, true⟩])
      (hasked : PolicyAsked py gate ambient call asked tool context)
      (h : gate.policy tool context = .error (.mcp e))
  | recorder (event : AuditEvent) (h : ⟨.inl (.record event), .error (.mcp e)⟩ ∈ trace)
      (hreleased : ⟨.inr .release, false⟩ ∉ trace)
  | body (h : ⟨.inl .leave, .error (.mcp e)⟩ ∈ trace)
      (hrecorded : forall event answer, ⟨.inl (.record event), answer⟩ ∈ trace ->
        answer = .ok ())
      (hreleased : ⟨.inr .release, false⟩ ∉ trace)

section

variable {py : Builtins} {gate : GovernanceGate} {ambient : Ambient} {call : ExecuteCall}
  {trace : List WrapperEvent}

theorem mem_among {inner : List GateEvent} {event : GateEvent} (h : event ∈ inner)
    (last : WrapperEvent) :
    Program.amongSlots event ∈ ⟨.inr .acquire, true⟩ :: inner.map Program.amongSlots ++ [last] :=
  List.mem_append_left _ (List.mem_cons_of_mem _ (List.mem_map_of_mem h))

theorem not_overReleased_of_among {inner : List GateEvent} :
    (⟨.inr .release, false⟩ : WrapperEvent) ∉
      ⟨.inr .acquire, true⟩ :: inner.map Program.amongSlots ++ [⟨.inr .release, true⟩] := by
  intro hmem
  rcases List.mem_append.mp hmem with hfront | hlast
  · rcases List.mem_cons.mp hfront with hfirst | hinner
    · cases hfirst
    · rcases List.mem_map.mp hinner with ⟨event, _, hevent⟩
      cases hevent
  · cases List.mem_singleton.mp hlast

theorem mem_of_among {inner : List GateEvent} {event : GateEvent}
    (h : Program.amongSlots event ∈ (⟨.inr .acquire, true⟩ : WrapperEvent) ::
      inner.map Program.amongSlots ++ [⟨.inr .release, true⟩]) : event ∈ inner := by
  rcases List.mem_append.mp h with hfront | hlast
  · rcases List.mem_cons.mp hfront with hfirst | hinner
    · cases hfirst
    · rcases List.mem_map.mp hinner with ⟨other, hother, hsame⟩
      cases event
      cases other
      cases hsame
      exact hother
  · cases List.mem_singleton.mp hlast

theorem among_injective {inner inner' : List GateEvent}
    (h : ((⟨.inr .acquire, true⟩ : WrapperEvent) :: inner.map Program.amongSlots ++
        [⟨.inr .release, true⟩]) =
      ⟨.inr .acquire, true⟩ :: inner'.map Program.amongSlots ++ [⟨.inr .release, true⟩]) :
    inner = inner' := by
  have hmaps := List.cons_injective (List.append_cancel_right h)
  refine List.map_injective_iff.mpr ?_ hmaps
  rintro ⟨op, answer⟩ ⟨op', answer'⟩ heq
  cases heq
  rfl

end

section

variable {py : Builtins} {gate : GovernanceGate} {ambient : Ambient} {call : ExecuteCall}
  {inner : List GateEvent} {e raised : PyException}

theorem authenticate_of_emits_cons {rest : GateProgram Value}
    (h : Program.Emits (gate.execute py ambient call) inner rest) {event : GateEvent}
    (hevent : event ∈ inner) (e : PyException) :
    gate.authenticate py ambient call ≠ .error e := by
  intro hauth
  have hraise : gate.execute py ambient call = .raise e := by
    rw [execute, admission, hauth]
    rfl
  rw [hraise] at h
  rw [Program.emits_raise h] at hevent
  cases hevent

/-- When every audit event was recorded, a body that failed is what the call raises. -/
theorem raised_of_left (h : Program.Emits (gate.execute py ambient call) inner (.raise raised))
    (hquiet : QuietAnswers inner) (hleft : ⟨.leave, .error e⟩ ∈ inner) : raised = e := by
  have hended : Program.Emits (gate.execute py ambient call) inner
      (Program.ofExcept (.error raised)) := h
  rcases shape_of_execute hended hquiet with ⟨ending, hshape⟩
  have hstep : (⟨.leave, .error e⟩ : GateEvent) ∈ stepsOf inner :=
    List.mem_filter.mpr ⟨hleft, rfl⟩
  generalize hsteps : stepsOf inner = steps at hshape hstep
  generalize hresult : (.error raised : Except PyException Value) = result at hshape
  cases hshape with
  | refused e => cases hstep
  | denied hdenied => simp [opening, audited] at hstep
  | returned value => cases hresult
  | failed hfailed =>
      cases hresult
      simp [opening, audited] at hstep
      exact hstep.symm
  | exited hexited =>
      cases hresult
      simp [opening, audited] at hstep
      exact hstep.symm

theorem raised_of_recordError {event other : AuditEvent} {f : Unit -> GateProgram Value}
    (h : Program.Emits (record event >>= f) inner (.raise raised))
    (hmem : ⟨.record other, .error e⟩ ∈ inner)
    (hf : forall later, Program.Emits (f ()) later (.raise raised) ->
      ⟨.record other, .error e⟩ ∈ later -> raised = e) : raised = e := by
  cases h with
  | @perform _ _ answer later _ hlater =>
      cases answer with
      | error failure =>
          cases hlater
          cases List.mem_singleton.mp hmem
          rfl
      | ok value =>
          rcases List.mem_cons.mp hmem with hfirst | hrest
          · cases hfirst
          · exact hf later hlater hrest

theorem raised_of_recorder {other : AuditEvent}
    (h : Program.Emits (gate.execute py ambient call) inner (.raise raised))
    (hmem : ⟨.record other, .error e⟩ ∈ inner) : raised = e := by
  rcases Program.emits_bind_ended
      (show Program.Emits _ inner (Program.ofExcept (.error raised)) from h) with
    ⟨failure, hadmission, _⟩ | ⟨first, second, admission, htrace, hfirst, hsecond⟩
  · exact absurd (consults_of_admission hadmission _ hmem) (by simp [isConsult])
  subst htrace
  rcases List.mem_append.mp hmem with hadmission | hmem
  · exact absurd (consults_of_admission hfirst _ hadmission) (by simp [isConsult])
  rcases admission with ⟨tool, decision, context⟩
  refine raised_of_recordError hsecond hmem fun _ hdecision hmem => ?_
  refine raised_of_recordError hdecision hmem fun _ hinvoke hmem => ?_
  split at hinvoke
  · rw [Program.emits_raise hinvoke] at hmem
    cases hmem
  · rcases Program.emits_perform_ended
        (show Program.Emits _ _ (Program.ofExcept (.error raised)) from hinvoke) with
      ⟨_, left, hentered, hleave⟩
    rcases Program.emits_perform_ended hleave with ⟨outcome, settled, hleft, hsettle⟩
    subst hentered hleft
    have hsettled : ⟨.record other, .error e⟩ ∈ settled := by
      rcases List.mem_cons.mp hmem with hfirst | hrest
      · cases hfirst
      · rcases List.mem_cons.mp hrest with hsecond | hrest
        · cases hsecond
        · exact hrest
    have hended : forall {result : Except PyException Value} {later : List GateEvent},
        Program.Emits (Program.ofExcept result : GateProgram Value) later (.raise raised) ->
          ⟨.record other, .error e⟩ ∈ later -> raised = e := by
      intro result later hlater hmem
      rw [(Program.emits_ofExcept hlater).1] at hmem
      cases hmem
    cases outcome with
    | ok result => exact raised_of_recordError hsettle hsettled fun _ => @hended (.ok result) _
    | error failure =>
        change Program.Emits (settle tool decision call.toolName context (.error failure)) settled _
          at hsettle
        rw [settle] at hsettle
        split at hsettle
        · exact raised_of_recordError hsettle hsettled fun _ => @hended (.error failure) _
        · exact @hended (.error failure) _ hsettle hsettled

theorem emits_of_policyAsked {tool : ToolIdentity} {context : Option GovernanceContext}
    (hasked : PolicyAsked py gate ambient call inner tool context)
    (hpolicy : gate.policy tool context = .error e) :
    Program.Emits (gate.execute py ambient call) inner (.raise e) := by
  rcases hasked with ⟨bound, hauth, htool, happroval⟩
  have hevaluate : gate.evaluate py call.toolName context = .error e := by
    rw [evaluate, htool, ok_bind, hpolicy, error_bind]
  have hadmission : Program.Emits (gate.admission py ambient call) inner (.raise e) := by
    rw [admission, hauth, htool]
    apply Program.Emits.bind_of_pure happroval
    rw [hevaluate]
    rfl
  exact hadmission.bind_left _

end

section

variable {py : Builtins} {gate : GovernanceGate} {ambient : Ambient} {call : ExecuteCall}
  {inner : List GateEvent} {e : McpError}

/-- An error from outside is the one that the call raised, past the credential check. -/
theorem EndedFromOutside.raised {trace : List WrapperEvent} {failure : PyException}
    (houtside : EndedFromOutside py gate ambient call trace e)
    (htrace : trace = ⟨.inr .acquire, true⟩ :: inner.map Program.amongSlots ++
      [⟨.inr .release, true⟩])
    (h : Program.Emits (gate.execute py ambient call) inner (.raise failure)) :
    failure = .mcp e ∧ forall raised, gate.authenticate py ambient call ≠ .error raised := by
  subst htrace
  rcases houtside with ⟨asked, tool, context, hsame, hasked, hpolicy⟩ | ⟨event, hrecord, _⟩ |
    ⟨hleft, hrecorded, _⟩
  · cases among_injective hsame
    have hends := emits_of_policyAsked hasked hpolicy
    have hunique := Program.emits_ended_unique
      (show Program.Emits _ inner (Program.ofExcept (.error failure)) from h)
      (show Program.Emits _ inner (Program.ofExcept (.error (.mcp e))) from hends)
    refine ⟨Except.error.inj hunique, ?_⟩
    rcases hasked with ⟨bound, hauth, _⟩
    intro raised hraised
    rw [hauth] at hraised
    cases hraised
  · have hmem : ⟨.record event, .error (.mcp e)⟩ ∈ inner := mem_of_among hrecord
    exact ⟨raised_of_recorder h hmem, authenticate_of_emits_cons h hmem⟩
  · have hmem : ⟨.leave, .error (.mcp e)⟩ ∈ inner := mem_of_among hleft
    have hquiet : QuietAnswers inner := by
      intro event answer hanswer
      exact hrecorded event answer (mem_among hanswer _)
    exact ⟨raised_of_left h hquiet hmem, authenticate_of_emits_cons h hmem⟩

end

theorem EndedFromOutside.slots {py : Builtins} {gate : GovernanceGate} {ambient : Ambient}
    {call : ExecuteCall} {trace : List WrapperEvent} {e : McpError}
    (h : EndedFromOutside py gate ambient call trace e) :
    trace ≠ [⟨.inr .acquire, false⟩] ∧ ⟨.inr .release, false⟩ ∉ trace := by
  rcases h with ⟨asked, tool, context, htrace, _, _⟩ | ⟨event, hrecord, hreleased⟩ |
    ⟨hleft, _, hreleased⟩
  · subst htrace
    refine ⟨?_, not_overReleased_of_among⟩
    intro hsame
    cases hsame
  · refine ⟨?_, hreleased⟩
    intro hsame
    rw [hsame] at hrecord
    cases List.mem_singleton.mp hrecord
  · refine ⟨?_, hreleased⟩
    intro hsame
    rw [hsame] at hleft
    cases List.mem_singleton.mp hleft

end GovernanceGate

/-!
## Upstream errors under the codes of the boundary
-/

end YasinMcp
