import YasinMcp.Governance.Authentication
import YasinMcp.Governance.Interleaving

/-!
# The audit trail of a call

What a call performs besides consulting the store has one of five shapes, told
apart by how the call ended.  The shape fixes the audit events, where the body
was entered between them, and the result; counting it over all calls gives the
number of executions on record in any interleaving.
-/

namespace YasinMcp

open Foundation

/-!
## Shapes
-/

def isConsult : GateEvent -> Bool
  | ⟨.consult _, _⟩ => true
  | _ => false

theorem not_enter_of_consult {entry : GateEvent} (h : isConsult entry = true) :
    isEnter entry = false := by
  rcases entry with ⟨op, answer⟩
  cases op with
  | consult p => rfl
  | _ => cases h

/-- What a trace holds besides consultations. -/
def stepsOf (trace : List GateEvent) : List GateEvent :=
  trace.filter fun entry => !isConsult entry

theorem stepsOf_append (first second : List GateEvent) :
    stepsOf (first ++ second) = stepsOf first ++ stepsOf second :=
  List.filter_append ..

def audited (event : AuditEvent) : GateEvent :=
  ⟨.record event, .ok ()⟩

def opening (py : Builtins) (tool : ToolIdentity) (decision : GovernanceDecision)
    (toolName : String) (context : Option GovernanceContext) : List GateEvent :=
  [audited (GovernanceGate.requestEvent tool toolName context),
    audited (GovernanceGate.decisionEvent py tool decision toolName context)]

def refusal (py : Builtins) (tool : ToolIdentity) (decision : GovernanceDecision)
    (toolName : String) : PyException :=
  policyDeniedError (decisionMessage py decision toolName)
    [("tool", .str toolName),
      ("decision", .str decision.value),
      ("risk", .str tool.risk.value),
      ("known", .bool tool.known)]

/-- How a call ended. -/
inductive CallEnd where
  | refused
  | denied
  | returned
  | failed
  | exited
deriving DecidableEq, Repr

/--
The steps and the result of a call that ended so.  A body that ends in an
exception which is no {lit}`Exception` leaves no third audit event.
-/
inductive CallShape (py : Builtins) (toolName : String) (args : List Value) (kwargs : Kwargs) :
    CallEnd -> List GateEvent -> Except PyException Value -> Prop where
  | refused (e : PyException) : CallShape py toolName args kwargs .refused [] (.error e)
  | denied {tool : ToolIdentity} {decision : GovernanceDecision}
      {context : Option GovernanceContext} (h : decision ≠ .allow) :
      CallShape py toolName args kwargs .denied (opening py tool decision toolName context)
        (.error (refusal py tool decision toolName))
  | returned {tool : ToolIdentity} {context : Option GovernanceContext} (value : Value) :
      CallShape py toolName args kwargs .returned
        (opening py tool .allow toolName context ++
          [⟨.enter args kwargs, ()⟩, ⟨.leave, .ok value⟩,
            audited (GovernanceGate.resultEvent tool .allow toolName context)])
        (.ok value)
  | failed {tool : ToolIdentity} {context : Option GovernanceContext} {e : PyException}
      (h : e.isException = true) :
      CallShape py toolName args kwargs .failed
        (opening py tool .allow toolName context ++
          [⟨.enter args kwargs, ()⟩, ⟨.leave, .error e⟩,
            audited (GovernanceGate.failureEvent tool .allow toolName context e)])
        (.error e)
  | exited {tool : ToolIdentity} {context : Option GovernanceContext} {e : PyException}
      (h : e.isException = false) :
      CallShape py toolName args kwargs .exited
        (opening py tool .allow toolName context ++
          [⟨.enter args kwargs, ()⟩, ⟨.leave, .error e⟩])
        (.error e)

theorem CallShape.stepsOf_eq {py : Builtins} {toolName : String} {args : List Value}
    {kwargs : Kwargs} {ending : CallEnd} {steps : List GateEvent}
    {result : Except PyException Value}
    (h : CallShape py toolName args kwargs ending steps result) : stepsOf steps = steps := by
  cases h <;> rfl

/-- How a call ended can be read off its steps and its result. -/
def endOf (steps : List GateEvent) (result : Except PyException Value) : CallEnd :=
  match steps.length, result with
  | 0, _ => .refused
  | 2, _ => .denied
  | 5, .ok _ => .returned
  | 5, .error _ => .failed
  | _, _ => .exited

theorem CallShape.end_eq {py : Builtins} {toolName : String} {args : List Value}
    {kwargs : Kwargs} {ending : CallEnd} {steps : List GateEvent}
    {result : Except PyException Value}
    (h : CallShape py toolName args kwargs ending steps result) :
    ending = endOf steps result := by
  cases h <;> rfl

/-!
## Every call has a shape
-/

namespace GovernanceGate

theorem emits_record_ended {event : AuditEvent} {f : Unit -> GateProgram Value}
    {trace : List GateEvent} {result : Except PyException Value}
    (h : Program.Emits (record event >>= f) trace (Program.ofExcept result))
    (hquiet : QuietAnswers trace) :
    exists rest, trace = audited event :: rest ∧
      Program.Emits (f ()) rest (Program.ofExcept result) ∧ QuietAnswers rest := by
  rcases Program.emits_perform_ended h with ⟨answer, rest, htrace, hrest⟩
  subst htrace
  cases hquiet event answer List.mem_cons_self
  refine ⟨rest, rfl, hrest, ?_⟩
  intro other answer hmem
  exact hquiet other answer (List.mem_cons_of_mem _ hmem)

theorem shape_of_settle {tool : ToolIdentity} {toolName : String}
    {context : Option GovernanceContext} {outcome result : Except PyException Value}
    {trace : List GateEvent}
    (h : Program.Emits (settle tool .allow toolName context outcome) trace
      (Program.ofExcept result))
    (hquiet : QuietAnswers trace) (py : Builtins) (args : List Value) (kwargs : Kwargs) :
    exists ending, CallShape py toolName args kwargs ending
      (opening py tool .allow toolName context ++
        ⟨.enter args kwargs, ()⟩ :: ⟨.leave, outcome⟩ :: trace) result := by
  cases outcome with
  | ok value =>
      rcases emits_record_ended h hquiet with ⟨rest, htrace, hrest, _⟩
      rcases Program.emits_ofExcept_ended (x := .ok value) hrest with ⟨hnil, hresult⟩
      subst htrace hnil hresult
      exact ⟨.returned, .returned value⟩
  | error e =>
      cases he : e.isException with
      | true =>
          rw [settle, if_pos he] at h
          rcases emits_record_ended h hquiet with ⟨rest, htrace, hrest, _⟩
          rcases Program.emits_ofExcept_ended (x := .error e) hrest with ⟨hnil, hresult⟩
          subst htrace hnil hresult
          exact ⟨.failed, .failed he⟩
      | false =>
          rw [settle, if_neg (by simp [he])] at h
          rcases Program.emits_ofExcept_ended (x := .error e) h with ⟨hnil, hresult⟩
          subst hnil hresult
          exact ⟨.exited, .exited he⟩

theorem shape_of_carryOut {py : Builtins} {toolName : String} {args : List Value}
    {kwargs : Kwargs} {admission : Admission} {trace : List GateEvent}
    {result : Except PyException Value}
    (h : Program.Emits (carryOut py toolName args kwargs admission) trace
      (Program.ofExcept result))
    (hquiet : QuietAnswers trace) :
    exists ending, CallShape py toolName args kwargs ending trace result := by
  rcases admission with ⟨tool, decision, context⟩
  rcases emits_record_ended h hquiet with ⟨second, htrace, hdecision, hquietSecond⟩
  rcases emits_record_ended hdecision hquietSecond with ⟨third, hsecond, hthird, hquietThird⟩
  subst htrace hsecond
  by_cases hallow : decision = .allow
  · subst hallow
    rw [if_neg (by simp)] at hthird
    rcases Program.emits_perform_ended hthird with ⟨_, fourth, hthird, hfourth⟩
    rcases Program.emits_perform_ended hfourth with ⟨outcome, fifth, hfourth, hfifth⟩
    subst hthird hfourth
    refine shape_of_settle hfifth ?_ py args kwargs
    intro event answer hmem
    exact hquietThird event answer (List.mem_cons_of_mem _ (List.mem_cons_of_mem _ hmem))
  · rw [if_pos hallow] at hthird
    rcases Program.emits_ofExcept_ended (x := .error _) hthird with ⟨hnil, hresult⟩
    subst hnil hresult
    exact ⟨.denied, .denied hallow⟩

theorem consults_of_admission {py : Builtins} {gate : GovernanceGate} {ambient : Ambient}
    {call : ExecuteCall} {trace : List GateEvent} {rest : GateProgram Admission}
    (h : Program.Emits (gate.admission py ambient call) trace rest) :
    forall entry, entry ∈ trace -> isConsult entry = true := by
  intro entry hentry
  rcases List.append_of_mem hentry with ⟨before, later, htrace⟩
  have hguard : Program.Guarded (fun _ op => exists p, op = .consult p) []
      (gate.admission py ambient call) :=
    guarded_admission (fun _ p => ⟨p, rfl⟩) py gate ambient call
  rcases entry with ⟨op, answer⟩
  rcases Program.guarded_of_emits hguard h htrace with ⟨p, hop⟩
  cases hop
  rfl

theorem stepsOf_admission {py : Builtins} {gate : GovernanceGate} {ambient : Ambient}
    {call : ExecuteCall} {trace : List GateEvent} {rest : GateProgram Admission}
    (h : Program.Emits (gate.admission py ambient call) trace rest) : stepsOf trace = [] := by
  rw [stepsOf, List.filter_eq_nil_iff]
  intro entry hentry
  simp [consults_of_admission h entry hentry]

/-- Every call that ended, its audit events all recorded, has one of the shapes. -/
theorem shape_of_execute {py : Builtins} {gate : GovernanceGate} {ambient : Ambient}
    {call : ExecuteCall} {trace : List GateEvent} {result : Except PyException Value}
    (h : Program.Emits (gate.execute py ambient call) trace (Program.ofExcept result))
    (hquiet : QuietAnswers trace) :
    exists ending, CallShape py call.toolName call.args
      (gate.credentials py ambient call).kwargs ending (stepsOf trace) result := by
  rcases Program.emits_bind_ended h with ⟨e, hraised, hresult⟩ |
    ⟨first, second, admission, htrace, hfirst, hsecond⟩
  · rw [stepsOf_admission hraised, hresult]
    exact ⟨.refused, .refused e⟩
  · subst htrace
    have hrest : QuietAnswers second := by
      intro event answer hmem
      exact hquiet event answer (List.mem_append_right _ hmem)
    rcases shape_of_carryOut hsecond hrest with ⟨ending, hshape⟩
    refine ⟨ending, ?_⟩
    rw [stepsOf_append, stepsOf_admission hfirst, hshape.stepsOf_eq]
    exact hshape

/-!
## Audit events and the body, whatever the recorder answers
-/

theorem emits_record {event : AuditEvent} {f : Unit -> GateProgram Value}
    {trace : List GateEvent} {rest : GateProgram Value}
    (h : Program.Emits (record event >>= f) trace rest) :
    trace = [] ∨ (exists e, trace = [⟨.record event, .error e⟩]) ∨
      exists later, trace = audited event :: later ∧ Program.Emits (f ()) later rest := by
  cases h with
  | refl => exact Or.inl rfl
  | @perform _ _ answer later _ hlater =>
      right
      cases answer with
      | error e =>
          rw [Program.emits_raise hlater]
          exact Or.inl ⟨e, rfl⟩
      | ok value => exact Or.inr ⟨later, rfl, hlater⟩

def isExecutionEvent : GateEvent -> Bool
  | ⟨.record event, _⟩ => event.isExecution
  | _ => false

theorem not_execution_of_consult {entry : GateEvent} (h : isConsult entry = true) :
    isExecutionEvent entry = false := by
  rcases entry with ⟨op, answer⟩
  cases op with
  | consult p => rfl
  | _ => cases h

theorem emits_carryOut {py : Builtins} {toolName : String} {args : List Value}
    {kwargs : Kwargs} {tool : ToolIdentity} {decision : GovernanceDecision}
    {context : Option GovernanceContext} {trace : List GateEvent} {rest : GateProgram Value}
    (h : Program.Emits (carryOut py toolName args kwargs ⟨tool, decision, context⟩) trace
      rest) :
    (AuditOnly trace ∧ forall entry, entry ∈ trace -> isExecutionEvent entry = false) ∨
      exists later,
        trace = opening py tool .allow toolName context ++ later ∧
        Program.Emits (invoke tool .allow toolName context args kwargs) later rest := by
  rcases emits_record h with hnil | ⟨e, herror⟩ | ⟨second, htrace, hdecision⟩
  · subst hnil
    exact Or.inl ⟨by simp [AuditOnly], by simp⟩
  · subst herror
    exact Or.inl ⟨by simp [AuditOnly], by
      simp [isExecutionEvent, AuditEvent.isExecution, requestEvent]⟩
  rcases emits_record hdecision with hnil | ⟨e, herror⟩ | ⟨third, hsecond, hthird⟩
  · subst htrace hnil
    exact Or.inl ⟨by simp [AuditOnly, audited], by
      simp [isExecutionEvent, AuditEvent.isExecution, audited, requestEvent]⟩
  · subst htrace herror
    exact Or.inl ⟨by simp [AuditOnly, audited], by
      simp [isExecutionEvent, AuditEvent.isExecution, audited, requestEvent, decisionEvent]⟩
  subst htrace hsecond
  by_cases hallow : decision = .allow
  · subst hallow
    rw [if_neg (by simp)] at hthird
    exact Or.inr ⟨third, rfl, hthird⟩
  · rw [if_pos hallow] at hthird
    rw [Program.emits_raise hthird]
    exact Or.inl ⟨by simp [AuditOnly, audited], by
      simp [isExecutionEvent, AuditEvent.isExecution, audited, requestEvent, decisionEvent]⟩

theorem execution_of_invoke {tool : ToolIdentity} {decision : GovernanceDecision}
    {toolName : String} {context : Option GovernanceContext} {args : List Value}
    {kwargs : Kwargs} {trace : List GateEvent} {rest : GateProgram Value}
    (h : Program.Emits (invoke tool decision toolName context args kwargs) trace rest)
    {event : AuditEvent} {answer : Except PyException Unit}
    (hmem : ⟨.record event, answer⟩ ∈ trace) : event.isExecution = true := by
  have hguard : Program.Guarded
      (fun _ op => forall event, op = .record event -> event.isExecution = true) []
      (invoke tool decision toolName context args kwargs) := by
    refine ⟨?_, fun _ => ⟨?_, fun outcome => ?_⟩⟩
    · intro event hop
      cases hop
    · intro event hop
      cases hop
    apply guarded_settle
    intro past event _ hexecution event' hop
    cases hop
    exact hexecution
  rcases List.append_of_mem hmem with ⟨before, later, htrace⟩
  exact Program.guarded_of_emits hguard h htrace event rfl

theorem ofCall_of_carryOut {py : Builtins} {toolName : String} {args : List Value}
    {kwargs : Kwargs} {admission : Admission} {trace : List GateEvent}
    {rest : GateProgram Value}
    (h : Program.Emits (carryOut py toolName args kwargs admission) trace rest)
    {event : AuditEvent} {answer : Except PyException Unit}
    (hmem : ⟨.record event, answer⟩ ∈ trace) : event.OfCall toolName admission := by
  have hguard : Program.Guarded
      (fun _ op => forall event, op = .record event -> event.OfCall toolName admission) []
      (carryOut py toolName args kwargs admission) := by
    apply guarded_carryOut
    · intro past event hof event' hop
      cases hop
      exact hof
    · intro past event hop
      cases hop
    · intro records _ event hop
      cases hop
  rcases List.append_of_mem hmem with ⟨before, later, htrace⟩
  exact Program.guarded_of_emits hguard h htrace event rfl

theorem records_of_execute {py : Builtins} {gate : GovernanceGate} {ambient : Ambient}
    {call : ExecuteCall} {trace : List GateEvent} {rest : GateProgram Value}
    (h : Program.Emits (gate.execute py ambient call) trace rest) :
    (forall event answer, ⟨.record event, answer⟩ ∉ trace) ∨
      exists admission, forall event answer, ⟨.record event, answer⟩ ∈ trace ->
        event.OfCall call.toolName admission := by
  rcases Program.emits_bind h with ⟨left, hleft, _⟩ |
    ⟨first, second, admission, htrace, hfirst, hsecond⟩
  · left
    intro event answer hmem
    exact absurd (consults_of_admission hleft _ hmem) (by simp [isConsult])
  · refine Or.inr ⟨admission, ?_⟩
    intro event answer hmem
    rw [htrace] at hmem
    rcases List.mem_append.mp hmem with hadmission | hcarried
    · exact absurd (consults_of_admission hfirst _ hadmission) (by simp [isConsult])
    · exact ofCall_of_carryOut hsecond hcarried

/-- An audit event of a call run alone shows the context the call was admitted with. -/
theorem context_of_recorded {world : Type} {host : Host world} {py : Builtins}
    {gate : GovernanceGate} {ambient : Ambient} {call : ExecuteCall} {s : HostState world}
    {event : AuditEvent} {answer : Except PyException Unit}
    (h : ⟨.record event, answer⟩ ∈ (host.run (gate.execute py ambient call) s).trace) :
    exists admission, (host.run (gate.admission py ambient call) s).result = .ok admission ∧
      event.context = safeContext admission.context := by
  have hconsults := consults_of_admission
    (Program.emits_run_ended host.handle (gate.admission py ambient call) s)
  cases hresult : (host.run (gate.admission py ambient call) s).result with
  | error e =>
      rw [execute, Host.run, Program.run_bind_error hresult] at h
      exact absurd (hconsults _ h) (by simp [isConsult])
  | ok admission =>
      rw [execute, Host.run, Program.run_bind_ok hresult] at h
      rcases List.mem_append.mp h with hadmission | hcarried
      · exact absurd (hconsults _ hadmission) (by simp [isConsult])
      · exact ⟨admission, rfl,
          (ofCall_of_carryOut (Program.emits_run_ended host.handle _ _) hcarried).context⟩

theorem invocations_of_recorder_error {py : Builtins} {gate : GovernanceGate}
    {ambient : Ambient} {call : ExecuteCall} {trace : List GateEvent}
    {rest : GateProgram Value}
    (h : Program.Emits (gate.execute py ambient call) trace rest) {event : AuditEvent}
    {e : PyException} (hmem : ⟨.record event, .error e⟩ ∈ trace)
    (hkind : event.isExecution = false) : invocations trace = 0 := by
  rcases Program.emits_bind h with ⟨left, hleft, _⟩ |
    ⟨first, second, ⟨tool, decision, context⟩, htrace, hfirst, hsecond⟩
  · exact absurd (consults_of_admission hleft _ hmem) (by simp [isConsult])
  subst htrace
  have hnone : invocations first = 0 := by
    rw [invocations, List.countP_eq_zero]
    intro entry hentry
    simp [not_enter_of_consult (consults_of_admission hfirst entry hentry)]
  rw [invocations_append, hnone, Nat.zero_add]
  rcases emits_carryOut hsecond with ⟨hrecords, _⟩ | ⟨later, hlater, hinvoke⟩
  · exact hrecords.invocations_eq_zero
  · subst hlater
    rcases List.mem_append.mp hmem with hadmission | hcarried
    · exact absurd (consults_of_admission hfirst _ hadmission) (by simp [isConsult])
    · rcases List.mem_append.mp hcarried with hopening | hrest
      · simp [opening, audited] at hopening
      · rw [execution_of_invoke hinvoke hrest] at hkind
        cases hkind

/-- An execution on record comes past an allow decision of the same call. -/
theorem allowed_before_execution {py : Builtins} {gate : GovernanceGate} {ambient : Ambient}
    {call : ExecuteCall} {trace : List GateEvent} {rest : GateProgram Value}
    (h : Program.Emits (gate.execute py ambient call) trace rest)
    {before later : List GateEvent} {entry : GateEvent}
    (htrace : trace = before ++ entry :: later) (hentry : isExecutionEvent entry = true) :
    exists allow, audited allow ∈ before ∧ allow.eventType = .decision ∧
      allow.decision = some .allow ∧ allow.toolName = call.toolName := by
  have hnotConsult : isConsult entry = false := by
    cases hconsult : isConsult entry with
    | false => rfl
    | true =>
        rw [not_execution_of_consult hconsult] at hentry
        cases hentry
  rcases Program.emits_bind h with ⟨left, hleft, _⟩ |
    ⟨first, second, ⟨tool, decision, context⟩, hsplit, hfirst, hsecond⟩
  · have hconsult := consults_of_admission hleft entry (by simp [htrace])
    rw [hnotConsult] at hconsult
    cases hconsult
  rcases emits_carryOut hsecond with ⟨_, hnone⟩ | ⟨last, hlast, _⟩
  · have hmem : entry ∈ first ++ second := by
      rw [← hsplit, htrace]
      simp
    rcases List.mem_append.mp hmem with hadmission | hcarried
    · have hconsult := consults_of_admission hfirst entry hadmission
      rw [hnotConsult] at hconsult
      cases hconsult
    · rw [hnone entry hcarried] at hentry
      cases hentry
  · -- Neither the consultations nor the two opening events are of an execution.
    have hwhole : (first ++ opening py tool .allow call.toolName context) ++ last =
        before ++ entry :: later := by
      rw [List.append_assoc, ← hlast, ← hsplit, htrace]
    have hleading : first ++ opening py tool .allow call.toolName context <+: before := by
      apply Program.prefix_of_not_mem hwhole
      intro hmem
      rcases List.mem_append.mp hmem with hadmission | hopening
      · rw [consults_of_admission hfirst entry hadmission] at hnotConsult
        cases hnotConsult
      · rcases List.mem_pair.mp hopening with hrequest | hdecision
        · rw [hrequest] at hentry
          cases hentry
        · rw [hdecision] at hentry
          cases hentry
    refine ⟨decisionEvent py tool .allow call.toolName context, ?_, rfl, rfl, rfl⟩
    apply hleading.subset
    exact List.mem_append_right _ (List.mem_cons_of_mem _ List.mem_cons_self)

/-!
## Counting executions
-/

theorem countP_stepsOf {p : GateEvent -> Bool}
    (h : forall entry, isConsult entry = true -> p entry = false) (trace : List GateEvent) :
    (stepsOf trace).countP p = trace.countP p := by
  rw [stepsOf, List.countP_filter]
  apply List.countP_congr
  intro entry _
  cases hconsult : isConsult entry with
  | true => simp [h entry hconsult]
  | false => simp

theorem executions_of_shape {py : Builtins} {toolName : String} {args : List Value}
    {kwargs : Kwargs} {ending : CallEnd} {steps : List GateEvent}
    {result : Except PyException Value}
    (h : CallShape py toolName args kwargs ending steps result) (hending : ending ≠ .exited) :
    steps.countP isExecutionEvent = invocations steps := by
  cases h with
  | refused e => rfl
  | denied hdenied => rfl
  | returned value => rfl
  | failed hexception => rfl
  | exited hexit => exact absurd rfl hending

/-- The body of the call, if it ended at all, returned or raised an {lit}`Exception`. -/
def EndsByException (trace : List GateEvent) : Prop :=
  forall e, ⟨.leave, .error e⟩ ∈ trace -> e.isException = true

theorem executions_of_execute {py : Builtins} {gate : GovernanceGate} {ambient : Ambient}
    {call : ExecuteCall} {trace : List GateEvent} {result : Except PyException Value}
    (h : Program.Emits (gate.execute py ambient call) trace (Program.ofExcept result))
    (hquiet : QuietAnswers trace) (hbody : EndsByException trace) :
    trace.countP isExecutionEvent = invocations trace := by
  rcases shape_of_execute h hquiet with ⟨ending, hshape⟩
  have hending : ending ≠ .exited := by
    intro hexited
    subst hexited
    generalize hsteps : stepsOf trace = steps at hshape
    cases hshape with
    | @exited tool context e hexit =>
        have hmem : ⟨.leave, .error e⟩ ∈ stepsOf trace := by
          rw [hsteps]
          simp
        rw [hbody e (List.mem_filter.mp hmem).1] at hexit
        cases hexit
  have hexecutions := executions_of_shape hshape hending
  rw [invocations, countP_stepsOf fun entry => not_enter_of_consult,
    countP_stepsOf fun entry => not_execution_of_consult] at hexecutions
  exact hexecutions

section

variable {thread state env : Type} [DecidableEq thread]
  {step : state -> GateEvent -> state -> Prop} {move : state -> env -> state -> Prop}
  {calls : thread -> ConcurrentCall} {s : state} {trace : List ((thread × GateEvent) ⊕ env)}
  {rest : thread -> GateProgram Value} {s' : state}

theorem executions_of_interleaves
    (hrun : Program.Interleaves step move (fun i => (calls i).program) s trace rest s')
    (hcalls : forall i, QuietAnswers (Program.eventsOf i trace) ∧
      EndsByException (Program.eventsOf i trace) ∧
      (Program.eventsOf i trace = [] ∨ exists result, rest i = Program.ofExcept result)) :
    ((Program.threadEvents trace).map Prod.snd).countP isExecutionEvent =
      invocations ((Program.threadEvents trace).map Prod.snd) := by
  have hthread : forall i, (Program.eventsOf i trace).countP isExecutionEvent =
      (Program.eventsOf i trace).countP isEnter := by
    intro i
    rcases hcalls i with ⟨hquiet, hbody, hidle | ⟨result, hresult⟩⟩
    · rw [hidle]
      rfl
    · have hemits := Program.emits_eventsOf hrun i
      rw [hresult] at hemits
      exact executions_of_execute hemits hquiet hbody
  apply Nat.le_antisymm
  · apply Program.countP_le_of_threads
    intro i
    rw [← Program.eventsOf_eq_map]
    exact (hthread i).le
  · apply Program.countP_le_of_threads
    intro i
    rw [← Program.eventsOf_eq_map]
    exact (hthread i).ge

/-- Whatever the other calls do, an execution event comes after an ALLOW of its own call. -/
theorem allowed_of_interleaves
    (hrun : Program.Interleaves step move (fun i => (calls i).program) s trace rest s')
    {before later : List (thread × GateEvent)} {i : thread} {entry : GateEvent}
    (hsplit : Program.threadEvents trace = before ++ (i, entry) :: later)
    (hentry : isExecutionEvent entry = true) :
    exists allow, (i, audited allow) ∈ before ∧ allow.eventType = .decision ∧
      allow.decision = some .allow ∧ allow.toolName = (calls i).call.toolName := by
  have hevents : Program.eventsOf i trace =
      ((before.filter fun e => e.1 = i).map Prod.snd) ++
        entry :: ((later.filter fun e => e.1 = i).map Prod.snd) := by
    rw [Program.eventsOf_eq_map, hsplit]
    simp
  rcases allowed_before_execution (Program.emits_eventsOf hrun i) hevents hentry with
    ⟨allow, hallow, hkind, hdecision, htool⟩
  refine ⟨allow, ?_, hkind, hdecision, htool⟩
  rcases List.mem_map.mp hallow with ⟨⟨j, event⟩, hmem, hevent⟩
  rcases List.mem_filter.mp hmem with ⟨hbefore, hj⟩
  simp only [decide_eq_true_eq] at hj
  subst hj hevent
  exact hbefore

end

/-- The trail of every call, alone and among others. -/
theorem audit_trail :
    (forall (world : Type) (host : Host world) (py : Builtins) (gate : GovernanceGate)
      (ambient : Ambient) (call : ExecuteCall) (s : HostState world),
      let r := host.run (gate.execute py ambient call) s
      (host.Quiet -> ∃! ending, CallShape py call.toolName call.args
        (gate.credentials py ambient call).kwargs ending (stepsOf r.trace) r.result) ∧
      (exists risk context, forall event answer, ⟨.record event, answer⟩ ∈ r.trace ->
        event.toolName = call.toolName ∧ event.risk = some risk ∧
          event.context = safeContext context) ∧
      (forall event e, ⟨.record event, .error e⟩ ∈ r.trace ->
        event.eventType = .request ∨ event.eventType = .decision ->
          invocations r.trace = 0)) ∧
    (forall (thread state env : Type) [DecidableEq thread]
      (step : state -> GateEvent -> state -> Prop) (move : state -> env -> state -> Prop)
      (calls : thread -> ConcurrentCall) s trace rest s',
      Program.Interleaves step move (fun i => (calls i).program) s trace rest s' ->
      ((forall i, QuietAnswers (Program.eventsOf i trace) ∧
          EndsByException (Program.eventsOf i trace) ∧
          (Program.eventsOf i trace = [] ∨ exists result, rest i = Program.ofExcept result)) ->
        ((Program.threadEvents trace).map Prod.snd).countP isExecutionEvent =
          invocations ((Program.threadEvents trace).map Prod.snd)) ∧
      (forall (before later : List (thread × GateEvent)) i entry,
        Program.threadEvents trace = before ++ (i, entry) :: later ->
        isExecutionEvent entry = true ->
        exists allow, (i, audited allow) ∈ before ∧ allow.eventType = .decision ∧
          allow.decision = some .allow ∧ allow.toolName = (calls i).call.toolName)) := by
  constructor
  · intro world host py gate ambient call s r
    have hemits := Program.emits_run_ended host.handle (gate.execute py ambient call) s
    refine ⟨?_, ?_, ?_⟩
    · intro hhost
      have hquiet : QuietAnswers r.trace := by
        intro event answer hmem
        rcases Program.answer_of_run hmem with ⟨s', hanswer⟩
        exact hanswer.trans (hhost event s')
      rcases shape_of_execute hemits hquiet with ⟨ending, hshape⟩
      refine ⟨ending, hshape, ?_⟩
      intro other hother
      exact hother.end_eq.trans hshape.end_eq.symm
    · rcases records_of_execute hemits with hnone | ⟨admission, hof⟩
      · exact ⟨.readOnly, none, fun event answer hmem => absurd hmem (hnone event answer)⟩
      · refine ⟨admission.tool.risk, admission.context, ?_⟩
        intro event answer hmem
        exact ⟨(hof event answer hmem).toolName, (hof event answer hmem).risk,
          (hof event answer hmem).context⟩
    · intro event e hmem hkind
      apply invocations_of_recorder_error hemits hmem
      rcases hkind with hrequest | hdecision
      · simp [AuditEvent.isExecution, hrequest]
      · simp [AuditEvent.isExecution, hdecision]
  · intro thread state env _ step move calls s trace rest s' hrun
    constructor
    · intro hcalls
      exact executions_of_interleaves hrun hcalls
    · intro before later i entry hsplit hentry
      exact allowed_of_interleaves hrun hsplit hentry

def openGate : GovernanceGate where
  catalog := statusGate.catalog

theorem audit_trail_status :
    let r := quietHost.run (openGate.execute plainBuiltins ⟨fun _ => none, {}⟩ statusCall)
      (InMemoryApprovalStore.empty, ())
    (∃! ending, CallShape plainBuiltins "status" []
      (openGate.credentials plainBuiltins ⟨fun _ => none, {}⟩ statusCall).kwargs ending
      (stepsOf r.trace) r.result) ∧
    r.trace.countP isExecutionEvent = invocations r.trace ∧ invocations r.trace = 1 := by
  intro r
  have halone : Program.Interleaves quietHost.Step (fun _ (_ : Empty) _ => False)
      (fun _ : Unit =>
        ConcurrentCall.program ⟨plainBuiltins, openGate, ⟨fun _ => none, {}⟩, statusCall⟩)
      (InMemoryApprovalStore.empty, ()) (r.trace.map fun event => .inl ((), event))
      (fun _ => Program.ofExcept r.result) r.state :=
    Program.interleaves_alone (fun _ _ => rfl) _ _
  have hthread : Program.eventsOf () (r.trace.map fun event =>
      (.inl ((), event) : (Unit × GateEvent) ⊕ Empty)) = r.trace :=
    Program.eventsOf_alone () r.trace
  refine ⟨(audit_trail.1 Unit quietHost plainBuiltins openGate ⟨fun _ => none, {}⟩ statusCall
    (InMemoryApprovalStore.empty, ())).1 quietHost_quiet, ?_, by decide⟩
  have hcount := (audit_trail.2 Unit (HostState Unit) Empty _ _ _ _ _ _ _ halone).1 (by
    intro i
    rw [hthread]
    refine ⟨?_, ?_, Or.inr ⟨r.result, rfl⟩⟩
    · intro event answer hmem
      rcases Program.answer_of_run hmem with ⟨s', hanswer⟩
      exact hanswer
    · intro e hmem
      rcases Program.answer_of_run hmem with ⟨s', hanswer⟩
      cases hanswer)
  rw [Program.threadEvents_alone] at hcount
  exact hcount

/-- The process asks to exit while the body runs. -/
def exitingHost : Host Unit where
  clock _ := 0
  record _ s := (.ok (), s)
  enter _ _ s := s
  leave s := (.error (.other "SystemExit" false), s)

theorem audit_trail_exit :
    exitingHost.Quiet ∧
      let r := exitingHost.run (openGate.execute plainBuiltins ⟨fun _ => none, {}⟩ statusCall)
        (InMemoryApprovalStore.empty, ())
      ¬ exists ending, ending ≠ .exited ∧
        CallShape plainBuiltins "status" []
          (openGate.credentials plainBuiltins ⟨fun _ => none, {}⟩ statusCall).kwargs ending
          (stepsOf r.trace) r.result := by
  refine ⟨fun event s => rfl, ?_⟩
  intro r hshape
  rcases hshape with ⟨ending, hending, hshape⟩
  exact hending hshape.end_eq

end GovernanceGate

end YasinMcp
