import YasinMcp.Governance.Gate

/-!
# Executing a call alone

A call run by itself against a store, a recorder and a tool body.  The body is
entered exactly when the call is admitted with an allow decision, so the facts
about entering are facts about the admission.
-/

namespace YasinMcp

open Foundation

/-!
## What answers a call
-/

abbrev HostState (world : Type) := InMemoryApprovalStore × world

/-- The clock, the recorder and the tool body; all but the clock may change any state. -/
structure Host (world : Type) where
  clock : world -> Instant
  record : AuditEvent -> HostState world -> Except PyException Unit × HostState world
  enter : List Value -> Kwargs -> HostState world -> HostState world
  leave : HostState world -> Except PyException Value × HostState world

namespace Host

variable {world : Type}

/-- Answer one operation; a consultation is atomic under the store's lock. -/
def handle (host : Host world) (s : HostState world) :
    (op : GateOp) -> GateRes op × HostState world
  | .consult p =>
      let (result, store) := s.1.validateAndConsume p (host.clock s.2)
      (result, (store, s.2))
  | .record event => host.record event s
  | .enter args kwargs => ((), host.enter args kwargs s)
  | .leave => host.leave s

def Step (host : Host world) (s : HostState world) (event : GateEvent)
    (s' : HostState world) : Prop :=
  host.handle s event.1 = (event.2, s')

def Quiet (host : Host world) : Prop :=
  forall event s, (host.record event s).1 = .ok ()

abbrev run {a : Type} (host : Host world) (p : GateProgram a) (s : HostState world) :
    Program.Run (HostState world) GateRes PyException a :=
  Program.run host.handle p s

end Host

/-!
## Reading a trace
-/

def isEnter : GateEvent -> Bool
  | ⟨.enter _ _, _⟩ => true
  | _ => false

def invocations (trace : List GateEvent) : Nat :=
  trace.countP isEnter

def consultation? : GateEvent -> Option ApprovalValidationResult
  | ⟨.consult _, result⟩ => some result
  | _ => none

def consultations (trace : List GateEvent) : List ApprovalValidationResult :=
  trace.filterMap consultation?

def decision? : GateEvent -> Option GovernanceDecision
  | ⟨.record event, _⟩ => if event.eventType = .decision then event.decision else none
  | _ => none

def decisions (trace : List GateEvent) : List GovernanceDecision :=
  trace.filterMap decision?

section

variable (first second : List GateEvent)

@[simp] theorem invocations_append :
    invocations (first ++ second) = invocations first + invocations second :=
  List.countP_append

@[simp] theorem consultations_append :
    consultations (first ++ second) = consultations first ++ consultations second :=
  List.filterMap_append

@[simp] theorem decisions_append :
    decisions (first ++ second) = decisions first ++ decisions second :=
  List.filterMap_append

end

/-- A trace of audit events that record no decision. -/
def Silent (trace : List GateEvent) : Prop :=
  invocations trace = 0 ∧ consultations trace = [] ∧ decisions trace = []

namespace GovernanceGate

variable {world : Type} {host : Host world}

/-!
## Audit events and the tool body
-/

theorem run_record_bind {a : Type} (hquiet : host.Quiet) (event : AuditEvent)
    (f : Unit -> GateProgram a) (s : HostState world) :
    host.run (record event >>= f) s =
      ⟨(host.run (f ()) (host.record event s).2).result,
        ⟨.record event, .ok ()⟩ :: (host.run (f ()) (host.record event s).2).trace,
        (host.run (f ()) (host.record event s).2).state⟩ := by
  have hanswer : (host.handle s (.record event)).1 = .ok () := hquiet event s
  rw [record, Program.perform_bind, Host.run, Program.run_perform, hanswer]
  rfl

theorem silent_settle (hquiet : host.Quiet) (tool : ToolIdentity)
    (decision : GovernanceDecision) (toolName : String)
    (context : Option GovernanceContext) (outcome : Except PyException Value)
    (s : HostState world) :
    Silent (host.run (settle tool decision toolName context outcome) s).trace := by
  cases outcome with
  | ok result =>
      rw [settle, run_record_bind hquiet]
      exact ⟨rfl, rfl, rfl⟩
  | error e =>
      by_cases he : e.isException = true
      · rw [settle, if_pos he, run_record_bind hquiet]
        exact ⟨rfl, rfl, rfl⟩
      · rw [settle, if_neg he]
        exact ⟨rfl, rfl, rfl⟩

theorem run_invoke (hquiet : host.Quiet) (tool : ToolIdentity)
    (decision : GovernanceDecision) (toolName : String)
    (context : Option GovernanceContext) (args : List Value) (kwargs : Kwargs)
    (s : HostState world) :
    let trace := (host.run (invoke tool decision toolName context args kwargs) s).trace
    invocations trace = 1 ∧ consultations trace = [] ∧ decisions trace = [] := by
  let s₁ := host.enter args kwargs s
  rcases silent_settle hquiet tool decision toolName context (host.leave s₁).1
    (host.leave s₁).2 with ⟨hinvocations, hconsultations, hdecisions⟩
  have htrace : (host.run (invoke tool decision toolName context args kwargs) s).trace =
      [⟨.enter args kwargs, ()⟩, ⟨.leave, (host.leave s₁).1⟩] ++
        (host.run (settle tool decision toolName context (host.leave s₁).1)
          (host.leave s₁).2).trace := rfl
  simp only [htrace, invocations_append, consultations_append, decisions_append,
    hinvocations, hconsultations, hdecisions]
  exact ⟨rfl, rfl, rfl⟩

theorem run_carryOut (hquiet : host.Quiet) (py : Builtins) (toolName : String)
    (args : List Value) (kwargs : Kwargs) (admission : Admission) (s : HostState world) :
    let r := host.run (carryOut py toolName args kwargs admission) s
    invocations r.trace = (if admission.decision = .allow then 1 else 0) ∧
      consultations r.trace = [] ∧ decisions r.trace = [admission.decision] ∧
      (admission.decision ≠ .allow -> exists e, r.result = .error e) := by
  rcases admission with ⟨tool, decision, context⟩
  simp only [carryOut, run_record_bind hquiet]
  by_cases hallow : decision = .allow
  · subst hallow
    simp only [ne_eq, not_true_eq_false, if_false, if_true, false_implies, and_true]
    rcases run_invoke hquiet tool .allow toolName context args kwargs
      (host.record (decisionEvent py tool .allow toolName context)
        (host.record (requestEvent tool toolName context) s).2).2 with
      ⟨hinvocations, hconsultations, hdecisions⟩
    refine ⟨?_, ?_, ?_⟩
    · exact hinvocations
    · exact hconsultations
    · exact congrArg (List.cons GovernanceDecision.allow) hdecisions
  · simp only [ne_eq, hallow, not_false_eq_true, if_true, if_false, Host.run,
      Program.run_raise, true_implies]
    exact ⟨rfl, rfl, rfl, _, rfl⟩

/-!
## Approval
-/

theorem run_applyApproval_pass {gate : GovernanceGate} {tool : ToolIdentity}
    {approvalToken : Option String}
    (h : tool.risk ≠ .mutation ∧ approvalToken = none) (toolName : String)
    (context : Option GovernanceContext) (s : HostState world) :
    host.run (gate.applyApproval toolName tool context approvalToken) s =
      ⟨.ok context, [], s⟩ := by
  rw [applyApproval, if_pos h]
  rfl

theorem run_applyApproval_no_store {gate : GovernanceGate} {tool : ToolIdentity}
    {approvalToken : Option String}
    (hneeds : ¬ (tool.risk ≠ .mutation ∧ approvalToken = none))
    (hstore : gate.approvalStore = false) (toolName : String)
    (context : Option GovernanceContext) (s : HostState world) :
    host.run (gate.applyApproval toolName tool context approvalToken) s =
      ⟨if tool.risk = .mutation ∧ textPresent approvalToken = true then
          .error (validationError "approval store not configured"
            [("reason_code", .str "approval_unknown"), ("tool", .str toolName)])
        else .ok context, [], s⟩ := by
  rw [applyApproval, if_neg hneeds, if_pos hstore]
  by_cases htoken : tool.risk = .mutation ∧ textPresent approvalToken = true
  · rw [if_pos htoken, if_pos htoken]
    rfl
  · rw [if_neg htoken, if_neg htoken]
    rfl

theorem run_applyApproval_consult {gate : GovernanceGate} {tool : ToolIdentity}
    {approvalToken : Option String}
    (hneeds : ¬ (tool.risk ≠ .mutation ∧ approvalToken = none))
    (hstore : gate.approvalStore = true) (toolName : String)
    (context : Option GovernanceContext) (s : HostState world) :
    let p := presentation toolName context approvalToken
    let result := (s.1.validateAndConsume p (host.clock s.2)).1
    host.run (gate.applyApproval toolName tool context approvalToken) s =
      ⟨approvedContext toolName context result, [⟨.consult p, result⟩],
        ((s.1.validateAndConsume p (host.clock s.2)).2, s.2)⟩ := by
  intro p result
  rw [applyApproval, if_neg hneeds, if_neg (by simp [hstore])]
  rw [consult, Program.perform_bind, Host.run, Program.run_perform]
  simp only [Program.pure_bind, Program.run_ofExcept]
  rfl

/-!
## Whole calls
-/

def conclude (py : Builtins) (gate : GovernanceGate) (toolName : String)
    (approval : Except PyException (Option GovernanceContext)) :
    Except PyException Admission := do
  let context ← approval
  let (tool, decision) ← gate.evaluate py toolName context
  .ok ⟨tool, decision, context⟩

/-- An admission runs its steps in order and stops at the first that raises. -/
theorem run_admission (host : Host world) (py : Builtins) (gate : GovernanceGate)
    (ambient : Ambient) (call : ExecuteCall) (s : HostState world) :
    host.run (gate.admission py ambient call) s =
      match gate.authenticate py ambient call with
      | .error e => ⟨.error e, [], s⟩
      | .ok bound =>
          match gate.resolveTool call.toolName with
          | .error e => ⟨.error e, [], s⟩
          | .ok tool =>
              let approval := host.run (gate.applyApproval call.toolName tool
                (boundContext bound call.context)
                (gate.credentials py ambient call).approvalToken) s
              ⟨gate.conclude py call.toolName approval.result, approval.trace,
                approval.state⟩ := by
  unfold admission conclude
  cases hauth : gate.authenticate py ambient call with
  | error e => rfl
  | ok bound =>
      cases htool : gate.resolveTool call.toolName with
      | error e => rfl
      | ok tool =>
          simp only [Program.ofExcept_ok, Program.pure_bind]
          cases happroval : (host.run (gate.applyApproval call.toolName tool
            (boundContext bound call.context)
            (gate.credentials py ambient call).approvalToken) s).result with
          | error e =>
              rw [Host.run, Program.run_bind_error happroval]
              rfl
          | ok context =>
              rw [Host.run, Program.run_bind_ok happroval]
              cases hdecision : gate.evaluate py call.toolName context with
              | error e => simp [hdecision]
              | ok decided => simp [hdecision]

def decisionOf : Except PyException Admission -> Option GovernanceDecision
  | .ok admission => some admission.decision
  | .error _ => none

/-- A call enters the body once when its admission allows it, and raises otherwise. -/
theorem run_execute (hquiet : host.Quiet) (py : Builtins) (gate : GovernanceGate)
    (ambient : Ambient) (call : ExecuteCall) (s : HostState world) :
    let a := host.run (gate.admission py ambient call) s
    let r := host.run (gate.execute py ambient call) s
    invocations r.trace =
        invocations a.trace + (if decisionOf a.result = some .allow then 1 else 0) ∧
      consultations r.trace = consultations a.trace ∧
      decisions r.trace = decisions a.trace ++ (decisionOf a.result).toList ∧
      (decisionOf a.result ≠ some .allow -> exists e, r.result = .error e) := by
  intro a r
  cases ha : a.result with
  | error e =>
      have hr : r = ⟨.error e, a.trace, a.state⟩ := Program.run_bind_error ha
      rw [hr]
      simp [decisionOf]
  | ok admission =>
      let c := host.run (carryOut py call.toolName call.args
        (gate.credentials py ambient call).kwargs admission) a.state
      have hr : r = ⟨c.result, a.trace ++ c.trace, c.state⟩ := Program.run_bind_ok ha
      have hc := run_carryOut hquiet py call.toolName call.args
        (gate.credentials py ambient call).kwargs admission a.state
      rcases hc with ⟨hinvocations, hconsultations, hdecisions, hraised⟩
      rw [hr]
      refine ⟨?_, ?_, ?_, ?_⟩
      · rw [invocations_append, hinvocations]
        simp [decisionOf]
      · rw [consultations_append, hconsultations, List.append_nil]
      · rw [decisions_append, hdecisions]
        rfl
      · intro hdenied
        exact hraised (by simpa [decisionOf] using hdenied)

end GovernanceGate

/-!
## What every trace of a call looks like
-/

def AuditOnly (trace : List GateEvent) : Prop :=
  forall entry, entry ∈ trace -> exists event answer, entry = ⟨.record event, answer⟩

theorem AuditOnly.countP_eq_zero {trace : List GateEvent} (h : AuditOnly trace)
    {q : GateEvent -> Bool} (hq : forall event answer, q ⟨.record event, answer⟩ = false) :
    trace.countP q = 0 := by
  rw [List.countP_eq_zero]
  intro entry hentry
  rcases h entry hentry with ⟨event, answer, hrecord⟩
  simp [hrecord, hq]

theorem AuditOnly.invocations_eq_zero {trace : List GateEvent} (h : AuditOnly trace) :
    invocations trace = 0 :=
  h.countP_eq_zero fun _ _ => rfl

/-- No audit event of the trace was answered by an exception. -/
def QuietAnswers (trace : List GateEvent) : Prop :=
  forall event answer, ⟨.record event, answer⟩ ∈ trace -> answer = .ok ()

structure AuditEvent.OfCall (toolName : String) (admission : GovernanceGate.Admission)
    (event : AuditEvent) : Prop where
  toolName : event.toolName = toolName
  risk : event.risk = some admission.tool.risk
  context : event.context = safeContext admission.context

def AuditEvent.isExecution (event : AuditEvent) : Bool :=
  event.eventType = .executionResult ∨ event.eventType = .executionFailure

namespace GovernanceGate

section

variable {guard : List GateEvent -> GateOp -> Prop}

theorem guarded_record {a : Type} {past : List GateEvent} {event : AuditEvent}
    {f : Unit -> GateProgram a} (hrecord : guard past (.record event))
    (hf : Program.Guarded guard (past ++ [⟨.record event, .ok ()⟩]) (f ())) :
    Program.Guarded guard past (record event >>= f) := by
  refine ⟨hrecord, ?_⟩
  intro answer
  cases answer with
  | error e => trivial
  | ok value => exact hf

theorem guarded_settle {past : List GateEvent} {tool : ToolIdentity}
    {decision : GovernanceDecision} {toolName : String} {context : Option GovernanceContext}
    (hrecord : forall past event, event.OfCall toolName ⟨tool, decision, context⟩ ->
      event.isExecution = true -> guard past (.record event))
    (outcome : Except PyException Value) :
    Program.Guarded guard past (settle tool decision toolName context outcome) := by
  cases outcome with
  | ok result => exact guarded_record (hrecord _ _ ⟨rfl, rfl, rfl⟩ rfl) trivial
  | error e =>
      by_cases he : e.isException = true
      · rw [settle, if_pos he]
        exact guarded_record (hrecord _ _ ⟨rfl, rfl, rfl⟩ rfl) trivial
      · rw [settle, if_neg he]
        trivial

/-- Whatever the answers, entering comes after the two audit events and settling last. -/
theorem guarded_carryOut {past : List GateEvent} {toolName : String} {admission : Admission}
    (hrecord : forall past event,
      event.OfCall toolName admission -> guard past (.record event))
    (hleave : forall past, guard past .leave) {args : List Value} {kwargs : Kwargs}
    (henter : forall records, AuditOnly records -> guard (past ++ records) (.enter args kwargs))
    (py : Builtins) :
    Program.Guarded guard past (carryOut py toolName args kwargs admission) := by
  rcases admission with ⟨tool, decision, context⟩
  unfold carryOut
  refine guarded_record (hrecord _ _ ⟨rfl, rfl, rfl⟩)
    (guarded_record (hrecord _ _ ⟨rfl, rfl, rfl⟩) ?_)
  by_cases hallow : decision = .allow
  · rw [if_neg (not_not.mpr hallow)]
    refine ⟨?_, ?_⟩
    · rw [List.append_assoc]
      apply henter
      intro entry hentry
      rcases List.mem_cons.mp hentry with hfirst | hrest
      · exact ⟨_, _, hfirst⟩
      · exact ⟨_, _, List.mem_singleton.mp hrest⟩
    · intro _
      refine ⟨hleave _, ?_⟩
      intro outcome
      exact guarded_settle (fun past event hof _ => hrecord past event hof) outcome
  · rw [if_pos hallow]
    trivial

end

theorem consult_not_mem_carryOut {world : Type} (host : Host world) (py : Builtins)
    (toolName : String) (args : List Value) (kwargs : Kwargs) (admission : Admission)
    (s : HostState world) (p : Presentation) (result : ApprovalValidationResult) :
    ⟨.consult p, result⟩ ∉
      (host.run (carryOut py toolName args kwargs admission) s).trace := by
  intro hmem
  rcases List.append_of_mem hmem with ⟨before, later, htrace⟩
  rcases Program.emits_run host.handle (carryOut py toolName args kwargs admission) s with
    ⟨rest, hemits⟩
  have hguarded : Program.Guarded (fun _ op => forall p, op ≠ .consult p) []
      (carryOut py toolName args kwargs admission) := by
    apply guarded_carryOut
    · intro past event _ p hop
      cases hop
    · intro past p hop
      cases hop
    · intro records _ p hop
      cases hop
  exact Program.guarded_of_emits hguarded hemits htrace p rfl

theorem consultations_carryOut {world : Type} (host : Host world) (py : Builtins) (toolName : String)
    (args : List Value) (kwargs : Kwargs) (admission : Admission) (s : HostState world) :
    consultations (host.run (carryOut py toolName args kwargs admission) s).trace = [] := by
  rw [consultations, List.filterMap_eq_nil_iff]
  intro entry hentry
  rcases entry with ⟨op, answer⟩
  cases op with
  | consult p =>
      exact absurd hentry
        (consult_not_mem_carryOut host py toolName args kwargs admission s p answer)
  | _ => rfl

end GovernanceGate

/-!
## A host that stays out of the way
-/

def quietHost : Host Unit where
  clock _ := 0
  record _ s := (.ok (), s)
  enter _ _ s := s
  leave s := (.ok .none, s)

theorem quietHost_quiet : quietHost.Quiet := by
  intro event s
  rfl

def deployCatalog : ToolRiskCatalog := ⟨Dict.ofEntries [("deploy", .mutation)]⟩

theorem deployCatalog_named : deployCatalog.Named := by
  unfold ToolRiskCatalog.Named
  decide

def deployGate (approvalStore : Bool) : GovernanceGate where
  catalog := deployCatalog
  approvalStore := approvalStore

end YasinMcp
