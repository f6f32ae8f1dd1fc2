import YasinMcp.Governance.Execution

/-!
# Admission under the default policy

The approval answer travels to the policy through the context metadata, where it
overwrites whatever the caller wrote.  With a store attached, a call is therefore
admitted on its authentication, its registered risk and the store's answer alone.
-/

namespace YasinMcp

open Foundation

namespace GovernanceGate

/-!
## The approval mark
-/

theorem saysGranted_approvalExtra (result : ApprovalValidationResult) (extra : Extra) :
    saysGranted (approvalExtra result extra) = true <-> result.status = .granted := by
  have hmark : (approvalExtra result extra).get? "approval_status" =
      some (.str result.status.value) := by
    unfold approvalExtra
    cases result.grant with
    | none => simp [Dict.get?_set]
    | some grant => simp [Dict.get?_set]
  rw [saysGranted, hmark]
  cases result.status <;> simp [ApprovalStatus.value]

theorem approvedContext_of_passed {result : ApprovalValidationResult}
    (h : result.status = .granted ∨ result.status = .missing) (toolName : String)
    (context : Option GovernanceContext) :
    exists approved, approvedContext toolName context result = .ok (some approved) ∧
      (saysGranted approved.extra = true <-> result.status = .granted) := by
  unfold approvedContext
  rw [if_pos h]
  exact ⟨_, rfl, saysGranted_approvalExtra result _⟩

theorem approvedContext_of_rejected {result : ApprovalValidationResult}
    (h : ¬ (result.status = .granted ∨ result.status = .missing)) (toolName : String)
    (context : Option GovernanceContext) :
    exists e, approvedContext toolName context result = .error e := by
  unfold approvedContext
  rw [if_neg h]
  exact ⟨_, rfl⟩

theorem evaluate_default {gate : GovernanceGate}
    (hpolicy : gate.policy = DefaultConservativePolicy.evaluate) {py : Builtins}
    {toolName : String} {tool : ToolIdentity} (htool : gate.resolveTool toolName = .ok tool)
    (context : Option GovernanceContext) :
    gate.evaluate py toolName context =
      .ok (tool, DefaultConservativePolicy.decisionFor tool context) := by
  unfold evaluate
  rw [htool, hpolicy]
  rfl

/-!
## Which calls run
-/

/-- No approval check is needed, or the one answer of the store lets the call pass. -/
def ApprovalPassed (risk : RiskLevel) (approvalToken : Option String)
    (answers : List ApprovalValidationResult) : Prop :=
  (risk ≠ .mutation ∧ approvalToken = none) ∨
    exists result, answers = [result] ∧
      (result.status = .granted ∨ result.status = .missing)

/-- The risk is low, or it is a mutation and the one answer of the store granted it. -/
def RiskPermitted (risk : RiskLevel) (answers : List ApprovalValidationResult) : Prop :=
  risk = .readOnly ∨ risk = .lowRisk ∨
    (risk = .mutation ∧ exists result, answers = [result] ∧ result.status = .granted)

/-- The conditions on which a call may enter its tool. -/
structure MayRun (py : Builtins) (gate : GovernanceGate) (ambient : Ambient)
    (call : ExecuteCall) (answers : List ApprovalValidationResult) : Prop where
  authenticated : exists bound, gate.authenticate py ambient call = .ok bound
  registered : exists risk,
    gate.catalog.entries.get? call.toolName = some risk ∧
      ApprovalPassed risk (gate.credentials py ambient call).approvalToken answers ∧
      RiskPermitted risk answers

theorem mayRun_iff {py : Builtins} {gate : GovernanceGate} {ambient : Ambient}
    {call : ExecuteCall} {bound : Option BoundRequestContext} {tool : ToolIdentity}
    (hauth : gate.authenticate py ambient call = .ok bound)
    (htool : gate.resolveTool call.toolName = .ok tool)
    (answers : List ApprovalValidationResult) :
    MayRun py gate ambient call answers <->
      tool.known = true ∧
        ApprovalPassed tool.risk (gate.credentials py ambient call).approvalToken answers ∧
        RiskPermitted tool.risk answers := by
  rcases (ToolRiskCatalog.resolve_eq_ok_iff gate.catalog call.toolName tool).mp htool with
    ⟨_, hrisk, hknown⟩
  rw [hrisk, hknown]
  constructor
  · intro hmay
    rcases hmay with ⟨_, risk, hentry, happroval, hpermitted⟩
    rw [hentry]
    exact ⟨rfl, happroval, hpermitted⟩
  · intro hparts
    rcases hparts with ⟨hsome, happroval, hpermitted⟩
    rcases Option.isSome_iff_exists.mp hsome with ⟨risk, hentry⟩
    rw [hentry] at happroval hpermitted
    exact ⟨⟨bound, hauth⟩, risk, hentry, happroval, hpermitted⟩

variable {world : Type} {host : Host world}

theorem admission_quiet (host : Host world) (py : Builtins) (gate : GovernanceGate)
    (ambient : Ambient) (call : ExecuteCall) (s : HostState world) :
    invocations (host.run (gate.admission py ambient call) s).trace = 0 ∧
      decisions (host.run (gate.admission py ambient call) s).trace = [] := by
  rw [run_admission]
  cases gate.authenticate py ambient call with
  | error e => exact ⟨rfl, rfl⟩
  | ok bound =>
      cases gate.resolveTool call.toolName with
      | error e => exact ⟨rfl, rfl⟩
      | ok tool =>
          dsimp only
          by_cases hpass : tool.risk ≠ .mutation ∧
              (gate.credentials py ambient call).approvalToken = none
          · rw [run_applyApproval_pass hpass]
            exact ⟨rfl, rfl⟩
          · cases hstore : gate.approvalStore with
            | false =>
                rw [run_applyApproval_no_store hpass hstore]
                exact ⟨rfl, rfl⟩
            | true =>
                rw [run_applyApproval_consult hpass hstore]
                exact ⟨rfl, rfl⟩

theorem decisionOf_conclude {gate : GovernanceGate}
    (hpolicy : gate.policy = DefaultConservativePolicy.evaluate) {py : Builtins}
    {toolName : String} {tool : ToolIdentity} (htool : gate.resolveTool toolName = .ok tool)
    (context : Option GovernanceContext) :
    decisionOf (gate.conclude py toolName (.ok context)) =
      some (DefaultConservativePolicy.decisionFor tool context) := by
  rw [conclude, ok_bind, evaluate_default hpolicy htool]
  rfl

/-- After a consultation, an allow decision needs a passing answer and a permitted risk. -/
theorem consulted_allows_iff {gate : GovernanceGate}
    (hpolicy : gate.policy = DefaultConservativePolicy.evaluate) {py : Builtins}
    {toolName : String} {tool : ToolIdentity} (htool : gate.resolveTool toolName = .ok tool)
    {approvalToken : Option String}
    (hneeds : ¬ (tool.risk ≠ .mutation ∧ approvalToken = none))
    (context : Option GovernanceContext) (p : Presentation)
    (result : ApprovalValidationResult) :
    decisionOf (gate.conclude py toolName (approvedContext toolName context result)) =
        some .allow <->
      tool.known = true ∧
        ApprovalPassed tool.risk approvalToken (consultations [⟨.consult p, result⟩]) ∧
        RiskPermitted tool.risk (consultations [⟨.consult p, result⟩]) := by
  have hanswers : consultations [⟨.consult p, result⟩] = [result] := rfl
  rw [hanswers]
  by_cases hpassed : result.status = .granted ∨ result.status = .missing
  · rcases approvedContext_of_passed hpassed toolName context with
      ⟨approved, happroved, hmark⟩
    rw [happroved, decisionOf_conclude hpolicy htool, Option.some.injEq,
      DefaultConservativePolicy.decisionFor_eq_allow_iff]
    simp [RiskPermitted, ApprovalPassed, hpassed, hmark]
  · rcases approvedContext_of_rejected hpassed toolName context with ⟨e, he⟩
    rw [he, conclude, error_bind]
    simp [decisionOf, ApprovalPassed, hneeds, hpassed]

theorem admission_allows_iff_of_resolved (host : Host world) (py : Builtins)
    {gate : GovernanceGate} (hpolicy : gate.policy = DefaultConservativePolicy.evaluate)
    (hstore : gate.approvalStore = true) {ambient : Ambient} {call : ExecuteCall}
    {bound : Option BoundRequestContext} (hauth : gate.authenticate py ambient call = .ok bound)
    {tool : ToolIdentity} (htool : gate.resolveTool call.toolName = .ok tool)
    (s : HostState world) :
    decisionOf (host.run (gate.admission py ambient call) s).result = some .allow <->
      MayRun py gate ambient call
        (consultations (host.run (gate.admission py ambient call) s).trace) := by
  rw [run_admission, hauth, htool]
  dsimp only
  rw [mayRun_iff hauth htool]
  by_cases hpass : tool.risk ≠ .mutation ∧
      (gate.credentials py ambient call).approvalToken = none
  · rw [run_applyApproval_pass hpass, decisionOf_conclude hpolicy htool,
      Option.some.injEq, DefaultConservativePolicy.decisionFor_eq_allow_iff]
    simp [RiskPermitted, ApprovalPassed, hpass.1, hpass.2]
  · rw [run_applyApproval_consult hpass hstore]
    dsimp only
    exact consulted_allows_iff hpolicy htool hpass _ _ _

theorem admission_allows_iff (host : Host world) (py : Builtins) {gate : GovernanceGate}
    (hpolicy : gate.policy = DefaultConservativePolicy.evaluate)
    (hstore : gate.approvalStore = true) (hnamed : gate.catalog.Named)
    (ambient : Ambient) (call : ExecuteCall) (s : HostState world) :
    decisionOf (host.run (gate.admission py ambient call) s).result = some .allow <->
      MayRun py gate ambient call
        (consultations (host.run (gate.admission py ambient call) s).trace) := by
  rw [run_admission]
  cases hauth : gate.authenticate py ambient call with
  | error e =>
      constructor
      · intro h
        cases h
      · intro hmay
        rcases hmay with ⟨⟨bound, hbound⟩, _⟩
        rw [hauth] at hbound
        cases hbound
  | ok bound =>
      cases htool : gate.resolveTool call.toolName with
      | error e =>
          constructor
          · intro h
            cases h
          · intro hmay
            rcases hmay with ⟨_, risk, hrisk, _⟩
            rcases hnamed.resolve_of_get? hrisk with ⟨tool, hresolve, _⟩
            rw [show gate.resolveTool call.toolName = gate.catalog.resolve call.toolName from rfl,
              hresolve] at htool
            cases htool
      | ok tool =>
          have hiff := admission_allows_iff_of_resolved host py hpolicy hstore hauth htool s
          rw [run_admission, hauth, htool] at hiff
          exact hiff

/--
The tool body is entered, and then once, exactly for a call that may run; every
other call raises without entering it, whatever its context says.
-/
theorem execute_runs_iff (py : Builtins) {gate : GovernanceGate}
    (hpolicy : gate.policy = DefaultConservativePolicy.evaluate)
    (hstore : gate.approvalStore = true) (hnamed : gate.catalog.Named)
    (hquiet : host.Quiet) (ambient : Ambient) (call : ExecuteCall) (s : HostState world) :
    let r := host.run (gate.execute py ambient call) s
    (invocations r.trace = 1 <-> MayRun py gate ambient call (consultations r.trace)) ∧
      (¬ MayRun py gate ambient call (consultations r.trace) ->
        invocations r.trace = 0 ∧ exists e, r.result = .error e) := by
  intro r
  rcases run_execute hquiet py gate ambient call s with
    ⟨hinvocations, hconsultations, _, hraised⟩
  rw [(admission_quiet host py gate ambient call s).1, Nat.zero_add] at hinvocations
  have hiff := admission_allows_iff host py hpolicy hstore hnamed ambient call s
  rw [← hconsultations] at hiff
  constructor
  · rw [← hiff, hinvocations]
    simp
  · intro hdenied
    rw [← hiff] at hdenied
    exact ⟨by rw [hinvocations, if_neg hdenied], hraised hdenied⟩

end GovernanceGate

/-!
## A gate with one mutating tool
-/

def deployStore : InMemoryApprovalStore :=
  ⟨Dict.ofEntries
    [("t0", (⟨"a0", "deploy", none, none, none, 300000000, true⟩, false))]⟩

def deployCall : ExecuteCall := { toolName := "deploy", approvalToken := some " t0 " }

namespace GovernanceGate

theorem execute_runs_deploy :
    invocations (quietHost.run
      (execute plainBuiltins { catalog := deployCatalog, approvalStore := true }
        ⟨fun _ => none, {}⟩ deployCall) (deployStore, ())).trace = 1 := by
  refine (execute_runs_iff plainBuiltins rfl rfl deployCatalog_named quietHost_quiet
    _ _ _).1.mpr ?_
  exact ⟨⟨none, rfl⟩, .mutation, by decide, Or.inr ⟨_, rfl, Or.inl rfl⟩,
    Or.inr (Or.inr ⟨rfl, _, rfl, rfl⟩)⟩

end GovernanceGate

end YasinMcp
