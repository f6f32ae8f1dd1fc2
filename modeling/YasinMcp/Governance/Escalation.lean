import YasinMcp.Governance.Admission
import YasinMcp.Governance.Authentication

/-!
# Caller metadata and the decision

Two calls that differ only in the metadata of the caller are compared stage by
stage.  Authentication keeps the caller's approval mark, and a consultation
overwrites it; a gate without a store does neither, and then the mark decides.
-/

namespace YasinMcp

open Foundation

/-!
## Metadata through authentication
-/

theorem assertedContext_rebuilt {ambient : Ambient}
    (hvars : ambient.vars.assertedContext = none) (py : Builtins) (c : GovernanceContext)
    (e : AcceptedExtra) :
    assertedContext py ambient (some { c with extra := e.mapping }) none =
      (fun base => some { base with extra := e }) <$>
        IntegrationContext.postInit py (rebuildArgs { c with extra := Dict.empty }) := by
  have hextra : validateExtra py (rebuildArgs { c with extra := e.mapping }).extra = .ok e :=
    validateExtra_rebuildArgs py rfl
  unfold assertedContext
  simp only [hvars]
  rw [IntegrationContext.postInit_extra hextra]
  have hbase : { rebuildArgs { c with extra := e.mapping } with extra := .none } =
      rebuildArgs { c with extra := Dict.empty } := rfl
  rw [hbase]
  cases IntegrationContext.postInit py (rebuildArgs { c with extra := Dict.empty }) with
  | error err => rfl
  | ok base => rfl

def BoundRequestContext.withExtra (bound : BoundRequestContext) (e : AcceptedExtra) :
    BoundRequestContext :=
  let asserted := { bound.asserted with extra := e }
  ⟨asserted, bound.auth, boundGovernance asserted bound.auth⟩

theorem resolveAuthentication_withExtra (config : ServerConfig)
    (base : IntegrationContext) (presented : Option String) (e : AcceptedExtra) :
    resolveAuthentication config (some { base with extra := e }) presented =
      (fun bound => bound.withExtra e) <$>
        resolveAuthentication config (some base) presented :=
  resolveAuthentication_map (f := fun c => { c with extra := e }) (fun _ => rfl) (fun _ => rfl)
    config base presented

/-!
## Calls that differ in metadata
-/

def ExecuteCall.withExtra (call : ExecuteCall) (c : GovernanceContext) (e : AcceptedExtra) :
    ExecuteCall :=
  { call with context := some { c with extra := e.mapping } }

namespace GovernanceGate

/-- The metadata that reaches the approval step: a context bound to the request wins. -/
def effectiveExtra (gate : GovernanceGate) (ambient : Ambient) (e : AcceptedExtra) : Extra :=
  match gate.securityConfig, ambient.vars.assertedContext with
  | some _, some asserted => asserted.extra.mapping
  | _, _ => e.mapping

/-- Two contexts a policy cannot tell apart but by the approval mark. -/
structure AgreeButExtra (gate : GovernanceGate) (ambient : Ambient) (e₁ e₂ : AcceptedExtra)
    (g₁ g₂ : GovernanceContext) : Prop where
  ids : GovernanceContext.SameIds g₁ g₂
  mark₁ : saysGranted g₁.extra = saysGranted (gate.effectiveExtra ambient e₁)
  mark₂ : saysGranted g₂.extra = saysGranted (gate.effectiveExtra ambient e₂)

theorem saysGranted_boundGovernance (asserted : IntegrationContext) (auth : AuthOutcome) :
    saysGranted (boundGovernance asserted auth).extra =
      saysGranted asserted.extra.mapping :=
  saysGranted_boundExtra auth asserted.extra.mapping

theorem authenticate_bound {gate : GovernanceGate} {config : ServerConfig}
    (hconfig : gate.securityConfig = some config) {ambient : Ambient}
    {asserted : IntegrationContext} (hvars : ambient.vars.assertedContext = some asserted)
    (py : Builtins) (call : ExecuteCall) :
    gate.authenticate py ambient call =
      some <$> resolveAuthentication config (some asserted)
        (effectiveSecret py ambient call) := by
  have hasserted : assertedContext py ambient call.context none = .ok (some asserted) := by
    simp [assertedContext, hvars]
  rw [authenticate_eq hconfig, hasserted, ok_bind]
  cases resolveAuthentication config (some asserted) (effectiveSecret py ambient call) with
  | error err => rfl
  | ok bound => rfl

theorem authenticate_rebuilt {gate : GovernanceGate} {config : ServerConfig}
    (hconfig : gate.securityConfig = some config) {ambient : Ambient}
    (hvars : ambient.vars.assertedContext = none) (py : Builtins) (call : ExecuteCall)
    (c : GovernanceContext) (e : AcceptedExtra) :
    gate.authenticate py ambient (call.withExtra c e) =
      (fun bound : BoundRequestContext => some (bound.withExtra e)) <$>
        (IntegrationContext.postInit py (rebuildArgs { c with extra := Dict.empty }) >>=
          fun base => resolveAuthentication config (some base)
            (effectiveSecret py ambient call)) := by
  have hasserted := assertedContext_rebuilt hvars py c e
  have hcontext : (call.withExtra c e).context = some { c with extra := e.mapping } := rfl
  have hsecret : effectiveSecret py ambient (call.withExtra c e) =
      effectiveSecret py ambient call := rfl
  rw [authenticate_eq hconfig, hcontext, hasserted, hsecret]
  cases IntegrationContext.postInit py (rebuildArgs { c with extra := Dict.empty }) with
  | error err => rfl
  | ok base =>
      have hextra := resolveAuthentication_withExtra config base
        (effectiveSecret py ambient call) e
      have hmap : (fun base : IntegrationContext =>
          some { base with extra := e }) <$> (.ok base : Except PyException IntegrationContext) =
            .ok (some { base with extra := e }) := rfl
      rw [hmap, ok_bind, ok_bind, hextra]
      cases resolveAuthentication config (some base) (effectiveSecret py ambient call) with
      | error err => rfl
      | ok bound => rfl

/-- Both calls are refused alike, or both go on with contexts that agree but for the mark. -/
theorem authenticate_withExtra (py : Builtins) (gate : GovernanceGate) (ambient : Ambient)
    (call : ExecuteCall) (c : GovernanceContext) (e₁ e₂ : AcceptedExtra) :
    (exists err, gate.authenticate py ambient (call.withExtra c e₁) = .error err ∧
      gate.authenticate py ambient (call.withExtra c e₂) = .error err) ∨
    exists b₁ b₂ g₁ g₂,
      gate.authenticate py ambient (call.withExtra c e₁) = .ok b₁ ∧
      gate.authenticate py ambient (call.withExtra c e₂) = .ok b₂ ∧
      boundContext b₁ (call.withExtra c e₁).context = some g₁ ∧
      boundContext b₂ (call.withExtra c e₂).context = some g₂ ∧
      AgreeButExtra gate ambient e₁ e₂ g₁ g₂ := by
  cases hconfig : gate.securityConfig with
  | none =>
      refine Or.inr ⟨none, none, _, _, ?_, ?_, rfl, rfl, rfl, ?_, ?_⟩
      · simp [authenticate, resolveExecutionAuth, hconfig]
      · simp [authenticate, resolveExecutionAuth, hconfig]
      · simp [effectiveExtra, hconfig]
      · simp [effectiveExtra, hconfig]
  | some config =>
      cases hvars : ambient.vars.assertedContext with
      | some asserted =>
          have hsecret : effectiveSecret py ambient (call.withExtra c e₂) =
              effectiveSecret py ambient (call.withExtra c e₁) := rfl
          rw [authenticate_bound hconfig hvars, authenticate_bound hconfig hvars, hsecret]
          cases hbound : resolveAuthentication config (some asserted)
            (effectiveSecret py ambient (call.withExtra c e₁)) with
          | error err => exact Or.inl ⟨err, rfl, rfl⟩
          | ok bound =>
              rcases resolveAuthentication_ok hbound with ⟨hasserted, hgovernance, _, _⟩
              have hmark : saysGranted bound.governance.extra =
                  saysGranted asserted.extra.mapping := by
                rw [hgovernance, hasserted]
                exact saysGranted_boundGovernance asserted bound.auth
              refine Or.inr ⟨some bound, some bound, bound.governance, bound.governance,
                rfl, rfl, rfl, rfl, rfl, ?_, ?_⟩
              · simp only [effectiveExtra, hconfig, hvars, hmark]
              · simp only [effectiveExtra, hconfig, hvars, hmark]
      | none =>
          rw [authenticate_rebuilt hconfig hvars, authenticate_rebuilt hconfig hvars]
          cases hbound : (IntegrationContext.postInit py
              (rebuildArgs { c with extra := Dict.empty }) >>= fun base =>
                resolveAuthentication config (some base) (effectiveSecret py ambient call)) with
          | error err => exact Or.inl ⟨err, rfl, rfl⟩
          | ok bound =>
              refine Or.inr ⟨_, _, (bound.withExtra e₁).governance,
                (bound.withExtra e₂).governance, rfl, rfl, rfl, rfl, rfl, ?_, ?_⟩
              · simp only [effectiveExtra, hconfig, hvars]
                exact saysGranted_boundGovernance _ bound.auth
              · simp only [effectiveExtra, hconfig, hvars]
                exact saysGranted_boundGovernance _ bound.auth

/-!
## The decisions of the two calls
-/

variable {world : Type} {host : Host world}

theorem validateAndConsume_of_sameIds {g₁ g₂ : GovernanceContext}
    (h : GovernanceContext.SameIds g₁ g₂) (store : InMemoryApprovalStore)
    (toolName : String) (approvalToken : Option String) (now : Instant) :
    store.validateAndConsume (presentation toolName (some g₁) approvalToken) now =
      store.validateAndConsume (presentation toolName (some g₂) approvalToken) now := by
  unfold GovernanceContext.SameIds at h
  have hagent : g₁.agentId = g₂.agentId := by
    simpa using congrArg GovernanceContext.agentId h
  have hrequest : g₁.requestId = g₂.requestId := by
    simpa using congrArg GovernanceContext.requestId h
  have hproject : g₁.projectId = g₂.projectId := by
    simpa using congrArg GovernanceContext.projectId h
  apply InMemoryApprovalStore.validateAndConsume_congr
  · rfl
  · rfl
  · simp [Presentation.expectedSubject, presentation, hagent]
  · simp [Presentation.requestId, presentation, hrequest]
  · simp [Presentation.projectId, presentation, hproject]

/-- The one situation in which the caller's mark reaches the policy of a mutation. -/
structure MarkDecides (py : Builtins) (gate : GovernanceGate) (ambient : Ambient)
    (call : ExecuteCall) : Prop where
  no_store : gate.approvalStore = false
  mutation : gate.catalog.entries.get? call.toolName = some .mutation
  named : Text.isBlank call.toolName = false
  no_token : textPresent (gate.credentials py ambient call).approvalToken = false

theorem markDecides_iff {py : Builtins} {gate : GovernanceGate} {ambient : Ambient}
    {call : ExecuteCall} {tool : ToolIdentity}
    (htool : gate.resolveTool call.toolName = .ok tool) :
    MarkDecides py gate ambient call <->
      gate.approvalStore = false ∧ tool.risk = .mutation ∧ tool.known = true ∧
        textPresent (gate.credentials py ambient call).approvalToken = false := by
  rcases (ToolRiskCatalog.resolve_eq_ok_iff gate.catalog call.toolName tool).mp htool with
    ⟨hname, hrisk, hknown⟩
  constructor
  · intro hdecides
    rcases hdecides with ⟨hstore, hmutation, _, htoken⟩
    exact ⟨hstore, by rw [hrisk, hmutation]; rfl, by rw [hknown, hmutation]; rfl, htoken⟩
  · intro hsituation
    rcases hsituation with ⟨hstore, hmutation, hregistered, htoken⟩
    refine ⟨hstore, ?_, by rw [← hname]; exact tool.name_not_blank, htoken⟩
    rw [hknown] at hregistered
    rcases Option.isSome_iff_exists.mp hregistered with ⟨risk, hentry⟩
    rw [hrisk, hentry] at hmutation
    rw [hentry]
    exact congrArg some hmutation

theorem decisionOf_admission (host : Host world) {py : Builtins} {gate : GovernanceGate}
    {ambient : Ambient} {call : ExecuteCall} {bound : Option BoundRequestContext}
    {tool : ToolIdentity} {g : GovernanceContext}
    (hauth : gate.authenticate py ambient call = .ok bound)
    (htool : gate.resolveTool call.toolName = .ok tool)
    (hcontext : boundContext bound call.context = some g) (s : HostState world) :
    decisionOf (host.run (gate.admission py ambient call) s).result =
      decisionOf (gate.conclude py call.toolName
        (host.run (gate.applyApproval call.toolName tool (some g)
          (gate.credentials py ambient call).approvalToken) s).result) := by
  rw [run_admission, hauth, htool]
  dsimp only
  rw [hcontext]

theorem conclude_applyApproval_congr (host : Host world) (py : Builtins)
    {gate : GovernanceGate} (hpolicy : gate.policy = DefaultConservativePolicy.evaluate)
    {toolName : String} {tool : ToolIdentity} (htool : gate.resolveTool toolName = .ok tool)
    {approvalToken : Option String} {g₁ g₂ : GovernanceContext}
    (hids : GovernanceContext.SameIds g₁ g₂)
    (h : ¬ (gate.approvalStore = false ∧ tool.risk = .mutation ∧ tool.known = true ∧
        textPresent approvalToken = false) ∨
      saysGranted g₁.extra = saysGranted g₂.extra)
    (s : HostState world) :
    decisionOf (gate.conclude py toolName
        (host.run (gate.applyApproval toolName tool (some g₁) approvalToken) s).result) =
      decisionOf (gate.conclude py toolName
        (host.run (gate.applyApproval toolName tool (some g₂) approvalToken) s).result) := by
  by_cases hpass : tool.risk ≠ .mutation ∧ approvalToken = none
  · rw [run_applyApproval_pass hpass, run_applyApproval_pass hpass,
      decisionOf_conclude hpolicy htool, decisionOf_conclude hpolicy htool,
      DefaultConservativePolicy.decisionFor_of_ne_mutation hpass.1 (some g₁) (some g₂)]
  cases hstore : gate.approvalStore with
  | true =>
      -- The same answer overwrites both marks.
      rw [run_applyApproval_consult hpass hstore, run_applyApproval_consult hpass hstore]
      dsimp only
      rw [validateAndConsume_of_sameIds hids]
      generalize (s.1.validateAndConsume (presentation toolName (some g₂) approvalToken)
        (host.clock s.2)).1 = result
      by_cases hpassed : result.status = .granted ∨ result.status = .missing
      · rcases approvedContext_of_passed hpassed toolName (some g₁) with ⟨a₁, ha₁, hmark₁⟩
        rcases approvedContext_of_passed hpassed toolName (some g₂) with ⟨a₂, ha₂, hmark₂⟩
        have hmarks : saysGranted a₁.extra = saysGranted a₂.extra := by
          rw [Bool.eq_iff_iff, hmark₁, hmark₂]
        rw [ha₁, ha₂, decisionOf_conclude hpolicy htool, decisionOf_conclude hpolicy htool,
          DefaultConservativePolicy.decisionFor_congr hmarks]
      · rcases approvedContext_of_rejected hpassed toolName (some g₁) with ⟨err₁, herr₁⟩
        rcases approvedContext_of_rejected hpassed toolName (some g₂) with ⟨err₂, herr₂⟩
        rw [herr₁, herr₂]
        rfl
  | false =>
      rw [run_applyApproval_no_store hpass hstore, run_applyApproval_no_store hpass hstore]
      dsimp only
      by_cases htoken : tool.risk = .mutation ∧ textPresent approvalToken = true
      · rw [if_pos htoken, if_pos htoken]
      · rw [if_neg htoken, if_neg htoken, decisionOf_conclude hpolicy htool,
          decisionOf_conclude hpolicy htool]
        rcases h with hother | hmarks
        · by_cases hrisk : tool.risk = .mutation
          · have hfalse : textPresent approvalToken = false := by simpa [hrisk] using htoken
            have hunknown : tool.known = false := by simpa [hstore, hrisk, hfalse] using hother
            simp [DefaultConservativePolicy.decisionFor, hunknown]
          · rw [DefaultConservativePolicy.decisionFor_of_ne_mutation hrisk (some g₁) (some g₂)]
        · rw [DefaultConservativePolicy.decisionFor_congr hmarks]

theorem conclude_applyApproval_mark (host : Host world) (py : Builtins)
    {gate : GovernanceGate} (hpolicy : gate.policy = DefaultConservativePolicy.evaluate)
    {toolName : String} {tool : ToolIdentity} (htool : gate.resolveTool toolName = .ok tool)
    (hknown : tool.known = true) (hrisk : tool.risk = .mutation)
    (hstore : gate.approvalStore = false) {approvalToken : Option String}
    (htoken : textPresent approvalToken = false) (g : GovernanceContext)
    (s : HostState world) :
    decisionOf (gate.conclude py toolName
        (host.run (gate.applyApproval toolName tool (some g) approvalToken) s).result) =
      some (if saysGranted g.extra = true then .allow else .approvalRequired) := by
  have hneeds : ¬ (tool.risk ≠ .mutation ∧ approvalToken = none) := by simp [hrisk]
  have hno : ¬ (tool.risk = .mutation ∧ textPresent approvalToken = true) := by simp [htoken]
  rw [run_applyApproval_no_store hneeds hstore]
  dsimp only
  rw [if_neg hno, decisionOf_conclude hpolicy htool,
    DefaultConservativePolicy.decisionFor_mutation hknown hrisk]

/-- What a metadata change must not change: the decision, and whether the body is entered. -/
structure SameVerdict (first second : List GateEvent) : Prop where
  decision : decisions first = decisions second
  entered : invocations first ≠ 0 <-> invocations second ≠ 0

theorem sameVerdict_iff (hquiet : host.Quiet) (py : Builtins) (gate : GovernanceGate)
    (ambient : Ambient) (first second : ExecuteCall) (s : HostState world) :
    SameVerdict (host.run (gate.execute py ambient first) s).trace
        (host.run (gate.execute py ambient second) s).trace <->
      decisionOf (host.run (gate.admission py ambient first) s).result =
        decisionOf (host.run (gate.admission py ambient second) s).result := by
  have hverdict : forall call,
      decisions (host.run (gate.execute py ambient call) s).trace =
          (decisionOf (host.run (gate.admission py ambient call) s).result).toList ∧
        invocations (host.run (gate.execute py ambient call) s).trace =
          if decisionOf (host.run (gate.admission py ambient call) s).result = some .allow
            then 1 else 0 := by
    intro call
    rcases run_execute hquiet py gate ambient call s with ⟨hinvocations, _, hdecisions, _⟩
    rcases admission_quiet host py gate ambient call s with ⟨hnone, hsilent⟩
    rw [hnone, Nat.zero_add] at hinvocations
    rw [hsilent, List.nil_append] at hdecisions
    exact ⟨hdecisions, hinvocations⟩
  constructor
  · intro h
    have hdecision := h.decision
    rw [(hverdict first).1, (hverdict second).1] at hdecision
    cases hfirst : decisionOf (host.run (gate.admission py ambient first) s).result <;>
      cases hsecond : decisionOf (host.run (gate.admission py ambient second) s).result <;>
        simp_all
  · intro h
    constructor
    · rw [(hverdict first).1, (hverdict second).1, h]
    · rw [(hverdict first).2, (hverdict second).2, h]

/--
Two calls that differ only in accepted caller metadata get the same verdict,
except where the gate has no store, the tool is a registered mutation, no token
is presented, authentication lets the call pass, and the two mappings that reach
the policy differ in the approval mark.
-/
theorem execute_sameVerdict_iff (py : Builtins) {gate : GovernanceGate}
    (hpolicy : gate.policy = DefaultConservativePolicy.evaluate) (hquiet : host.Quiet)
    (ambient : Ambient) (call : ExecuteCall) (c : GovernanceContext) (e₁ e₂ : AcceptedExtra)
    (s : HostState world) :
    SameVerdict (host.run (gate.execute py ambient (call.withExtra c e₁)) s).trace
        (host.run (gate.execute py ambient (call.withExtra c e₂)) s).trace <->
      ¬ MarkDecides py gate ambient call ∨
        (exists err, gate.authenticate py ambient (call.withExtra c e₁) = .error err) ∨
        saysGranted (gate.effectiveExtra ambient e₁) =
          saysGranted (gate.effectiveExtra ambient e₂) := by
  rw [sameVerdict_iff hquiet]
  rcases authenticate_withExtra py gate ambient call c e₁ e₂ with
    ⟨err, h₁, h₂⟩ | ⟨b₁, b₂, g₁, g₂, h₁, h₂, hg₁, hg₂, hagree⟩
  · refine iff_of_true ?_ (Or.inr (Or.inl ⟨err, h₁⟩))
    rw [run_admission, run_admission, h₁, h₂]
  cases htool : gate.resolveTool call.toolName with
  | error err =>
      have hboth : forall e, gate.resolveTool (call.withExtra c e).toolName = .error err :=
        fun _ => htool
      refine iff_of_true ?_ (Or.inl ?_)
      · rw [run_admission, run_admission, h₁, h₂, hboth, hboth]
      · intro hdecides
        rcases (ToolRiskCatalog.resolve_isOk_iff gate.catalog call.toolName).mpr
          hdecides.named with ⟨tool, hresolve⟩
        rw [resolveTool, hresolve] at htool
        cases htool
  | ok tool =>
      have hboth : forall e, gate.resolveTool (call.withExtra c e).toolName = .ok tool :=
        fun _ => htool
      rw [decisionOf_admission host h₁ (hboth e₁) hg₁, decisionOf_admission host h₂ (hboth e₂) hg₂,
        markDecides_iff htool]
      constructor
      · intro hsame
        by_cases hdecides : gate.approvalStore = false ∧ tool.risk = .mutation ∧
            tool.known = true ∧
            textPresent (gate.credentials py ambient call).approvalToken = false
        · rcases hdecides with ⟨hstore, hrisk, hknown, htoken⟩
          have hdecision : forall e g, decisionOf (gate.conclude py call.toolName
              (host.run (gate.applyApproval call.toolName tool (some g)
                (gate.credentials py ambient (call.withExtra c e)).approvalToken) s).result) =
                some (if saysGranted g.extra = true then .allow else .approvalRequired) :=
            fun e g =>
              conclude_applyApproval_mark host py hpolicy htool hknown hrisk hstore htoken g s
          have hmarks := ((hdecision e₁ g₁).symm.trans hsame).trans (hdecision e₂ g₂)
          rw [hagree.mark₁, hagree.mark₂] at hmarks
          refine Or.inr (Or.inr ?_)
          cases hmark₁ : saysGranted (gate.effectiveExtra ambient e₁) <;>
            cases hmark₂ : saysGranted (gate.effectiveExtra ambient e₂) <;>
              simp_all
        · exact Or.inl hdecides
      · intro h
        refine conclude_applyApproval_congr host py hpolicy htool hagree.ids ?_ s
        rcases h with hother | ⟨err, herr⟩ | hmarks
        · exact Or.inl hother
        · rw [h₁] at herr
          cases herr
        · rw [hagree.mark₁, hagree.mark₂, hmarks]
          exact Or.inr rfl

def claimsGranted : AcceptedExtra :=
  ⟨Dict.ofEntries [("approval_status", .str "granted")], by decide, by decide⟩

def deployTrace (approvalStore : Bool) (e : AcceptedExtra) : List GateEvent :=
  (quietHost.run ((deployGate approvalStore).execute plainBuiltins ⟨fun _ => none, {}⟩
    (ExecuteCall.withExtra { toolName := "deploy" } {} e))
    (InMemoryApprovalStore.empty, ())).trace

theorem execute_escalates_deploy :
    invocations (deployTrace false claimsGranted) = 1 ∧
      invocations (deployTrace false AcceptedExtra.empty) = 0 ∧
      ¬ SameVerdict (deployTrace false claimsGranted)
        (deployTrace false AcceptedExtra.empty) := by
  refine ⟨by decide, by decide, ?_⟩
  intro h
  exact absurd h.decision (by decide)

theorem execute_sameVerdict_deploy :
    SameVerdict (deployTrace true claimsGranted) (deployTrace true AcceptedExtra.empty) := by
  refine (execute_sameVerdict_iff plainBuiltins rfl quietHost_quiet ⟨fun _ => none, {}⟩
    { toolName := "deploy" } {} claimsGranted AcceptedExtra.empty
    (InMemoryApprovalStore.empty, ())).mpr (Or.inl ?_)
  intro hdecides
  cases hdecides.no_store

end GovernanceGate

end YasinMcp
