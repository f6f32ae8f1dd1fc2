import YasinMcp.Governance.Bindings
import YasinMcp.Governance.Surroundings

/-!
# What a call spends

The store is consulted before the policy is asked, so an approval can be spent by
a call that a later stage refuses.  A call changes the store exactly when the
store granted it a single-use token, and then only the entry of that token.
-/

namespace YasinMcp

open Foundation

/-!
## One consultation
-/

namespace InMemoryApprovalStore

def Spends (result : ApprovalValidationResult) (grant : ApprovalGrant) : Prop :=
  result.status = .granted ∧ result.grant = some grant ∧ grant.singleUse = true

theorem validateAndConsume_of_spends {store : InMemoryApprovalStore} {p : Presentation}
    {now : Instant} {grant : ApprovalGrant}
    (h : Spends (store.validateAndConsume p now).1 grant) :
    exists token, p.presented = some token ∧ store.entries.get? token = some (grant, false) ∧
      (store.validateAndConsume p now).2 = ⟨store.entries.set token (grant, true)⟩ := by
  rcases h with ⟨hgranted, hgrant, hsingle⟩
  cases hp : p.presented with
  | none =>
      rw [store.validateAndConsume_of_absent hp] at hgranted
      cases hgranted
  | some token =>
      cases hentry : store.entries.get? token with
      | none => simp [validateAndConsume, hp, hentry] at hgranted
      | some entry =>
          rcases entry with ⟨found, consumed⟩
          rw [validateAndConsume_answer hp hentry] at hgranted hgrant
          rw [judge_grant, Option.some.injEq] at hgrant
          subst hgrant
          have hfresh := ((judge_status_granted_iff found consumed p now).mp hgranted).fresh
          have hconsumed : consumed = false := by
            cases consumed with
            | false => rfl
            | true => exact absurd ⟨rfl, hsingle⟩ hfresh
          subst hconsumed
          refine ⟨token, rfl, hentry, ?_⟩
          simp only [validateAndConsume, hp, hentry]
          rw [if_pos ⟨hgranted, hsingle⟩]

theorem validateAndConsume_of_not_spends {store : InMemoryApprovalStore} {p : Presentation}
    {now : Instant}
    (h : forall grant, ¬ Spends (store.validateAndConsume p now).1 grant) :
    (store.validateAndConsume p now).2 = store := by
  cases hp : p.presented with
  | none => rw [store.validateAndConsume_of_absent hp]
  | some token =>
      cases hentry : store.entries.get? token with
      | none => simp [validateAndConsume, hp, hentry]
      | some entry =>
          rcases entry with ⟨grant, consumed⟩
          have hkept := h grant
          rw [validateAndConsume_answer hp hentry] at hkept
          simp only [validateAndConsume, hp, hentry]
          rw [if_neg]
          intro hspent
          exact hkept ⟨hspent.1, judge_grant grant consumed p now, hspent.2⟩

end InMemoryApprovalStore

/-!
## One call
-/

/-- In this trace the store granted this single-use token. -/
def SpentIn (trace : List GateEvent) (token : String) (grant : ApprovalGrant) : Prop :=
  exists p result, ⟨.consult p, result⟩ ∈ trace ∧ p.presented = some token ∧
    InMemoryApprovalStore.Spends result grant

namespace GovernanceGate

variable {world : Type}

theorem store_of_admission (host : Host world) (py : Builtins) (gate : GovernanceGate)
    (ambient : Ambient) (call : ExecuteCall) (s : HostState world) :
    (host.run (gate.admission py ambient call) s).state =
      match gate.presentation? py ambient call with
      | none => s
      | some p => ((s.1.validateAndConsume p (host.clock s.2)).2, s.2) := by
  rw [run_admission, presentation?]
  cases gate.authenticate py ambient call with
  | error e => rfl
  | ok bound =>
      cases gate.resolveTool call.toolName with
      | error e => rfl
      | ok tool =>
          dsimp only
          by_cases hpass : tool.risk ≠ .mutation ∧
              (gate.credentials py ambient call).approvalToken = none
          · rw [run_applyApproval_pass hpass, if_pos hpass]
          · rw [if_neg hpass]
            cases hstore : gate.approvalStore with
            | false => rw [run_applyApproval_no_store hpass hstore, if_pos rfl]
            | true => rw [run_applyApproval_consult hpass hstore, if_neg (by simp)]

theorem store_of_execute (around : Surroundings world) (py : Builtins) (gate : GovernanceGate)
    (ambient : Ambient) (call : ExecuteCall) (store : InMemoryApprovalStore) (w : world) :
    (around.host.run (gate.execute py ambient call) (store, w)).state.1 =
      match gate.presentation? py ambient call with
      | none => store
      | some p => (store.validateAndConsume p (around.clock w)).2 := by
  rw [store_after_admission, store_of_admission]
  cases gate.presentation? py ambient call with
  | none => rfl
  | some p => rfl

theorem entries_of_spentIn (around : Surroundings world) {py : Builtins} {gate : GovernanceGate}
    {ambient : Ambient} {call : ExecuteCall} {store : InMemoryApprovalStore} {w : world}
    {token : String} {grant : ApprovalGrant}
    (hspent : SpentIn (around.host.run (gate.execute py ambient call) (store, w)).trace
      token grant) :
    store.entries.get? token = some (grant, false) ∧
      (around.host.run (gate.execute py ambient call) (store, w)).state.1.entries =
        store.entries.set token (grant, true) ∧
      exists bound tool, gate.authenticate py ambient call = .ok bound ∧
        gate.resolveTool call.toolName = .ok tool := by
  rcases hspent with ⟨p, result, hmem, hp, hspends⟩
  rcases (consult_mem_execute_iff around.host py gate ambient call (store, w) p result).mp hmem
    with ⟨hpresents, hresult⟩
  subst hresult
  rcases InMemoryApprovalStore.validateAndConsume_of_spends hspends with
    ⟨token', hp', hentry, hafter⟩
  rw [hp, Option.some.injEq] at hp'
  subst hp'
  rw [store_of_execute around py gate ambient call store w, hpresents]
  refine ⟨hentry, congrArg InMemoryApprovalStore.entries hafter, ?_⟩
  unfold presentation? at hpresents
  cases hauth : gate.authenticate py ambient call with
  | error e => simp [hauth] at hpresents
  | ok bound =>
      cases htool : gate.resolveTool call.toolName with
      | error e => simp [hauth, htool] at hpresents
      | ok tool => exact ⟨bound, tool, rfl, rfl⟩

/--
A call, refused or not, leaves the entries of the store as they were exactly when
the store did not grant it a single-use token; otherwise the entry of that token
is consumed and every other one kept, and the call had authenticated.
-/
theorem entries_after_call (world : Type) (around : Surroundings world) (py : Builtins)
    (gate : GovernanceGate) (ambient : Ambient) (call : ExecuteCall)
    (store : InMemoryApprovalStore) (w : world) :
    let r := around.host.run (gate.execute py ambient call) (store, w)
    (r.state.1.entries = store.entries <-> ¬ exists token grant, SpentIn r.trace token grant) ∧
    (forall token grant, SpentIn r.trace token grant ->
      store.entries.get? token = some (grant, false) ∧
        r.state.1.entries = store.entries.set token (grant, true) ∧
        exists bound tool, gate.authenticate py ambient call = .ok bound ∧
          gate.resolveTool call.toolName = .ok tool) := by
  intro r
  have hconsult := consult_mem_execute_iff around.host py gate ambient call (store, w)
  have hstore : r.state.1 = _ := store_of_execute around py gate ambient call store w
  refine ⟨⟨?_, ?_⟩, fun token grant hspent => entries_of_spentIn around hspent⟩
  · intro hsame hexists
    rcases hexists with ⟨token, grant, hgranted⟩
    rcases entries_of_spentIn around hgranted with ⟨hentry, hafter, _⟩
    rw [show r.state.1.entries = store.entries from hsame] at hafter
    rw [hafter, Dict.get?_set_self] at hentry
    cases hentry
  · intro hnone
    rw [hstore]
    cases hpresents : gate.presentation? py ambient call with
    | none => rfl
    | some p =>
        apply congrArg InMemoryApprovalStore.entries
        apply InMemoryApprovalStore.validateAndConsume_of_not_spends
        intro grant hspends
        rcases InMemoryApprovalStore.validateAndConsume_of_spends hspends with ⟨token, hp, _⟩
        exact hnone ⟨token, grant, p, _, (hconsult p _).mpr ⟨hpresents, rfl⟩, hp, hspends⟩

def wipeGate : GovernanceGate where
  catalog := ⟨Dict.ofEntries [("wipe", .highRisk)]⟩
  approvalStore := true

def wipeCall : ExecuteCall := { toolName := "wipe", approvalToken := some "t0" }

def wipeGrant : ApprovalGrant := ⟨"a0", "wipe", none, none, none, 300000000, true⟩

/-- A call of a high-risk tool is denied after its approval was consumed. -/
theorem denied_call_spends :
    let store := InMemoryApprovalStore.machine.after InMemoryApprovalStore.empty
      [.issue { toolName := "wipe" } 0 "t0" "a0"]
    let r := quietSurroundings.host.run
      (wipeGate.execute plainBuiltins ⟨fun _ => none, {}⟩ wipeCall) (store, ())
    invocations r.trace = 0 ∧ r.state.1.entries ≠ store.entries := by
  decide +kernel

theorem entries_after_wipe :
    let store := InMemoryApprovalStore.machine.after InMemoryApprovalStore.empty
      [.issue { toolName := "wipe" } 0 "t0" "a0"]
    let r := quietSurroundings.host.run
      (wipeGate.execute plainBuiltins ⟨fun _ => none, {}⟩ wipeCall) (store, ())
    r.state.1.entries = store.entries.set "t0" (wipeGrant, true) := by
  intro store r
  have hspent : SpentIn r.trace "t0" wipeGrant :=
    ⟨⟨some "t0", "wipe", none, none⟩, ⟨.granted, some wipeGrant, "approval_granted"⟩,
      List.mem_cons_self, by decide, rfl, rfl, rfl⟩
  exact ((entries_after_call Unit quietSurroundings plainBuiltins wipeGate
    ⟨fun _ => none, {}⟩ wipeCall store ()).2 "t0" wipeGrant hspent).2.1

/-!
## Read-only calls
-/

end GovernanceGate

def Ambient.withApproval (ambient : Ambient) (value : Option String) : Ambient :=
  { ambient with
    environ := fun name => if name = approvalPresentEnv then value else ambient.environ name }

namespace GovernanceGate

variable {world : Type}

def PresentsNoApproval (py : Builtins) (call : ExecuteCall) : Prop :=
  call.approvalToken = none ∧ reservedText py call.kwargs approvalTokenKwarg = none

/--
Whatever approval token the process holds and whatever is in the store: the same
decisions, the same entries into the body, and the store as it was.
-/
def IgnoresApprovals (around : Surroundings world) (py : Builtins) (gate : GovernanceGate)
    (ambient : Ambient) (call : ExecuteCall) (w : world) : Prop :=
  forall (value value' : Option String) (store store' : InMemoryApprovalStore),
    let r := around.host.run (gate.execute py (ambient.withApproval value) call) (store, w)
    let r' := around.host.run (gate.execute py (ambient.withApproval value') call) (store', w)
    decisions r.trace = decisions r'.trace ∧
      r.trace.filter isEnter = r'.trace.filter isEnter ∧
      r.state.1 = store ∧ r'.state.1 = store'

theorem authenticate_withApproval (py : Builtins) (gate : GovernanceGate) (ambient : Ambient)
    (call : ExecuteCall) (value : Option String) :
    gate.authenticate py (ambient.withApproval value) call =
      gate.authenticate py ambient call := by
  cases hconfig : gate.securityConfig with
  | none => 
      unfold authenticate
      rw [hconfig]
      rfl
  | some config =>
      rw [authenticate_eq hconfig, authenticate_eq hconfig]
      rfl

theorem ignores_of_admission {around : Surroundings world} {py : Builtins}
    {gate : GovernanceGate} {ambient : Ambient} {call : ExecuteCall} {w : world}
    {admitted : Except PyException Admission}
    (h : forall value store,
      around.host.run (gate.admission py (ambient.withApproval value) call) (store, w) =
        ⟨admitted, [], (store, w)⟩) :
    IgnoresApprovals around py gate ambient call w := by
  intro value value' store store' r r'
  have hkwargs : (gate.credentials py (ambient.withApproval value) call).kwargs =
      (gate.credentials py (ambient.withApproval value') call).kwargs := by
    rw [credentials_kwargs, credentials_kwargs]
  rcases run_execute_alike around rfl rfl hkwargs (h value store) (h value' store')
    (alikeAdmissions_refl _) rfl with ⟨_, rest, hr, hr'⟩
  have htrace : r.trace = r'.trace := hr.trans hr'.symm
  rw [htrace]
  refine ⟨rfl, rfl, ?_, ?_⟩
  · rw [show r.state.1 = _ from store_after_admission around py gate _ call (store, w),
      h value store]
  · rw [show r'.state.1 = _ from store_after_admission around py gate _ call (store', w),
      h value' store']

def grantedFor (toolName : String) (now : Instant) : InMemoryApprovalStore :=
  ⟨Dict.ofEntries [("t0", (⟨"a0", toolName, none, none, none, now + 1, true⟩, false))]⟩

theorem grantedFor_spends {toolName : String} {now : Instant} (p : Presentation)
    (htool : p.toolName = toolName) (hp : p.presented = some "t0") :
    ((grantedFor toolName now).validateAndConsume p now).2 ≠ grantedFor toolName now := by
  have hentry : (grantedFor toolName now).entries.get? "t0" =
      some (⟨"a0", toolName, none, none, none, now + 1, true⟩, false) := rfl
  have hgrants : InMemoryApprovalStore.Grants
      ⟨"a0", toolName, none, none, none, now + 1, true⟩ false p now :=
    ⟨by simp, Nat.lt_succ_self now, htool.symm, rfl, rfl, rfl⟩
  have hspends : InMemoryApprovalStore.Spends
      ((grantedFor toolName now).validateAndConsume p now).1
      ⟨"a0", toolName, none, none, none, now + 1, true⟩ := by
    rw [InMemoryApprovalStore.validateAndConsume_answer hp hentry]
    exact ⟨(InMemoryApprovalStore.judge_status_granted_iff _ _ _ _).mpr hgrants,
      InMemoryApprovalStore.judge_grant _ _ _ _, rfl⟩
  rcases InMemoryApprovalStore.validateAndConsume_of_spends hspends with ⟨token, hp', _, hafter⟩
  rw [hp, Option.some.injEq] at hp'
  subst hp'
  intro hsame
  rw [hsame] at hafter
  have hconsumed := congrArg (fun store => store.entries.get? "t0") hafter
  simp only [hentry, Dict.get?_set_self] at hconsumed
  cases hconsumed

theorem PresentsNoApproval.approvalToken {py : Builtins} {call : ExecuteCall}
    (hpresents : PresentsNoApproval py call) (gate : GovernanceGate) (ambient : Ambient)
    (value : Option String) :
    (gate.credentials py (ambient.withApproval value) call).approvalToken =
      if gate.allowEnvironmentFallback = true then
        environValue (ambient.withApproval value).environ approvalPresentEnv else none := by
  rw [credentials_approval, hpresents.1, hpresents.2]
  rfl

/-- With the fallback on, a call that gets as far as the store is refused or not by the process. -/
theorem not_ignores_of_fallback (around : Surroundings world) (py : Builtins)
    {gate : GovernanceGate} (hstore : gate.approvalStore = true) {call : ExecuteCall}
    (hpresents : PresentsNoApproval py call) {ambient : Ambient} (w : world)
    {bound : Option BoundRequestContext} (hbound : gate.authenticate py ambient call = .ok bound)
    (hname : Text.isBlank call.toolName = false)
    (hfallback : gate.allowEnvironmentFallback = true) :
    ¬ IgnoresApprovals around py gate ambient call w := by
  intro hignores
  rcases (ToolRiskCatalog.resolve_isOk_iff gate.catalog call.toolName).mpr hname with ⟨tool, htool⟩
  have htoken : (gate.credentials py (ambient.withApproval (some "t0")) call).approvalToken =
      some "t0" := by
    rw [hpresents.approvalToken, if_pos hfallback]
    rfl
  have hp : gate.presentation? py (ambient.withApproval (some "t0")) call =
      some (presentation call.toolName (boundContext bound call.context) (some "t0")) := by
    unfold presentation?
    rw [authenticate_withApproval, hbound]
    simp only [show gate.resolveTool call.toolName = .ok tool from htool, htoken, hstore]
    simp
  have hkept := (hignores (some "t0") none
    (grantedFor call.toolName (around.clock w)) InMemoryApprovalStore.empty).2.2.1
  rw [store_of_execute, hp] at hkept
  exact grantedFor_spends (presentation call.toolName (boundContext bound call.context)
    (some "t0")) rfl (show presentedToken (some "t0") = some "t0" by decide) hkept

/-- With the fallback off, a call that needs no approval passes the store by. -/
theorem ignores_of_no_fallback (around : Surroundings world) (py : Builtins)
    {gate : GovernanceGate} {call : ExecuteCall} (hpresents : PresentsNoApproval py call)
    {ambient : Ambient} (w : world) {bound : Option BoundRequestContext}
    (hbound : gate.authenticate py ambient call = .ok bound) {tool : ToolIdentity}
    (htool : gate.resolveTool call.toolName = .ok tool) (hrisk : tool.risk ≠ .mutation)
    (hfallback : gate.allowEnvironmentFallback = false) :
    IgnoresApprovals around py gate ambient call w := by
  have hadmission : forall value store,
      around.host.run (gate.admission py (ambient.withApproval value) call) (store, w) =
        ⟨gate.conclude py call.toolName (.ok (boundContext bound call.context)), [],
          (store, w)⟩ := by
    intro value store
    have htoken := hpresents.approvalToken gate ambient value
    rw [if_neg (by simp [hfallback])] at htoken
    rw [run_admission, authenticate_withApproval, hbound, htool]
    dsimp only
    rw [run_applyApproval_pass ⟨hrisk, htoken⟩]
  exact ignores_of_admission hadmission

/--
A read-only call that presents no approval is independent of the approvals of its
process and of the store exactly when the process environment does not count, or
the call fails before the approval step.
-/
theorem ignores_approvals_iff (around : Surroundings world) (py : Builtins)
    {gate : GovernanceGate} (hstore : gate.approvalStore = true) {call : ExecuteCall}
    (hrisk : gate.catalog.entries.get? call.toolName = some .readOnly ∨
      gate.catalog.entries.get? call.toolName = some .lowRisk)
    (hpresents : PresentsNoApproval py call) (ambient : Ambient) (w : world) :
    IgnoresApprovals around py gate ambient call w <->
      gate.allowEnvironmentFallback = false ∨
        (exists e, gate.authenticate py ambient call = .error e) ∨
        Text.isBlank call.toolName = true := by
  have hnotMutation : forall tool, gate.resolveTool call.toolName = .ok tool ->
      tool.risk ≠ .mutation := by
    intro tool htool
    rw [((ToolRiskCatalog.resolve_eq_ok_iff gate.catalog call.toolName tool).mp htool).2.1]
    rcases hrisk with hread | hlow
    · simp [hread]
    · simp [hlow]
  constructor
  · intro hignores
    by_contra hcounts
    simp only [not_or, not_exists] at hcounts
    rcases hcounts with ⟨hfallback, hauth, hname⟩
    cases hbound : gate.authenticate py ambient call with
    | error e => exact hauth e hbound
    | ok bound =>
        exact not_ignores_of_fallback around py hstore hpresents w hbound
          (by simpa using hname) (by simpa using hfallback) hignores
  · intro hfails
    cases hauth : gate.authenticate py ambient call with
    | error e =>
        apply ignores_of_admission
        intro value store
        rw [run_admission, authenticate_withApproval, hauth]
    | ok bound =>
        cases htool : gate.resolveTool call.toolName with
        | error e =>
            apply ignores_of_admission
            intro value store
            rw [run_admission, authenticate_withApproval, hauth, htool]
        | ok tool =>
            have hname : Text.isBlank call.toolName = false :=
              (ToolRiskCatalog.resolve_isOk_iff gate.catalog call.toolName).mp ⟨tool, htool⟩
            have hfallback : gate.allowEnvironmentFallback = false := by
              rcases hfails with hfallback | ⟨e, he⟩ | hblank
              · exact hfallback
              · rw [hauth] at he
                cases he
              · rw [hname] at hblank
                cases hblank
            exact ignores_of_no_fallback around py hpresents w hauth htool
              (hnotMutation tool htool) hfallback

def presentingGate : GovernanceGate where
  catalog := statusGate.catalog
  approvalStore := true

/-- A read-only call is refused for a stale approval token of the process. -/
theorem read_only_call_refused :
    presentingGate.catalog.entries.get? "status" = some .readOnly ∧
      let run := fun value => quietSurroundings.host.run
        (presentingGate.execute plainBuiltins
          (Ambient.withApproval ⟨fun _ => none, {}⟩ value) { toolName := "status" })
        (InMemoryApprovalStore.empty, ())
      invocations (run none).trace = 1 ∧ invocations (run (some "t0")).trace = 0 ∧
        ¬ IgnoresApprovals quietSurroundings plainBuiltins presentingGate
          ⟨fun _ => none, {}⟩ { toolName := "status" } () := by
  refine ⟨by decide, by decide +kernel, by decide +kernel, ?_⟩
  intro hignores
  have hdecisions := (hignores none (some "t0") InMemoryApprovalStore.empty
    InMemoryApprovalStore.empty).1
  revert hdecisions
  decide +kernel

def remoteConfig : ServerConfig :=
  { lockedConfig with
    args := { remoteEnabled := true, remoteAllowInsecureHttp := true }
    concurrency_bounds := by decide
    token_of_required := by decide }

/-- Over the network the environment does not count, and the same call is independent. -/
theorem ignores_approvals_remote :
    IgnoresApprovals quietSurroundings plainBuiltins
      { presentingGate with securityConfig := some remoteConfig }
      ⟨fun _ => none, {}⟩ { toolName := "status" } () :=
  (ignores_approvals_iff quietSurroundings plainBuiltins rfl (Or.inl (by decide))
    ⟨rfl, by decide⟩ _ _).mpr (Or.inl rfl)

end GovernanceGate

end YasinMcp
