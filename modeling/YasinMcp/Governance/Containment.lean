import YasinMcp.Errors.ClientContract
import YasinMcp.Governance.Surroundings

/-!
# Containment of credentials

Two calls that present different credentials, and get the same outcome and the
same answer of the store for them, cannot be told apart by the tool body, by the
audit trail or by the client.
-/

namespace YasinMcp

open Foundation

/-- The outcome of authentication for a presented secret, before it is bound. -/
def authOutcome (config : ServerConfig) (presented : Option String) :
    Except PyException AuthOutcome := do
  let secretOutcome ← authenticateSharedSecret config.authToken presented config.authSubjectId
  .ok (selectOutcome config.requireAuthentication presented secretOutcome)

theorem resolveAuthentication_of_outcome {config : ServerConfig}
    {presented presented' : Option String}
    (h : authOutcome config presented = authOutcome config presented')
    (asserted : Option IntegrationContext) :
    resolveAuthentication config asserted presented =
      resolveAuthentication config asserted presented' := by
  rcases resolveAuthentication_eq config asserted presented with ⟨outcome, houtcome, heq⟩
  rcases resolveAuthentication_eq config asserted presented' with ⟨outcome', houtcome', heq'⟩
  rw [authOutcome, authOutcome, houtcome, houtcome', ok_bind, ok_bind, Except.ok.injEq] at h
  rw [heq, heq', h]

def clientPayload (py : Builtins) :
    Except PyException Value -> Option (Except PyException ClientPayload)
  | .error (.mcp e) => some (mapMcpError py e)
  | _ => none

/--
The calls differ at most in credentials: the two reserved arguments, the explicit
secret and token, the secret of the request and the process environment, where
nothing but credentials is read.
-/
structure SameButCredentials (ambient ambient' : Ambient) (call call' : ExecuteCall) :
    Prop where
  asserted : ambient.vars.assertedContext = ambient'.vars.assertedContext
  toolName : call.toolName = call'.toolName
  args : call.args = call'.args
  kwargs : (call.kwargs.erase authTokenKwarg).erase approvalTokenKwarg =
    (call'.kwargs.erase authTokenKwarg).erase approvalTokenKwarg
  context : call.context = call'.context

namespace GovernanceGate

/-- Authentication comes to the same outcome for both calls, if it is configured. -/
def SameOutcome (py : Builtins) (gate : GovernanceGate) (ambient ambient' : Ambient)
    (call call' : ExecuteCall) : Prop :=
  forall config, gate.securityConfig = some config ->
    authOutcome config (effectiveSecret py ambient call) =
      authOutcome config (effectiveSecret py ambient' call')

theorem authenticate_of_sameOutcome {py : Builtins} {gate : GovernanceGate}
    {ambient ambient' : Ambient} {call call' : ExecuteCall}
    (hsame : SameButCredentials ambient ambient' call call')
    (houtcome : SameOutcome py gate ambient ambient' call call') :
    gate.authenticate py ambient call = gate.authenticate py ambient' call' := by
  cases hconfig : gate.securityConfig with
  | none =>
      unfold authenticate
      rw [hconfig]
      rfl
  | some config =>
      have hasserted : assertedContext py ambient call.context none =
          assertedContext py ambient' call'.context none := by
        unfold assertedContext
        rw [hsame.asserted, hsame.context]
      rw [authenticate_eq hconfig, authenticate_eq hconfig, hasserted]
      simp only [resolveAuthentication_of_outcome (houtcome config hconfig)]

theorem run_applyApproval_unattached {world : Type} {host : Host world} {gate : GovernanceGate}
    (hstore : gate.approvalStore = false) (toolName : String) (tool : ToolIdentity)
    (context : Option GovernanceContext) (approvalToken : Option String)
    (s : HostState world) :
    host.run (gate.applyApproval toolName tool context approvalToken) s =
      ⟨if tool.risk = .mutation ∧ textPresent approvalToken = true then
          .error (validationError "approval store not configured"
            [("reason_code", .str "approval_unknown"), ("tool", .str toolName)])
        else .ok context, [], s⟩ := by
  by_cases hpass : tool.risk ≠ .mutation ∧ approvalToken = none
  · rw [run_applyApproval_pass hpass, if_neg fun h => hpass.1 h.1]
  · exact run_applyApproval_no_store hpass hstore toolName context s

theorem applyApproval_alike {world : Type} (host : Host world) {gate : GovernanceGate}
    {toolName : String} {tool : ToolIdentity} {context : Option GovernanceContext}
    {token token' : Option String} {s : HostState world}
    (hanswers : consultations (host.run (gate.applyApproval toolName tool context token) s).trace =
      consultations (host.run (gate.applyApproval toolName tool context token') s).trace)
    (hunattached : gate.approvalStore = false -> tool.risk = .mutation ->
      textPresent token = textPresent token') :
    (host.run (gate.applyApproval toolName tool context token) s).result =
        (host.run (gate.applyApproval toolName tool context token') s).result ∧
      (host.run (gate.applyApproval toolName tool context token) s).state.2 =
        (host.run (gate.applyApproval toolName tool context token') s).state.2 := by
  cases hstore : gate.approvalStore with
  | false =>
      rw [run_applyApproval_unattached hstore, run_applyApproval_unattached hstore]
      by_cases hmutation : tool.risk = .mutation
      · rw [hunattached hstore hmutation]
        exact ⟨rfl, rfl⟩
      · rw [if_neg fun h => hmutation h.1, if_neg fun h => hmutation h.1]
        exact ⟨rfl, rfl⟩
  | true =>
      by_cases hpass : tool.risk ≠ .mutation ∧ token = none
      · by_cases hpass' : tool.risk ≠ .mutation ∧ token' = none
        · rw [run_applyApproval_pass hpass, run_applyApproval_pass hpass']
          exact ⟨rfl, rfl⟩
        · rw [run_applyApproval_pass hpass, run_applyApproval_consult hpass' hstore] at hanswers
          cases hanswers
      · by_cases hpass' : tool.risk ≠ .mutation ∧ token' = none
        · rw [run_applyApproval_pass hpass', run_applyApproval_consult hpass hstore] at hanswers
          cases hanswers
        · rw [run_applyApproval_consult hpass hstore,
            run_applyApproval_consult hpass' hstore] at hanswers ⊢
          have hanswer := List.head_eq_of_cons_eq hanswers
          exact ⟨congrArg (approvedContext toolName context) hanswer, rfl⟩

theorem admission_of_sameOutcome {world : Type} (host : Host world) {py : Builtins}
    {gate : GovernanceGate} {ambient ambient' : Ambient} {call call' : ExecuteCall}
    (hsame : SameButCredentials ambient ambient' call call')
    (houtcome : SameOutcome py gate ambient ambient' call call') {s : HostState world}
    (hanswers : consultations (host.run (gate.admission py ambient call) s).trace =
      consultations (host.run (gate.admission py ambient' call') s).trace)
    (hunattached : gate.approvalStore = false ->
      gate.catalog.entries.get? call.toolName = some .mutation ->
      textPresent (gate.credentials py ambient call).approvalToken =
        textPresent (gate.credentials py ambient' call').approvalToken) :
    (host.run (gate.admission py ambient call) s).result =
        (host.run (gate.admission py ambient' call') s).result ∧
      (host.run (gate.admission py ambient call) s).state.2 =
        (host.run (gate.admission py ambient' call') s).state.2 := by
  have hauth := authenticate_of_sameOutcome hsame houtcome
  rw [run_admission, run_admission, ← hauth, ← hsame.toolName, ← hsame.context] at hanswers ⊢
  cases hbound : gate.authenticate py ambient call with
  | error e => exact ⟨rfl, rfl⟩
  | ok bound =>
      cases htool : gate.resolveTool call.toolName with
      | error e => exact ⟨rfl, rfl⟩
      | ok tool =>
          simp only [hbound, htool] at hanswers ⊢
          have hregistered : tool.risk = .mutation ->
              gate.catalog.entries.get? call.toolName = some .mutation := by
            intro hmutation
            rcases (ToolRiskCatalog.resolve_eq_ok_iff gate.catalog call.toolName tool).mp htool
              with ⟨_, hrisk, _⟩
            rw [hmutation] at hrisk
            cases hentry : gate.catalog.entries.get? call.toolName with
            | none =>
                rw [hentry] at hrisk
                cases hrisk
            | some risk =>
                rw [hentry] at hrisk
                exact congrArg some hrisk.symm
          have halike := applyApproval_alike host hanswers
            (fun hstore hmutation => hunattached hstore (hregistered hmutation))
          exact ⟨congrArg (gate.conclude py call.toolName) halike.1, halike.2⟩

theorem entered_with {world : Type} (host : Host world) (py : Builtins) (gate : GovernanceGate)
    (ambient : Ambient) (call : ExecuteCall) (s : HostState world) {args : List Value}
    {kwargs : Kwargs}
    (h : ⟨.enter args kwargs, ()⟩ ∈ (host.run (gate.execute py ambient call) s).trace) :
    args = call.args ∧
      kwargs = (call.kwargs.erase authTokenKwarg).erase approvalTokenKwarg := by
  have hguard : Program.Guarded
      (fun _ op => forall args kwargs, op = .enter args kwargs ->
        args = call.args ∧ kwargs = (gate.credentials py ambient call).kwargs) []
      (gate.execute py ambient call) := by
    refine Program.guarded_bind (guarded_admission ?_ _ _ _ _) ?_
    · intro past p args kwargs hop
      cases hop
    · intro trace admission _
      apply guarded_carryOut
      · intro past event _ args kwargs hop
        cases hop
      · intro past args kwargs hop
        cases hop
      · intro records _ args kwargs hop
        cases hop
        exact ⟨rfl, rfl⟩
  rcases List.append_of_mem h with ⟨before, later, htrace⟩
  have hentered := Program.guarded_of_emits hguard
    (Program.emits_run_ended host.handle (gate.execute py ambient call) s) htrace args kwargs rfl
  rwa [credentials_kwargs] at hentered

/--
Credentials are contained: two calls from one state that differ in credentials
only, with the same outcome of authentication and the same answers of the store,
enter the body with the same arguments, record the same events and end alike.
Without a store, whether a mutation presents a token at all has to be the same.
-/
theorem credentials_contained {world : Type} (around : Surroundings world) {py : Builtins}
    {gate : GovernanceGate} {ambient ambient' : Ambient} {call call' : ExecuteCall}
    {s : HostState world} (hsame : SameButCredentials ambient ambient' call call')
    (houtcome : SameOutcome py gate ambient ambient' call call')
    (hanswers : consultations (around.host.run (gate.execute py ambient call) s).trace =
      consultations (around.host.run (gate.execute py ambient' call') s).trace)
    (hunattached : gate.approvalStore = false ->
      gate.catalog.entries.get? call.toolName = some .mutation ->
      textPresent (gate.credentials py ambient call).approvalToken =
        textPresent (gate.credentials py ambient' call').approvalToken) :
    let r := around.host.run (gate.execute py ambient call) s
    let r' := around.host.run (gate.execute py ambient' call') s
    stepsOf r.trace = stepsOf r'.trace ∧
      (forall args kwargs, ⟨.enter args kwargs, ()⟩ ∈ r.trace ->
        args = call.args ∧
          kwargs = (call.kwargs.erase authTokenKwarg).erase approvalTokenKwarg) ∧
      r.result = r'.result ∧ clientPayload py r.result = clientPayload py r'.result := by
  intro r r'
  rw [consultations_execute, consultations_execute] at hanswers
  rcases admission_of_sameOutcome around.host hsame houtcome hanswers hunattached with
    ⟨hresult, hworld⟩
  have hkwargs : (gate.credentials py ambient call).kwargs =
      (gate.credentials py ambient' call').kwargs := by
    rw [credentials_kwargs, credentials_kwargs, hsame.kwargs]
  rcases run_execute_alike around hsame.toolName hsame.args hkwargs rfl rfl
    (hresult ▸ alikeAdmissions_refl _) hworld with ⟨hsameResult, rest, hr, hr'⟩
  refine ⟨?_, ?_, hsameResult, congrArg (clientPayload py) hsameResult⟩
  · rw [show r.trace = _ from hr, show r'.trace = _ from hr', stepsOf_append, stepsOf_append,
      stepsOf_admission (Program.emits_run_ended around.host.handle _ _),
      stepsOf_admission (Program.emits_run_ended around.host.handle _ _)]
  · intro args kwargs hentered
    exact entered_with around.host py gate ambient call s hentered

def presentingAmbient : Ambient :=
  ⟨fun name => if name = presentAuthTokenEnv then some "s3cret" else none, {}⟩

theorem credentials_contained_status :
    let r := quietSurroundings.host.run
      (statusGate.execute plainBuiltins ⟨fun _ => none, {}⟩ statusCall)
      (InMemoryApprovalStore.empty, ())
    let r' := quietSurroundings.host.run
      (statusGate.execute plainBuiltins presentingAmbient { toolName := "status" })
      (InMemoryApprovalStore.empty, ())
    stepsOf r.trace = stepsOf r'.trace ∧ r.result = r'.result ∧ invocations r.trace = 1 := by
  have hsame : SameButCredentials ⟨fun _ => none, {}⟩ presentingAmbient statusCall
      { toolName := "status" } := ⟨rfl, rfl, rfl, by decide, rfl⟩
  have houtcome : SameOutcome plainBuiltins statusGate ⟨fun _ => none, {}⟩ presentingAmbient
      statusCall { toolName := "status" } := by
    intro config _
    have hsecret : effectiveSecret plainBuiltins ⟨fun _ => none, {}⟩ statusCall =
        effectiveSecret plainBuiltins presentingAmbient { toolName := "status" } := by
      decide
    rw [hsecret]
  rcases credentials_contained quietSurroundings (s := (InMemoryApprovalStore.empty, ())) hsame
    houtcome (by decide +kernel) (by decide) with ⟨hsteps, _, hresult, _⟩
  exact ⟨hsteps, hresult, by decide +kernel⟩

/-- Without a store, an empty token and another one are told apart. -/
theorem tokens_told_apart :
    let call := fun token : String => { deployCall with approvalToken := some token }
    let run := fun token : String => quietSurroundings.host.run
      ((deployGate false).execute plainBuiltins ⟨fun _ => none, {}⟩ (call token))
      (InMemoryApprovalStore.empty, ())
    SameButCredentials ⟨fun _ => none, {}⟩ ⟨fun _ => none, {}⟩ (call "") (call "x") ∧
      SameOutcome plainBuiltins (deployGate false) ⟨fun _ => none, {}⟩ ⟨fun _ => none, {}⟩
        (call "") (call "x") ∧
      consultations (run "").trace = consultations (run "x").trace ∧
      decisions (run "").trace ≠ decisions (run "x").trace ∧
      clientPayload plainBuiltins (run "").result ≠
        clientPayload plainBuiltins (run "x").result := by
  refine ⟨⟨rfl, rfl, rfl, rfl, rfl⟩, ?_, rfl, by decide +kernel, by decide +kernel⟩
  intro config hconfig
  cases hconfig

end GovernanceGate

end YasinMcp
