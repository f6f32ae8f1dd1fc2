import YasinMcp.Governance.Execution

/-!
# Authentication of execute calls

The secret a call presents is looked up in four places by three functions.  They
amount to one order of precedence, and with a configuration that requires
authentication nothing is entered unless that secret is the configured one.
-/

namespace YasinMcp

open Foundation

namespace GovernanceGate

/--
The secret a call presents: the explicit argument, else the reserved keyword
argument, else the request's context variable, else the environment value.  An
empty string presented in one of the first three places is not passed over.
-/
def effectiveSecret (py : Builtins) (ambient : Ambient) (call : ExecuteCall) :
    Option String :=
  match call.presentedSecret with
  | some secret => some secret
  | none =>
      match reservedText py call.kwargs authTokenKwarg with
      | some secret => some secret
      | none =>
          match ambient.vars.presentedSecret with
          | some secret => some secret
          | none => environValue ambient.environ presentAuthTokenEnv

theorem credentials_secret (py : Builtins) (gate : GovernanceGate) (ambient : Ambient)
    (call : ExecuteCall) :
    (match (gate.credentials py ambient call).presentedSecret with
      | some secret => some secret
      | none => getPresentedSecret ambient) = effectiveSecret py ambient call := by
  unfold credentials effectiveSecret extractPresentedSecret extractCredential
  cases call.presentedSecret with
  | some secret => rfl
  | none =>
      cases reservedText py call.kwargs authTokenKwarg with
      | some secret => rfl
      | none =>
          unfold getPresentedSecret
          cases ambient.vars.presentedSecret with
          | some secret => rfl
          | none => cases environValue ambient.environ presentAuthTokenEnv <;> rfl

theorem extractPresentedSecret_kwargs (py : Builtins) (ambient : Ambient) (kwargs : Kwargs) :
    (extractPresentedSecret py ambient kwargs).1 = kwargs.erase authTokenKwarg := by
  unfold extractPresentedSecret extractCredential
  cases reservedText py kwargs authTokenKwarg with
  | some secret => rfl
  | none => cases getPresentedSecret ambient <;> rfl

theorem extractApprovalToken_kwargs (py : Builtins) (environ : Environ) (kwargs : Kwargs)
    (fallback : Bool) :
    (extractApprovalToken py environ kwargs fallback).1 = kwargs.erase approvalTokenKwarg := by
  unfold extractApprovalToken
  cases reservedText py kwargs approvalTokenKwarg with
  | some token => rfl
  | none => cases fallback <;> rfl

theorem credentials_kwargs (py : Builtins) (gate : GovernanceGate) (ambient : Ambient)
    (call : ExecuteCall) :
    (gate.credentials py ambient call).kwargs =
      (call.kwargs.erase authTokenKwarg).erase approvalTokenKwarg := by
  rw [← extractPresentedSecret_kwargs py ambient, ← extractApprovalToken_kwargs py
    ambient.environ _ gate.allowEnvironmentFallback]
  rfl

theorem credentials_approval (py : Builtins) (gate : GovernanceGate) (ambient : Ambient)
    (call : ExecuteCall) :
    (gate.credentials py ambient call).approvalToken =
      (call.approvalToken.or (reservedText py call.kwargs approvalTokenKwarg)).or
        (if gate.allowEnvironmentFallback = true then
          environValue ambient.environ approvalPresentEnv
        else none) := by
  have hreserved : reservedText py (call.kwargs.erase authTokenKwarg) approvalTokenKwarg =
      reservedText py call.kwargs approvalTokenKwarg := by
    unfold reservedText
    rw [Dict.get?_erase_of_ne _ (by decide)]
  have hextracted : (extractApprovalToken py ambient.environ
      (extractPresentedSecret py ambient call.kwargs).1 gate.allowEnvironmentFallback).2 =
        (reservedText py call.kwargs approvalTokenKwarg).or
          (if gate.allowEnvironmentFallback = true then
            environValue ambient.environ approvalPresentEnv
          else none) := by
    rw [extractPresentedSecret_kwargs, extractApprovalToken, hreserved]
    cases reservedText py call.kwargs approvalTokenKwarg with
    | some token => rfl
    | none => cases gate.allowEnvironmentFallback <;> rfl
  rw [Option.or_assoc, ← hextracted]
  rfl

theorem authenticate_eq {gate : GovernanceGate} {config : ServerConfig}
    (hconfig : gate.securityConfig = some config) (py : Builtins) (ambient : Ambient)
    (call : ExecuteCall) :
    gate.authenticate py ambient call =
      (assertedContext py ambient call.context none >>= fun asserted =>
        resolveAuthentication config asserted (effectiveSecret py ambient call) >>= fun bound =>
          .ok (some bound)) := by
  rw [← credentials_secret py gate ambient call, authenticate, hconfig]
  rfl

theorem authenticate_ok {gate : GovernanceGate} {config : ServerConfig}
    (hconfig : gate.securityConfig = some config) {py : Builtins} {ambient : Ambient}
    {call : ExecuteCall} {out : Option BoundRequestContext}
    (h : gate.authenticate py ambient call = .ok out) :
    exists asserted bound,
      out = some bound ∧ assertedContext py ambient call.context none = .ok asserted ∧
      resolveAuthentication config asserted (effectiveSecret py ambient call) = .ok bound := by
  rw [authenticate_eq hconfig] at h
  cases hasserted : assertedContext py ambient call.context none with
  | error e =>
      rw [hasserted] at h
      cases h
  | ok asserted =>
      rw [hasserted, ok_bind] at h
      cases hbound : resolveAuthentication config asserted (effectiveSecret py ambient call) with
      | error e =>
          rw [hbound] at h
          cases h
      | ok bound =>
          rw [hbound, ok_bind] at h
          cases h
          exact ⟨asserted, bound, rfl, rfl, hbound⟩

theorem authenticatedBy_of_authenticate {gate : GovernanceGate} {config : ServerConfig}
    (hconfig : gate.securityConfig = some config) {py : Builtins} {ambient : Ambient}
    {call : ExecuteCall} {out : Option BoundRequestContext}
    (h : gate.authenticate py ambient call = .ok out) :
    exists asserted bound,
      out = some bound ∧ assertedContext py ambient call.context none = .ok asserted ∧
      bound.asserted = asserted.getD IntegrationContext.default ∧
      (config.requireAuthentication = true -> bound.auth.isAuthenticated = true) ∧
      (bound.auth.isAuthenticated = true ->
        AuthenticatedBy config (effectiveSecret py ambient call) bound) := by
  rcases authenticate_ok hconfig h with ⟨asserted, bound, hout, hasserted, hbound⟩
  rcases resolveAuthentication_ok hbound with ⟨hsame, _, hrequired, hauthenticated⟩
  exact ⟨asserted, bound, hout, hasserted, hsame, hrequired, hauthenticated⟩

theorem authenticate_of_emits {py : Builtins} {gate : GovernanceGate} {ambient : Ambient}
    {call : ExecuteCall} {trace : List GateEvent} {rest : GateProgram Value}
    (h : Program.Emits (gate.execute py ambient call) trace rest) (htrace : trace ≠ []) :
    exists out, gate.authenticate py ambient call = .ok out := by
  cases hauth : gate.authenticate py ambient call with
  | ok out => exact ⟨out, rfl⟩
  | error e =>
      have hraise : gate.execute py ambient call = .raise e := by
        rw [execute, admission, hauth]
        rfl
      rw [hraise] at h
      exact absurd (Program.emits_raise h) htrace

/--
Authentication fails closed.  Where it is required, a call whose body is entered,
whatever the store, the recorder and the body answer, presented the configured
secret and asserted no other subject; and whether required or not, a bound
outcome is authenticated on this condition only.
-/
theorem execute_authenticated {gate : GovernanceGate} {config : ServerConfig}
    (hconfig : gate.securityConfig = some config) (py : Builtins) (ambient : Ambient)
    (call : ExecuteCall) :
    (config.requireAuthentication = true ->
      forall trace rest, Program.Emits (gate.execute py ambient call) trace rest ->
        invocations trace ≠ 0 ->
        exists asserted bound,
          gate.authenticate py ambient call = .ok (some bound) ∧
          assertedContext py ambient call.context none = .ok asserted ∧
          bound.asserted = asserted.getD IntegrationContext.default ∧
          bound.auth.status = .authenticated ∧
          AuthenticatedBy config (effectiveSecret py ambient call) bound) ∧
    (forall bound, gate.authenticate py ambient call = .ok (some bound) ->
      bound.auth.status = .authenticated ->
        AuthenticatedBy config (effectiveSecret py ambient call) bound) := by
  constructor
  · intro hrequired trace rest hemits hentered
    have htrace : trace ≠ [] := by
      intro hnil
      subst hnil
      exact hentered rfl
    rcases authenticate_of_emits hemits htrace with ⟨out, hout⟩
    rcases authenticatedBy_of_authenticate hconfig hout with
      ⟨asserted, bound, hsome, hasserted, hsame, hestablished, hby⟩
    subst hsome
    have hauth := hestablished hrequired
    exact ⟨asserted, bound, hout, hasserted, hsame,
      (AuthOutcome.isAuthenticated_iff_status bound.auth).mp hauth, hby hauth⟩
  · intro bound hbound hstatus
    rcases authenticatedBy_of_authenticate hconfig hbound with
      ⟨asserted, bound', hsome, _, _, _, hby⟩
    cases hsome
    exact hby ((AuthOutcome.isAuthenticated_iff_status bound.auth).mpr hstatus)

end GovernanceGate

def lockedConfig : ServerConfig where
  args := { authToken := some ⟨"s3cret"⟩, requireAuthentication := true }
  authSubjectId := "local-operator"
  subject_stripped := by decide
  subject_nonempty := by decide
  subject_short := by decide
  concurrency_bounds := by decide
  token_of_required := by decide

def statusCall : ExecuteCall where
  toolName := "status"
  kwargs := Dict.ofEntries [(authTokenKwarg, .str "s3cret")]

def statusGate : GovernanceGate where
  catalog := ⟨Dict.ofEntries [("status", .readOnly)]⟩
  securityConfig := some lockedConfig

namespace GovernanceGate

theorem execute_authenticated_status :
    exists bound, statusGate.authenticate plainBuiltins ⟨fun _ => none, {}⟩ statusCall =
        .ok (some bound) ∧
      AuthenticatedBy lockedConfig (some "s3cret") bound := by
  rcases Program.emits_run quietHost.handle
    (statusGate.execute plainBuiltins ⟨fun _ => none, {}⟩ statusCall)
    (InMemoryApprovalStore.empty, ()) with ⟨rest, hemits⟩
  rcases (execute_authenticated rfl plainBuiltins ⟨fun _ => none, {}⟩ statusCall).1 rfl
    _ rest hemits (by decide +kernel) with ⟨asserted, bound, hbound, _, _, _, hby⟩
  exact ⟨bound, hbound, hby⟩

end GovernanceGate

end YasinMcp
