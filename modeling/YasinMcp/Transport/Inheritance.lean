import YasinMcp.Governance.Authentication
import YasinMcp.Transport.Remote

/-!
# The process environment behind a remote request

A tool call inside a remote request is authenticated under the context variables
the middleware bound.  Where it bound no secret and the call presents none, the
lookup goes on to the environment of the process, which belongs to no request.
-/

namespace YasinMcp

open Foundation

/-- The middleware the remote application of a configuration is built with. -/
def buildRemoteMiddleware (config : ServerConfig) : RequireBearerAuthMiddleware where
  required := config.requireAuthentication
  expectedSecret := config.authToken.map SecretStr.getSecretValue

def wrappedCall (toolName : String) (args : List Value) (kwargs : Kwargs) : ExecuteCall where
  toolName := toolName
  args := args
  kwargs := kwargs

def presentingEnviron (environ : Environ) (value : Option String) : Environ :=
  fun name => if name = presentAuthTokenEnv then value else environ name

structure AuthMarks where
  status : Option Value
  trust : Option Value
  subjectId : Option Value
deriving DecidableEq

/-- The marks a call is bound with; a call that is refused is bound with none. -/
def authMarks : Except PyException (Option BoundRequestContext) -> Option AuthMarks
  | .ok (some bound) =>
      some
        { status := bound.governance.extra.get? "auth_status"
          trust := bound.governance.extra.get? "auth_trust"
          subjectId := bound.governance.extra.get? "auth_subject_id" }
  | _ => none

def AuthMarks.Authenticated (marks : AuthMarks) : Prop :=
  marks.status = some (.str AuthStatus.authenticated.value)

def marksOf (py : Builtins) (gate : GovernanceGate) (environ : Environ) (call : ExecuteCall)
    (vars : RequestVars) (value : Option String) : Option AuthMarks :=
  authMarks (gate.authenticate py ⟨presentingEnviron environ value, vars⟩ call)

/-!
## The marks of a pipeline
-/

def pipelineMarks (config : ServerConfig) (asserted : Option IntegrationContext)
    (presented : Option String) : Option AuthMarks :=
  authMarks (some <$> resolveAuthentication config asserted presented)

theorem pipelineMarks_eq_some {config : ServerConfig} {asserted : Option IntegrationContext}
    {presented : Option String} {marks : AuthMarks}
    (h : pipelineMarks config asserted presented = some marks) :
    exists bound,
      resolveAuthentication config asserted presented = .ok bound ∧
        marks.status = some (.str bound.auth.status.value) := by
  unfold pipelineMarks at h
  cases hbound : resolveAuthentication config asserted presented with
  | error e =>
      rw [hbound] at h
      cases h
  | ok bound =>
      rw [hbound] at h
      cases h
      refine ⟨bound, rfl, ?_⟩
      dsimp only
      rw [(resolveAuthentication_ok hbound).2.1]
      exact get?_boundExtra bound.auth _ "auth_status"

theorem presentsSecret_of_pipelineMarks {config : ServerConfig}
    {asserted : Option IntegrationContext} {presented : Option String} {marks : AuthMarks}
    (h : pipelineMarks config asserted presented = some marks)
    (hauth : marks.Authenticated) :
    PresentsSecret config.authToken presented := by
  rcases pipelineMarks_eq_some h with ⟨bound, hbound, hstatus⟩
  rw [AuthMarks.Authenticated, hstatus, Option.some.injEq, Value.str.injEq] at hauth
  exact ((resolveAuthentication_ok hbound).2.2.2
    ((AuthOutcome.isAuthenticated_iff_status _).mpr (AuthStatus.value_injective hauth))).secret

theorem authenticated_of_required {config : ServerConfig}
    (hrequired : config.requireAuthentication = true)
    {asserted : Option IntegrationContext} {presented : Option String} {marks : AuthMarks}
    (h : pipelineMarks config asserted presented = some marks) : marks.Authenticated := by
  rcases pipelineMarks_eq_some h with ⟨bound, hbound, hstatus⟩
  have hauth := (resolveAuthentication_ok hbound).2.2.1 hrequired
  rw [AuthMarks.Authenticated, hstatus, (AuthOutcome.isAuthenticated_iff_status _).mp hauth]

theorem pipelineMarks_of_presents {config : ServerConfig} {presented : Option String}
    (h : PresentsSecret config.authToken presented) :
    exists marks, pipelineMarks config none presented = some marks := by
  rcases resolveAuthentication_eq config none presented with ⟨outcome, houtcome, heq⟩
  have hstatus := authenticateSharedSecret_of_presents houtcome h
  have hbound : resolveAuthentication config none presented =
      .ok ⟨IntegrationContext.default, outcome,
        boundGovernance IntegrationContext.default outcome⟩ := by
    rw [heq, selectOutcome_of_authenticated hstatus, bindContext_eq_ok_iff]
    refine ⟨fun _ => (AuthOutcome.isAuthenticated_iff_status outcome).mpr hstatus, ?_, ?_, rfl⟩
    · rw [hstatus]
      decide
    · intro identity _
      exact ⟨fun _ h => (Option.some_ne_none _ h.symm).elim,
        fun _ h => (Option.some_ne_none _ h.symm).elim⟩
  rw [pipelineMarks, hbound]
  exact ⟨_, rfl⟩

theorem pipelineMarks_unpresented {config : ServerConfig}
    (hoptional : config.requireAuthentication = false) (asserted : Option IntegrationContext) :
    exists marks, pipelineMarks config asserted none = some marks ∧
      marks.status = some (.str AuthStatus.unauthenticated.value) := by
  rcases resolveAuthentication_eq config asserted none with ⟨outcome, houtcome, heq⟩
  have hstatus : outcome.status ≠ .authenticated := by
    intro hauth
    rcases (AuthOutcome.isAuthenticated_iff_identity outcome).mp
      ((AuthOutcome.isAuthenticated_iff_status outcome).mpr hauth) with ⟨identity, hidentity⟩
    rcases (authenticateSharedSecret_identity houtcome hidentity).1 with ⟨_, _, _, _, hnone⟩
    cases hnone
  have hselect : selectOutcome config.requireAuthentication none outcome =
      stdioUnauthenticated := by
    simp [selectOutcome, hstatus, hoptional, textPresent, stdioUnauthenticated]
  have hbound : resolveAuthentication config asserted none =
      .ok ⟨asserted.getD IntegrationContext.default, stdioUnauthenticated,
        boundGovernance (asserted.getD IntegrationContext.default) stdioUnauthenticated⟩ := by
    rw [heq, hselect, bindContext_eq_ok_iff, hoptional]
    refine ⟨by decide, by decide, ?_, rfl⟩
    intro identity hidentity
    cases hidentity
  rw [pipelineMarks, hbound]
  exact ⟨_, rfl, get?_boundExtra _ _ "auth_status"⟩

theorem pipelineMarks_presented {config : ServerConfig} {asserted : Option IntegrationContext}
    {secret : String} (hne : secret ≠ "") {marks : AuthMarks}
    (h : pipelineMarks config asserted (some secret) = some marks) :
    marks.status ≠ some (.str AuthStatus.unauthenticated.value) := by
  rcases pipelineMarks_eq_some h with ⟨bound, hbound, hstatus⟩
  rcases resolveAuthentication_eq config asserted (some secret) with ⟨outcome, houtcome, heq⟩
  have hselect : selectOutcome config.requireAuthentication (some secret) outcome = outcome := by
    simp [selectOutcome, textPresent, hne]
  rw [heq, hselect, bindContext_eq_ok_iff] at hbound
  rw [hstatus, hbound.2.2.2]
  intro hsame
  rw [Option.some.injEq, Value.str.injEq] at hsame
  exact authenticateSharedSecret_ne_unauthenticated houtcome (AuthStatus.value_injective hsame)

theorem pipelineMarks_optional {config : ServerConfig}
    (hoptional : config.requireAuthentication = false) (asserted : Option IntegrationContext)
    {secret : String} (hne : secret ≠ "") :
    pipelineMarks config asserted none ≠ pipelineMarks config asserted (some secret) := by
  intro hsame
  rcases pipelineMarks_unpresented hoptional asserted with ⟨marks, hmarks, hstatus⟩
  rw [hsame] at hmarks
  exact pipelineMarks_presented hne hmarks hstatus

/-!
## Where the secret of a tool call comes from
-/

/-- The request itself presents the secret, as bearer token or as keyword argument. -/
def PresentedByRequest (py : Builtins) (scope : Scope) (kwargs : Kwargs) (secret : String) :
    Prop :=
  RequireBearerAuthMiddleware.requestToken scope = some secret ∨
    reservedText py kwargs authTokenKwarg = some secret

/-- What a tool call presents before the environment is asked. -/
def ownSecret (py : Builtins) (kwargs : Kwargs) (vars : RequestVars) : Option String :=
  (reservedText py kwargs authTokenKwarg).or vars.presentedSecret

theorem marksOf_wrappedCall {gate : GovernanceGate} {config : ServerConfig}
    (hconfig : gate.securityConfig = some config) (py : Builtins) (environ : Environ)
    (toolName : String) (args : List Value) (kwargs : Kwargs) (vars : RequestVars)
    (value : Option String) :
    marksOf py gate environ (wrappedCall toolName args kwargs) vars value =
      pipelineMarks config vars.assertedContext
        ((ownSecret py kwargs vars).or
          (environValue (presentingEnviron environ value) presentAuthTokenEnv)) := by
  have hsecret : GovernanceGate.effectiveSecret py ⟨presentingEnviron environ value, vars⟩
      (wrappedCall toolName args kwargs) =
        (ownSecret py kwargs vars).or
          (environValue (presentingEnviron environ value) presentAuthTokenEnv) := by
    unfold GovernanceGate.effectiveSecret ownSecret wrappedCall
    dsimp only
    cases reservedText py kwargs authTokenKwarg with
    | some secret => rfl
    | none => cases vars.presentedSecret <;> rfl
  rw [marksOf, GovernanceGate.authenticate_eq hconfig, hsecret]
  unfold assertedContext wrappedCall pipelineMarks
  cases vars.assertedContext <;> rfl

theorem environValue_presentingEnviron (environ : Environ) (value : Option String) :
    environValue (presentingEnviron environ value) presentAuthTokenEnv =
      value.filter fun text => text ≠ "" := by
  unfold environValue presentingEnviron
  rw [if_pos rfl]
  cases value with
  | none => rfl
  | some text => by_cases h : text = "" <;> simp [h, Option.filter]

/-- The bearer token is the secret, or cannot be compared with it. -/
def BearerSettles (secret : String) (token : Option String) : Prop :=
  exists t, token = some t ∧ secret ≠ "" ∧
    (t = secret ∨ Text.isAscii t = false ∨ Text.isAscii secret = false)

theorem acceptedToken_eq_ok_none_iff {m : RequireBearerAuthMiddleware} {secret : String}
    (hexpected : m.expectedSecret = some secret) (scope : Scope) :
    m.acceptedToken (RequireBearerAuthMiddleware.requestToken scope) = .ok none <->
      ¬ BearerSettles secret (RequireBearerAuthMiddleware.requestToken scope) := by
  cases htoken : RequireBearerAuthMiddleware.requestToken scope with
  | none => simp [RequireBearerAuthMiddleware.acceptedToken, BearerSettles]
  | some token =>
      have hne : token ≠ "" := extractBearerToken_ne_empty htoken
      rw [RequireBearerAuthMiddleware.acceptedToken, if_neg hne, hexpected]
      unfold BearerSettles secretMatches compareDigest
      by_cases hempty : secret = ""
      · simp [hempty]
      · dsimp only
        rw [if_neg hempty]
        cases hascii : Text.isAscii token with
        | false => simp [hascii, hempty]
        | true =>
            cases hsecret : Text.isAscii secret with
            | false => simp [hempty]
            | true =>
                by_cases hsame : token = secret
                · simp [hsame, hempty]
                · have hdiffers : (token == secret) = false := by simpa using hsame
                  simp [hascii, hsame, hdiffers]

/-!
## Requests that leave nothing to the environment
-/

/-- A tool call is bound with the same marks whatever the process-wide credential is. -/
structure Uninherited (py : Builtins) (gate : GovernanceGate) (environ : Environ)
    (scope : Scope) (call : ExecuteCall) (secret : String) (vars : RequestVars) : Prop where
  same : forall a b,
    marksOf py gate environ call vars a = marksOf py gate environ call vars b
  own : forall a marks, marksOf py gate environ call vars a = some marks ->
    marks.Authenticated -> PresentedByRequest py scope call.kwargs secret

/--
The request leaves nothing to the environment: it presents a secret by keyword
argument; or its path is checked, and authentication is required there, or it is
refused, or its bearer token settles the secret; or the required secret is one
that cannot be presented.
-/
def LeavesNothing (py : Builtins) (recursionLimit : Nat) (config : ServerConfig)
    (secret : String) (scope : Scope) (kwargs : Kwargs) : Prop :=
  reservedText py kwargs authTokenKwarg ≠ none ∨
    (scope.path ∉ exemptPaths ∧
      (config.requireAuthentication = true ∨
        (exists e,
          RequireBearerAuthMiddleware.requestContext py recursionLimit scope = .error e) ∨
        BearerSettles secret (RequireBearerAuthMiddleware.requestToken scope))) ∨
    (config.requireAuthentication = true ∧ Text.isAscii secret = false)

section

variable {gate : GovernanceGate} {config : ServerConfig} {secret : String}

theorem uninherited_of_ownSecret (hconfig : gate.securityConfig = some config)
    (htoken : config.authToken = some ⟨secret⟩) {py : Builtins} {environ : Environ}
    {scope : Scope} {toolName : String} {args : List Value} {kwargs : Kwargs}
    {vars : RequestVars} {own : String}
    (hown : ownSecret py kwargs vars = some own)
    (hvars : forall bound, vars.presentedSecret = some bound ->
      RequireBearerAuthMiddleware.requestToken scope = some bound) :
    Uninherited py gate environ scope (wrappedCall toolName args kwargs) secret vars := by
  have hmarks : forall value,
      marksOf py gate environ (wrappedCall toolName args kwargs) vars value =
        pipelineMarks config vars.assertedContext (some own) := by
    intro value
    rw [marksOf_wrappedCall hconfig, hown]
    rfl
  constructor
  · intro a b
    rw [hmarks, hmarks]
  · intro a marks hsome hauth
    rw [hmarks] at hsome
    rcases presentsSecret_of_pipelineMarks hsome hauth with ⟨configured, hconfigured, _, _, hsame⟩
    rw [htoken] at hconfigured
    cases hconfigured
    cases hsame
    unfold ownSecret at hown
    cases hreserved : reservedText py kwargs authTokenKwarg with
    | some text =>
        rw [hreserved] at hown
        cases hown
        exact Or.inr hreserved
    | none =>
        rw [hreserved, Option.none_or] at hown
        exact Or.inl (hvars _ hown)

theorem uninherited_of_not_ascii (hconfig : gate.securityConfig = some config)
    (htoken : config.authToken = some ⟨secret⟩)
    (hrequired : config.requireAuthentication = true) (hascii : Text.isAscii secret = false)
    (py : Builtins) (environ : Environ) (scope : Scope) (toolName : String)
    (args : List Value) (kwargs : Kwargs) (vars : RequestVars) :
    Uninherited py gate environ scope (wrappedCall toolName args kwargs) secret vars := by
  have hmarks : forall value,
      marksOf py gate environ (wrappedCall toolName args kwargs) vars value = none := by
    intro value
    rw [marksOf_wrappedCall hconfig]
    by_contra hbound
    rcases Option.ne_none_iff_exists'.mp hbound with ⟨marks, hsome⟩
    rcases presentsSecret_of_pipelineMarks hsome (authenticated_of_required hrequired hsome) with
      ⟨configured, hconfigured, _, hcomparable, _⟩
    rw [htoken] at hconfigured
    cases hconfigured
    rw [hascii] at hcomparable
    cases hcomparable
  constructor
  · intro a b
    rw [hmarks, hmarks]
  · intro a marks hsome
    rw [hmarks] at hsome
    cases hsome

theorem uninherited_of_leavesNothing (hconfig : gate.securityConfig = some config)
    (htoken : config.authToken = some ⟨secret⟩) {py : Builtins} {recursionLimit : Nat}
    {environ : Environ} {app : App} {scope : Scope}
    (hhttp : scope.scopeType = "http")
    {toolName : String} {args : List Value} {kwargs : Kwargs}
    (h : LeavesNothing py recursionLimit config secret scope kwargs) {vars : RequestVars}
    (hvars : vars ∈
      ((buildRemoteMiddleware config).handle py recursionLimit app scope {}).calls) :
    Uninherited py gate environ scope (wrappedCall toolName args kwargs) secret vars := by
  have hexpected : (buildRemoteMiddleware config).expectedSecret = some secret := by
    simp [buildRemoteMiddleware, htoken]
  have hbound : forall bound, vars.presentedSecret = some bound ->
      RequireBearerAuthMiddleware.requestToken scope = some bound := by
    intro bound hsome
    by_cases hpath : scope.path ∈ exemptPaths
    · rw [RequireBearerAuthMiddleware.handle_exempt hpath] at hvars
      rw [List.mem_singleton.mp hvars] at hsome
      cases hsome
    · rcases RequireBearerAuthMiddleware.mem_calls_handle hhttp hpath hvars with
        ⟨asserted, _, ⟨other, hmatches, rfl⟩ | ⟨_, _, rfl | ⟨_, rfl⟩⟩⟩
      · cases hsome
        exact hmatches.2.2
      · cases hsome
      · cases hsome
  rcases h with hreserved | ⟨hpath, hsettled⟩ | ⟨hrequired, hascii⟩
  · rcases Option.ne_none_iff_exists'.mp hreserved with ⟨own, hreserved⟩
    have hown : ownSecret py kwargs vars = some own := by simp [ownSecret, hreserved]
    exact uninherited_of_ownSecret hconfig htoken hown hbound
  · rcases RequireBearerAuthMiddleware.mem_calls_handle hhttp hpath hvars with
      ⟨asserted, hcontext, ⟨other, hmatches, rfl⟩ | ⟨hoptional, haccepted, _⟩⟩
    · have hown : ownSecret py kwargs ⟨some other, asserted⟩ =
          some ((reservedText py kwargs authTokenKwarg).getD other) := by
        unfold ownSecret
        cases reservedText py kwargs authTokenKwarg <;> rfl
      exact uninherited_of_ownSecret hconfig htoken hown hbound
    · rcases hsettled with hrequired | ⟨e, herror⟩ | hsettles
      · rw [buildRemoteMiddleware] at hoptional
        rw [hrequired] at hoptional
        cases hoptional
      · rw [herror] at hcontext
        cases hcontext
      · exact absurd hsettles ((acceptedToken_eq_ok_none_iff hexpected scope).mp haccepted)
  · exact uninherited_of_not_ascii hconfig htoken hrequired hascii py environ scope toolName
      args kwargs vars

theorem not_uninherited_of_optional (hconfig : gate.securityConfig = some config)
    (hoptional : config.requireAuthentication = false) {py : Builtins} {environ : Environ}
    {scope : Scope} {toolName : String} {args : List Value} {kwargs : Kwargs}
    {vars : RequestVars} (hown : ownSecret py kwargs vars = none) :
    ¬ Uninherited py gate environ scope (wrappedCall toolName args kwargs) secret vars := by
  intro h
  have hsame := h.same none (some "x")
  simp only [marksOf_wrappedCall hconfig, hown, environValue_presentingEnviron] at hsame
  exact pipelineMarks_optional hoptional vars.assertedContext (by decide) hsame

theorem not_uninherited_of_required (hconfig : gate.securityConfig = some config)
    (htoken : config.authToken = some ⟨secret⟩)
    (hrequired : config.requireAuthentication = true) (hascii : Text.isAscii secret = true)
    {py : Builtins} {environ : Environ} {scope : Scope} {toolName : String}
    {args : List Value} {kwargs : Kwargs} (hown : ownSecret py kwargs {} = none) :
    ¬ Uninherited py gate environ scope (wrappedCall toolName args kwargs) secret {} := by
  intro h
  have hne : secret ≠ "" := by
    rcases ServerConfig.exists_token_of_required hrequired with ⟨configured, hconfigured, hne⟩
    rw [htoken] at hconfigured
    cases hconfigured
    exact hne
  have hpresents : PresentsSecret config.authToken (some secret) :=
    ⟨⟨secret⟩, htoken, hne, hascii, rfl⟩
  rcases pipelineMarks_of_presents hpresents with ⟨marks, hmarks⟩
  have hsame := h.same none (some secret)
  simp only [marksOf_wrappedCall hconfig, hown, environValue_presentingEnviron] at hsame
  have hunpresented : pipelineMarks config none none = some marks := by
    rw [← hmarks]
    simpa [Option.filter, hne] using hsame
  rcases presentsSecret_of_pipelineMarks hunpresented
    (authenticated_of_required hrequired hunpresented) with ⟨_, _, _, _, hnone⟩
  cases hnone

/--
A remote request inherits nothing from the process environment exactly when it
leaves nothing to it: a request without an accepted credential of its own is
bound with whatever the environment of the process presents.
-/
theorem uninherited_iff (hconfig : gate.securityConfig = some config)
    (htoken : config.authToken = some ⟨secret⟩) (py : Builtins) (recursionLimit : Nat)
    (environ : Environ) (app : App) {scope : Scope} (hhttp : scope.scopeType = "http")
    (toolName : String) (args : List Value) (kwargs : Kwargs) :
    (forall vars,
      vars ∈ ((buildRemoteMiddleware config).handle py recursionLimit app scope {}).calls ->
        Uninherited py gate environ scope (wrappedCall toolName args kwargs) secret vars) <->
      LeavesNothing py recursionLimit config secret scope kwargs := by
  constructor
  · intro h
    by_contra hleaves
    unfold LeavesNothing at hleaves
    push Not at hleaves
    rcases hleaves with ⟨hreserved, hchecked, hcomparable⟩
    have hown : forall asserted, ownSecret py kwargs ⟨none, asserted⟩ = none := by
      intro asserted
      simp [ownSecret, hreserved]
    by_cases hpath : scope.path ∈ exemptPaths
    · have hcall := h {} (by
        rw [RequireBearerAuthMiddleware.handle_exempt hpath]
        exact List.mem_singleton.mpr rfl)
      cases hrequired : config.requireAuthentication with
      | false => exact not_uninherited_of_optional hconfig hrequired (hown none) hcall
      | true =>
          have hascii : Text.isAscii secret = true := by simpa using hcomparable hrequired
          exact not_uninherited_of_required hconfig htoken hrequired hascii (hown none) hcall
    · rcases hchecked hpath with ⟨hoptional, haccepted, hunsettled⟩
      have hoptional : config.requireAuthentication = false := by simpa using hoptional
      have hexpected : (buildRemoteMiddleware config).expectedSecret = some secret := by
        simp [buildRemoteMiddleware, htoken]
      cases hcontext : RequireBearerAuthMiddleware.requestContext py recursionLimit scope with
      | error e => exact haccepted e hcontext
      | ok asserted =>
          refine not_uninherited_of_optional hconfig hoptional (hown asserted) (h _ ?_)
          rw [RequireBearerAuthMiddleware.handle_http hhttp hpath, hcontext]
          exact RequireBearerAuthMiddleware.mem_calls_of_unaccepted hoptional
            ((acceptedToken_eq_ok_none_iff hexpected scope).mpr hunsettled) app scope asserted
  · intro h vars hvars
    exact uninherited_of_leavesNothing hconfig htoken hhttp h hvars

end

def optionalRemoteConfig : ServerConfig :=
  { lockedConfig with
    args :=
      { authToken := some ⟨"s3cret"⟩
        remoteEnabled := true
        remoteAllowInsecureHttp := true }
    concurrency_bounds := by decide
    token_of_required := by decide }

def optionalRemoteGate : GovernanceGate where
  catalog := ⟨Dict.ofEntries [("status", .readOnly)]⟩
  securityConfig := some optionalRemoteConfig

theorem uninherited_bearer :
    Uninherited plainBuiltins optionalRemoteGate (fun _ => none)
      (remoteRequest (some "s3cret") none) (wrappedCall "status" [] Dict.empty) "s3cret"
      ⟨some "s3cret", none⟩ := by
  have hcalls : ((buildRemoteMiddleware optionalRemoteConfig).handle plainBuiltins 1000 idleApp
      (remoteRequest (some "s3cret") none) {}).calls = [⟨some "s3cret", none⟩] := by
    decide +kernel
  have hsettles : BearerSettles "s3cret"
      (RequireBearerAuthMiddleware.requestToken (remoteRequest (some "s3cret") none)) :=
    ⟨"s3cret", by decide +kernel, by decide, Or.inl rfl⟩
  exact (uninherited_iff rfl rfl plainBuiltins 1000 (fun _ => none) idleApp rfl "status" []
    Dict.empty).mpr (Or.inr (Or.inl ⟨by decide, Or.inr (Or.inr hsettles)⟩))
      ⟨some "s3cret", none⟩ (by rw [hcalls]; exact List.mem_singleton.mpr rfl)

/-- A request without a credential is bound as the operator the environment presents. -/
theorem environment_authenticates_request :
    let scope := remoteRequest none none
    let call := wrappedCall "status" [] Dict.empty
    let marks := marksOf plainBuiltins optionalRemoteGate (fun _ => none) call {}
    optionalRemoteConfig.remoteEnabled = true ∧
      ((buildRemoteMiddleware optionalRemoteConfig).handle plainBuiltins 1000 idleApp scope
        {}).calls = [{}] ∧
      marks none = some ⟨some (.str "unauthenticated"), some (.str "asserted"), none⟩ ∧
      marks (some "s3cret") =
        some ⟨some (.str "authenticated"), some (.str "trusted"), some (.str "local-operator")⟩ ∧
      ¬ PresentedByRequest plainBuiltins scope call.kwargs "s3cret" := by
  intro scope call marks
  refine ⟨rfl, by decide +kernel, by decide +kernel, by decide +kernel, ?_⟩
  intro hpresented
  rcases hpresented with hbearer | hkwarg
  · have hnone : RequireBearerAuthMiddleware.requestToken scope = none := by decide +kernel
    rw [hnone] at hbearer
    cases hbearer
  · cases hkwarg

end YasinMcp
