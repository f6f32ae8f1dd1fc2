import YasinMcp.Transport.SecretUse

/-!
# Bearer tokens

The verifier of the remote protocol compares a token with the configured secret, as the
middleware and the governance gate do.  Its verdict on the token of a request decides what
the middleware does with the request, and a token it accepts is authenticated by the gate
as the subject that it names.
-/

namespace YasinMcp

open Foundation

structure AccessToken where
  token : String
  clientId : String
  scopes : List String
  expiresAt : Option Nat
  resource : Option String
  claims : Dict String String
deriving DecidableEq

structure SharedSecretTokenVerifier where
  secret : String
  subjectId : String
  clientId : String

namespace SharedSecretTokenVerifier

def init (authToken : SecretStr) (subjectId : String) (clientId : String := "remote-client") :
    SharedSecretTokenVerifier where
  secret := authToken.getSecretValue
  subjectId := subjectId
  clientId := clientId

def verifyToken (v : SharedSecretTokenVerifier) (token : String) :
    Except PyException (Option AccessToken) :=
  if token = "" ∨ v.secret = "" then .ok none
  else
    match compareDigest token v.secret with
    | .error e => .error e
    | .ok false => .ok none
    | .ok true =>
        .ok (some
          { token := "***"
            clientId := v.clientId
            scopes := ["mcp"]
            expiresAt := none
            resource := none
            claims := Dict.ofEntries [("sub", v.subjectId)] })

/-- The verdict on the token of a request; without a token there is nothing to accept. -/
def verifyRequest (v : SharedSecretTokenVerifier) (token : Option String) :
    Except PyException (Option AccessToken) :=
  match token with
  | none => .ok none
  | some token => v.verifyToken token

theorem verifyToken_eq (v : SharedSecretTokenVerifier) {token : String} (htoken : token ≠ "") :
    (v.verifyToken token).map Option.isSome = secretMatches token (some v.secret) := by
  unfold verifyToken secretMatches
  by_cases hsecret : v.secret = ""
  · rw [if_pos (Or.inr hsecret)]
    simp only [if_pos hsecret]
    rfl
  · rw [if_neg (not_or.mpr ⟨htoken, hsecret⟩)]
    simp only [if_neg hsecret]
    cases compareDigest token v.secret with
    | error e => rfl
    | ok same => cases same <;> rfl

theorem verifyToken_eq_some {v : SharedSecretTokenVerifier} {token : String}
    {access : AccessToken} (h : v.verifyToken token = .ok (some access)) :
    token = v.secret ∧ v.secret ≠ "" ∧ Text.isAscii v.secret = true ∧
      access = ⟨"***", v.clientId, ["mcp"], none, none, Dict.ofEntries [("sub", v.subjectId)]⟩ := by
  unfold verifyToken at h
  split at h
  · cases h
  rename_i hset
  split at h
  · cases h
  · cases h
  rename_i hcompare
  rcases (compareDigest_eq_ok_true_iff token v.secret).mp hcompare with ⟨hsame, hascii⟩
  cases h
  exact ⟨hsame, fun hempty => hset (Or.inr hempty), hascii, rfl⟩

end SharedSecretTokenVerifier

/-!
## The middleware
-/

def SharedSecretTokenVerifier.ofConfig (config : ServerConfig) (secret : SecretStr) :
    SharedSecretTokenVerifier :=
  .init secret config.authSubjectId

/-- In optional mode an unaccepted token is left out: only the context is bound. -/
def leftOut (app : App) (scope : Scope) (vars : RequestVars)
    (asserted : Option IntegrationContext) : Handled :=
  match asserted with
  | some asserted => callAppBound app scope vars none (some asserted)
  | none => callApp app scope vars

/-- What becomes of a request with this context, from the verdict on its token. -/
structure FollowsVerdict (py : Builtins) (gate : GovernanceGate) (config : ServerConfig)
    (app : App) (scope : Scope) (vars : RequestVars) (asserted : Option IntegrationContext)
    (verdict : Except PyException (Option AccessToken)) (h : Handled) : Prop where
  raises : forall e, verdict = .error e -> h = raised vars e
  refuses : verdict = .ok none -> config.requireAuthentication = true ->
    h.calls = [] ∧ h.result = .ok () ∧
      exists code message, h.sent = [⟨401, "1.0.0", code, message⟩]
  leavesOut : verdict = .ok none -> config.requireAuthentication = false ->
    h = leftOut app scope vars asserted
  passes : forall access, verdict = .ok (some access) ->
    exists token,
      RequireBearerAuthMiddleware.requestToken scope = some token ∧
      h = callAppBound app scope vars (some token) asserted ∧
      access.token = "***" ∧ access.claims.get? "sub" = some config.authSubjectId ∧
      forall environ toolName args (kwargs : Kwargs),
        reservedText py kwargs authTokenKwarg = none ->
          AuthenticatedAs py gate config ⟨environ, ⟨some token, asserted⟩⟩
            (wrappedCall toolName args kwargs)

section

variable {config : ServerConfig} {secret : SecretStr}

theorem authenticatedAs_of_verified (htoken : config.authToken = some secret) {token : String}
    {access : AccessToken}
    (h : (SharedSecretTokenVerifier.ofConfig config secret).verifyToken token = .ok (some access))
    {gate : GovernanceGate} (hconfig : gate.securityConfig = some config) {py : Builtins}
    {kwargs : Kwargs} (hkwargs : reservedText py kwargs authTokenKwarg = none)
    (environ : Environ) (asserted : Option IntegrationContext) (toolName : String)
    (args : List Value) :
    AuthenticatedAs py gate config ⟨environ, ⟨some token, asserted⟩⟩
      (wrappedCall toolName args kwargs) := by
  rcases SharedSecretTokenVerifier.verifyToken_eq_some h with ⟨hsame, hset, hascii, _⟩
  change token = secret.getSecretValue at hsame
  rw [hsame]
  apply (authenticatedAs_iff htoken hset hconfig ?_).mpr hascii
  rw [presentedSecret_wrappedCall, hkwargs]
  rfl

theorem requestToken_ne_empty {scope : Scope} {token : String}
    (h : RequireBearerAuthMiddleware.requestToken scope = some token) : token ≠ "" :=
  extractBearerToken_ne_empty h

theorem expectedSecret_ofConfig (htoken : config.authToken = some secret) :
    (buildRemoteMiddleware config).expectedSecret =
      some (SharedSecretTokenVerifier.ofConfig config secret).secret := by
  rw [buildRemoteMiddleware, htoken]
  rfl

theorem authorize_none (app : App) (scope : Scope) (vars : RequestVars)
    (asserted : Option IntegrationContext) :
    (buildRemoteMiddleware config).authorize app scope vars asserted none =
      if config.requireAuthentication = true then
        respond vars 401 "AUTHENTICATION_REQUIRED" "Bearer authentication required"
      else leftOut app scope vars asserted := by
  unfold RequireBearerAuthMiddleware.authorize leftOut
  rfl

theorem authorize_some (htoken : config.authToken = some secret) {token : String}
    (hne : token ≠ "") (app : App) (scope : Scope) (vars : RequestVars)
    (asserted : Option IntegrationContext) :
    (buildRemoteMiddleware config).authorize app scope vars asserted (some token) =
      match (SharedSecretTokenVerifier.ofConfig config secret).verifyToken token with
      | .error e => raised vars e
      | .ok none =>
          if config.requireAuthentication = true then
            respond vars 401 "AUTHENTICATION_FAILED" "Bearer authentication failed"
          else leftOut app scope vars asserted
      | .ok (some _) => callAppBound app scope vars (some token) asserted := by
  have hmatches := (SharedSecretTokenVerifier.ofConfig config secret).verifyToken_eq hne
  rw [← expectedSecret_ofConfig htoken] at hmatches
  unfold RequireBearerAuthMiddleware.authorize RequireBearerAuthMiddleware.acceptedToken leftOut
  simp only [if_neg hne, ← hmatches]
  cases (SharedSecretTokenVerifier.ofConfig config secret).verifyToken token with
  | error e => exact ite_self _
  | ok access =>
      cases access with
      | none => rfl
      | some access => exact ite_self _

/--
The verdict of the verifier on the token of a request decides what the middleware does with
it: it raises what the verifier raises, refuses or leaves out what the verifier refuses, and
passes on what it accepts, to be authenticated as the subject of the access token.
-/
theorem handle_followsVerdict (htoken : config.authToken = some secret) {gate : GovernanceGate}
    (hconfig : gate.securityConfig = some config) {scope : Scope}
    (hhttp : scope.scopeType = "http") (hpath : scope.path ∉ exemptPaths) {py : Builtins}
    {recursionLimit : Nat} {asserted : Option IntegrationContext}
    (hcontext : RequireBearerAuthMiddleware.requestContext py recursionLimit scope = .ok asserted)
    (app : App) (vars : RequestVars) :
    FollowsVerdict py gate config app scope vars asserted
      ((SharedSecretTokenVerifier.ofConfig config secret).verifyRequest
        (RequireBearerAuthMiddleware.requestToken scope))
      ((buildRemoteMiddleware config).handle py recursionLimit app scope vars) := by
  have hhandle : (buildRemoteMiddleware config).handle py recursionLimit app scope vars =
      (buildRemoteMiddleware config).authorize app scope vars asserted
        (RequireBearerAuthMiddleware.requestToken scope) := by
    rw [RequireBearerAuthMiddleware.handle_http hhttp hpath, hcontext]
  rw [hhandle]
  cases hrequest : RequireBearerAuthMiddleware.requestToken scope with
  | none =>
      rw [authorize_none]
      constructor
      · intro e herror
        cases herror
      · intro _ hrequired
        rw [if_pos hrequired]
        exact ⟨rfl, rfl, _, _, rfl⟩
      · intro _ hoptional
        exact if_neg (Bool.eq_false_iff.mp hoptional)
      · intro access haccess
        cases haccess
  | some token =>
      rw [authorize_some htoken (requestToken_ne_empty hrequest)]
      rw [show (SharedSecretTokenVerifier.ofConfig config secret).verifyRequest (some token) =
        (SharedSecretTokenVerifier.ofConfig config secret).verifyToken token from rfl]
      constructor
      · intro e herror
        rw [herror]
      · intro hrefused hrequired
        rw [hrefused]
        dsimp only
        rw [if_pos hrequired]
        exact ⟨rfl, rfl, _, _, rfl⟩
      · intro hrefused hoptional
        rw [hrefused]
        exact if_neg (Bool.eq_false_iff.mp hoptional)
      · intro access haccess
        rcases SharedSecretTokenVerifier.verifyToken_eq_some haccess with ⟨_, _, _, hshown⟩
        refine ⟨token, hrequest, by rw [haccess], by rw [hshown], by rw [hshown]; rfl, ?_⟩
        intro environ toolName args kwargs hkwargs
        exact authenticatedAs_of_verified htoken haccess hconfig hkwargs environ asserted toolName
          args

end

/-- A request with the wrong token, behind a verifier that accepts another. -/
theorem handle_followsVerdict_stranger :
    let h := (buildRemoteMiddleware lockedConfig).handle plainBuiltins 1000 idleApp
      (remoteRequest (some "guess") none) {}
    h.calls = [] ∧ exists code message, h.sent = [⟨401, "1.0.0", code, message⟩] := by
  intro h
  have hverdict := handle_followsVerdict (show lockedConfig.authToken = some ⟨"s3cret"⟩ from rfl)
    (show statusGate.securityConfig = some lockedConfig from rfl)
    (show (remoteRequest (some "guess") none).scopeType = "http" from rfl) mcp_not_exempt
    (requestContext_remoteRequest plainBuiltins 1000 "guess") idleApp {}
  have hrefused := hverdict.refuses (by decide +kernel) rfl
  exact ⟨hrefused.1, hrefused.2.2⟩

end YasinMcp
