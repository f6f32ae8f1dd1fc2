import YasinMcp.Transport.Inheritance

/-!
# Use of the configured secret

A configured secret is presented to a wrapped tool by keyword argument, or to the remote
application as a bearer token.  The first way hands it over as it is, the second strips
it; both compare it with a function that refuses non-ASCII text.  So a secret can be used
exactly when it is ASCII and has no white space at its ends.
-/

namespace YasinMcp

open Foundation

/-!
## Bearer headers
-/

namespace Foundation.Text

theorem rdropWhile_append_of_all {p : Char -> Bool} {back : List Char}
    (h : forall c, c ∈ back -> p c = true) (front : List Char) :
    (front ++ back).rdropWhile p = front.rdropWhile p := by
  rw [List.rdropWhile, List.reverse_append,
    List.dropWhile_append_of_pos fun c hc => h c (List.mem_reverse.mp hc)]
  rfl

theorem rdropWhile_append_of_exists {p : Char -> Bool} {back : List Char}
    (h : exists c, c ∈ back ∧ p c = false) (front : List Char) :
    (front ++ back).rdropWhile p = front ++ back.rdropWhile p := by
  have hne : back.reverse.dropWhile p ≠ [] := by
    intro hnil
    rcases h with ⟨c, hc, hfalse⟩
    have htrue := List.dropWhile_eq_nil_iff.mp hnil c (List.mem_reverse.mpr hc)
    rw [hfalse] at htrue
    cases htrue
  have happend : (back.reverse ++ front.reverse).dropWhile p =
      back.reverse.dropWhile p ++ front.reverse := by
    rw [List.dropWhile_append, if_neg (by simpa using hne)]
  rw [List.rdropWhile, List.reverse_append, happend, List.reverse_append, List.reverse_reverse]
  rfl

theorem dropWhile_rdropWhile (cs : List Char) :
    (cs.rdropWhile isSpace).dropWhile isSpace = stripChars cs := by
  induction cs with
  | nil => rfl
  | cons c rest ih =>
      cases hc : isSpace c with
      | false =>
          have hself : (c :: rest).dropWhile isSpace = c :: rest :=
            List.dropWhile_cons_of_neg (by simp [hc])
          rw [head_rdropWhile hself, stripChars, hself]
      | true =>
          rw [stripChars, List.dropWhile_cons_of_pos hc, ← stripChars, ← ih]
          cases hrest : rest.all isSpace with
          | true =>
              have hall := List.all_eq_true.mp hrest
              rw [← List.singleton_append, rdropWhile_append_of_all hall,
                List.rdropWhile_singleton, if_pos hc, List.rdropWhile_eq_nil_iff.mpr hall]
          | false =>
              rw [← List.singleton_append, rdropWhile_append_of_exists
                (List.all_eq_false.mp hrest |>.imp fun _ h => ⟨h.1, by simpa using h.2⟩),
                List.singleton_append, List.dropWhile_cons_of_pos hc]

end Foundation.Text

theorem strip_bearer_of_blank {token : String} (hblank : Text.isBlank token = true) :
    Text.strip ("Bearer " ++ token) = "Bearer" := by
  have hheader : ("Bearer " ++ token).toList = "Bearer".toList ++ ' ' :: token.toList := by
    rw [String.toList_append]
    rfl
  have hfront : forall rest, ("Bearer".toList ++ rest).dropWhile Text.isSpace =
      "Bearer".toList ++ rest := fun _ => rfl
  rw [Text.strip, hheader, Text.stripChars, hfront, Text.rdropWhile_append_of_all]
  · rfl
  · intro c hc
    rcases List.mem_cons.mp hc with hspace | hmem
    · rw [hspace]
      rfl
    · exact List.all_eq_true.mp hblank c hmem

theorem strip_bearer {token : String} (hblank : Text.isBlank token = false) :
    Text.strip ("Bearer " ++ token) =
      String.ofList ("Bearer ".toList ++ token.toList.rdropWhile Text.isSpace) := by
  rcases List.all_eq_false.mp hblank with ⟨c, hc, hnospace⟩
  have hkept : exists c, c ∈ token.toList ∧ Text.isSpace c = false :=
    ⟨c, hc, Bool.eq_false_of_not_eq_true hnospace⟩
  have hfront : ("Bearer ".toList ++ token.toList).dropWhile Text.isSpace =
      "Bearer ".toList ++ token.toList := rfl
  rw [Text.strip, String.toList_append, Text.stripChars, hfront,
    Text.rdropWhile_append_of_exists hkept]

theorem splitOnce_bearer {token : String} (hblank : Text.isBlank token = false) :
    Text.splitOnce (Text.strip ("Bearer " ++ token)) = some ("Bearer", Text.strip token) := by
  have hne : Text.stripChars token.toList ≠ [] := by
    rw [Ne, Text.stripChars_eq_nil_iff]
    intro hall
    exact Bool.eq_false_iff.mp hblank hall
  rw [strip_bearer hblank, Text.splitOnce, String.toList_ofList]
  change (if ((token.toList.rdropWhile Text.isSpace).dropWhile Text.isSpace).isEmpty then
      none
    else some (String.ofList "Bearer".toList, String.ofList
      ((token.toList.rdropWhile Text.isSpace).dropWhile Text.isSpace))) = _
  rw [Text.dropWhile_rdropWhile, if_neg (by simpa using hne)]
  rfl

theorem extractBearerToken_bearer (token : String) :
    extractBearerToken (some ("Bearer " ++ token)) =
      if Text.isBlank token = true then none else some (Text.strip token) := by
  have hnonempty : ("Bearer " ++ token) ≠ "" := by
    intro hempty
    have hnil := congrArg String.toList hempty
    rw [String.toList_append] at hnil
    cases hnil
  rw [extractBearerToken]
  simp only [if_neg hnonempty]
  cases hblank : Text.isBlank token with
  | true =>
      rw [strip_bearer_of_blank hblank]
      rfl
  | false =>
      rw [splitOnce_bearer hblank]
      have hscheme : Text.lower "Bearer" = "bearer" := by decide
      have hrest : Text.strip token ≠ "" := by
        rw [Ne, Text.strip_eq_empty_iff]
        exact Bool.eq_false_iff.mp hblank
      simp only [hscheme, ne_eq, not_true_eq_false, if_false, Text.strip_strip, hrest,
        Bool.false_eq_true]

/-!
## Authenticated calls
-/

/-- The asserted context names no subject but this one. -/
def AssertsNoOther (subject : String) (asserted : Option IntegrationContext) : Prop :=
  NamesSubject subject (asserted.getD IntegrationContext.default).agentId ∧
    NamesSubject subject (asserted.getD IntegrationContext.default).clientId

/--
The secret the call presents is authenticated as the configured subject, and the call is
bound to that identity unless it asserts another one.
-/
structure AuthenticatedAs (py : Builtins) (gate : GovernanceGate) (config : ServerConfig)
    (ambient : Ambient) (call : ExecuteCall) : Prop where
  outcome : exists auth identity,
    authenticateSharedSecret config.authToken
        (gate.credentials py ambient call).presentedSecret config.authSubjectId = .ok auth ∧
      auth.identity = some identity ∧ identity.subjectId = config.authSubjectId
  bound : forall asserted, assertedContext py ambient call.context none = .ok asserted ->
    AssertsNoOther config.authSubjectId asserted ->
      exists bound identity, gate.authenticate py ambient call = .ok (some bound) ∧
        bound.auth.identity = some identity ∧ identity.subjectId = config.authSubjectId

section

variable {config : ServerConfig} {secret : String}

theorem outcome_of_presents {presented : Option String}
    (h : PresentsSecret config.authToken presented) :
    exists auth identity,
      authenticateSharedSecret config.authToken presented config.authSubjectId = .ok auth ∧
        auth.status = .authenticated ∧ auth.identity = some identity ∧
        identity.subjectId = config.authSubjectId := by
  rcases authenticateSharedSecret_isOk config.subject_not_blank config.authToken presented with
    ⟨auth, hauth⟩
  have hstatus := authenticateSharedSecret_of_presents hauth h
  rcases Option.isSome_iff_exists.mp (auth.identity_iff.mpr hstatus) with ⟨identity, hidentity⟩
  have hsubject := (authenticateSharedSecret_identity hauth hidentity).2.1
  rw [config.subject_stripped] at hsubject
  exact ⟨auth, identity, hauth, hstatus, hidentity, hsubject⟩

theorem authenticatedAs_iff (htoken : config.authToken = some ⟨secret⟩) (hset : secret ≠ "")
    {gate : GovernanceGate} (hconfig : gate.securityConfig = some config) {py : Builtins}
    {ambient : Ambient} {call : ExecuteCall}
    (hpresented : (gate.credentials py ambient call).presentedSecret = some secret) :
    AuthenticatedAs py gate config ambient call <-> Text.isAscii secret = true := by
  constructor
  · intro h
    rcases h.outcome with ⟨auth, identity, hauth, hidentity, _⟩
    rcases (authenticateSharedSecret_identity hauth hidentity).1 with
      ⟨configured, hconfigured, _, hascii, _⟩
    rw [htoken, Option.some.injEq] at hconfigured
    rw [← hconfigured] at hascii
    exact hascii
  · intro hascii
    have hpresents : PresentsSecret config.authToken (some secret) :=
      ⟨⟨secret⟩, htoken, hset, hascii, rfl⟩
    rcases outcome_of_presents hpresents with ⟨auth, identity, hauth, hstatus, hidentity, hsubject⟩
    constructor
    · rw [hpresented]
      exact ⟨auth, identity, hauth, hidentity, hsubject⟩
    · intro asserted hasserted hnames
      have heffective : GovernanceGate.effectiveSecret py ambient call = some secret := by
        rw [← GovernanceGate.credentials_secret py gate, hpresented]
      have hauthenticate := GovernanceGate.authenticate_eq hconfig py ambient call
      rw [hasserted, heffective, ok_bind] at hauthenticate
      rcases resolveAuthentication_eq config asserted (some secret) with ⟨other, hother, heq⟩
      rw [hauth, Except.ok.injEq] at hother
      subst hother
      have hbind := (bindContext_eq_ok_iff (asserted.getD IntegrationContext.default) auth
        config.requireAuthentication _).mpr
          ⟨fun _ => (AuthOutcome.isAuthenticated_iff_status auth).mpr hstatus,
            by rw [hstatus]; decide, by
              intro found hfound
              rw [hidentity, Option.some.injEq] at hfound
              rw [← hfound, NoImpersonation, hsubject]
              exact hnames, rfl⟩
      rw [heq, selectOutcome_of_authenticated hstatus, hbind] at hauthenticate
      exact ⟨_, identity, hauthenticate, hidentity, hsubject⟩

/-!
## The two ways of presenting
-/

/-- The middleware calls the application once, bound to the secret, and is done with it. -/
structure BearerAccepted (py : Builtins) (gate : GovernanceGate) (recursionLimit : Nat)
    (config : ServerConfig) (app : App) (scope : Scope) (vars : RequestVars)
    (secret : String) (asserted : Option IntegrationContext) : Prop where
  called :
    ((buildRemoteMiddleware config).handle py recursionLimit app scope vars).calls =
      [⟨some secret, asserted⟩]
  silent : ((buildRemoteMiddleware config).handle py recursionLimit app scope vars).sent = []
  result :
    ((buildRemoteMiddleware config).handle py recursionLimit app scope vars).result =
      (app scope ⟨some secret, asserted⟩).1
  authenticated : forall environ toolName args (kwargs : Kwargs),
    reservedText py kwargs authTokenKwarg = none ->
      AuthenticatedAs py gate config ⟨environ, ⟨some secret, asserted⟩⟩
        (wrappedCall toolName args kwargs)

/--
Every call that presents the secret by keyword argument is authenticated, and every
request with a readable context that presents it as its bearer token is passed on and
authenticated likewise.
-/
structure UsableSecret (config : ServerConfig) (secret : String) : Prop where
  byArgument : forall py (gate : GovernanceGate) ambient toolName args (kwargs : Kwargs),
    gate.securityConfig = some config ->
      kwargs.get? authTokenKwarg = some (.str secret) ->
        AuthenticatedAs py gate config ambient (wrappedCall toolName args kwargs)
  byBearer : forall py (gate : GovernanceGate) recursionLimit app scope vars asserted,
    gate.securityConfig = some config ->
      scope.scopeType = "http" -> scope.path ∉ exemptPaths ->
        lastHeader scope "authorization" = some ("Bearer " ++ secret) ->
          RequireBearerAuthMiddleware.requestContext py recursionLimit scope = .ok asserted ->
            BearerAccepted py gate recursionLimit config app scope vars secret asserted

theorem presentedSecret_wrappedCall (py : Builtins) (gate : GovernanceGate)
    (ambient : Ambient) (toolName : String) (args : List Value) (kwargs : Kwargs) :
    (gate.credentials py ambient (wrappedCall toolName args kwargs)).presentedSecret =
      (reservedText py kwargs authTokenKwarg).or (getPresentedSecret ambient) := by
  unfold GovernanceGate.credentials wrappedCall extractPresentedSecret extractCredential
  cases reservedText py kwargs authTokenKwarg with
  | some secret => rfl
  | none => cases getPresentedSecret ambient <;> rfl

theorem authenticatedAs_argument_iff (htoken : config.authToken = some ⟨secret⟩)
    (hset : secret ≠ "") {gate : GovernanceGate} (hconfig : gate.securityConfig = some config)
    {kwargs : Kwargs} (hkwarg : kwargs.get? authTokenKwarg = some (.str secret))
    (py : Builtins) (ambient : Ambient) (toolName : String) (args : List Value) :
    AuthenticatedAs py gate config ambient (wrappedCall toolName args kwargs) <->
      Text.isAscii secret = true := by
  have hreserved : reservedText py kwargs authTokenKwarg = some secret := by
    rw [reservedText, hkwarg]
  apply authenticatedAs_iff htoken hset hconfig
  rw [presentedSecret_wrappedCall, hreserved, Option.some_or]

theorem requestToken_bearer {scope : Scope} {token : String}
    (h : lastHeader scope "authorization" = some ("Bearer " ++ token)) :
    RequireBearerAuthMiddleware.requestToken scope =
      if Text.isBlank token = true then none else some (Text.strip token) := by
  rw [RequireBearerAuthMiddleware.requestToken, h, extractBearerToken_bearer]

theorem bearerAccepted_of_usable (hrequired : config.requireAuthentication = true)
    (htoken : config.authToken = some ⟨secret⟩) (hset : secret ≠ "")
    (hascii : Text.isAscii secret = true) (hstrip : Text.strip secret = secret)
    {gate : GovernanceGate} (hconfig : gate.securityConfig = some config) {scope : Scope}
    (hhttp : scope.scopeType = "http") (hpath : scope.path ∉ exemptPaths)
    (hheader : lastHeader scope "authorization" = some ("Bearer " ++ secret))
    {py : Builtins} {recursionLimit : Nat} {asserted : Option IntegrationContext}
    (hcontext : RequireBearerAuthMiddleware.requestContext py recursionLimit scope = .ok asserted)
    (app : App) (vars : RequestVars) :
    BearerAccepted py gate recursionLimit config app scope vars secret asserted := by
  have hblank : Text.isBlank secret = false := by
    apply Text.isBlank_eq_false
    rw [← Text.strip_eq_empty_iff, hstrip]
    exact hset
  have htokenRead : RequireBearerAuthMiddleware.requestToken scope = some secret := by
    rw [requestToken_bearer hheader, if_neg (Bool.eq_false_iff.mp hblank), hstrip]
  have hexpected : (buildRemoteMiddleware config).expectedSecret = some secret := by
    rw [buildRemoteMiddleware, htoken]
    rfl
  have hmatches : secretMatches secret (buildRemoteMiddleware config).expectedSecret =
      .ok true :=
    (RequireBearerAuthMiddleware.secretMatches_eq_ok_true_iff secret _).mpr ⟨hexpected, hset, hascii⟩
  have hhandle : (buildRemoteMiddleware config).handle py recursionLimit app scope vars =
      callAppBound app scope vars (some secret) asserted := by
    rw [RequireBearerAuthMiddleware.handle_http hhttp hpath, hcontext]
    simp only [RequireBearerAuthMiddleware.authorize, htokenRead, hmatches]
    exact if_pos hrequired
  constructor
  · rw [hhandle]
    rfl
  · rw [hhandle]
    rfl
  · rw [hhandle]
    rfl
  · intro environ toolName args kwargs hreserved
    apply (authenticatedAs_iff htoken hset hconfig ?_).mpr hascii
    rw [presentedSecret_wrappedCall, hreserved]
    rfl

theorem strip_eq_of_bearerAccepted {py : Builtins} {gate : GovernanceGate}
    {recursionLimit : Nat} {app : App} {scope : Scope} {vars : RequestVars}
    {asserted : Option IntegrationContext}
    (hrequired : config.requireAuthentication = true)
    (hhttp : scope.scopeType = "http") (hpath : scope.path ∉ exemptPaths)
    (hheader : lastHeader scope "authorization" = some ("Bearer " ++ secret))
    (h : BearerAccepted py gate recursionLimit config app scope vars secret asserted) :
    Text.strip secret = secret := by
  have hcall : (⟨some secret, asserted⟩ : RequestVars) ∈
      ((buildRemoteMiddleware config).handle py recursionLimit app scope vars).calls := by
    rw [h.called]
    exact List.mem_singleton.mpr rfl
  rcases RequireBearerAuthMiddleware.mem_calls_handle hhttp hpath hcall with
    ⟨_, _, ⟨other, hmatches, hvars⟩ | ⟨hoptional, _⟩⟩
  · cases hvars
    have hread := hmatches.2.2
    rw [requestToken_bearer hheader] at hread
    split at hread
    · cases hread
    · exact Option.some.inj hread
  · rw [buildRemoteMiddleware, hrequired] at hoptional
    cases hoptional

/-!
## A request for every ASCII secret
-/

theorem decodeLatin1_asciiBytes {s : String} (h : Text.isAscii s = true) :
    Text.decodeLatin1 (asciiBytes s) = s := by
  rw [Text.decodeLatin1, asciiBytes, List.map_map, ← String.toList_inj, String.toList_ofList]
  calc s.toList.map _ = s.toList.map id := by
        apply List.map_congr_left
        intro c hc
        have hsmall : c.toNat < 128 := of_decide_eq_true (List.all_eq_true.mp h c hc)
        have hbyte : (UInt8.ofNat c.toNat).toNat = c.toNat := by
          rw [UInt8.toNat_ofNat', Nat.mod_eq_of_lt (by omega)]
        rw [Function.comp_apply, hbyte, Char.ofNat_toNat, id]
    _ = s.toList := List.map_id _

theorem lastHeader_remoteRequest {token : String} (h : Text.isAscii token = true) :
    lastHeader (remoteRequest (some token) none) "authorization" =
      some ("Bearer " ++ token) := by
  have hascii : Text.isAscii ("Bearer " ++ token) = true := by
    rw [Text.isAscii, String.toList_append, List.all_append]
    exact Bool.and_eq_true_iff.mpr ⟨by decide, h⟩
  have hname : Text.lower (Text.decodeLatin1 (asciiBytes "Authorization")) = "authorization" := by
    decide +kernel
  have hfilter : (remoteRequest (some token) none).headers.filter
      (fun header => Text.lower (Text.decodeLatin1 header.1) = "authorization") =
        (remoteRequest (some token) none).headers := by
    apply List.filter_eq_self.mpr
    intro header hmem
    rw [List.mem_singleton.mp hmem]
    exact decide_eq_true hname
  rw [lastHeader, hfilter, ← decodeLatin1_asciiBytes hascii]
  rfl

theorem requestContext_remoteRequest (py : Builtins) (recursionLimit : Nat) (token : String) :
    RequireBearerAuthMiddleware.requestContext py recursionLimit
      (remoteRequest (some token) none) = .ok none := by
  have hname : Text.lower (Text.decodeLatin1 (asciiBytes "Authorization")) ≠ contextHeader := by
    decide +kernel
  have hfilter : (remoteRequest (some token) none).headers.filter
      (fun header => Text.lower (Text.decodeLatin1 header.1) = contextHeader) = [] := by
    apply List.filter_eq_nil_iff.mpr
    intro header hmem
    rw [List.mem_singleton.mp hmem]
    simpa using hname
  apply RequireBearerAuthMiddleware.requestContext_of_empty
  left
  rw [lastHeader, hfilter]
  rfl

theorem mcp_not_exempt : "/mcp" ∉ exemptPaths := by
  decide

/--
The configured secret can be used, by keyword argument and as a bearer token, exactly when
it is ASCII and has no white space at its ends.
-/
theorem usableSecret_iff (hrequired : config.requireAuthentication = true)
    (htoken : config.authToken = some ⟨secret⟩) :
    UsableSecret config secret <->
      Text.isAscii secret = true ∧ Text.strip secret = secret := by
  have hset : secret ≠ "" := by
    rcases ServerConfig.exists_token_of_required hrequired with ⟨configured, hconfigured, hne⟩
    rw [htoken, Option.some.injEq] at hconfigured
    rw [← hconfigured] at hne
    exact hne
  let gate : GovernanceGate := { catalog := .empty, securityConfig := some config }
  constructor
  · intro h
    let kwargs : Kwargs := Dict.ofEntries [(authTokenKwarg, .str secret)]
    have hkwarg : kwargs.get? authTokenKwarg = some (.str secret) := rfl
    have hascii : Text.isAscii secret = true :=
      (authenticatedAs_argument_iff htoken hset (show gate.securityConfig = _ from rfl) hkwarg
        plainBuiltins ⟨fun _ => none, {}⟩ "status" []).mp
        (h.byArgument plainBuiltins gate ⟨fun _ => none, {}⟩ "status" [] kwargs rfl hkwarg)
    refine ⟨hascii, ?_⟩
    have hheader := lastHeader_remoteRequest hascii
    have haccepted := h.byBearer plainBuiltins gate 1000 idleApp
      (remoteRequest (some secret) none) {} none rfl rfl mcp_not_exempt hheader
      (requestContext_remoteRequest plainBuiltins 1000 secret)
    exact strip_eq_of_bearerAccepted hrequired rfl mcp_not_exempt hheader haccepted
  · intro h
    constructor
    · intro py gate ambient toolName args kwargs hconfig hkwarg
      exact (authenticatedAs_argument_iff htoken hset hconfig hkwarg py ambient toolName
        args).mpr h.1
    · intro py gate recursionLimit app scope vars asserted hconfig hhttp hpath hheader hcontext
      exact bearerAccepted_of_usable hrequired htoken hset h.1 h.2 hconfig hhttp hpath hheader
        hcontext app vars

end

theorem usableSecret_locked :
    UsableSecret lockedConfig "s3cret" :=
  (usableSecret_iff rfl rfl).mpr ⟨by decide, by decide⟩

def accentedArgs : ServerConfigArgs where
  authToken := some ⟨"s\u00e9cret"⟩
  requireAuthentication := true

def accentedConfig : ServerConfig where
  args := accentedArgs
  authSubjectId := "local-operator"
  subject_stripped := lockedConfig.subject_stripped
  subject_nonempty := lockedConfig.subject_nonempty
  subject_short := lockedConfig.subject_short
  concurrency_bounds := lockedConfig.concurrency_bounds
  token_of_required := fun _ => rfl

/-- The keyword argument is refused as malformed, and the middleware raises. -/
theorem accented_secret_unusable :
    ServerConfig.postInit plainBuiltins accentedArgs = .ok accentedConfig ∧
      accentedConfig.requireAuthentication = true ∧
      accentedConfig.authToken = some ⟨"s\u00e9cret"⟩ ∧
      lastHeader (remoteRequest (some "s\u00e9cret") none) "authorization" =
        some ("Bearer " ++ "s\u00e9cret") ∧
      ((buildRemoteMiddleware accentedConfig).handle plainBuiltins 1000 idleApp
          (remoteRequest (some "s\u00e9cret") none) {}).result =
        .error (.typeError "comparing strings with non-ASCII characters is not supported") ∧
      ¬ UsableSecret accentedConfig "s\u00e9cret" := by
  refine ⟨rfl, rfl, rfl, by decide +kernel, by decide +kernel, ?_⟩
  intro h
  let gate : GovernanceGate := { catalog := .empty, securityConfig := some accentedConfig }
  let kwargs : Kwargs := Dict.ofEntries [(authTokenKwarg, .str "s\u00e9cret")]
  have hauthenticated := h.byArgument plainBuiltins gate ⟨fun _ => none, {}⟩ "status" []
    kwargs rfl rfl
  have htoken : accentedConfig.authToken = some ⟨"s\u00e9cret"⟩ := rfl
  have hconfig : gate.securityConfig = some accentedConfig := rfl
  have hascii := (authenticatedAs_argument_iff htoken (by decide) hconfig rfl plainBuiltins
    ⟨fun _ => none, {}⟩ "status" []).mp hauthenticated
  exact absurd hascii (by decide)

end YasinMcp
