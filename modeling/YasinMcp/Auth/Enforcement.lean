import YasinMcp.Auth.Binding

/-!
# Request authentication

A call presents a secret explicitly, by keyword argument, through the request's
context variable or through the process environment.  The effective secret and
the asserted context go through one pipeline, which returns a bound context or
raises.
-/

namespace YasinMcp

open Foundation

abbrev Environ := String -> Option String

abbrev Kwargs := Dict String Value

def authTokenKwarg : String := "_yasin_auth_token"
def presentAuthTokenEnv : String := "YASIN_MCP_PRESENT_AUTH_TOKEN"

/-!
## Request state
-/

structure RequestVars where
  presentedSecret : Option String := none
  assertedContext : Option IntegrationContext := none
deriving DecidableEq

/-- What a call reads besides its arguments. -/
structure Ambient where
  environ : Environ
  vars : RequestVars := {}

/-- An environment value counts only when it is not empty. -/
def environValue (environ : Environ) (name : String) : Option String :=
  match environ name with
  | none => none
  | some value => if value = "" then none else some value

def getPresentedSecret (ambient : Ambient) : Option String :=
  match ambient.vars.presentedSecret with
  | some value => some value
  | none => environValue ambient.environ presentAuthTokenEnv

/-- Run a body under bound variables; leaving the scope resets both. -/
def authRequestScope {a : Type} (vars : RequestVars) (presentedSecret : Option String)
    (asserted : Option IntegrationContext) (body : RequestVars -> a × RequestVars) :
    a × RequestVars :=
  ((body ⟨presentedSecret, asserted⟩).1, vars)

/-!
## Credential extraction
-/

/-- A reserved argument as text: absent when missing or null. -/
def reservedText (py : Builtins) (kwargs : Kwargs) (name : String) : Option String :=
  match kwargs.get? name with
  | none => none
  | some .none => none
  | some (.str s) => some s
  | some other => some (py.str other)

structure PresentedCredential where
  value : Option String
  source : String

def extractCredential (py : Builtins) (ambient : Ambient) (kwargs : Kwargs) :
    Kwargs × PresentedCredential :=
  let cleaned := kwargs.erase authTokenKwarg
  match reservedText py kwargs authTokenKwarg with
  | some value => (cleaned, ⟨some value, "kwarg"⟩)
  | none =>
      match getPresentedSecret ambient with
      | some value => (cleaned, ⟨some value, "contextvar"⟩)
      | none => (cleaned, ⟨none, "none"⟩)

def extractPresentedSecret (py : Builtins) (ambient : Ambient) (kwargs : Kwargs) :
    Kwargs × Option String :=
  let (cleaned, presented) := extractCredential py ambient kwargs
  (cleaned, presented.value)

/-!
## The pipeline
-/

/-- The outcome the pipeline binds, from the answer of the secret authenticator. -/
def selectOutcome (requireAuthentication : Bool) (presentedSecret : Option String)
    (secretOutcome : AuthOutcome) : AuthOutcome :=
  if secretOutcome.status = .authenticated then secretOutcome
  else if textPresent presentedSecret = true then secretOutcome
  else if requireAuthentication = true then
    if secretOutcome.status = .transportUnavailable then authRequiredNoCredential
    else secretOutcome
  else stdioUnauthenticated

def resolveAuthentication (config : ServerConfig) (asserted : Option IntegrationContext)
    (presentedSecret : Option String) : Except PyException BoundRequestContext :=
  let asserted := asserted.getD IntegrationContext.default
  if authenticateStdioPeer.status ≠ .transportUnavailable then
    .error (.other "AssertionError" true)
  else do
    let secretOutcome ←
      authenticateSharedSecret config.authToken presentedSecret config.authSubjectId
    let auth := selectOutcome config.requireAuthentication presentedSecret secretOutcome
    bindContext asserted auth config.requireAuthentication

def rebuildArgs (context : GovernanceContext) : IntegrationContextArgs where
  clientId := Value.ofOption context.clientId
  agentId := Value.ofOption context.agentId
  projectId := Value.ofOption context.projectId
  workspaceId := Value.ofOption context.workspaceId
  taskId := Value.ofOption context.taskId
  sessionId := Value.ofOption context.sessionId
  requestId := Value.ofOption context.requestId
  correlationId := Value.ofOption context.correlationId
  extra := if context.extra.entries.isEmpty then .none else .dict context.extra.entries

theorem validateExtra_rebuildArgs (py : Builtins) {c : GovernanceContext} {e : AcceptedExtra}
    (h : c.extra = e.mapping) : validateExtra py (rebuildArgs c).extra = .ok e := by
  unfold rebuildArgs
  rw [h]
  by_cases hempty : e.mapping.entries.isEmpty = true
  · have hmapping : e = AcceptedExtra.empty := by
      cases e with
      | mk mapping hsize haccepted =>
          have hnil : mapping.entries = [] := List.isEmpty_iff.mp hempty
          have hdict : mapping = Dict.empty := Dict.ext hnil
          subst hdict
          rfl
    subst hmapping
    rfl
  · simp only [hempty]
    exact validateExtra_accepted py e

/-- The asserted context of a call: passed, bound to the request, or rebuilt. -/
def assertedContext (py : Builtins) (ambient : Ambient) (context : Option GovernanceContext)
    (asserted : Option IntegrationContext) : Except PyException (Option IntegrationContext) :=
  match asserted with
  | some asserted => .ok (some asserted)
  | none =>
      match ambient.vars.assertedContext with
      | some asserted => .ok (some asserted)
      | none =>
          match context with
          | none => .ok none
          | some context => do
              let asserted ← IntegrationContext.postInit py (rebuildArgs context)
              .ok (some asserted)

def resolveExecutionAuth (py : Builtins) (config : Option ServerConfig) (ambient : Ambient)
    (context : Option GovernanceContext) (presentedSecret : Option String)
    (asserted : Option IntegrationContext) :
    Except PyException (Option BoundRequestContext) :=
  match config with
  | none => .ok none
  | some config => do
      let asserted ← assertedContext py ambient context asserted
      let presentedSecret :=
        match presentedSecret with
        | some secret => some secret
        | none => getPresentedSecret ambient
      let bound ← resolveAuthentication config asserted presentedSecret
      .ok (some bound)

/-!
## What authentication establishes
-/

theorem selectOutcome_identity {required : Bool} {presented : Option String}
    {outcome : AuthOutcome} {identity : AuthenticatedIdentity}
    (h : (selectOutcome required presented outcome).identity = some identity) :
    outcome.identity = some identity := by
  unfold selectOutcome at h
  repeat' split at h
  all_goals first
    | exact h
    | cases h

theorem selectOutcome_of_authenticated {outcome : AuthOutcome}
    (h : outcome.status = .authenticated) (required : Bool) (presented : Option String) :
    selectOutcome required presented outcome = outcome := by
  simp [selectOutcome, h]

theorem resolveAuthentication_eq (config : ServerConfig)
    (asserted : Option IntegrationContext) (presented : Option String) :
    exists outcome,
      authenticateSharedSecret config.authToken presented config.authSubjectId =
        .ok outcome ∧
      resolveAuthentication config asserted presented =
        bindContext (asserted.getD IntegrationContext.default)
          (selectOutcome config.requireAuthentication presented outcome)
          config.requireAuthentication := by
  rcases authenticateSharedSecret_isOk config.subject_not_blank config.authToken presented
    with ⟨outcome, houtcome⟩
  refine ⟨outcome, houtcome, ?_⟩
  unfold resolveAuthentication
  rw [houtcome, if_neg (by decide)]
  rfl

theorem resolveAuthentication_map {f : IntegrationContext -> IntegrationContext}
    (hagent : forall c, (f c).agentId = c.agentId)
    (hclient : forall c, (f c).clientId = c.clientId) (config : ServerConfig)
    (asserted : IntegrationContext) (presented : Option String) :
    resolveAuthentication config (some (f asserted)) presented =
      (fun bound => bound.map f) <$> resolveAuthentication config (some asserted) presented := by
  rcases resolveAuthentication_eq config (some asserted) presented with
    ⟨outcome, houtcome, hbase⟩
  rcases resolveAuthentication_eq config (some (f asserted)) presented with
    ⟨outcome', houtcome', hother⟩
  rw [houtcome, Except.ok.injEq] at houtcome'
  subst houtcome'
  rw [hbase, hother]
  exact bindContext_map hagent hclient asserted _ _

structure AuthenticatedBy (config : ServerConfig) (presented : Option String)
    (bound : BoundRequestContext) : Prop where
  secret : PresentsSecret config.authToken presented
  subject : exists identity,
    bound.auth.identity = some identity ∧ identity.subjectId = config.authSubjectId
  agent : NamesSubject config.authSubjectId bound.asserted.agentId
  client : NamesSubject config.authSubjectId bound.asserted.clientId

theorem resolveAuthentication_ok {config : ServerConfig}
    {asserted : Option IntegrationContext} {presented : Option String}
    {bound : BoundRequestContext}
    (h : resolveAuthentication config asserted presented = .ok bound) :
    bound.asserted = asserted.getD IntegrationContext.default ∧
      bound.governance = boundGovernance bound.asserted bound.auth ∧
      (config.requireAuthentication = true -> bound.auth.isAuthenticated = true) ∧
      (bound.auth.isAuthenticated = true -> AuthenticatedBy config presented bound) := by
  rcases resolveAuthentication_eq config asserted presented with ⟨outcome, houtcome, heq⟩
  rw [heq, bindContext_eq_ok_iff] at h
  rcases h with ⟨hrequired, _, himpersonation, hbound⟩
  rw [hbound]
  refine ⟨rfl, rfl, hrequired, ?_⟩
  intro hauth
  rcases (AuthOutcome.isAuthenticated_iff_identity _).mp hauth with ⟨identity, hidentity⟩
  rcases authenticateSharedSecret_identity houtcome (selectOutcome_identity hidentity) with
    ⟨hpresents, hsubject, _⟩
  rw [config.subject_stripped] at hsubject
  have hnames := himpersonation identity hidentity
  unfold NoImpersonation at hnames
  rw [hsubject] at hnames
  exact ⟨hpresents, ⟨identity, hidentity, hsubject⟩, hnames.1, hnames.2⟩

end YasinMcp
