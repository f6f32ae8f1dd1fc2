import YasinMcp.Auth.Enforcement
import YasinMcp.Foundation.Json

/-!
# Remote transport

The middleware in front of the remote application reads the last of each repeated
header, parses the optional context, checks the bearer token and calls the inner
application, with the token and the context bound around the call.
-/

namespace YasinMcp

open Foundation

/-- A connection scope of the server interface; headers are pairs of bytes. -/
structure Scope where
  scopeType : String := "http"
  path : String
  headers : List (List UInt8 × List UInt8)

structure Response where
  statusCode : Nat
  errorContractVersion : String
  code : String
  message : String
deriving DecidableEq, Repr

/--
An inner application: how it ends, and the context variables it leaves, from the
ones it finds.
-/
abbrev App := Scope -> RequestVars -> Except PyException Unit × RequestVars

structure Handled where
  calls : List RequestVars
  sent : List Response
  result : Except PyException Unit
  vars : RequestVars

/-!
## Headers
-/

/-- Names in lower case; a repeated header keeps its last value. -/
def decodeHeaders (headers : List (List UInt8 × List UInt8)) : Dict String String :=
  Dict.ofEntries (headers.map fun (k, v) =>
    (Text.lower (Text.decodeLatin1 k), Text.decodeLatin1 v))

def lastHeader (scope : Scope) (name : String) : Option String :=
  ((scope.headers.filter fun (k, _) =>
    Text.lower (Text.decodeLatin1 k) = name).getLast?).map fun (_, v) => Text.decodeLatin1 v

theorem get?_decodeHeaders (scope : Scope) (name : String) :
    (decodeHeaders scope.headers).get? name = lastHeader scope name := by
  rw [decodeHeaders, Dict.get?_ofEntries, lastHeader, List.filter_map, List.getLast?_map,
    Option.map_map]
  rfl

def extractBearerToken (authorizationHeader : Option String) : Option String :=
  match authorizationHeader with
  | none => none
  | some header =>
      if header = "" then none
      else
        match Text.splitOnce (Text.strip header) with
        | none => none
        | some (scheme, rest) =>
            if Text.lower scheme ≠ "bearer" then none
            else
              let token := Text.strip rest
              if token = "" then none else some token

theorem extractBearerToken_ne_empty {header : Option String} {token : String}
    (h : extractBearerToken header = some token) : token ≠ "" := by
  cases header with
  | none => cases h
  | some header =>
      unfold extractBearerToken at h
      dsimp only at h
      split at h
      · cases h
      split at h
      · cases h
      split at h
      · cases h
      split at h
      · cases h
      rename_i hne
      rw [Option.some.injEq] at h
      rw [← h]
      exact hne

/-!
## The asserted context
-/

def contextHeader : String := "x-yasin-context"
def maxContextHeaderLength : Nat := 8192

def extractIntegrationContext (py : Builtins) (recursionLimit : Nat) (raw : Option String) :
    Except PyException (Option IntegrationContext) :=
  match raw with
  | none => .ok none
  | some raw =>
      if raw = "" then .ok none
      else if maxContextHeaderLength < raw.length then
        .error (.valueError "integration context header too large")
      else
        match Json.loads recursionLimit raw with
        | .error .decode => .error (.valueError "integration context is not valid JSON")
        | .error (.digits count) => .error (.valueError (digitLimitMessage count))
        | .error .recursion => .error .recursionError
        | .ok (.dict entries) => do
            let context ← IntegrationContext.fromMapping py (.dict entries)
            .ok (some context)
        | .ok _ => .error (.valueError "integration context must be a JSON object")

/-!
## The middleware
-/

structure RequireBearerAuthMiddleware where
  required : Bool
  expectedSecret : Option String

def exemptPaths : List String := ["/healthz", "/readyz"]

def secretMatches (token : String) (expectedSecret : Option String) :
    Except PyException Bool :=
  match expectedSecret with
  | none => .ok false
  | some secret => if secret = "" then .ok false else compareDigest token secret

def callApp (app : App) (scope : Scope) (vars : RequestVars) : Handled :=
  let (result, left) := app scope vars
  ⟨[vars], [], result, left⟩

def callAppBound (app : App) (scope : Scope) (vars : RequestVars)
    (presentedSecret : Option String) (asserted : Option IntegrationContext) : Handled :=
  let (result, left) := authRequestScope vars presentedSecret asserted (app scope)
  ⟨[⟨presentedSecret, asserted⟩], [], result, left⟩

def respond (vars : RequestVars) (statusCode : Nat) (code message : String) : Handled :=
  ⟨[], [⟨statusCode, "1.0.0", code, message⟩], .ok (), vars⟩

def raised (vars : RequestVars) (e : PyException) : Handled :=
  ⟨[], [], .error e, vars⟩

namespace RequireBearerAuthMiddleware

/-- In optional mode: the token when it is the expected secret, else none. -/
def acceptedToken (m : RequireBearerAuthMiddleware) (token : Option String) :
    Except PyException (Option String) :=
  match token with
  | none => .ok none
  | some token =>
      if token = "" then .ok none
      else
        match secretMatches token m.expectedSecret with
        | .error e => .error e
        | .ok true => .ok (some token)
        | .ok false => .ok none

def authorize (m : RequireBearerAuthMiddleware) (app : App) (scope : Scope)
    (vars : RequestVars) (asserted : Option IntegrationContext) (token : Option String) :
    Handled :=
  if m.required = true then
    match token with
    | none => respond vars 401 "AUTHENTICATION_REQUIRED" "Bearer authentication required"
    | some token =>
        match secretMatches token m.expectedSecret with
        | .error e => raised vars e
        | .ok false => respond vars 401 "AUTHENTICATION_FAILED" "Bearer authentication failed"
        | .ok true => callAppBound app scope vars (some token) asserted
  else
    match m.acceptedToken token with
    | .error e => raised vars e
    | .ok (some token) => callAppBound app scope vars (some token) asserted
    | .ok none =>
        match asserted with
        | some asserted => callAppBound app scope vars none (some asserted)
        | none => callApp app scope vars

def handle (py : Builtins) (recursionLimit : Nat) (m : RequireBearerAuthMiddleware)
    (app : App) (scope : Scope) (vars : RequestVars) : Handled :=
  if scope.scopeType ≠ "http" then callApp app scope vars
  else if scope.path ∈ exemptPaths then callApp app scope vars
  else
    let headers := decodeHeaders scope.headers
    match extractIntegrationContext py recursionLimit (headers.get? contextHeader) with
    | .error (.valueError message) => respond vars 400 "INVALID_CONTEXT" message
    | .error e => raised vars e
    | .ok asserted =>
        m.authorize app scope vars asserted
          (extractBearerToken (headers.get? "authorization"))

/-!
## What reaches the inner application
-/

theorem secretMatches_eq_ok_true_iff (token : String) (expectedSecret : Option String) :
    secretMatches token expectedSecret = .ok true <->
      expectedSecret = some token ∧ token ≠ "" ∧ Text.isAscii token = true := by
  cases expectedSecret with
  | none => simp [secretMatches]
  | some secret =>
      by_cases hempty : secret = ""
      · subst hempty
        rw [secretMatches, if_pos rfl]
        constructor
        · intro hfalse
          cases hfalse
        · intro hmatches
          rcases hmatches with ⟨hsecret, hne, _⟩
          cases hsecret
          exact absurd rfl hne
      · rw [secretMatches, if_neg hempty, compareDigest_eq_ok_true_iff, Option.some.injEq]
        constructor
        · intro hmatches
          rcases hmatches with ⟨rfl, hascii⟩
          exact ⟨rfl, hempty, hascii⟩
        · intro hmatches
          rcases hmatches with ⟨rfl, _, hascii⟩
          exact ⟨rfl, hascii⟩

def BearerMatches (m : RequireBearerAuthMiddleware) (token : Option String)
    (secret : String) : Prop :=
  m.expectedSecret = some secret ∧ secret ≠ "" ∧ token = some secret

theorem acceptedToken_eq_ok_some {m : RequireBearerAuthMiddleware} {token : Option String}
    {secret : String} (h : m.acceptedToken token = .ok (some secret)) :
    BearerMatches m token secret := by
  cases token with
  | none => cases h
  | some token =>
      rw [acceptedToken] at h
      split at h
      · cases h
      · cases hmatches : secretMatches token m.expectedSecret with
        | error e =>
            rw [hmatches] at h
            cases h
        | ok same =>
            rw [hmatches] at h
            cases same with
            | false => cases h
            | true =>
                cases h
                rcases (secretMatches_eq_ok_true_iff _ m.expectedSecret).mp hmatches with
                  ⟨hexpected, hne, _⟩
                exact ⟨hexpected, hne, rfl⟩

theorem mem_calls_authorize {m : RequireBearerAuthMiddleware} {app : App} {scope : Scope}
    {vars : RequestVars} {asserted : Option IntegrationContext} {token : Option String}
    {v : RequestVars} (h : v ∈ (m.authorize app scope vars asserted token).calls) :
    (exists secret, BearerMatches m token secret ∧ v = ⟨some secret, asserted⟩) ∨
      (m.required = false ∧ m.acceptedToken token = .ok none ∧
        (v = ⟨none, asserted⟩ ∨ asserted = none ∧ v = vars)) := by
  unfold authorize at h
  by_cases hrequired : m.required = true
  · rw [if_pos hrequired] at h
    cases token with
    | none => cases h
    | some token =>
        cases hmatches : secretMatches token m.expectedSecret with
        | error e =>
            simp only [hmatches] at h
            cases h
        | ok same =>
            simp only [hmatches] at h
            cases same with
            | false => cases h
            | true =>
                rcases (secretMatches_eq_ok_true_iff token m.expectedSecret).mp hmatches with
                  ⟨hexpected, hne, _⟩
                have hv : v = ⟨some token, asserted⟩ := List.mem_singleton.mp h
                exact Or.inl ⟨token, ⟨hexpected, hne, rfl⟩, hv⟩
  · rw [if_neg hrequired] at h
    have hoptional : m.required = false := by simpa using hrequired
    cases haccepted : m.acceptedToken token with
    | error e =>
        rw [haccepted] at h
        cases h
    | ok accepted =>
        rw [haccepted] at h
        cases accepted with
        | some secret =>
            exact Or.inl ⟨secret, acceptedToken_eq_ok_some haccepted, List.mem_singleton.mp h⟩
        | none =>
            refine Or.inr ⟨hoptional, rfl, ?_⟩
            cases asserted with
            | some asserted => exact Or.inl (List.mem_singleton.mp h)
            | none => exact Or.inr ⟨rfl, List.mem_singleton.mp h⟩

theorem mem_calls_of_unaccepted {m : RequireBearerAuthMiddleware} {token : Option String}
    (hrequired : m.required = false) (haccepted : m.acceptedToken token = .ok none)
    (app : App) (scope : Scope) (asserted : Option IntegrationContext) :
    ⟨none, asserted⟩ ∈ (m.authorize app scope {} asserted token).calls := by
  unfold authorize
  rw [if_neg (by simp [hrequired]), haccepted]
  cases asserted <;> exact List.mem_singleton.mpr rfl

def requestContext (py : Builtins) (recursionLimit : Nat) (scope : Scope) :
    Except PyException (Option IntegrationContext) :=
  extractIntegrationContext py recursionLimit (lastHeader scope contextHeader)

def requestToken (scope : Scope) : Option String :=
  extractBearerToken (lastHeader scope "authorization")

theorem handle_exempt {scope : Scope} (hpath : scope.path ∈ exemptPaths) (py : Builtins)
    (recursionLimit : Nat) (m : RequireBearerAuthMiddleware) (app : App)
    (vars : RequestVars) :
    m.handle py recursionLimit app scope vars = callApp app scope vars := by
  unfold handle
  rw [if_pos hpath, ite_self]

theorem handle_http {scope : Scope} (hhttp : scope.scopeType = "http")
    (hpath : scope.path ∉ exemptPaths) (py : Builtins) (recursionLimit : Nat)
    (m : RequireBearerAuthMiddleware) (app : App) (vars : RequestVars) :
    m.handle py recursionLimit app scope vars =
      match requestContext py recursionLimit scope with
      | .error (.valueError message) => respond vars 400 "INVALID_CONTEXT" message
      | .error e => raised vars e
      | .ok asserted => m.authorize app scope vars asserted (requestToken scope) := by
  unfold handle
  rw [if_neg (not_not.mpr hhttp), if_neg hpath]
  simp only [get?_decodeHeaders]
  rfl

theorem mem_calls_handle {scope : Scope} (hhttp : scope.scopeType = "http")
    (hpath : scope.path ∉ exemptPaths) {py : Builtins} {recursionLimit : Nat}
    {m : RequireBearerAuthMiddleware} {app : App} {vars v : RequestVars}
    (h : v ∈ (m.handle py recursionLimit app scope vars).calls) :
    exists asserted, requestContext py recursionLimit scope = .ok asserted ∧
      ((exists secret, BearerMatches m (requestToken scope) secret ∧
          v = ⟨some secret, asserted⟩) ∨
        (m.required = false ∧ m.acceptedToken (requestToken scope) = .ok none ∧
          (v = ⟨none, asserted⟩ ∨ asserted = none ∧ v = vars))) := by
  rw [handle_http hhttp hpath] at h
  cases hcontext : requestContext py recursionLimit scope with
  | error e =>
      rw [hcontext] at h
      cases e <;> cases h
  | ok asserted =>
      rw [hcontext] at h
      exact ⟨asserted, rfl, mem_calls_authorize h⟩

/-- The application is called as it is, on the paths for probes and when nothing is to be bound. -/
def Unbound (py : Builtins) (recursionLimit : Nat) (m : RequireBearerAuthMiddleware)
    (scope : Scope) : Prop :=
  scope.path ∈ exemptPaths ∨
    m.required = false ∧ m.acceptedToken (requestToken scope) = .ok none ∧
      requestContext py recursionLimit scope = .ok none

section

variable {py : Builtins} {recursionLimit : Nat} {m : RequireBearerAuthMiddleware} {scope : Scope}

theorem handle_unbound (hhttp : scope.scopeType = "http") (h : m.Unbound py recursionLimit scope)
    (app : App) (vars : RequestVars) :
    m.handle py recursionLimit app scope vars = callApp app scope vars := by
  by_cases hpath : scope.path ∈ exemptPaths
  · exact handle_exempt hpath py recursionLimit m app vars
  · rcases h.resolve_left hpath with ⟨hrequired, haccepted, hcontext⟩
    rw [handle_http hhttp hpath, hcontext]
    unfold authorize
    simp only [hrequired, haccepted, Bool.false_eq_true, if_false]

theorem vars_authorize {token : Option String} {asserted : Option IntegrationContext}
    (h : m.required = false -> m.acceptedToken token = .ok none -> asserted ≠ none)
    (app : App) (vars : RequestVars) :
    (m.authorize app scope vars asserted token).vars = vars := by
  unfold authorize
  by_cases hrequired : m.required = true
  · rw [if_pos hrequired]
    cases token with
    | none => rfl
    | some token =>
        simp only
        split <;> rfl
  · rw [if_neg hrequired]
    cases haccepted : m.acceptedToken token with
    | error e => rfl
    | ok accepted =>
        cases accepted with
        | some secret => rfl
        | none =>
            cases asserted with
            | some context => rfl
            | none => exact absurd rfl (h (Bool.eq_false_iff.mpr hrequired) haccepted)

theorem vars_of_not_unbound (hhttp : scope.scopeType = "http")
    (h : ¬ m.Unbound py recursionLimit scope) (app : App) (vars : RequestVars) :
    (m.handle py recursionLimit app scope vars).vars = vars := by
  rw [Unbound, not_or] at h
  rw [handle_http hhttp h.1]
  cases hcontext : requestContext py recursionLimit scope with
  | error e => cases e <;> rfl
  | ok asserted =>
      apply vars_authorize
      intro hrequired haccepted hnone
      subst hnone
      exact h.2 ⟨hrequired, haccepted, hcontext⟩

theorem calls_authorize_le_one (m : RequireBearerAuthMiddleware) (app : App) (scope : Scope)
    (vars : RequestVars) (asserted : Option IntegrationContext) (token : Option String) :
    (m.authorize app scope vars asserted token).calls.length ≤ 1 := by
  unfold authorize
  repeat' split
  all_goals first
    | exact Nat.le_refl 1
    | exact Nat.zero_le 1

theorem calls_handle_le_one (py : Builtins) (recursionLimit : Nat)
    (m : RequireBearerAuthMiddleware) (app : App) (scope : Scope) (vars : RequestVars) :
    (m.handle py recursionLimit app scope vars).calls.length ≤ 1 := by
  unfold handle
  dsimp only
  repeat' split
  · exact Nat.le_refl 1
  · exact Nat.le_refl 1
  · exact Nat.zero_le 1
  · exact Nat.zero_le 1
  · exact calls_authorize_le_one m app scope vars _ _

end

theorem requestContext_of_empty {scope : Scope}
    (h : lastHeader scope contextHeader = none ∨ lastHeader scope contextHeader = some "")
    (py : Builtins) (recursionLimit : Nat) :
    requestContext py recursionLimit scope = .ok none := by
  rcases h with hnone | hempty
  · rw [requestContext, hnone]
    rfl
  · rw [requestContext, hempty]
    rfl

/--
What the middleware guarantees for every request: the inner application is called
at most once; behind required authentication only for the expected bearer token,
with exactly that secret and the parsed context bound; in optional mode no secret
is bound but the expected one.  The variables are restored around every call that
binds them, and an unbound call is the application's own.
-/
theorem handle_guarantees (py : Builtins) (recursionLimit : Nat)
    (m : RequireBearerAuthMiddleware) (app : App) {scope : Scope}
    (hhttp : scope.scopeType = "http") (vars : RequestVars) :
    let h := m.handle py recursionLimit app scope vars
    h.calls.length ≤ 1 ∧
      (scope.path ∉ exemptPaths -> m.required = true -> forall v, v ∈ h.calls ->
        exists secret, BearerMatches m (requestToken scope) secret ∧
          v.presentedSecret = some secret ∧
          requestContext py recursionLimit scope = .ok v.assertedContext ∧
          (lastHeader scope contextHeader = none ∨ lastHeader scope contextHeader = some "" ->
            v.assertedContext = none)) ∧
      (m.required = false -> forall v, v ∈ h.calls ->
        v = vars ∨ v.presentedSecret = none ∨
          exists secret, BearerMatches m (requestToken scope) secret ∧
            v.presentedSecret = some secret) ∧
      (m.Unbound py recursionLimit scope -> h = callApp app scope vars) ∧
      (¬ m.Unbound py recursionLimit scope -> h.vars = vars) := by
  intro h
  refine ⟨calls_handle_le_one py recursionLimit m app scope vars, ?_, ?_, ?_, ?_⟩
  · intro hpath hrequired v hv
    rcases mem_calls_handle hhttp hpath hv with ⟨asserted, hcontext, hbound | hoptional⟩
    · rcases hbound with ⟨secret, hmatches, rfl⟩
      refine ⟨secret, hmatches, rfl, hcontext, ?_⟩
      intro hempty
      rw [requestContext_of_empty hempty, Except.ok.injEq] at hcontext
      exact hcontext.symm
    · rw [hoptional.1] at hrequired
      cases hrequired
  · intro _ v hv
    by_cases hpath : scope.path ∈ exemptPaths
    · have hcalls : v ∈ (callApp app scope vars).calls := by
        rw [← handle_exempt hpath py recursionLimit m app vars]
        exact hv
      exact Or.inl (List.mem_singleton.mp hcalls)
    · rcases mem_calls_handle hhttp hpath hv with ⟨asserted, _, hbound | ⟨_, _, hbare | hdirect⟩⟩
      · rcases hbound with ⟨secret, hmatches, rfl⟩
        exact Or.inr (Or.inr ⟨secret, hmatches, rfl⟩)
      · exact Or.inr (Or.inl (by rw [hbare]))
      · exact Or.inl hdirect.2
  · intro hunbound
    exact handle_unbound hhttp hunbound app vars
  · intro hbound
    exact vars_of_not_unbound hhttp hbound app vars

end RequireBearerAuthMiddleware

/-!
## A request
-/

def asciiBytes (s : String) : List UInt8 := s.toList.map fun c => UInt8.ofNat c.toNat

def remoteRequest (token context : Option String) : Scope where
  path := "/mcp"
  headers :=
    (token.toList.map fun t => (asciiBytes "Authorization", asciiBytes ("Bearer " ++ t))) ++
      context.toList.map fun c => (asciiBytes "X-Yasin-Context", asciiBytes c)

def idleApp : App := fun _ vars => (.ok (), vars)

namespace RequireBearerAuthMiddleware

theorem handle_guarantees_bearer :
    let h := handle plainBuiltins 1000 ⟨true, some "s3cret"⟩ idleApp
      (remoteRequest (some "s3cret") none) {}
    h.calls = [⟨some "s3cret", none⟩] ∧ h.vars = {} ∧
      BearerMatches ⟨true, some "s3cret"⟩ (requestToken (remoteRequest (some "s3cret") none))
        "s3cret" := by
  intro h
  have hcalls : h.calls = [⟨some "s3cret", none⟩] := by decide +kernel
  have hhttp : (remoteRequest (some "s3cret") none).scopeType = "http" := rfl
  rcases handle_guarantees plainBuiltins 1000 ⟨true, some "s3cret"⟩ idleApp hhttp {} with
    ⟨_, hrequired, _, _, hrestored⟩
  rcases hrequired (by decide) rfl ⟨some "s3cret", none⟩ (by rw [hcalls]; simp) with
    ⟨secret, hmatches, hsecret, _⟩
  cases hsecret
  refine ⟨hcalls, hrestored ?_, hmatches⟩
  intro hunbound
  rcases hunbound with hpath | ⟨hoptional, _⟩
  · exact absurd hpath (by decide)
  · cases hoptional

def leavingApp : App := fun _ _ => (.ok (), ⟨some "s3cret", none⟩)

theorem unbound_call_leaves :
    let h := handle plainBuiltins 1000 ⟨false, none⟩ leavingApp (remoteRequest none none) {}
    h.calls = [{}] ∧ h.result = .ok () ∧ h.vars ≠ {} := by
  decide +kernel

end RequireBearerAuthMiddleware

end YasinMcp
