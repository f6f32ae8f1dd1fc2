import YasinMcp.Auth.SharedSecret
import YasinMcp.Governance.Policy

/-!
# Binding an asserted context to an outcome

Binding checks the asserted agent and client against the verified subject and
writes the outcome into the metadata of the governance context.
-/

namespace YasinMcp

open Foundation

structure BoundRequestContext where
  asserted : IntegrationContext
  auth : AuthOutcome
  governance : GovernanceContext

def AuthOutcome.trust (auth : AuthOutcome) : TrustClassification :=
  if auth.isAuthenticated then .trusted else .asserted

def BoundRequestContext.trust (bound : BoundRequestContext) : TrustClassification :=
  bound.auth.trust

def enforceField (identity : AuthenticatedIdentity) (fieldName : String)
    (value : Option Identifier) : Except PyException Unit :=
  match value with
  | none => .ok ()
  | some value =>
      if value.text = identity.subjectId then .ok ()
      else
        .error (validationError
          ("asserted " ++ fieldName ++ " conflicts with authenticated subject")
          [("field", .str fieldName),
            ("reason_code", .str AuthStatus.contextMismatch.value),
            ("asserted", .str value.text),
            ("subject_id", .str identity.subjectId)])

def enforceNoImpersonation (asserted : IntegrationContext)
    (identity : AuthenticatedIdentity) : Except PyException Unit := do
  enforceField identity "agent_id" asserted.agentId
  enforceField identity "client_id" asserted.clientId

/-- The metadata of the bound context: the caller's, with the outcome written over it. -/
def boundExtra (auth : AuthOutcome) (extra : Extra) : Extra :=
  let extra := extra.set "auth_status" (.str auth.status.value)
  match auth.identity with
  | some identity =>
      ((extra.set "auth_subject_id" (.str identity.subjectId)).set
        "auth_scheme" (.str identity.scheme)).set
        "auth_trust" (.str identity.trust.value)
  | none => extra.set "auth_trust" (.str TrustClassification.asserted.value)

def boundGovernance (asserted : IntegrationContext) (auth : AuthOutcome) :
    GovernanceContext :=
  let gov := asserted.toGovernanceContext
  { gov with extra := boundExtra auth gov.extra }

def bindContext (asserted : IntegrationContext) (auth : AuthOutcome)
    (requireAuthentication : Bool) : Except PyException BoundRequestContext :=
  if requireAuthentication = true ∧ auth.isAuthenticated = false then
    .error (unauthenticatedError "authentication required but not established"
      [("status", .str auth.status.value),
        ("reason_code", Value.ofOption auth.reasonCode),
        ("transport", .str auth.transport)])
  else if auth.status = .contextMismatch then
    .error (validationError "authentication context mismatch"
      [("reason_code", Value.ofOption auth.reasonCode)])
  else do
    match auth.identity with
    | some identity => enforceNoImpersonation asserted identity
    | none => .ok ()
    .ok ⟨asserted, auth, boundGovernance asserted auth⟩

/-!
## What binding checks
-/

/-- An asserted identifier is absent or names the subject. -/
def NamesSubject (subject : String) (value : Option Identifier) : Prop :=
  forall identifier, value = some identifier -> identifier.text = subject

instance (subject : String) (value : Option Identifier) :
    Decidable (NamesSubject subject value) :=
  match value with
  | none => isTrue (by simp [NamesSubject])
  | some identifier =>
      decidable_of_iff (identifier.text = subject) (by simp [NamesSubject])

def NoImpersonation (asserted : IntegrationContext) (identity : AuthenticatedIdentity) :
    Prop :=
  NamesSubject identity.subjectId asserted.agentId ∧
    NamesSubject identity.subjectId asserted.clientId

theorem enforceField_ok_iff (identity : AuthenticatedIdentity) (fieldName : String)
    (value : Option Identifier) :
    enforceField identity fieldName value = .ok () <->
      NamesSubject identity.subjectId value := by
  cases value with
  | none => simp [enforceField, NamesSubject]
  | some identifier =>
      by_cases h : identifier.text = identity.subjectId <;>
        simp [enforceField, NamesSubject, h]

theorem enforceNoImpersonation_ok_iff (asserted : IntegrationContext)
    (identity : AuthenticatedIdentity) :
    enforceNoImpersonation asserted identity = .ok () <->
      NoImpersonation asserted identity := by
  unfold NoImpersonation
  rw [← enforceField_ok_iff identity "agent_id" asserted.agentId,
    ← enforceField_ok_iff identity "client_id" asserted.clientId, enforceNoImpersonation]
  cases enforceField identity "agent_id" asserted.agentId with
  | error e => simp [bind, Except.bind]
  | ok value => simp [bind, Except.bind]

/-- When binding returns, and what it returns. -/
theorem bindContext_eq_ok_iff (asserted : IntegrationContext) (auth : AuthOutcome)
    (required : Bool) (bound : BoundRequestContext) :
    bindContext asserted auth required = .ok bound <->
      (required = true -> auth.isAuthenticated = true) ∧
        auth.status ≠ .contextMismatch ∧
        (forall identity, auth.identity = some identity ->
          NoImpersonation asserted identity) ∧
        bound = ⟨asserted, auth, boundGovernance asserted auth⟩ := by
  unfold bindContext
  by_cases hrequired : required = true ∧ auth.isAuthenticated = false
  · simp [hrequired]
  by_cases hmismatch : auth.status = .contextMismatch
  · simp [hrequired, hmismatch]
  have hallowed : required = true -> auth.isAuthenticated = true := by
    intro hreq
    cases hauth : auth.isAuthenticated with
    | true => rfl
    | false => exact absurd ⟨hreq, hauth⟩ hrequired
  rw [if_neg hrequired, if_neg hmismatch]
  cases hidentity : auth.identity with
  | none =>
      simp only [bind, Except.bind, Except.ok.injEq]
      constructor
      · intro hbound
        exact ⟨hallowed, hmismatch, by simp, hbound.symm⟩
      · intro hparts
        rcases hparts with ⟨_, _, _, hbound⟩
        exact hbound.symm
  | some identity =>
      cases hcheck : enforceNoImpersonation asserted identity with
      | error e =>
          have hconflict : ¬ NoImpersonation asserted identity := by
            rw [← enforceNoImpersonation_ok_iff, hcheck]
            simp
          simp [bind, Except.bind, hcheck, hconflict]
      | ok value =>
          have hnoconflict : NoImpersonation asserted identity := by
            rw [← enforceNoImpersonation_ok_iff, hcheck]
          simp only [bind, Except.bind, hcheck, Except.ok.injEq]
          constructor
          · intro hbound
            refine ⟨hallowed, hmismatch, ?_, hbound.symm⟩
            intro other hother
            cases hother
            exact hnoconflict
          · intro hparts
            rcases hparts with ⟨_, _, _, hbound⟩
            exact hbound.symm

/-!
## Changes of the asserted context
-/

/-- The bound context with another asserted one in its place. -/
def BoundRequestContext.map (f : IntegrationContext -> IntegrationContext)
    (bound : BoundRequestContext) : BoundRequestContext :=
  ⟨f bound.asserted, bound.auth, boundGovernance (f bound.asserted) bound.auth⟩

theorem bindContext_map {f : IntegrationContext -> IntegrationContext}
    (hagent : forall c, (f c).agentId = c.agentId)
    (hclient : forall c, (f c).clientId = c.clientId) (asserted : IntegrationContext)
    (auth : AuthOutcome) (required : Bool) :
    bindContext (f asserted) auth required =
      (fun bound => bound.map f) <$> bindContext asserted auth required := by
  unfold bindContext
  by_cases hrequired : required = true ∧ auth.isAuthenticated = false
  · rw [if_pos hrequired, if_pos hrequired]
    rfl
  by_cases hmismatch : auth.status = .contextMismatch
  · rw [if_neg hrequired, if_neg hrequired, if_pos hmismatch, if_pos hmismatch]
    rfl
  rw [if_neg hrequired, if_neg hrequired, if_neg hmismatch, if_neg hmismatch]
  cases hidentity : auth.identity with
  | none => rfl
  | some identity =>
      have hsame : enforceNoImpersonation (f asserted) identity =
          enforceNoImpersonation asserted identity := by
        unfold enforceNoImpersonation
        rw [hagent, hclient]
      simp only [hsame]
      cases enforceNoImpersonation asserted identity with
      | error err => rfl
      | ok value => rfl

/-!
## The keys binding writes
-/

/-- The value the outcome warrants under a key binding may write. -/
def serverValue (auth : AuthOutcome) (name : String) : Option Value :=
  if name = "auth_status" then some (.str auth.status.value)
  else if name = "auth_trust" then
    some (.str auth.trust.value)
  else if name = "auth_subject_id" then auth.identity.map fun i => .str i.subjectId
  else if name = "auth_scheme" then auth.identity.map fun i => .str i.scheme
  else none

def serverKeys : List String :=
  ["auth_status", "auth_trust", "auth_subject_id", "auth_scheme"]

/-- Bound metadata is what the outcome warrants, or the caller's where it warrants nothing. -/
theorem get?_boundExtra (auth : AuthOutcome) (extra : Extra) (name : String) :
    (boundExtra auth extra).get? name =
      match serverValue auth name with
      | some value => some value
      | none => extra.get? name := by
  unfold boundExtra serverValue
  cases hidentity : auth.identity with
  | none =>
      have hauth : auth.isAuthenticated = false := by
        simp [AuthOutcome.isAuthenticated, hidentity]
      by_cases htrust : name = "auth_trust"
      · subst htrust
        simp [AuthOutcome.trust, hauth]
      · by_cases hstatus : name = "auth_status"
        · subst hstatus
          simp [Dict.get?_set]
        · simp [Dict.get?_set, htrust, hstatus, Ne.symm htrust, Ne.symm hstatus]
  | some identity =>
      have hauth : auth.isAuthenticated = true :=
        (AuthOutcome.isAuthenticated_iff_identity auth).mpr ⟨identity, hidentity⟩
      by_cases htrust : name = "auth_trust"
      · subst htrust
        simp [AuthOutcome.trust, hauth, identity.trusted]
      · by_cases hstatus : name = "auth_status"
        · subst hstatus
          simp [Dict.get?_set]
        · by_cases hsubject : name = "auth_subject_id"
          · subst hsubject
            simp [Dict.get?_set]
          · by_cases hscheme : name = "auth_scheme"
            · subst hscheme
              simp [Dict.get?_set]
            · simp [Dict.get?_set, htrust, hstatus, hsubject, hscheme, Ne.symm htrust,
                Ne.symm hstatus, Ne.symm hsubject, Ne.symm hscheme]

theorem saysGranted_boundExtra (auth : AuthOutcome) (extra : Extra) :
    saysGranted (boundExtra auth extra) = saysGranted extra := by
  have hkey : serverValue auth "approval_status" = none := by simp [serverValue]
  unfold saysGranted
  rw [get?_boundExtra, hkey]

/-!
## Who wrote the verified keys
-/

/-- Readers of the bound metadata may take the verified keys for the server's word. -/
structure VerifiedKeys (auth : AuthOutcome) (extra : Extra) : Prop where
  present_iff :
    (extra.get? "auth_subject_id" ≠ none ∧ extra.get? "auth_scheme" ≠ none) <->
      auth.isAuthenticated = true
  own : forall identity, auth.identity = some identity ->
    extra.get? "auth_subject_id" = some (.str identity.subjectId) ∧
      extra.get? "auth_scheme" = some (.str identity.scheme)
  status : extra.get? "auth_status" = some (.str auth.status.value)
  trust : extra.get? "auth_trust" = some (.str auth.trust.value)
  server_only : forall name, name ∈ serverKeys -> forall value,
    extra.get? name = some value -> serverValue auth name = some value

theorem serverValue_subject (auth : AuthOutcome) :
    serverValue auth "auth_subject_id" = auth.identity.map fun i => .str i.subjectId := by
  simp [serverValue]

theorem serverValue_scheme (auth : AuthOutcome) :
    serverValue auth "auth_scheme" = auth.identity.map fun i => .str i.scheme := by
  simp [serverValue]

theorem verifiedKeys_of_identity {auth : AuthOutcome} {identity : AuthenticatedIdentity}
    (hidentity : auth.identity = some identity) (extra : Extra) :
    VerifiedKeys auth (boundExtra auth extra) := by
  have hauth : auth.isAuthenticated = true :=
    (AuthOutcome.isAuthenticated_iff_identity auth).mpr ⟨identity, hidentity⟩
  have hsubject : (boundExtra auth extra).get? "auth_subject_id" =
      some (.str identity.subjectId) := by
    rw [get?_boundExtra, serverValue_subject, hidentity]
    rfl
  have hscheme : (boundExtra auth extra).get? "auth_scheme" =
      some (.str identity.scheme) := by
    rw [get?_boundExtra, serverValue_scheme, hidentity]
    rfl
  constructor
  · simp [hsubject, hscheme, hauth]
  · intro other hother
    rw [hidentity] at hother
    cases hother
    exact ⟨hsubject, hscheme⟩
  · rw [get?_boundExtra]
    simp [serverValue]
  · rw [get?_boundExtra]
    simp [serverValue]
  · intro name hname value hvalue
    rw [get?_boundExtra] at hvalue
    simp only [serverKeys, List.mem_cons, List.not_mem_nil, or_false] at hname
    rcases hname with rfl | rfl | rfl | rfl
    all_goals simpa [serverValue, hidentity] using hvalue

theorem verifiedKeys_iff_of_no_identity {auth : AuthOutcome} (hidentity : auth.identity = none)
    (extra : Extra) :
    VerifiedKeys auth (boundExtra auth extra) <->
      extra.get? "auth_subject_id" = none ∧ extra.get? "auth_scheme" = none := by
  have hauth : auth.isAuthenticated = false := by
    simp [AuthOutcome.isAuthenticated, hidentity]
  have hsubject : (boundExtra auth extra).get? "auth_subject_id" =
      extra.get? "auth_subject_id" := by
    rw [get?_boundExtra, serverValue_subject, hidentity]
    rfl
  have hscheme : (boundExtra auth extra).get? "auth_scheme" = extra.get? "auth_scheme" := by
    rw [get?_boundExtra, serverValue_scheme, hidentity]
    rfl
  constructor
  · intro h
    constructor
    · cases hvalue : extra.get? "auth_subject_id" with
      | none => rfl
      | some value =>
          have hserver := h.server_only "auth_subject_id" (by decide) value
            (hsubject.trans hvalue)
          rw [serverValue_subject, hidentity] at hserver
          cases hserver
    · cases hvalue : extra.get? "auth_scheme" with
      | none => rfl
      | some value =>
          have hserver := h.server_only "auth_scheme" (by decide) value
            (hscheme.trans hvalue)
          rw [serverValue_scheme, hidentity] at hserver
          cases hserver
  · intro habsent
    rcases habsent with ⟨hnoSubject, hnoScheme⟩
    constructor
    · simp [hsubject, hnoSubject, hauth]
    · intro identity hother
      rw [hidentity] at hother
      cases hother
    · rw [get?_boundExtra]
      simp [serverValue]
    · rw [get?_boundExtra]
      simp [serverValue]
    · intro name hname value hvalue
      simp only [serverKeys, List.mem_cons, List.not_mem_nil, or_false] at hname
      rcases hname with rfl | rfl | rfl | rfl
      · simpa [get?_boundExtra, serverValue] using hvalue
      · simpa [get?_boundExtra, serverValue] using hvalue
      · rw [hsubject, hnoSubject] at hvalue
        cases hvalue
      · rw [hscheme, hnoScheme] at hvalue
        cases hvalue

/--
The verified keys are the server's word exactly for an authenticated outcome, or
for a caller whose metadata has neither key: an outcome without an identity
leaves both as the caller wrote them.
-/
theorem bindContext_verifiedKeys_iff {asserted : IntegrationContext} {auth : AuthOutcome}
    {required : Bool} {bound : BoundRequestContext}
    (h : bindContext asserted auth required = .ok bound) :
    VerifiedKeys auth bound.governance.extra <->
      auth.isAuthenticated = true ∨
        (asserted.extra.mapping.get? "auth_subject_id" = none ∧
          asserted.extra.mapping.get? "auth_scheme" = none) := by
  rcases (bindContext_eq_ok_iff asserted auth required bound).mp h with ⟨_, _, _, hbound⟩
  have hextra : bound.governance.extra = boundExtra auth asserted.extra.mapping := by
    rw [hbound]
    rfl
  rw [hextra]
  cases hidentity : auth.identity with
  | some identity =>
      have hauth : auth.isAuthenticated = true :=
        (AuthOutcome.isAuthenticated_iff_identity auth).mpr ⟨identity, hidentity⟩
      exact iff_of_true (verifiedKeys_of_identity hidentity _) (Or.inl hauth)
  | none =>
      have hauth : auth.isAuthenticated = false := by
        simp [AuthOutcome.isAuthenticated, hidentity]
      rw [verifiedKeys_iff_of_no_identity hidentity, hauth]
      simp

def claimsSubject : IntegrationContext :=
  { IntegrationContext.default with
    extra := ⟨Dict.ofEntries [("auth_subject_id", .str "root")], by decide, by decide⟩ }

theorem bindContext_keeps_claimed_subject :
    exists bound,
      bindContext claimsSubject stdioUnauthenticated false = .ok bound ∧
        bound.governance.extra.get? "auth_subject_id" = some (.str "root") ∧
        ¬ VerifiedKeys stdioUnauthenticated bound.governance.extra := by
  refine ⟨⟨claimsSubject, stdioUnauthenticated, boundGovernance claimsSubject
    stdioUnauthenticated⟩, ?_, by decide, ?_⟩
  · rw [bindContext_eq_ok_iff]
    exact ⟨by decide, by decide, by simp [stdioUnauthenticated, AuthOutcome.refused], rfl⟩
  · intro h
    have hserver := h.server_only "auth_subject_id" (by decide) (.str "root") (by decide)
    cases hserver

def verifiedAlice : AuthOutcome where
  status := .authenticated
  identity := some ⟨"alice", "shared_secret", .trusted, [], by decide, rfl, by decide⟩
  transport := "stdio"
  reasonCode := none
  identity_iff := by decide

/-- A verified subject stands in place of the one that the caller claims. -/
theorem bindContext_verifiedKeys_alice :
    exists bound,
      bindContext claimsSubject verifiedAlice true = .ok bound ∧
        bound.governance.extra.get? "auth_subject_id" = some (.str "alice") ∧
        VerifiedKeys verifiedAlice bound.governance.extra := by
  have hbind : bindContext claimsSubject verifiedAlice true =
      .ok ⟨claimsSubject, verifiedAlice, boundGovernance claimsSubject verifiedAlice⟩ := rfl
  exact ⟨_, hbind, by decide, (bindContext_verifiedKeys_iff hbind).mpr (Or.inl (by decide))⟩

end YasinMcp
