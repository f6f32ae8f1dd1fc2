import YasinMcp.Governance.Admission
import YasinMcp.Governance.AuditTrail
import YasinMcp.Governance.Redaction

/-!
# Approval evidence on record

The audit events of a call show the metadata it was admitted with, and there the
store's answer overwrites what the caller wrote: its status and reason always,
its grant only when it has one.  What the caller wrote about an approval is left
on record where nothing was consulted, and its grant where no token was found.
-/

namespace YasinMcp

open Foundation

/-!
## Claims and their backing
-/

/-- Metadata that speaks of an approval: granted, or with a reason or a grant. -/
def ClaimsApproval (valueOf : Key -> Option Value) : Prop :=
  valueOf "approval_status" = some (.str "granted") ∨
    (valueOf "approval_reason").isSome = true ∨ (valueOf "approval_id").isSome = true

/-- What the metadata says about an approval is what the store answered. -/
structure BackedBy (valueOf : Key -> Option Value) (result : ApprovalValidationResult) :
    Prop where
  status : valueOf "approval_status" = some (.str "granted") -> result.status = .granted
  reason : forall v, valueOf "approval_reason" = some v -> v = .str result.reasonCode
  grantId : forall v, valueOf "approval_id" = some v ->
    exists grant, result.grant = some grant ∧ v = .str grant.approvalId

/-- Every audit event that claims an approval is backed by a consultation of the trace. -/
def EvidenceGenuine (trace : List GateEvent) : Prop :=
  forall event answer, ⟨.record event, answer⟩ ∈ trace ->
    ClaimsApproval event.extraEntry? ->
      exists result, result ∈ consultations trace ∧ BackedBy event.extraEntry? result

def metadata (context : Option GovernanceContext) (key : Key) : Option Value :=
  context.bind fun c => c.extra.get? key

theorem shownEntry_eq (context : Option GovernanceContext) {key : Key}
    (h : isSensitiveKey key = false) :
    shownEntry context key = (metadata context key).map redact := by
  rw [shownEntry, metadata, h]
  rfl

theorem redact_eq_str_iff (v : Value) (s : String) : redact v = .str s <-> v = .str s := by
  cases v <;> simp [redact]

theorem claimsApproval_shown_iff (context : Option GovernanceContext) :
    ClaimsApproval (shownEntry context) <-> ClaimsApproval (metadata context) := by
  unfold ClaimsApproval
  rw [shownEntry_eq context (by decide), shownEntry_eq context (by decide),
    shownEntry_eq context (by decide), Option.isSome_map, Option.isSome_map]
  simp [redact_eq_str_iff]

theorem genuine_iff_of_context {trace : List GateEvent} {context : Option GovernanceContext}
    (hcontext : forall event answer, ⟨.record event, answer⟩ ∈ trace ->
      event.context = safeContext context)
    (hrecorded : exists event answer, ⟨.record event, answer⟩ ∈ trace) :
    EvidenceGenuine trace <->
      (ClaimsApproval (shownEntry context) ->
        exists result, result ∈ consultations trace ∧ BackedBy (shownEntry context) result) := by
  constructor
  · intro hgenuine hclaims
    rcases hrecorded with ⟨event, answer, hmem⟩
    have hshown := extraEntry?_of_context (hcontext event answer hmem)
    have hbacked := hgenuine event answer hmem
    rw [hshown] at hbacked
    exact hbacked hclaims
  · intro hbacked event answer hmem
    rw [extraEntry?_of_context (hcontext event answer hmem)]
    exact hbacked

namespace GovernanceGate

variable {world : Type}

theorem genuine_execute_iff (host : Host world) (py : Builtins) (gate : GovernanceGate)
    (ambient : Ambient) (call : ExecuteCall) (s : HostState world) :
    let a := host.run (gate.admission py ambient call) s
    EvidenceGenuine (host.run (gate.execute py ambient call) s).trace <->
      forall admission, a.result = .ok admission ->
        ClaimsApproval (shownEntry admission.context) ->
          exists result, result ∈ consultations a.trace ∧
            BackedBy (shownEntry admission.context) result := by
  intro a
  have hcontext : forall admission, a.result = .ok admission -> forall event answer,
      ⟨.record event, answer⟩ ∈ (host.run (gate.execute py ambient call) s).trace ->
        event.context = safeContext admission.context := by
    intro admission hadmission event answer hmem
    rcases context_of_recorded hmem with ⟨admission', hadmission', hshown⟩
    rw [show a.result = _ from hadmission'] at hadmission
    cases hadmission
    exact hshown
  cases hresult : a.result with
  | error e =>
      constructor
      · intro _ admission hadmission
        cases hadmission
      · intro _ event answer hmem
        rcases context_of_recorded hmem with ⟨admission, hadmission, _⟩
        rw [show a.result = _ from hadmission] at hresult
        cases hresult
  | ok admission =>
      have hexecute : (host.run (gate.execute py ambient call) s).trace = a.trace ++
          (host.run (carryOut py call.toolName call.args
            (gate.credentials py ambient call).kwargs admission) a.state).trace := by
        rw [execute, Host.run, Program.run_bind_ok hresult]
      have hrecorded : exists event answer,
          ⟨.record event, answer⟩ ∈ (host.run (gate.execute py ambient call) s).trace := by
        rw [hexecute]
        exact ⟨_, _, List.mem_append_right _ List.mem_cons_self⟩
      have hconsultations : consultations (host.run (gate.execute py ambient call) s).trace =
          consultations a.trace := by
        rw [hexecute, consultations_append, consultations_carryOut, List.append_nil]
      refine (genuine_iff_of_context (hcontext admission hresult) hrecorded).trans ?_
      rw [hconsultations]
      constructor
      · intro hbacked admission' hadmission
        cases hadmission
        exact hbacked
      · intro hbacked
        exact hbacked admission rfl

/-!
## What a caller can leave on record
-/

def Decides (py : Builtins) (gate : GovernanceGate) (toolName : String)
    (context : Option GovernanceContext) : Prop :=
  exists decided, gate.evaluate py toolName context = .ok decided

def missingResult : ApprovalValidationResult := ⟨.missing, none, "approval_missing"⟩

/-- The context a consultation without a token passes on. -/
def withoutToken (context : Option GovernanceContext) : GovernanceContext :=
  { context.getD {} with extra := approvalExtra missingResult (context.getD {}).extra }

/--
What the caller wrote about an approval survives into a decision: the whole claim
where the store is not consulted, the grant where it is consulted without a token.
-/
def LeavesClaim (py : Builtins) (gate : GovernanceGate) (toolName : String)
    (tool : ToolIdentity) (context : Option GovernanceContext)
    (approvalToken : Option String) : Prop :=
  if (tool.risk = .mutation ∨ approvalToken ≠ none) ∧ gate.approvalStore = true then
    presentedToken approvalToken = none ∧ (metadata context "approval_id").isSome = true ∧
      Decides py gate toolName (some (withoutToken context))
  else
    ¬ (tool.risk = .mutation ∧ textPresent approvalToken = true) ∧
      ClaimsApproval (metadata context) ∧ Decides py gate toolName context

/-- The approval step of the call leaves only answers of the store on record. -/
def BacksClaims (py : Builtins) (gate : GovernanceGate) (toolName : String)
    (approval : Except PyException (Option GovernanceContext))
    (answers : List ApprovalValidationResult) : Prop :=
  forall context, approval = .ok context -> Decides py gate toolName context ->
    ClaimsApproval (shownEntry context) ->
      exists result, result ∈ answers ∧ BackedBy (shownEntry context) result

theorem backsClaims_iff {py : Builtins} {gate : GovernanceGate} {toolName : String}
    {approval : Except PyException (Option GovernanceContext)}
    {answers : List ApprovalValidationResult} :
    (forall admission, gate.conclude py toolName approval = .ok admission ->
      ClaimsApproval (shownEntry admission.context) ->
        exists result, result ∈ answers ∧ BackedBy (shownEntry admission.context) result) <->
      BacksClaims py gate toolName approval answers := by
  constructor
  · intro hbacked context happroval hdecides
    rcases hdecides with ⟨⟨tool, decision⟩, hdecided⟩
    apply hbacked ⟨tool, decision, context⟩
    rw [conclude, happroval, ok_bind, hdecided]
    rfl
  · intro hbacked admission hadmission
    unfold conclude at hadmission
    cases happroval : approval with
    | error e =>
        rw [happroval] at hadmission
        cases hadmission
    | ok context =>
        rw [happroval, ok_bind] at hadmission
        cases hdecided : gate.evaluate py toolName context with
        | error e =>
            rw [hdecided] at hadmission
            cases hadmission
        | ok decided =>
            rw [hdecided, ok_bind] at hadmission
            cases hadmission
            exact hbacked context happroval ⟨decided, hdecided⟩

theorem backsClaims_nil_iff {py : Builtins} {gate : GovernanceGate} {toolName : String}
    (context : Option GovernanceContext) :
    BacksClaims py gate toolName (.ok context) [] <->
      ¬ (ClaimsApproval (metadata context) ∧ Decides py gate toolName context) := by
  constructor
  · intro hbacked hleft
    rcases hbacked context rfl hleft.2 ((claimsApproval_shown_iff context).mpr hleft.1) with
      ⟨result, hresult, _⟩
    cases hresult
  · intro hnone context' hcontext hdecides hclaims
    cases hcontext
    exact absurd ⟨(claimsApproval_shown_iff context).mp hclaims, hdecides⟩ hnone

theorem shown_approvalExtra (result : ApprovalValidationResult) (c : GovernanceContext) :
    let shown := shownEntry (some { c with extra := approvalExtra result c.extra })
    shown "approval_status" = some (.str result.status.value) ∧
      shown "approval_reason" = some (.str result.reasonCode) ∧
      shown "approval_id" = (match result.grant with
        | some grant => some (.str grant.approvalId)
        | none => (c.extra.get? "approval_id").map redact) := by
  intro shown
  simp only [shown]
  rw [shownEntry_eq _ (by decide), shownEntry_eq _ (by decide), shownEntry_eq _ (by decide)]
  unfold metadata approvalExtra
  cases result.grant with
  | none => simp [Dict.get?_set, redact]
  | some grant => simp [Dict.get?_set, redact]

theorem shown_of_approvedContext {toolName : String} {context approved : Option GovernanceContext}
    {result : ApprovalValidationResult}
    (h : approvedContext toolName context result = .ok approved) :
    (result.status = .granted ∨ result.status = .missing) ∧
      approved = some { context.getD {} with
        extra := approvalExtra result (context.getD {}).extra } := by
  unfold approvedContext at h
  by_cases hpassed : result.status = .granted ∨ result.status = .missing
  · rw [if_pos hpassed] at h
    cases h
    exact ⟨hpassed, rfl⟩
  · rw [if_neg hpassed] at h
    cases h

theorem backsClaims_missing_iff (py : Builtins) (gate : GovernanceGate) (toolName : String)
    (context : Option GovernanceContext) :
    BacksClaims py gate toolName (approvedContext toolName context missingResult)
        [missingResult] <->
      ¬ ((metadata context "approval_id").isSome = true ∧
        Decides py gate toolName (some (withoutToken context))) := by
  have happroved : approvedContext toolName context missingResult =
      .ok (some (withoutToken context)) := rfl
  have hid : (context.getD {}).extra.get? "approval_id" = metadata context "approval_id" := by
    cases context <;> rfl
  rcases shown_approvalExtra missingResult (context.getD {}) with ⟨hstatus, hreason, hgrant⟩
  rw [happroved]
  constructor
  · intro hbacked hleft
    rcases hleft with ⟨hentry, hdecides⟩
    rcases hbacked _ rfl hdecides (Or.inr (Or.inl (by rw [withoutToken, hreason]; rfl)))
      with ⟨answer, hanswer, hbackedBy⟩
    rw [List.mem_singleton] at hanswer
    rcases Option.isSome_iff_exists.mp hentry with ⟨v, hv⟩
    rcases hbackedBy.grantId (redact v) (by rw [withoutToken, hgrant, hid, hv]; rfl) with
      ⟨grant, hsome, _⟩
    rw [hanswer] at hsome
    cases hsome
  · intro hnone context' hcontext hdecides _
    cases hcontext
    refine ⟨missingResult, List.mem_singleton_self _, ?_, ?_, ?_⟩
    · intro hgranted
      rw [withoutToken, hstatus] at hgranted
      simp [missingResult, ApprovalStatus.value] at hgranted
    · intro v hv
      rw [withoutToken, hreason] at hv
      cases hv
      rfl
    · intro v hv
      rw [withoutToken, hgrant, hid] at hv
      rcases Option.map_eq_some_iff.mp hv with ⟨item, hitem, _⟩
      exact absurd ⟨by rw [hitem]; rfl, hdecides⟩ hnone

theorem backsClaims_of_granted (py : Builtins) (gate : GovernanceGate) (toolName : String)
    (context : Option GovernanceContext) {result : ApprovalValidationResult}
    (hnotMissing : result.status ≠ .missing)
    (hgrants : result.status = .granted -> exists grant, result.grant = some grant) :
    BacksClaims py gate toolName (approvedContext toolName context result) [result] := by
  intro approved happroved _ _
  rcases shown_of_approvedContext happroved with ⟨hpassed, happrovedEq⟩
  have hgranted : result.status = .granted := hpassed.resolve_right hnotMissing
  rcases hgrants hgranted with ⟨grant, hgrant⟩
  rcases shown_approvalExtra result (context.getD {}) with ⟨_, hreason, hid⟩
  rw [hgrant] at hid
  subst happrovedEq
  refine ⟨result, List.mem_singleton_self _, fun _ => hgranted, ?_, ?_⟩
  · intro v hv
    rw [hreason] at hv
    cases hv
    rfl
  · intro v hv
    rw [hid] at hv
    cases hv
    exact ⟨grant, hgrant, rfl⟩

/-- A consultation leaves the caller's grant on record, and only without a token. -/
theorem backsClaims_consult_iff (py : Builtins) (gate : GovernanceGate) (toolName : String)
    (context : Option GovernanceContext) (approvalToken : Option String)
    (store : InMemoryApprovalStore) (now : Instant) :
    let result := (store.validateAndConsume (presentation toolName context approvalToken) now).1
    BacksClaims py gate toolName (approvedContext toolName context result) [result] <->
      ¬ (presentedToken approvalToken = none ∧
        (metadata context "approval_id").isSome = true ∧
        Decides py gate toolName (some (withoutToken context))) := by
  intro result
  cases htoken : presentedToken approvalToken with
  | none =>
      have hresult : result = missingResult := by
        have habsent := store.validateAndConsume_of_absent
          (show (presentation toolName context approvalToken).presented = none from htoken) now
        simp only [result, habsent]
        rfl
      rw [hresult, backsClaims_missing_iff, eq_self, true_and]
  | some token =>
      rcases store.validateAndConsume_of_presented
        (show (presentation toolName context approvalToken).presented = some token from htoken)
        now with ⟨hnotMissing, hgrants⟩
      refine iff_of_true (backsClaims_of_granted py gate toolName context hnotMissing hgrants) ?_
      intro hleft
      cases hleft.1

/--
The approval evidence a call leaves on record is genuine exactly when nothing
that its caller wrote about an approval survives into a decision.
-/
theorem evidence_genuine_iff (world : Type) (host : Host world) (py : Builtins)
    (gate : GovernanceGate) (ambient : Ambient) (call : ExecuteCall) (s : HostState world) :
    EvidenceGenuine (host.run (gate.execute py ambient call) s).trace <->
      ¬ exists bound tool,
        gate.authenticate py ambient call = .ok bound ∧
        gate.resolveTool call.toolName = .ok tool ∧
        LeavesClaim py gate call.toolName tool (boundContext bound call.context)
          (gate.credentials py ambient call).approvalToken := by
  refine (genuine_execute_iff host py gate ambient call s).trans ?_
  rw [run_admission]
  cases hauth : gate.authenticate py ambient call with
  | error e => simp
  | ok bound =>
      cases htool : gate.resolveTool call.toolName with
      | error e => simp
      | ok tool =>
          dsimp only
          simp only [Except.ok.injEq, exists_and_left, exists_eq_left']
          refine backsClaims_iff.trans ?_
          by_cases hpass : tool.risk ≠ .mutation ∧
              (gate.credentials py ambient call).approvalToken = none
          · rw [run_applyApproval_pass hpass, LeavesClaim, if_neg (by tauto)]
            refine (backsClaims_nil_iff _).trans (not_congr ?_)
            have hrisk : ¬ (tool.risk = .mutation ∧
                textPresent (gate.credentials py ambient call).approvalToken = true) :=
              fun h => hpass.1 h.1
            exact ⟨fun h => ⟨hrisk, h⟩, fun h => h.2⟩
          · cases hstore : gate.approvalStore with
            | false =>
                rw [LeavesClaim, if_neg (fun h => by simp [hstore] at h),
                  run_applyApproval_no_store hpass hstore]
                by_cases htoken : tool.risk = .mutation ∧
                    textPresent (gate.credentials py ambient call).approvalToken = true
                · rw [if_pos htoken]
                  constructor
                  · intro _ hleft
                    exact hleft.1 htoken
                  · intro _ context hcontext
                    cases hcontext
                · rw [if_neg htoken]
                  refine (backsClaims_nil_iff _).trans (not_congr ?_)
                  exact ⟨fun h => ⟨htoken, h⟩, fun h => h.2⟩
            | true =>
                rw [LeavesClaim, if_pos ⟨by tauto, hstore⟩,
                  run_applyApproval_consult hpass hstore]
                exact backsClaims_consult_iff py gate _ _ _ _ _

def storedGate : GovernanceGate where
  catalog := statusGate.catalog
  approvalStore := true

def forgedContext : GovernanceContext where
  extra := Dict.ofEntries
    [("approval_status", .str "granted"), ("approval_id", .str "a0")]

/-- A caller of a read-only tool puts an approval on record that the store did not issue. -/
theorem evidence_forged :
    ¬ EvidenceGenuine (quietHost.run (storedGate.execute plainBuiltins ⟨fun _ => none, {}⟩
      { toolName := "status", context := some forgedContext })
      (InMemoryApprovalStore.empty, ())).trace := by
  intro hgenuine
  have hmem : ⟨.record (requestEvent ⟨"status", .readOnly, true, by decide⟩ "status"
      (some forgedContext)), .ok ()⟩ ∈ (quietHost.run (storedGate.execute plainBuiltins
        ⟨fun _ => none, {}⟩ { toolName := "status", context := some forgedContext })
        (InMemoryApprovalStore.empty, ())).trace :=
    List.mem_cons_self
  rcases hgenuine _ _ hmem (Or.inl (by decide)) with ⟨result, hresult, _⟩
  cases hresult

end GovernanceGate

end YasinMcp
