import YasinMcp.Foundation.Budget
import YasinMcp.Governance.Concurrency
import YasinMcp.Governance.Interleaving

/-!
# Accounting for mutations

Every body of a mutation that is entered has used up a granted answer of the
store, and every granted answer uses up a single-use grant for the tool.  Over any
interleaving of wrapped calls with other users of the store a mutation is therefore
entered at most as often as approvals were issued for it.
-/

namespace YasinMcp

open Foundation

/-!
## Open grants
-/

namespace InMemoryApprovalStore

def isOpenFor (toolName : String) (entry : String × (ApprovalGrant × Bool)) : Bool :=
  entry.2.1.toolName = toolName && !entry.2.2

/-- The number of grants for a tool that have not been consumed. -/
def openGrants (toolName : String) (store : InMemoryApprovalStore) : Nat :=
  store.entries.entries.countP (isOpenFor toolName)

def OnlySingleUse (store : InMemoryApprovalStore) : Prop :=
  forall entry, entry ∈ store.entries.entries -> entry.2.1.singleUse = true

def IssuesSingleUse : StoreOp -> Prop
  | .issue request _ _ _ => request.singleUse = true
  | .present _ _ => True

def storesGrantFor (toolName : String) : StoreOp -> Bool
  | .issue request now _ approvalId =>
      match request.grant now approvalId with
      | .error _ => false
      | .ok grant => grant.toolName = toolName
  | .present _ _ => false

theorem onlySingleUse_set {store : InMemoryApprovalStore} (h : store.OnlySingleUse)
    {grant : ApprovalGrant} (hsingle : grant.singleUse = true) (token : String) (consumed : Bool) :
    OnlySingleUse ⟨store.entries.set token (grant, consumed)⟩ := by
  intro entry hentry
  rcases Dict.mem_setIn hentry with hnew | hold
  · rw [hnew]
    exact hsingle
  · exact h entry hold

theorem onlySingleUse_validateAndConsume {store : InMemoryApprovalStore}
    (h : store.OnlySingleUse) (p : Presentation) (now : Instant) :
    (store.validateAndConsume p now).2.OnlySingleUse := by
  unfold validateAndConsume
  split
  · exact h
  · split
    · exact h
    · dsimp only
      split
      · rename_i hgranted
        exact onlySingleUse_set h hgranted.2 _ _
      · exact h

theorem onlySingleUse_issue {store : InMemoryApprovalStore} (h : store.OnlySingleUse)
    {request : IssueRequest} (hsingle : request.singleUse = true) (now : Instant)
    (token approvalId : String) : (store.issue request now token approvalId).2.OnlySingleUse := by
  unfold issue
  split
  · exact h
  · rename_i grant hgrant
    apply onlySingleUse_set h
    have hkept : grant.singleUse = request.singleUse := by
      unfold IssueRequest.grant at hgrant
      split at hgrant
      · cases hgrant
      · split at hgrant
        · cases hgrant
        · split at hgrant
          · cases hgrant
          · cases hgrant
            rfl
    rw [hkept]
    exact hsingle

theorem openGrants_validateAndConsume {store : InMemoryApprovalStore} (h : store.OnlySingleUse)
    (toolName : String) (p : Presentation) (now : Instant) :
    (store.validateAndConsume p now).2.openGrants toolName +
        (if p.toolName = toolName ∧ (store.validateAndConsume p now).1.status = .granted then 1
          else 0) =
      store.openGrants toolName := by
  cases decEq (store.validateAndConsume p now).1.status .granted with
  | isFalse hrefused =>
      rw [validateAndConsume_of_not_granted hrefused, if_neg (fun hboth => hrefused hboth.2),
        Nat.add_zero]
  | isTrue hgranted =>
      rcases step_present_granted rfl hgranted with
        ⟨token, grant, consumed, hp, hcell, _, hgrants, _⟩
      have hentry : store.entries.get? token = some (grant, consumed) := hcell
      have hsingle : grant.singleUse = true := h _ (Dict.mem_of_get? hentry)
      have hfresh : consumed = false := by
        cases consumed with
        | false => rfl
        | true => exact absurd ⟨rfl, hsingle⟩ hgrants.fresh
      subst hfresh
      have hstatus : (judge grant false p now).status = .granted :=
        (judge_status_granted_iff grant false p now).mpr hgrants
      have hafter : (store.validateAndConsume p now).2 =
          ⟨store.entries.set token (grant, true)⟩ := by
        unfold validateAndConsume
        simp [hp, hentry, hstatus, hsingle]
      have hlookup : Dict.lookupIn token store.entries.entries = some (grant, false) := hentry
      have hcount :=
        Dict.countP_setIn (isOpenFor toolName) token (grant, true) store.entries.entries
      rw [hlookup] at hcount
      simp only [Option.elim_some, isOpenFor, Bool.not_false, Bool.and_true, Bool.not_true,
        Bool.and_false, Bool.false_eq_true, if_false, Nat.add_zero, decide_eq_true_eq,
        hgrants.tool] at hcount
      rw [hafter]
      simp only [hgranted, and_true]
      exact hcount

theorem openGrants_issue (store : InMemoryApprovalStore) (toolName : String)
    (request : IssueRequest) (now : Instant) (token approvalId : String) :
    (store.issue request now token approvalId).2.openGrants toolName ≤
      store.openGrants toolName +
        (if storesGrantFor toolName (.issue request now token approvalId) = true then 1
          else 0) := by
  cases hgrant : request.grant now approvalId with
  | error e =>
      rw [issue, hgrant]
      exact Nat.le_add_right _ _
  | ok grant =>
      have hcount :=
        Dict.countP_setIn (isOpenFor toolName) token (grant, false) store.entries.entries
      have hstores : storesGrantFor toolName (.issue request now token approvalId) =
          isOpenFor toolName (token, (grant, false)) := by
        simp [storesGrantFor, hgrant, isOpenFor]
      rw [issue, hgrant, hstores]
      exact Nat.le_trans (Nat.le_add_right _ _) (Nat.le_of_eq hcount)

end InMemoryApprovalStore

def isGrantedFor (toolName : String) : GateEvent -> Bool
  | ⟨.consult p, result⟩ => p.toolName = toolName ∧ result.status = .granted
  | _ => false

/-- Consultations spend open grants, and issuing adds to them. -/
theorem budgeted_grants (toolName : String) :
    Program.Budgeted StoreStep OtherCall InMemoryApprovalStore.IssuesSingleUse
      InMemoryApprovalStore.OnlySingleUse (InMemoryApprovalStore.openGrants toolName)
      (isGrantedFor toolName) (InMemoryApprovalStore.storesGrantFor toolName) where
  step_holds := by
    intro store event store' hsingle hstep
    cases hstep with
    | consult p now => exact InMemoryApprovalStore.onlySingleUse_validateAndConsume hsingle p now
    | _ => exact hsingle
  step_amount := by
    intro store event store' hsingle hstep
    cases hstep with
    | consult p now =>
        have hspent :=
          InMemoryApprovalStore.openGrants_validateAndConsume hsingle toolName p now
        simp only [isGrantedFor, decide_eq_true_eq]
        exact Nat.le_of_eq hspent
    | _ => exact Nat.le_refl _
  move_holds := by
    intro store op store' hop hsingle hmove
    subst hmove
    cases op with
    | issue request now token approvalId =>
        exact InMemoryApprovalStore.onlySingleUse_issue hsingle hop now token approvalId
    | present p now => exact InMemoryApprovalStore.onlySingleUse_validateAndConsume hsingle p now
  move_amount := by
    intro store op store' _ hsingle hmove
    subst hmove
    cases op with
    | issue request now token approvalId =>
        exact InMemoryApprovalStore.openGrants_issue store toolName request now token approvalId
    | present p now =>
        have hspent :=
          InMemoryApprovalStore.openGrants_validateAndConsume hsingle toolName p now
        exact Nat.le_trans (Nat.le_of_add_right_le (Nat.le_of_eq hspent)) (Nat.le_add_right _ _)

/-!
## One mutation
-/

namespace GovernanceGate

/-- The gate asks its store, and leaves the verdict to the default policy. -/
structure Conservative (gate : GovernanceGate) : Prop where
  policy : gate.policy = DefaultConservativePolicy.evaluate
  store : gate.approvalStore = true

theorem emits_admission_allowed {py : Builtins} {gate : GovernanceGate} {ambient : Ambient}
    {call : ExecuteCall} (hgate : gate.Conservative)
    (hmutation : gate.catalog.entries.get? call.toolName = some .mutation)
    {trace : List GateEvent} {admission : Admission}
    (h : Program.Emits (gate.admission py ambient call) trace (.pure admission))
    (hallowed : admission.decision = .allow) :
    trace.countP (isGrantedFor call.toolName) ≠ 0 := by
  rcases Program.emits_bind_pure h with ⟨first, second, bound, htrace, hauth, h⟩
  rcases Program.emits_bind_pure h with ⟨third, fourth, tool, hsecond, htool, h⟩
  rcases Program.emits_bind_pure h with ⟨fifth, last, approved, hfourth, happroval, h⟩
  rcases Program.emits_bind_pure h with ⟨sixth, seventh, decided, hlast, hevaluate, h⟩
  rcases Program.emits_ofExcept_pure hauth with ⟨hfirstNil, _⟩
  rcases Program.emits_ofExcept_pure htool with ⟨hthirdNil, htoolOk⟩
  rcases Program.emits_ofExcept_pure hevaluate with ⟨hsixthNil, hdecided⟩
  cases h
  rcases (ToolRiskCatalog.resolve_eq_ok_iff gate.catalog call.toolName tool).mp htoolOk with
    ⟨_, hrisk, hknown⟩
  rw [hmutation] at hrisk hknown
  rw [evaluate_default hgate.policy htoolOk] at hdecided
  cases hdecided
  -- An allowed mutation has a context that says granted, which only the store can have written.
  rcases (DefaultConservativePolicy.decisionFor_eq_allow_iff tool approved).mp hallowed with
    ⟨_, hlow⟩
  rcases hlow with hread | hlow | ⟨_, context, happroved, hgranted⟩
  · rw [hrisk] at hread
    cases hread
  · rw [hrisk] at hlow
    cases hlow
  subst happroved
  have hneeds : ¬ (tool.risk ≠ .mutation ∧
      (gate.credentials py ambient call).approvalToken = none) := by
    simp [hrisk]
  rw [applyApproval, if_neg hneeds, if_neg (by simp [hgate.store])] at happroval
  rcases Program.emits_bind_pure happroval with ⟨asked, rest, result, hasked, hconsult, hanswer⟩
  rcases Program.emits_ofExcept_pure hanswer with ⟨hrestNil, hcontext⟩
  have hstatus : result.status = .granted := by
    unfold approvedContext at hcontext
    dsimp only at hcontext
    split at hcontext
    · cases hcontext
      exact (saysGranted_approvalExtra result _).mp hgranted
    · cases hcontext
  cases hconsult with
  | perform hrest =>
      cases hrest
      rw [htrace, hsecond, hfourth, hasked]
      simp [isGrantedFor, presentation, hstatus]

/-- The body is entered once, and past a granted answer. -/
def EntersOnceGranted (toolName : String) (past : List GateEvent) : GateOp -> Prop
  | .enter _ _ => past.countP isEnter = 0 ∧ past.countP (isGrantedFor toolName) ≠ 0
  | _ => True

theorem guarded_execute_granted (py : Builtins) {gate : GovernanceGate} (ambient : Ambient)
    {call : ExecuteCall} (hgate : gate.Conservative)
    (hmutation : gate.catalog.entries.get? call.toolName = some .mutation) :
    Program.Guarded (EntersOnceGranted call.toolName) [] (gate.execute py ambient call) := by
  unfold execute
  apply Program.guarded_bind (guarded_admission (fun _ _ => trivial) _ _ _ _)
  intro trace admission hadmission
  cases decEq admission.decision .allow with
  | isTrue hallowed =>
      apply guarded_carryOut (fun _ _ _ => trivial) (fun _ => trivial)
      intro records hrecords
      have hgranted := emits_admission_allowed hgate hmutation hadmission hallowed
      have hnone : trace.countP isEnter = 0 :=
        countP_of_consults (fun _ _ => rfl) (consults_of_admission hadmission)
      have hquiet : records.countP isEnter = 0 := hrecords.countP_eq_zero fun _ _ => rfl
      constructor
      · rw [List.nil_append, List.countP_append, hnone, hquiet]
      · rw [List.nil_append, List.countP_append]
        exact fun hzero => hgranted (Nat.add_eq_zero_iff.mp hzero).1
  | isFalse hdenied =>
      rcases admission with ⟨tool, decision, context⟩
      apply guarded_record trivial
      apply guarded_record trivial
      rw [if_pos hdenied]
      trivial

/-- Whatever the answers, a mutation enters its body once at most, and for a granted answer. -/
theorem enters_le_granted {py : Builtins} {gate : GovernanceGate} {ambient : Ambient}
    {call : ExecuteCall} (hgate : gate.Conservative)
    (hmutation : gate.catalog.entries.get? call.toolName = some .mutation)
    {trace : List GateEvent} {rest : GateProgram Value}
    (h : Program.Emits (gate.execute py ambient call) trace rest) :
    trace.countP isEnter ≤ trace.countP (isGrantedFor call.toolName) := by
  apply Program.countP_le_of_once_past
  intro before event later htrace henter
  have hguard := Program.guarded_of_emits (guarded_execute_granted py ambient hgate hmutation) h
    htrace
  rcases event with ⟨op, answer⟩
  cases op with
  | enter args kwargs => exact hguard
  | _ => cases henter

/-!
## All calls of a gate
-/

section

variable {thread : Type} [DecidableEq thread] {py : Builtins} {gate : GovernanceGate}
  {calls : thread -> WrappedCall} {s : InMemoryApprovalStore}
  {trace : List ((thread × WrapperEvent) ⊕ InMemoryApprovalStore.StoreOp)}
  {rest : thread -> WrapperProgram Value} {s' : BoundedSemaphore × InMemoryApprovalStore}

theorem enters_le_granted_of_wrappedRun (hgate : gate.Conservative)
    (h : WrappedRun StoreStep OtherCall py gate calls s trace rest s') {i : thread}
    (hmutation : gate.catalog.entries.get? (calls i).toolName = some .mutation) :
    (Program.eventsOf i trace).countP entersBody ≤
      (Program.eventsOf i trace).countP
        (Program.amongSections (isGrantedFor (calls i).toolName)) := by
  have hstage := stage_of_wrappedRun h i
  generalize Program.eventsOf i trace = events at hstage ⊢
  generalize rest i = q at hstage
  have hinside : forall {inner : List GateEvent} {left : GateProgram Value}
      (later : List WrapperEvent),
      Program.Emits (gate.execute py (calls i).ambient (calls i).executeCall) inner left ->
      later.countP entersBody = 0 ->
        (acquiredSlot :: inner.map Program.amongSlots ++ later).countP entersBody ≤
          (acquiredSlot :: inner.map Program.amongSlots ++ later).countP
            (Program.amongSections (isGrantedFor (calls i).toolName)) := by
    intro inner left later hinner hlater
    rw [countP_among _ _ rfl, countP_among _ _ rfl, hlater]
    have hbody : inner.countP isEnter ≤ inner.countP (isGrantedFor (calls i).toolName) :=
      enters_le_granted hgate hmutation hinner
    exact Nat.le_trans hbody (Nat.le_add_right _ _)
  cases hstage with
  | waiting => exact Nat.le_refl 0
  | refused => exact Nat.zero_le _
  | running hinner =>
      have hopen := hinside [] hinner rfl
      rw [List.append_nil] at hopen
      exact hopen
  | released hinner => exact hinside [releasedSlot] hinner rfl
  | overReleased hinner => exact hinside [releasedNoSlot] hinner rfl

/-- A mutation is entered at most as often as it was approved for a single use. -/
theorem enters_le_issued (hgate : gate.Conservative)
    (h : WrappedRun StoreStep OtherCall py gate calls InMemoryApprovalStore.empty trace rest s')
    (hsingle : forall op, op ∈ Program.movesOf trace -> InMemoryApprovalStore.IssuesSingleUse op)
    {toolName : String} (hmutation : gate.catalog.entries.get? toolName = some .mutation) :
    (Program.threadEvents trace).countP
        (fun entry => decide ((calls entry.1).toolName = toolName) && entersBody entry.2) ≤
      (Program.movesOf trace).countP (InMemoryApprovalStore.storesGrantFor toolName) := by
  have hnone : InMemoryApprovalStore.OnlySingleUse .empty := fun _ hentry => nomatch hentry
  rcases Program.budget_of_interleaves (budgeted_grants toolName).slots h hnone hsingle with
    ⟨_, hbudget⟩
  have hempty : InMemoryApprovalStore.openGrants toolName .empty = 0 := rfl
  have hspent := Program.countP_le_of_selected
    (fun i => decide ((calls i).toolName = toolName)) entersBody
    (Program.amongSections (isGrantedFor toolName)) (Program.threadEvents trace) ?_
  · rw [hempty, Nat.zero_add] at hbudget
    exact Nat.le_trans hspent (Nat.le_trans (Nat.le_add_left _ _) hbudget)
  · intro i hi
    have htool : (calls i).toolName = toolName := of_decide_eq_true hi
    rw [← Program.eventsOf_eq_map, ← htool]
    exact enters_le_granted_of_wrappedRun hgate h (by rw [htool]; exact hmutation)

end

end GovernanceGate

end YasinMcp
