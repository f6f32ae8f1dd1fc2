import YasinMcp.Approval.Runs
import YasinMcp.Governance.Admission

/-!
# Concurrent calls over one store

Any number of execute calls take turns on a shared store, one operation at a
time, while other callers issue and present tokens.  The consultations of the
calls and the moves of the others are one run of the store, so a single-use token
lets at most one of the calls into its tool body.
-/

namespace YasinMcp

open Foundation

/-- What one operation of a call does to the store; only a consultation touches it. -/
inductive StoreStep : InMemoryApprovalStore -> GateEvent -> InMemoryApprovalStore -> Prop where
  | consult (store : InMemoryApprovalStore) (p : Presentation) (now : Instant) :
      StoreStep store ⟨.consult p, (store.validateAndConsume p now).1⟩
        (store.validateAndConsume p now).2
  | record (store : InMemoryApprovalStore) (event : AuditEvent)
      (answer : Except PyException Unit) : StoreStep store ⟨.record event, answer⟩ store
  | enter (store : InMemoryApprovalStore) (args : List Value) (kwargs : Kwargs) :
      StoreStep store ⟨.enter args kwargs, ()⟩ store
  | leave (store : InMemoryApprovalStore) (outcome : Except PyException Value) :
      StoreStep store ⟨.leave, outcome⟩ store

def OtherCall (store : InMemoryApprovalStore) (op : InMemoryApprovalStore.StoreOp)
    (store' : InMemoryApprovalStore) : Prop :=
  store' = (InMemoryApprovalStore.machine.step store op).2

structure ConcurrentCall where
  py : Builtins
  gate : GovernanceGate
  ambient : Ambient
  call : ExecuteCall

def ConcurrentCall.program (c : ConcurrentCall) : GateProgram Value :=
  c.gate.execute c.py c.ambient c.call

structure ConcurrentCall.PresentsForMutation (token : String) (c : ConcurrentCall) : Prop where
  mutation : c.gate.catalog.entries.get? c.call.toolName = some .mutation
  presented : presentedToken (c.gate.credentials c.py c.ambient c.call).approvalToken =
    some token

abbrev ConcurrentRun {thread : Type} [DecidableEq thread] (calls : thread -> ConcurrentCall)
    (store : InMemoryApprovalStore)
    (trace : List ((thread × GateEvent) ⊕ InMemoryApprovalStore.StoreOp))
    (rest : thread -> GateProgram Value) (store' : InMemoryApprovalStore) : Prop :=
  Program.Interleaves StoreStep OtherCall (fun i => (calls i).program) store trace rest store'

/-!
## One call
-/

def passesToken (token : String) : GateEvent -> Bool
  | ⟨.consult p, result⟩ =>
      p.presented = some token ∧ (result.status = .granted ∨ result.status = .missing)
  | _ => false

/-- Entering needs a passed presentation of the token, and happens once. -/
def EntersOncePassed (token : String) (past : List GateEvent) : GateOp -> Prop
  | .enter _ _ => invocations past = 0 ∧ past.countP (passesToken token) ≠ 0
  | _ => True

namespace GovernanceGate

theorem textPresent_of_presented {approvalToken : Option String} {token : String}
    (h : presentedToken approvalToken = some token) : textPresent approvalToken = true := by
  cases approvalToken with
  | none => cases h
  | some raw =>
      cases hblank : Text.isBlank raw with
      | true => simp [presentedToken, hblank] at h
      | false => simp [textPresent, Text.ne_empty_of_not_isBlank hblank]

theorem emits_applyApproval {gate : GovernanceGate} {toolName : String} {tool : ToolIdentity}
    (hmutation : tool.risk = .mutation) {approvalToken : Option String} {token : String}
    (hpresented : presentedToken approvalToken = some token)
    {context approved : Option GovernanceContext} {trace : List GateEvent}
    (h : Program.Emits (gate.applyApproval toolName tool context approvalToken) trace
      (.pure approved)) :
    exists event, trace = [event] ∧ passesToken token event = true ∧
      isEnter event = false := by
  have hneeds : ¬ (tool.risk ≠ .mutation ∧ approvalToken = none) := by simp [hmutation]
  rw [applyApproval, if_neg hneeds] at h
  cases hstore : gate.approvalStore with
  | false =>
      rw [if_pos hstore, if_pos ⟨hmutation, textPresent_of_presented hpresented⟩] at h
      cases h
  | true =>
      rw [if_neg (by simp [hstore])] at h
      rcases Program.emits_bind_pure h with ⟨first, second, result, htrace, hfirst, hsecond⟩
      rcases Program.emits_ofExcept_pure hsecond with ⟨hnil, happroved⟩
      have hpassed : result.status = .granted ∨ result.status = .missing := by
        by_contra hrejected
        rcases approvedContext_of_rejected hrejected toolName context with ⟨e, he⟩
        rw [he] at happroved
        cases happroved
      cases hfirst with
      | perform hrest =>
          cases hrest
          refine ⟨_, by rw [htrace, hnil]; rfl, ?_, rfl⟩
          simpa [passesToken, Presentation.presented, presentation, hpresented] using hpassed

theorem emits_admission {c : ConcurrentCall} {token : String} (hc : c.PresentsForMutation token)
    {trace : List GateEvent} {admission : Admission}
    (h : Program.Emits (c.gate.admission c.py c.ambient c.call) trace (.pure admission)) :
    exists event, trace = [event] ∧ passesToken token event = true ∧
      isEnter event = false := by
  rcases Program.emits_bind_pure h with ⟨first, second, bound, htrace, hauth, h⟩
  rcases Program.emits_bind_pure h with ⟨third, fourth, tool, hsecond, htool, h⟩
  rcases Program.emits_bind_pure h with ⟨fifth, last, approved, hfourth, happroval, h⟩
  rcases Program.emits_bind_pure h with ⟨sixth, seventh, decided, hlast, hevaluate, h⟩
  rcases Program.emits_ofExcept_pure hauth with ⟨hfirstNil, _⟩
  rcases Program.emits_ofExcept_pure htool with ⟨hthirdNil, htoolOk⟩
  rcases Program.emits_ofExcept_pure hevaluate with ⟨hsixthNil, _⟩
  cases h
  rcases (ToolRiskCatalog.resolve_eq_ok_iff c.gate.catalog c.call.toolName tool).mp htoolOk
    with ⟨_, hrisk, _⟩
  rw [hc.mutation] at hrisk
  rcases emits_applyApproval hrisk hc.presented happroval with ⟨event, hevent, hpasses, henter⟩
  refine ⟨event, ?_, hpasses, henter⟩
  rw [htrace, hsecond, hfourth, hlast, hfirstNil, hthirdNil, hsixthNil, hevent]
  rfl

theorem guarded_admission {guard : List GateEvent -> GateOp -> Prop} {past : List GateEvent}
    (hconsult : forall past p, guard past (.consult p)) (py : Builtins)
    (gate : GovernanceGate) (ambient : Ambient) (call : ExecuteCall) :
    Program.Guarded guard past (gate.admission py ambient call) := by
  have hexcept : forall {a : Type} (past : List GateEvent) (x : Except PyException a),
      Program.Guarded guard past (Program.ofExcept x : GateProgram a) := by
    intro a past x
    cases x <;> trivial
  unfold admission
  refine Program.guarded_bind (hexcept _ _) ?_
  intro trace bound _
  refine Program.guarded_bind (hexcept _ _) ?_
  intro trace tool _
  refine Program.guarded_bind ?_ ?_
  · unfold applyApproval
    repeat' split
    · trivial
    · trivial
    · trivial
    · exact ⟨hconsult _ _, fun _ => hexcept _ _⟩
  · intro trace approved _
    refine Program.guarded_bind (hexcept _ _) ?_
    intro trace decided _
    trivial

/-- Whatever the answers, the body is entered once and past a presentation of the token. -/
theorem guarded_program {c : ConcurrentCall} {token : String}
    (hc : c.PresentsForMutation token) :
    Program.Guarded (EntersOncePassed token) [] c.program := by
  unfold ConcurrentCall.program execute
  refine Program.guarded_bind (guarded_admission (fun _ _ => trivial) _ _ _ _) ?_
  intro trace admission hadmission
  rcases emits_admission hc hadmission with ⟨event, htrace, hpasses, henter⟩
  refine guarded_carryOut (fun _ _ _ => trivial) (fun _ => trivial) ?_ _
  intro records hrecords
  rw [htrace]
  constructor
  · rw [List.nil_append, invocations_append, hrecords.invocations_eq_zero]
    simp [invocations, henter]
  · simp [hpasses]

end GovernanceGate

theorem countP_enter_le_passes {c : ConcurrentCall} {token : String}
    (hc : c.PresentsForMutation token) {trace : List GateEvent} {rest : GateProgram Value}
    (h : Program.Emits c.program trace rest) :
    trace.countP isEnter ≤ trace.countP (passesToken token) := by
  apply Program.countP_le_of_once_past
  intro before event later htrace henter
  have hguard := Program.guarded_of_emits (GovernanceGate.guarded_program hc) h htrace
  rcases event with ⟨op, answer⟩
  cases op with
  | enter args kwargs => exact hguard
  | _ => cases henter

/-!
## The run of the store behind an interleaving
-/

def otherCalls {thread : Type}
    (trace : List ((thread × GateEvent) ⊕ InMemoryApprovalStore.StoreOp)) :
    List InMemoryApprovalStore.StoreOp :=
  trace.filterMap Sum.getRight?

def callEvents {thread : Type}
    (trace : List ((thread × GateEvent) ⊕ InMemoryApprovalStore.StoreOp)) :
    List GateEvent :=
  (Program.threadEvents trace).map Prod.snd

def grantsToken (token : String) :
    InMemoryApprovalStore.StoreOp × InMemoryApprovalStore.StoreAnswer -> Bool
  | (.present p _, .validated result) => p.presented = some token ∧ result.status = .granted
  | _ => false

/-- A run of the store that answers every call of an interleaving. -/
structure StoreRun {thread : Type} (token : String) (store : InMemoryApprovalStore)
    (trace : List ((thread × GateEvent) ⊕ InMemoryApprovalStore.StoreOp))
    (store' : InMemoryApprovalStore) (ops : List InMemoryApprovalStore.StoreOp) : Prop where
  reaches : InMemoryApprovalStore.machine.after store ops = store'
  tokens : InMemoryApprovalStore.storedTokens ops =
    InMemoryApprovalStore.storedTokens (otherCalls trace)
  stores : forall op, op ∈ ops -> InMemoryApprovalStore.storedToken op ≠ none ->
    op ∈ otherCalls trace
  passes : (callEvents trace).countP (passesToken token) ≤
    (InMemoryApprovalStore.machine.history store ops).countP (grantsToken token)

theorem grantsToken_of_passesToken {token : String} {store : InMemoryApprovalStore}
    {p : Presentation} {now : Instant}
    (h : passesToken token ⟨.consult p, (store.validateAndConsume p now).1⟩ = true) :
    grantsToken token (.present p now, .validated (store.validateAndConsume p now).1) =
      true := by
  simp only [passesToken, decide_eq_true_eq] at h
  rcases h with ⟨hpresented, hpassed⟩
  have hnotMissing := (store.validateAndConsume_of_presented hpresented now).1
  have hgranted : (store.validateAndConsume p now).1.status = .granted :=
    hpassed.resolve_right hnotMissing
  simp [grantsToken, hpresented, hgranted]

namespace StoreRun

variable {thread : Type} {token : String} {store middle store' : InMemoryApprovalStore}
  {trace : List ((thread × GateEvent) ⊕ InMemoryApprovalStore.StoreOp)}
  {ops : List InMemoryApprovalStore.StoreOp}

theorem skip (h : StoreRun token store trace store' ops) {event : GateEvent}
    (hpasses : passesToken token event = false) (i : thread) :
    StoreRun token store (.inl (i, event) :: trace) store' ops := by
  refine ⟨h.reaches, h.tokens, h.stores, ?_⟩
  rw [callEvents, Program.threadEvents_inl, List.map_cons,
    List.countP_cons_of_neg (by simpa using hpasses)]
  exact h.passes

theorem present {p : Presentation} {now : Instant}
    (h : StoreRun token (store.validateAndConsume p now).2 trace store' ops) (i : thread) :
    StoreRun token store
      (.inl (i, ⟨.consult p, (store.validateAndConsume p now).1⟩) :: trace) store'
      (.present p now :: ops) := by
  refine ⟨h.reaches, h.tokens, ?_, ?_⟩
  · intro op hop hstored
    rcases List.mem_cons.mp hop with hhead | hrest
    · rw [hhead] at hstored
      exact absurd rfl hstored
    · exact h.stores op hrest hstored
  · have hrest := h.passes
    have hhead : (if passesToken token ⟨.consult p, (store.validateAndConsume p now).1⟩ = true
        then 1 else 0) ≤
          (if grantsToken token
            (.present p now, .validated (store.validateAndConsume p now).1) = true
              then 1 else 0) := by
      by_cases hpasses :
          passesToken token ⟨.consult p, (store.validateAndConsume p now).1⟩ = true
      · rw [if_pos hpasses, if_pos (grantsToken_of_passesToken hpasses)]
      · rw [if_neg hpasses]
        exact Nat.zero_le _
    rw [callEvents, Program.threadEvents_inl, List.map_cons, List.countP_cons,
      Machine.history_cons, List.countP_cons]
    exact Nat.add_le_add hrest hhead

theorem other {op : InMemoryApprovalStore.StoreOp} (hmove : OtherCall store op middle)
    (h : StoreRun token middle trace store' ops) :
    StoreRun token store (.inr op :: trace) store' (op :: ops) := by
  unfold OtherCall at hmove
  subst hmove
  refine ⟨h.reaches, ?_, ?_, ?_⟩
  · have htokens := h.tokens
    unfold InMemoryApprovalStore.storedTokens at htokens ⊢
    rw [show otherCalls (.inr op :: trace) = op :: otherCalls trace from rfl,
      List.filterMap_cons, List.filterMap_cons, htokens]
  · intro other hother hstored
    rcases List.mem_cons.mp hother with hhead | hrest
    · rw [hhead]
      exact List.mem_cons_self
    · exact List.mem_cons_of_mem op (h.stores other hrest hstored)
  · rw [callEvents, Program.threadEvents_inr, Machine.history_cons, List.countP_cons]
    exact Nat.le_add_right_of_le h.passes

end StoreRun

/-- Behind every interleaving there is a run of the store. -/
theorem exists_storeRun {thread : Type} [DecidableEq thread] (token : String)
    {pool rest : thread -> GateProgram Value} {store store' : InMemoryApprovalStore}
    {trace : List ((thread × GateEvent) ⊕ InMemoryApprovalStore.StoreOp)}
    (h : Program.Interleaves StoreStep OtherCall pool store trace rest store') :
    exists ops, StoreRun token store trace store' ops := by
  induction h with
  | refl pool store => exact ⟨[], rfl, rfl, by simp, Nat.le_refl 0⟩
  | @thread pool rest store middle store' i op next r trace hpool hstep _ ih =>
      rcases ih with ⟨ops, hrun⟩
      cases hstep with
      | consult p now => exact ⟨_, hrun.present i⟩
      | record event answer => exact ⟨ops, hrun.skip rfl i⟩
      | enter args kwargs => exact ⟨ops, hrun.skip rfl i⟩
      | leave outcome => exact ⟨ops, hrun.skip rfl i⟩
  | environment hmove _ ih =>
      rcases ih with ⟨ops, hrun⟩
      exact ⟨_, hrun.other hmove⟩

/-!
## At most one body
-/

theorem countP_grantsToken_le_one {ops : List InMemoryApprovalStore.StoreOp} {token : String}
    (hfresh : (InMemoryApprovalStore.storedTokens ops).Nodup)
    (hsingle : forall op grant, op ∈ ops -> InMemoryApprovalStore.Stores token grant op ->
      grant.singleUse = true) :
    (InMemoryApprovalStore.machine.history InMemoryApprovalStore.empty ops).countP
      (grantsToken token) ≤ 1 := by
  refine Nat.le_trans (List.countP_mono_left ?_)
    (InMemoryApprovalStore.countP_grantsSingleUse_le_one hfresh token)
  intro entry hentry hgrants
  rcases entry with ⟨op, answer⟩
  cases op with
  | issue request now drawn approvalId => cases hgrants
  | present p now =>
      cases answer with
      | issued outcome => cases hgrants
      | validated result =>
          have hpresents : p.presented = some token ∧ result.status = .granted := by
            simpa [grantsToken] using hgrants
          rcases InMemoryApprovalStore.exists_grantedOn hentry hpresents.2 with ⟨grant, hgranted⟩
          rcases List.append_of_mem hentry with ⟨before, later, hhistory⟩
          rcases InMemoryApprovalStore.granted_in_run hhistory hgranted with
            ⟨p', now', presented, first, second, hop, hp, _, hops, ⟨issued, hissued, hstores⟩, _⟩
          cases hop
          have htoken : presented = token := by
            rw [hpresents.1, Option.some.injEq] at hp
            exact hp.symm
          subst htoken
          apply (InMemoryApprovalStore.grantsSingleUse_eq_true_iff _ _ _).mpr
          refine ⟨hpresents.1, grant, hgranted, hsingle issued grant ?_ hstores⟩
          rw [hops]
          exact List.mem_append_left _ hissued

/-- Concurrent calls that present one single-use token enter at most one tool body. -/
theorem invocations_le_one {thread : Type} [DecidableEq thread]
    {calls : thread -> ConcurrentCall} {token : String}
    (hcalls : forall i, (calls i).PresentsForMutation token)
    {trace : List ((thread × GateEvent) ⊕ InMemoryApprovalStore.StoreOp)}
    {rest : thread -> GateProgram Value} {store : InMemoryApprovalStore}
    (h : ConcurrentRun calls InMemoryApprovalStore.empty trace rest store)
    (hfresh : (InMemoryApprovalStore.storedTokens (otherCalls trace)).Nodup)
    (hsingle : forall op grant, op ∈ otherCalls trace ->
      InMemoryApprovalStore.Stores token grant op -> grant.singleUse = true) :
    invocations (callEvents trace) ≤ 1 := by
  rcases exists_storeRun token h with ⟨ops, hrun⟩
  calc
    invocations (callEvents trace) ≤ (callEvents trace).countP (passesToken token) := by
      apply Program.countP_le_of_threads
      intro i
      rw [← Program.eventsOf_eq_map]
      exact countP_enter_le_passes (hcalls i) (Program.emits_eventsOf h i)
    _ ≤ (InMemoryApprovalStore.machine.history InMemoryApprovalStore.empty ops).countP
        (grantsToken token) := hrun.passes
    _ ≤ 1 := by
      apply countP_grantsToken_le_one (by rw [hrun.tokens]; exact hfresh)
      intro op grant hop hstores
      refine hsingle op grant (hrun.stores op hop ?_) hstores
      rw [InMemoryApprovalStore.storedToken_eq_some_iff.mpr ⟨grant, hstores⟩]
      exact Option.some_ne_none token


/-!
## The store's guarantees together
-/

namespace InMemoryApprovalStore

/-- What a whole run guarantees about the tokens issued in it. -/
structure RunSafe (ops : List StoreOp) : Prop where
  once : forall token, (machine.history empty ops).countP (grantsSingleUse token) ≤ 1
  replayed : forall before op answer later grant token,
    machine.history empty ops = before ++ (op, answer) :: later ->
    StoreAnswer.GrantedOn grant answer -> grant.singleUse = true -> Presents token op ->
    forall entry, entry ∈ later -> Presents token entry.1 -> entry.2.Replayed
  unexpired : forall p now result,
    (.present p now, .validated result) ∈ machine.history empty ops ->
    result.status = .granted ->
    exists token grant issued,
      p.presented = some token ∧ result.grant = some grant ∧ issued ∈ ops ∧
      Stores token grant issued ∧ now < grant.expiresAt

theorem runSafe {ops : List StoreOp} (hfresh : (storedTokens ops).Nodup) : RunSafe ops := by
  constructor
  · exact countP_grantsSingleUse_le_one hfresh
  · intro before op answer later grant token hhistory hgranted hsingle hop
    exact replayed_after_granted hfresh hhistory hgranted hsingle hop
  · intro p now result hmem hstatus
    rcases exists_grantedOn hmem hstatus with ⟨grant, hgranted⟩
    rcases List.append_of_mem hmem with ⟨before, later, hhistory⟩
    rcases granted_in_run hhistory hgranted with
      ⟨p', now', token, first, second, hop, hp, hnow, hops, ⟨issued, hissued, hstores⟩, _⟩
    cases hop
    refine ⟨token, grant, issued, hp, hgranted.2, ?_, hstores, hnow⟩
    rw [hops]
    exact List.mem_append_left _ hissued

/--
With fresh tokens, every run of the store is safe; refused calls change nothing,
tokens do not interfere, and concurrent calls that present one single-use token
for mutations enter at most one tool body.
-/
theorem single_use_guarantees :
    (forall ops, (storedTokens ops).Nodup -> RunSafe ops) ∧
    (forall (store : InMemoryApprovalStore) p now,
      (store.validateAndConsume p now).1.status ≠ .granted ->
        (store.validateAndConsume p now).2 = store) ∧
    (forall (store : InMemoryApprovalStore) request now token approvalId e,
      (store.issue request now token approvalId).1 = .error e ->
        (store.issue request now token approvalId).2 = store) ∧
    (forall token other (store : InMemoryApprovalStore) op later,
      token ≠ other -> Presents token op ->
        (machine.history (machine.step store op).2 later).filter
            (fun entry => Presents other entry.1) =
          (machine.history store later).filter (fun entry => Presents other entry.1)) ∧
    (forall (thread : Type) [DecidableEq thread] (calls : thread -> ConcurrentCall) token
      trace rest store,
      ConcurrentRun calls empty trace rest store ->
      (forall i, (calls i).PresentsForMutation token) ->
      (storedTokens (otherCalls trace)).Nodup ->
      (forall op grant, op ∈ otherCalls trace -> Stores token grant op ->
        grant.singleUse = true) ->
      invocations (callEvents trace) ≤ 1) := by
  refine ⟨fun ops => runSafe, ?_, ?_, ?_, ?_⟩
  · intro store p now hrefused
    exact validateAndConsume_of_not_granted hrefused
  · intro store request now token approvalId e herror
    exact issue_of_error herror
  · intro token other store op later hne hop
    exact presentations_independent hne store hop later
  · intro thread _ calls token trace rest store hrun hcalls hfresh hsingle
    exact invocations_le_one hcalls hrun hfresh hsingle

def presentedTwice : List StoreOp :=
  [.issue { toolName := "deploy" } 0 "t0" "a0",
    .present ⟨some " t0 ", "deploy", none, none⟩ 1,
    .present ⟨some "t0", "deploy", none, none⟩ 2]

theorem single_use_guarantees_presentedTwice :
    RunSafe presentedTwice ∧
      (machine.history empty presentedTwice).countP (grantsSingleUse "t0") = 1 :=
  ⟨single_use_guarantees.1 presentedTwice (by decide), by decide⟩

end InMemoryApprovalStore

end YasinMcp
