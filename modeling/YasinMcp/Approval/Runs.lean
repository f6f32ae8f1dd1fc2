import YasinMcp.Approval.Store

/-!
# Runs of the approval store

A run is any sequence of issue and present calls, from any callers, starting at
the empty store.  The facts about one token are proved on its ledger cell and
carried to the store by the refinement.
-/

namespace YasinMcp
namespace InMemoryApprovalStore

open Foundation

def storedToken : StoreOp -> Option String
  | .issue request now token approvalId =>
      match request.grant now approvalId with
      | .error _ => none
      | .ok _ => some token
  | .present _ _ => none

def storedTokens (ops : List StoreOp) : List String :=
  ops.filterMap storedToken

def Presents (token : String) : StoreOp -> Prop
  | .issue _ _ _ _ => False
  | .present p _ => p.presented = some token

instance (token : String) : DecidablePred (Presents token) := fun op =>
  match op with
  | .issue _ _ _ _ => inferInstanceAs (Decidable False)
  | .present p _ => inferInstanceAs (Decidable (p.presented = some token))

def Stores (token : String) (grant : ApprovalGrant) : StoreOp -> Prop
  | .issue request now drawn approvalId =>
      drawn = token ∧ request.grant now approvalId = .ok grant
  | .present _ _ => False

/-- The answer grants a presentation on this grant. -/
def StoreAnswer.GrantedOn (grant : ApprovalGrant) : StoreAnswer -> Prop
  | .issued _ => False
  | .validated result => result.status = .granted ∧ result.grant = some grant

def StoreAnswer.Replayed : StoreAnswer -> Prop
  | .issued _ => False
  | .validated result => result.status = .replayed

theorem StoreAnswer.Replayed.not_grantedOn {answer : StoreAnswer} (h : answer.Replayed)
    (grant : ApprovalGrant) : ¬ answer.GrantedOn grant := by
  cases answer with
  | issued outcome => cases h
  | validated result =>
      intro hgranted
      rw [StoreAnswer.Replayed, hgranted.1] at h
      cases h

/-- A presentation of the token that was granted on a single-use grant. -/
def grantsSingleUse (token : String) : StoreOp × StoreAnswer -> Bool
  | (.present p _, .validated result) =>
      p.presented = some token ∧ result.status = .granted ∧
        result.grant.any ApprovalGrant.singleUse = true
  | _ => false

theorem at_of_presents {token : String} {op : StoreOp} (h : Presents token op) :
    ledger.At token op := by
  cases op with
  | issue request now drawn approvalId => cases h
  | present p now => exact h

theorem presents_or_stored_of_at {token : String} {op : StoreOp}
    (h : ledger.At token op) : Presents token op ∨ storedToken op = some token := by
  cases op with
  | issue request now drawn approvalId => exact Or.inr h
  | present p now => exact Or.inl h

theorem storedToken_eq_some_iff {token : String} {op : StoreOp} :
    storedToken op = some token <-> exists grant, Stores token grant op := by
  cases op with
  | present p now => simp [storedToken, Stores]
  | issue request now drawn approvalId =>
      cases hgrant : request.grant now approvalId with
      | error e => simp [storedToken, Stores, hgrant]
      | ok grant => simp [storedToken, Stores, hgrant]

/-!
## One cell
-/

/-- A filled cell holds the grant it started with or one a later issue stored. -/
theorem single_after_eq_some {token : String} {cell : Cell} {ops : List StoreOp}
    (hops : forall op, op ∈ ops -> ledger.At token op)
    {grant : ApprovalGrant} {consumed : Bool}
    (h : ledger.single.after cell ops = some (grant, consumed)) :
    (exists c, cell = some (grant, c)) ∨ exists op, op ∈ ops ∧ Stores token grant op := by
  induction ops generalizing cell with
  | nil => exact Or.inl ⟨consumed, h⟩
  | cons op rest ih =>
      rcases ih (fun o ho => hops o (List.mem_cons_of_mem op ho)) h with hcell | hrest
      · rcases hcell with ⟨c, hcell⟩
        have hat := hops op List.mem_cons_self
        cases op with
        | issue request now drawn approvalId =>
            cases hgrant : request.grant now approvalId with
            | error e => simp [Cells.At, ledger, hgrant] at hat
            | ok stored =>
                have hdrawn : drawn = token := by
                  simpa [Cells.At, ledger, hgrant] using hat
                have hstored : stored = grant ∧ false = c := by
                  simpa [Cells.single, ledger, hgrant] using hcell
                exact Or.inr ⟨_, List.mem_cons_self, hdrawn, by rw [hgrant, hstored.1]⟩
        | present p now =>
            cases hstart : cell with
            | none => simp [Cells.single, ledger, hstart] at hcell
            | some entry =>
                rcases entry with ⟨kept, before⟩
                have hkept : kept = grant := by
                  have hpair := hcell
                  simp [Cells.single, ledger, hstart] at hpair
                  exact hpair.1
                exact Or.inl ⟨before, by rw [hkept]⟩
      · rcases hrest with ⟨o, ho, hstores⟩
        exact Or.inr ⟨o, List.mem_cons_of_mem op ho, hstores⟩

theorem single_step_consumed {grant : ApprovalGrant} (hsingle : grant.singleUse = true)
    (p : Presentation) (now : Instant) :
    ledger.single.step (some (grant, true)) (.present p now) =
      (.validated ⟨.replayed, some grant, "approval_replayed"⟩, some (grant, true)) := by
  simp [Cells.single, ledger, judge_consumed hsingle, consumedAfter]

theorem single_history_consumed (token : String) {grant : ApprovalGrant}
    (hsingle : grant.singleUse = true) {ops : List StoreOp}
    (hops : forall op, op ∈ ops -> Presents token op) :
    forall entry, entry ∈ ledger.single.history (some (grant, true)) ops ->
      entry.2.Replayed := by
  refine Machine.history_forall (fun cell : Cell => cell = some (grant, true))
    (fun (_ : StoreOp) (answer : StoreAnswer) => answer.Replayed) ?_ ?_ hops rfl
  · intro cell op hop hcell
    cases op with
    | issue request now drawn approvalId => cases hop
    | present p now => rw [hcell, single_step_consumed hsingle]
  · intro cell op hop hcell
    cases op with
    | issue request now drawn approvalId => cases hop
    | present p now =>
        rw [hcell, single_step_consumed hsingle]
        exact rfl

/-!
## One call of the store
-/

theorem step_present_granted {store : InMemoryApprovalStore} {p : Presentation}
    {now : Instant} {result : ApprovalValidationResult}
    (hresult : (store.validateAndConsume p now).1 = result)
    (hgranted : result.status = .granted) :
    exists token grant consumed,
      p.presented = some token ∧ cells store token = some (grant, consumed) ∧
      result.grant = some grant ∧ Grants grant consumed p now ∧
      (grant.singleUse = true ->
        cells (store.validateAndConsume p now).2 token = some (grant, true)) := by
  unfold validateAndConsume at hresult ⊢
  cases hp : p.presented with
  | none =>
      rw [hp] at hresult
      rw [← hresult] at hgranted
      cases hgranted
  | some token =>
      simp only [hp] at hresult ⊢
      cases hentry : store.entries.get? token with
      | none =>
          simp only [hentry] at hresult
          rw [← hresult] at hgranted
          cases hgranted
      | some entry =>
          rcases entry with ⟨grant, consumed⟩
          simp only [hentry] at hresult ⊢
          have hjudge : result = judge grant consumed p now := by
            rw [← hresult]
            split <;> rfl
          rw [hjudge] at hgranted
          refine ⟨token, grant, consumed, rfl, hentry, ?_,
            (judge_status_granted_iff grant consumed p now).mp hgranted, ?_⟩
          · rw [hjudge]
            exact judge_grant grant consumed p now
          · intro hsingle
            simp [hgranted, hsingle, cells]

theorem validateAndConsume_of_not_granted {store : InMemoryApprovalStore}
    {p : Presentation} {now : Instant}
    (h : (store.validateAndConsume p now).1.status ≠ .granted) :
    (store.validateAndConsume p now).2 = store := by
  unfold validateAndConsume at h ⊢
  cases hp : p.presented with
  | none => rfl
  | some token =>
      simp only [hp] at h ⊢
      cases hentry : store.entries.get? token with
      | none => rfl
      | some entry =>
          rcases entry with ⟨grant, consumed⟩
          simp only [hentry] at h ⊢
          split
          · rename_i hconsume
            rw [if_pos hconsume] at h
            exact absurd hconsume.1 h
          · rfl

theorem issue_of_error {store : InMemoryApprovalStore} {request : IssueRequest}
    {now : Instant} {token approvalId : String} {e : PyException}
    (h : (store.issue request now token approvalId).1 = .error e) :
    (store.issue request now token approvalId).2 = store := by
  unfold issue at h ⊢
  cases hgrant : request.grant now approvalId with
  | error e' => rfl
  | ok grant =>
      rw [hgrant] at h
      cases h

/-!
## Whole runs
-/

theorem exists_stores_of_cell {ops : List StoreOp} {token : String}
    {grant : ApprovalGrant} {consumed : Bool}
    (h : cells (machine.after empty ops) token = some (grant, consumed)) :
    exists op, op ∈ ops ∧ Stores token grant op := by
  rw [machine_simulates_ledger.after, Cells.machine_after] at h
  rcases single_after_eq_some (fun op hop => by simpa using (List.mem_filter.mp hop).2) h
    with hempty | hissued
  · rcases hempty with ⟨c, hc⟩
    cases hc
  · rcases hissued with ⟨op, hop, hstores⟩
    exact ⟨op, (List.mem_filter.mp hop).1, hstores⟩

/-- After a consumed single-use entry, and with no new issue of the token, it is replayed. -/
theorem replayed_after_consumed {store : InMemoryApprovalStore} {token : String}
    {grant : ApprovalGrant} (hcell : cells store token = some (grant, true))
    (hsingle : grant.singleUse = true) {ops : List StoreOp}
    (hfresh : token ∉ storedTokens ops) :
    forall entry, entry ∈ machine.history store ops -> Presents token entry.1 ->
      entry.2.Replayed := by
  intro entry hentry hpresents
  have hmem : entry ∈ ledger.single.history (cells store token)
      (ops.filter fun op => ledger.At token op) := by
    rw [← Cells.machine_history, ← machine_simulates_ledger.history]
    exact List.mem_filter.mpr ⟨hentry, by simpa using at_of_presents hpresents⟩
  rw [hcell] at hmem
  refine single_history_consumed token hsingle ?_ entry hmem
  intro op hop
  rcases List.mem_filter.mp hop with ⟨hmemOp, hat⟩
  rcases presents_or_stored_of_at (by simpa using hat) with hp | hstored
  · exact hp
  · exact absurd (List.mem_filterMap.mpr ⟨op, hmemOp, hstored⟩) hfresh

/--
An answer that grants a presentation: the token was issued before in this run,
the grant is the issued one, and the presentation is within its life time.
-/
theorem granted_in_run {ops : List StoreOp} {before later : List (StoreOp × StoreAnswer)}
    {op : StoreOp} {answer : StoreAnswer} {grant : ApprovalGrant}
    (h : machine.history empty ops = before ++ (op, answer) :: later)
    (hgranted : answer.GrantedOn grant) :
    exists p now token first second,
      op = .present p now ∧ p.presented = some token ∧ now < grant.expiresAt ∧
      ops = first ++ op :: second ∧
      (exists issued, issued ∈ first ∧ Stores token grant issued) ∧
      (grant.singleUse = true ->
        cells (machine.after empty (first ++ [op])) token = some (grant, true)) ∧
      later = machine.history (machine.after empty (first ++ [op])) second := by
  rcases Machine.history_split h with ⟨first, second, hops, hanswer, _, hlater⟩
  cases op with
  | issue request now drawn approvalId =>
      rw [hanswer] at hgranted
      cases hgranted
  | present p now =>
      have hresult : answer =
          .validated ((machine.after empty first).validateAndConsume p now).1 := hanswer
      rw [hresult] at hgranted
      rcases step_present_granted rfl hgranted.1 with
        ⟨token, kept, consumed, hp, hcell, hkept, hgrants, hconsumed⟩
      have hsame : kept = grant := by
        have hsome := hkept.symm.trans hgranted.2
        simpa using hsome
      subst hsame
      refine ⟨p, now, token, first, second, rfl, hp, hgrants.unexpired, hops,
        exists_stores_of_cell hcell, ?_, hlater⟩
      intro hsingle
      rw [Machine.after_append]
      exact hconsumed hsingle

theorem exists_grantedOn {ops : List StoreOp} {p : Presentation} {now : Instant}
    {result : ApprovalValidationResult}
    (h : (.present p now, .validated result) ∈ machine.history empty ops)
    (hgranted : result.status = .granted) :
    exists grant, StoreAnswer.GrantedOn grant (.validated result) := by
  rcases List.append_of_mem h with ⟨before, later, hhistory⟩
  rcases Machine.history_split hhistory with ⟨first, second, _, hanswer, _, _⟩
  have hresult : ((machine.after empty first).validateAndConsume p now).1 = result := by
    injection hanswer.symm
  rcases step_present_granted hresult hgranted with ⟨_, grant, _, _, _, hgrant, _, _⟩
  exact ⟨grant, hgranted, hgrant⟩

/-- A single-use token that was granted is answered replayed from then on. -/
theorem replayed_after_granted {ops : List StoreOp} (hfresh : (storedTokens ops).Nodup)
    {before later : List (StoreOp × StoreAnswer)} {op : StoreOp} {answer : StoreAnswer}
    (h : machine.history empty ops = before ++ (op, answer) :: later)
    {grant : ApprovalGrant} (hgranted : answer.GrantedOn grant)
    (hsingle : grant.singleUse = true) {token : String} (hop : Presents token op) :
    forall entry, entry ∈ later -> Presents token entry.1 ->
      entry.2.Replayed := by
  rcases granted_in_run h hgranted with
    ⟨p, now, presented, first, second, hpresent, hp, _, hops, hissued, hcell, hlater⟩
  have htoken : presented = token := by
    rw [hpresent] at hop
    have hsome : some presented = some token := hp.symm.trans hop
    simpa using hsome
  subst htoken
  rcases hissued with ⟨issued, hmem, hstores⟩
  have hold : presented ∈ storedTokens first :=
    List.mem_filterMap.mpr ⟨issued, hmem, storedToken_eq_some_iff.mpr ⟨grant, hstores⟩⟩
  have hnew : presented ∉ storedTokens second := by
    intro hnew
    rw [hops, storedTokens, List.filterMap_append, List.nodup_append'] at hfresh
    apply hfresh.2.2 hold
    rw [List.filterMap_cons]
    split
    · exact hnew
    · exact List.mem_cons_of_mem _ hnew
  rw [hlater]
  exact replayed_after_consumed (hcell hsingle) hsingle hnew

theorem grantsSingleUse_eq_true_iff (token : String) (op : StoreOp) (answer : StoreAnswer) :
    grantsSingleUse token (op, answer) = true <->
      Presents token op ∧ exists grant, answer.GrantedOn grant ∧ grant.singleUse = true := by
  cases op with
  | issue request now drawn approvalId => simp [grantsSingleUse, Presents]
  | present p now =>
      cases answer with
      | issued outcome => simp [grantsSingleUse, StoreAnswer.GrantedOn]
      | validated result =>
          cases hgrant : result.grant with
          | none => simp [grantsSingleUse, StoreAnswer.GrantedOn, hgrant]
          | some grant =>
              simp [grantsSingleUse, StoreAnswer.GrantedOn, Presents, hgrant, and_assoc]

theorem countP_grantsSingleUse_le_one {ops : List StoreOp}
    (hfresh : (storedTokens ops).Nodup) (token : String) :
    (machine.history empty ops).countP (grantsSingleUse token) ≤ 1 := by
  apply Machine.countP_le_one_of_once
  intro before entry later hsplit hentry other hother
  rcases entry with ⟨op, answer⟩
  rcases (grantsSingleUse_eq_true_iff token op answer).mp hentry with
    ⟨hop, grant, hgranted, hsingle⟩
  cases hcase : grantsSingleUse token other with
  | false => rfl
  | true =>
      rcases (grantsSingleUse_eq_true_iff token other.1 other.2).mp hcase with
        ⟨hpresents, again, hagain, _⟩
      have hreplayed :=
        replayed_after_granted hfresh hsplit hgranted hsingle hop other hother hpresents
      exact absurd hagain (hreplayed.not_grantedOn again)

theorem presentations_independent {token other : String} (hne : token ≠ other)
    (store : InMemoryApprovalStore) {op : StoreOp} (hop : Presents token op)
    (later : List StoreOp) :
    (machine.history (machine.step store op).2 later).filter
        (fun entry => Presents other entry.1) =
      (machine.history store later).filter (fun entry => Presents other entry.1) := by
  have hnotAt : ¬ ledger.At other op := by
    intro hat
    have hsome : some token = some other := (at_of_presents hop).symm.trans hat
    exact hne (by simpa using hsome)
  have hcell : cells (machine.step store op).2 other = cells store other := by
    rw [machine_simulates_ledger.next, Cells.machine_step_frame hnotAt]
  have hrefine : forall s : InMemoryApprovalStore,
      (machine.history s later).filter (fun entry => Presents other entry.1) =
        (ledger.single.history (cells s other)
          (later.filter fun o => ledger.At other o)).filter
            (fun entry => Presents other entry.1) := by
    intro s
    rw [← Cells.machine_history, ← machine_simulates_ledger.history, List.filter_filter]
    apply List.filter_congr
    intro entry _
    by_cases hentry : Presents other entry.1
    · simp [hentry, at_of_presents hentry]
    · simp [hentry]
  rw [hrefine, hrefine, hcell]

end InMemoryApprovalStore
end YasinMcp
