import YasinMcp.Approval.Runs
import YasinMcp.Governance.Execution

/-!
# Bindings of approvals

A grant may be bound to a subject, a request and a project.  The request and the
project of a granted presentation are present and equal to the grant's; a subject
is only compared when the presentation has one.
-/

namespace YasinMcp

open Foundation

/-- Every binding the grant carries is present and equal in the presentation. -/
structure BindingsEnforced (grant : ApprovalGrant) (p : Presentation) : Prop where
  tool : p.toolName = grant.toolName
  subject : forall subject, grant.subjectId = some subject ->
    p.expectedSubject = some subject
  request : forall request, grant.requestId = some request -> p.requestId = some request
  project : forall project, grant.projectId = some project -> p.projectId = some project

/-- A grant with a subject meets a presentation without one. -/
def SubjectMissing (grant : ApprovalGrant) (p : Presentation) : Prop :=
  grant.subjectId ≠ none ∧ p.expectedSubject = none

namespace InMemoryApprovalStore

/-- A grant's checks enforce every binding but that of an absent subject. -/
theorem Grants.bindingsEnforced_iff {grant : ApprovalGrant} {consumed : Bool}
    {p : Presentation} {now : Instant} (h : Grants grant consumed p now) :
    BindingsEnforced grant p <-> ¬ SubjectMissing grant p := by
  constructor
  · intro henforced hmissing
    rcases hmissing with ⟨hbound, habsent⟩
    cases hsubject : grant.subjectId with
    | none => exact hbound hsubject
    | some subject =>
        have hexpected := henforced.subject subject hsubject
        rw [habsent] at hexpected
        cases hexpected
  · intro hpresent
    constructor
    · exact h.tool.symm
    · intro subject hsubject
      cases hexpected : p.expectedSubject with
      | none =>
          have hbound : grant.subjectId ≠ none := by simp [hsubject]
          exact absurd ⟨hbound, hexpected⟩ hpresent
      | some expected =>
          have hconflict := h.subject
          simp only [Presentation.subjectConflict, hsubject, hexpected] at hconflict
          rw [of_not_not (of_decide_eq_false hconflict)]
    · intro request hrequest
      have hconflict := h.request
      simp only [Presentation.requestConflict, hrequest] at hconflict
      exact of_not_not (of_decide_eq_false hconflict)
    · intro project hproject
      have hconflict := h.project
      simp only [Presentation.projectConflict, hproject] at hconflict
      exact of_not_not (of_decide_eq_false hconflict)

/--
The token presented has an entry that passes every other check, the grant names a
subject, and the presentation has none.
-/
def PassesSubjectless (store : InMemoryApprovalStore) (p : Presentation) (now : Instant) :
    Prop :=
  exists token grant consumed,
    p.presented = some token ∧ store.entries.get? token = some (grant, consumed) ∧
    Grants grant consumed p now ∧ SubjectMissing grant p

def AnswerEnforced (result : ApprovalValidationResult) (p : Presentation) : Prop :=
  result.status = .granted ->
    exists grant, result.grant = some grant ∧ BindingsEnforced grant p

/-- A presentation's answer enforces the bindings unless it passes without a subject. -/
theorem answerEnforced_iff (store : InMemoryApprovalStore) (p : Presentation)
    (now : Instant) :
    AnswerEnforced (store.validateAndConsume p now).1 p <->
      ¬ store.PassesSubjectless p now := by
  constructor
  · intro henforced hpasses
    rcases hpasses with ⟨token, grant, consumed, hp, hentry, hgrants, hmissing⟩
    have hanswer := validateAndConsume_answer hp hentry now
    rw [hanswer] at henforced
    rcases henforced ((judge_status_granted_iff grant consumed p now).mpr hgrants) with
      ⟨granted, hgranted, hbindings⟩
    rw [judge_grant, Option.some.injEq] at hgranted
    rw [← hgranted] at hbindings
    exact hgrants.bindingsEnforced_iff.mp hbindings hmissing
  · intro hpasses hgranted
    rcases step_present_granted rfl hgranted with
      ⟨token, grant, consumed, hp, hentry, hgrant, hgrants, _⟩
    refine ⟨grant, hgrant, hgrants.bindingsEnforced_iff.mpr ?_⟩
    intro hmissing
    exact hpasses ⟨token, grant, consumed, hp, hentry, hgrants, hmissing⟩

def RunEnforced (ops : List StoreOp) : Prop :=
  forall p now result,
    (.present p now, .validated result) ∈ machine.history empty ops -> AnswerEnforced result p

/-- No presentation of a run passes without a subject. -/
def RunNamesSubjects (ops : List StoreOp) : Prop :=
  forall first p now second, ops = first ++ .present p now :: second ->
    ¬ (machine.after empty first).PassesSubjectless p now

theorem runEnforced_iff (ops : List StoreOp) : RunEnforced ops <-> RunNamesSubjects ops := by
  constructor
  · intro henforced first p now second hops
    apply (answerEnforced_iff (machine.after empty first) p now).mp
    apply henforced p now
    rw [hops, Machine.history_append]
    exact List.mem_append_right _ List.mem_cons_self
  · intro hnames p now result hmem
    rcases List.append_of_mem hmem with ⟨before, later, hhistory⟩
    rcases Machine.history_split hhistory with ⟨first, second, hops, hanswer, _, _⟩
    have hresult : result = ((machine.after empty first).validateAndConsume p now).1 := by
      injection hanswer
    rw [hresult]
    exact (answerEnforced_iff _ p now).mpr (hnames first p now second hops)

end InMemoryApprovalStore

namespace GovernanceGate

/-- The presentation a call makes, if it gets to make one. -/
def presentation? (py : Builtins) (gate : GovernanceGate) (ambient : Ambient)
    (call : ExecuteCall) : Option Presentation :=
  match gate.authenticate py ambient call with
  | .error _ => none
  | .ok bound =>
      match gate.resolveTool call.toolName with
      | .error _ => none
      | .ok tool =>
          let approvalToken := (gate.credentials py ambient call).approvalToken
          if tool.risk ≠ .mutation ∧ approvalToken = none then none
          else if gate.approvalStore = false then none
          else some (presentation call.toolName (boundContext bound call.context) approvalToken)

variable {world : Type}

theorem consult_mem_admission_iff (host : Host world) (py : Builtins) (gate : GovernanceGate)
    (ambient : Ambient) (call : ExecuteCall) (s : HostState world) (p : Presentation)
    (result : ApprovalValidationResult) :
    ⟨.consult p, result⟩ ∈ (host.run (gate.admission py ambient call) s).trace <->
      gate.presentation? py ambient call = some p ∧
        result = (s.1.validateAndConsume p (host.clock s.2)).1 := by
  rw [run_admission, presentation?]
  cases gate.authenticate py ambient call with
  | error e => simp
  | ok bound =>
      cases gate.resolveTool call.toolName with
      | error e => simp
      | ok tool =>
          dsimp only
          by_cases hpass : tool.risk ≠ .mutation ∧
              (gate.credentials py ambient call).approvalToken = none
          · rw [run_applyApproval_pass hpass, if_pos hpass]
            simp
          · cases hstore : gate.approvalStore with
            | false =>
                rw [run_applyApproval_no_store hpass hstore, if_neg hpass]
                simp
            | true =>
                rw [run_applyApproval_consult hpass hstore, if_neg hpass]
                dsimp only
                rw [if_neg (by simp), List.mem_singleton, Option.some.injEq]
                constructor
                · intro hevent
                  cases hevent
                  exact ⟨rfl, rfl⟩
                · intro hanswer
                  rcases hanswer with ⟨hp, hresult⟩
                  subst hp
                  rw [hresult]

theorem consult_mem_execute_iff (host : Host world) (py : Builtins) (gate : GovernanceGate)
    (ambient : Ambient) (call : ExecuteCall) (s : HostState world) (p : Presentation)
    (result : ApprovalValidationResult) :
    ⟨.consult p, result⟩ ∈ (host.run (gate.execute py ambient call) s).trace <->
      gate.presentation? py ambient call = some p ∧
        result = (s.1.validateAndConsume p (host.clock s.2)).1 := by
  rw [← consult_mem_admission_iff host py gate ambient call s p result, execute]
  cases hadmission : (host.run (gate.admission py ambient call) s).result with
  | error e => rw [Host.run, Program.run_bind_error hadmission]
  | ok admission =>
      rw [Host.run, Program.run_bind_ok hadmission, List.mem_append]
      exact or_iff_left (consult_not_mem_carryOut host py _ _ _ _ _ _ _)

def CallEnforced (host : Host world) (py : Builtins) (gate : GovernanceGate)
    (ambient : Ambient) (call : ExecuteCall) (s : HostState world) : Prop :=
  forall p result,
    ⟨.consult p, result⟩ ∈ (host.run (gate.execute py ambient call) s).trace ->
      InMemoryApprovalStore.AnswerEnforced result p

theorem callEnforced_iff (host : Host world) (py : Builtins) (gate : GovernanceGate)
    (ambient : Ambient) (call : ExecuteCall) (s : HostState world) :
    CallEnforced host py gate ambient call s <->
      forall p, gate.presentation? py ambient call = some p ->
        ¬ s.1.PassesSubjectless p (host.clock s.2) := by
  constructor
  · intro henforced p hp
    apply (InMemoryApprovalStore.answerEnforced_iff s.1 p (host.clock s.2)).mp
    exact henforced p _
      ((consult_mem_execute_iff host py gate ambient call s p _).mpr ⟨hp, rfl⟩)
  · intro hnames p result hmem
    rcases (consult_mem_execute_iff host py gate ambient call s p result).mp hmem with
      ⟨hp, hresult⟩
    rw [hresult]
    exact (InMemoryApprovalStore.answerEnforced_iff s.1 p (host.clock s.2)).mpr (hnames p hp)

/--
In every run of the store, and in every call of a gate over the store the run
reaches, the granted answers enforce the bindings of their grants exactly if no
presentation without a subject passes all checks of a grant that names one.
-/
theorem bindings_enforced_iff (ops : List InMemoryApprovalStore.StoreOp) :
    (InMemoryApprovalStore.RunEnforced ops <-> InMemoryApprovalStore.RunNamesSubjects ops) ∧
    (forall (world : Type) (host : Host world) (py : Builtins) (gate : GovernanceGate)
      (ambient : Ambient) (call : ExecuteCall) (w : world),
      let store := InMemoryApprovalStore.machine.after InMemoryApprovalStore.empty ops
      CallEnforced host py gate ambient call (store, w) <->
        forall p, gate.presentation? py ambient call = some p ->
          ¬ store.PassesSubjectless p (host.clock w)) := by
  constructor
  · exact InMemoryApprovalStore.runEnforced_iff ops
  · intro world host py gate ambient call w store
    exact callEnforced_iff host py gate ambient call (store, w)

def issuedToAlice : List InMemoryApprovalStore.StoreOp :=
  [.issue { toolName := "deploy", subjectId := some "alice" } 0 "t0" "a0"]

theorem bindings_skipped_without_subject :
    let store := InMemoryApprovalStore.machine.after InMemoryApprovalStore.empty issuedToAlice
    let trace := (quietHost.run ((deployGate true).execute plainBuiltins ⟨fun _ => none, {}⟩
      { toolName := "deploy", approvalToken := some "t0" }) (store, ())).trace
    invocations trace = 1 ∧
      ¬ CallEnforced quietHost plainBuiltins (deployGate true) ⟨fun _ => none, {}⟩
        { toolName := "deploy", approvalToken := some "t0" } (store, ()) ∧
      ¬ InMemoryApprovalStore.RunEnforced
        (issuedToAlice ++ [.present ⟨some "t0", "deploy", none, none⟩ 0]) := by
  intro store trace
  have hpasses : store.PassesSubjectless ⟨some "t0", "deploy", none, none⟩ 0 :=
    ⟨"t0", ⟨"a0", "deploy", some "alice", none, none, 300000000, true⟩, false,
      by decide, by decide, ⟨by decide, by decide, rfl, rfl, rfl, rfl⟩, by decide, rfl⟩
  refine ⟨by decide +kernel, ?_, ?_⟩
  · rw [callEnforced_iff]
    intro hnames
    exact hnames _ rfl hpasses
  · rw [InMemoryApprovalStore.runEnforced_iff]
    intro hnames
    exact hnames issuedToAlice _ 0 [] rfl hpasses

end GovernanceGate

end YasinMcp
