import YasinMcp.Governance.AuditTrail

/-!
# Calls whose surroundings do not hold the store

A recorder and a tool body that read and change anything but the approval store.
What such a call does after its admission does not depend on the store, and only
a consultation changes it.
-/

namespace YasinMcp

open Foundation

structure Surroundings (world : Type) where
  clock : world -> Instant
  record : AuditEvent -> world -> Except PyException Unit × world
  enter : List Value -> Kwargs -> world -> world
  leave : world -> Except PyException Value × world

namespace Surroundings

variable {world : Type}

def host (around : Surroundings world) : Host world where
  clock := around.clock
  record event s := ((around.record event s.2).1, (s.1, (around.record event s.2).2))
  enter args kwargs s := (s.1, around.enter args kwargs s.2)
  leave s := ((around.leave s.2).1, (s.1, (around.leave s.2).2))

theorem run_without_consult (around : Surroundings world) {a : Type} {p : GateProgram a}
    {past : List GateEvent}
    (hp : Program.Guarded (fun _ op => forall p, op ≠ .consult p) past p)
    (store store' : InMemoryApprovalStore) (w : world) :
    let r := around.host.run p (store, w)
    let r' := around.host.run p (store', w)
    r.result = r'.result ∧ r.trace = r'.trace ∧ r.state = (store, r'.state.2) := by
  intro r r'
  induction p generalizing past w with
  | pure value => exact ⟨rfl, rfl, rfl⟩
  | raise e => exact ⟨rfl, rfl, rfl⟩
  | perform op next ih =>
      cases op with
      | consult p => exact absurd rfl (hp.1 p)
      | record event =>
          rcases ih (around.record event w).1 (hp.2 _) (around.record event w).2 with
            ⟨hresult, htrace, hstate⟩
          exact ⟨hresult, congrArg (List.cons _) htrace, hstate⟩
      | enter args kwargs =>
          rcases ih () (hp.2 _) (around.enter args kwargs w) with ⟨hresult, htrace, hstate⟩
          exact ⟨hresult, congrArg (List.cons _) htrace, hstate⟩
      | leave =>
          rcases ih (around.leave w).1 (hp.2 _) (around.leave w).2 with
            ⟨hresult, htrace, hstate⟩
          exact ⟨hresult, congrArg (List.cons _) htrace, hstate⟩

end Surroundings

/-!
## Calls alike after their admission
-/

namespace GovernanceGate

/-- Admissions that differ at most in what audit events do not show of their contexts. -/
def AlikeAdmissions : Except PyException Admission -> Except PyException Admission -> Prop
  | .error e, .error e' => e = e'
  | .ok a, .ok b =>
      a.tool = b.tool ∧ a.decision = b.decision ∧ safeContext a.context = safeContext b.context
  | _, _ => False

theorem alikeAdmissions_refl (x : Except PyException Admission) : AlikeAdmissions x x := by
  cases x with
  | error e => exact rfl
  | ok admission => exact ⟨rfl, rfl, rfl⟩

theorem settle_congr {tool : ToolIdentity} {decision : GovernanceDecision} {toolName : String}
    {context context' : Option GovernanceContext} (h : safeContext context = safeContext context')
    (outcome : Except PyException Value) :
    settle tool decision toolName context outcome =
      settle tool decision toolName context' outcome := by
  cases outcome with
  | ok result => simp only [settle, resultEvent, h]
  | error e => simp only [settle, failureEvent, h]

/-- What follows an admission reads its context through the redactor only. -/
theorem carryOut_congr {a b : Admission} (htool : a.tool = b.tool)
    (hdecision : a.decision = b.decision) (hcontext : safeContext a.context = safeContext b.context)
    (py : Builtins) (toolName : String) (args : List Value) (kwargs : Kwargs) :
    carryOut py toolName args kwargs a = carryOut py toolName args kwargs b := by
  rcases a with ⟨tool, decision, context⟩
  rcases b with ⟨tool', decision', context'⟩
  cases htool
  cases hdecision
  have hcontext' : safeContext context = safeContext context' := hcontext
  simp only [carryOut, requestEvent, decisionEvent, invoke, hcontext', settle_congr hcontext']

theorem guarded_carryOut_consult (py : Builtins) (toolName : String) (args : List Value)
    (kwargs : Kwargs) (admission : Admission) :
    Program.Guarded (fun _ op => forall p, op ≠ .consult p) []
      (carryOut py toolName args kwargs admission) := by
  apply guarded_carryOut
  · intro past event _ p hop
    cases hop
  · intro past p hop
    cases hop
  · intro records _ p hop
    cases hop

theorem run_execute_of_error {world : Type} (host : Host world) {py : Builtins}
    {gate : GovernanceGate} {ambient : Ambient} {call : ExecuteCall} {s : HostState world}
    {e : PyException}
    (h : (host.run (gate.admission py ambient call) s).result = .error e) :
    host.run (gate.execute py ambient call) s =
      ⟨.error e, (host.run (gate.admission py ambient call) s).trace,
        (host.run (gate.admission py ambient call) s).state⟩ :=
  Program.run_bind_error h

theorem run_execute_of_ok {world : Type} (host : Host world) {py : Builtins}
    {gate : GovernanceGate} {ambient : Ambient} {call : ExecuteCall} {s : HostState world}
    {admission : Admission}
    (h : (host.run (gate.admission py ambient call) s).result = .ok admission) :
    let a := host.run (gate.admission py ambient call) s
    let c := host.run (carryOut py call.toolName call.args
      (gate.credentials py ambient call).kwargs admission) a.state
    host.run (gate.execute py ambient call) s = ⟨c.result, a.trace ++ c.trace, c.state⟩ :=
  Program.run_bind_ok h

theorem consultations_execute {world : Type} (host : Host world) (py : Builtins)
    (gate : GovernanceGate) (ambient : Ambient) (call : ExecuteCall) (s : HostState world) :
    consultations (host.run (gate.execute py ambient call) s).trace =
      consultations (host.run (gate.admission py ambient call) s).trace := by
  cases hresult : (host.run (gate.admission py ambient call) s).result with
  | error e => rw [run_execute_of_error host hresult]
  | ok admission =>
      rw [run_execute_of_ok host hresult, consultations_append, consultations_carryOut,
        List.append_nil]

theorem store_after_admission {world : Type} (around : Surroundings world) (py : Builtins)
    (gate : GovernanceGate) (ambient : Ambient) (call : ExecuteCall) (s : HostState world) :
    (around.host.run (gate.execute py ambient call) s).state.1 =
      (around.host.run (gate.admission py ambient call) s).state.1 := by
  cases hresult : (around.host.run (gate.admission py ambient call) s).result with
  | error e => rw [run_execute_of_error around.host hresult]
  | ok admission =>
      rw [run_execute_of_ok around.host hresult]
      generalize around.host.run (gate.admission py ambient call) s = a
      rcases a with ⟨_, _, store, w⟩
      rcases around.run_without_consult (guarded_carryOut_consult py call.toolName call.args
        (gate.credentials py ambient call).kwargs admission) store store w with
        ⟨_, _, hstate⟩
      exact (Prod.ext_iff.mp hstate).1

theorem alikeAdmissions_cases {x x' : Except PyException Admission} (h : AlikeAdmissions x x') :
    (exists e, x = .error e ∧ x' = .error e) ∨
      exists a a', x = .ok a ∧ x' = .ok a' ∧ forall py toolName args kwargs,
        carryOut py toolName args kwargs a = carryOut py toolName args kwargs a' := by
  cases x with
  | error e =>
      cases x' with
      | error e' => exact Or.inl ⟨e, rfl, congrArg Except.error (Eq.symm h)⟩
      | ok a' => exact h.elim
  | ok a =>
      cases x' with
      | error e' => exact h.elim
      | ok a' => exact Or.inr ⟨a, a', rfl, rfl, carryOut_congr h.1 h.2.1 h.2.2⟩

/-- Two calls whose admissions are alike go on alike, whatever is in their stores. -/
theorem run_execute_alike {world : Type} (around : Surroundings world) {py : Builtins}
    {gate gate' : GovernanceGate} {ambient ambient' : Ambient} {call call' : ExecuteCall}
    {s s' : HostState world}
    (hname : call.toolName = call'.toolName) (hargs : call.args = call'.args)
    (hkwargs : (gate.credentials py ambient call).kwargs =
      (gate'.credentials py ambient' call').kwargs)
    {a a' : Program.Run (HostState world) GateRes PyException Admission}
    (ha : around.host.run (gate.admission py ambient call) s = a)
    (ha' : around.host.run (gate'.admission py ambient' call') s' = a')
    (halike : AlikeAdmissions a.result a'.result) (hworld : a.state.2 = a'.state.2) :
    let r := around.host.run (gate.execute py ambient call) s
    let r' := around.host.run (gate'.execute py ambient' call') s'
    r.result = r'.result ∧
      exists rest, r.trace = a.trace ++ rest ∧ r'.trace = a'.trace ++ rest := by
  subst ha ha'
  intro r r'
  rcases alikeAdmissions_cases halike with ⟨e, herror, herror'⟩ |
    ⟨admission, admission', hok, hok', hcarry⟩
  · rw [show r = _ from run_execute_of_error around.host herror,
      show r' = _ from run_execute_of_error around.host herror']
    exact ⟨rfl, [], by simp⟩
  · rw [show r = _ from run_execute_of_ok around.host hok,
      show r' = _ from run_execute_of_ok around.host hok', ← hname, ← hargs, ← hkwargs,
      ← hcarry]
    generalize around.host.run (gate.admission py ambient call) s = a at hworld ⊢
    generalize around.host.run (gate'.admission py ambient' call') s' = a' at hworld ⊢
    rcases a with ⟨_, trace, store, w⟩
    rcases a' with ⟨_, trace', store', w'⟩
    cases hworld
    rcases around.run_without_consult (guarded_carryOut_consult py call.toolName call.args
      (gate.credentials py ambient call).kwargs admission) store store' w with
      ⟨hresult, htrace, _⟩
    exact ⟨hresult, _, rfl, congrArg _ htrace.symm⟩

theorem run_execute_alike_host {world : Type} (host : Host world) {py : Builtins}
    {gate gate' : GovernanceGate} {ambient ambient' : Ambient} {call call' : ExecuteCall}
    {s s' : HostState world}
    (hname : call.toolName = call'.toolName) (hargs : call.args = call'.args)
    (hkwargs : (gate.credentials py ambient call).kwargs =
      (gate'.credentials py ambient' call').kwargs)
    (halike : AlikeAdmissions (host.run (gate.admission py ambient call) s).result
      (host.run (gate'.admission py ambient' call') s').result)
    (hstate : (host.run (gate.admission py ambient call) s).state =
      (host.run (gate'.admission py ambient' call') s').state) :
    let a := host.run (gate.admission py ambient call) s
    let a' := host.run (gate'.admission py ambient' call') s'
    let r := host.run (gate.execute py ambient call) s
    let r' := host.run (gate'.execute py ambient' call') s'
    r.result = r'.result ∧ r.state = r'.state ∧
      exists rest, r.trace = a.trace ++ rest ∧ r'.trace = a'.trace ++ rest := by
  intro a a' r r'
  rcases alikeAdmissions_cases halike with ⟨e, herror, herror'⟩ |
    ⟨admission, admission', hok, hok', hcarry⟩
  · rw [show r = _ from run_execute_of_error host herror,
      show r' = _ from run_execute_of_error host herror']
    exact ⟨rfl, hstate, [], by simp [a, a']⟩
  · rw [show r = _ from run_execute_of_ok host hok, show r' = _ from run_execute_of_ok host hok',
      ← hname, ← hargs, ← hkwargs, ← hcarry, ← hstate]
    exact ⟨rfl, rfl, _, rfl, rfl⟩

end GovernanceGate

def quietSurroundings : Surroundings Unit where
  clock _ := 0
  record _ w := (.ok (), w)
  enter _ _ w := w
  leave w := (.ok .none, w)

end YasinMcp
