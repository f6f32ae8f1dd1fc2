import YasinMcp.Governance.Escalation
import YasinMcp.Governance.Redaction
import YasinMcp.Governance.Surroundings

/-!
# Contexts that differ under sensitive keys

Two calls whose contexts differ only under sensitive keys of the extra metadata
are validated, bound and approved alike, and what they record is the same.  Only
a policy that reads such a key could tell them apart.
-/

namespace YasinMcp

open Foundation

/-!
## Entries that differ under sensitive keys
-/

theorem SameEntries.append {xs ys xs' ys' : List (Key × Value)} (h : SameEntries xs ys)
    (h' : SameEntries xs' ys') : SameEntries (xs ++ xs') (ys ++ ys') := by
  refine SameEntries.induction h' ?_ h
  intro key x y xs ys hvalue ih
  exact ⟨rfl, hvalue, ih⟩

theorem SameEntries.setIn (key : Key) (value : Value) {xs ys : List (Key × Value)}
    (h : SameEntries xs ys) :
    SameEntries (Dict.setIn key value xs) (Dict.setIn key value ys) := by
  have hboth : SameEntries xs ys ∧
      SameEntries (Dict.setIn key value xs) (Dict.setIn key value ys) := by
    refine SameEntries.induction ⟨trivial, sameEntries_refl _⟩ ?_ h
    intro k x y xs ys hvalue ih
    refine ⟨⟨rfl, hvalue, ih.1⟩, ?_⟩
    by_cases hk : k = key
    · simp only [Dict.setIn, if_pos hk]
      exact ⟨rfl, Or.inr (sameButSecrets_refl value), ih.1⟩
    · simp only [Dict.setIn, if_neg hk]
      exact ⟨rfl, hvalue, ih.2⟩
  exact hboth.2

theorem SameEntries.length_eq {xs ys : List (Key × Value)} (h : SameEntries xs ys) :
    xs.length = ys.length := by
  refine SameEntries.induction rfl ?_ h
  intro key x y xs ys _ ih
  exact congrArg Nat.succ ih

theorem SameEntries.lookupIn {key : Key} (hkey : isSensitiveKey key = false)
    {xs ys : List (Key × Value)} (h : SameEntries xs ys) :
    (Dict.lookupIn key xs = none ∧ Dict.lookupIn key ys = none) ∨
      exists x y, Dict.lookupIn key xs = some x ∧ Dict.lookupIn key ys = some y ∧
        SameButSecrets x y := by
  refine SameEntries.induction (Or.inl ⟨rfl, rfl⟩) ?_ h
  intro k x y xs ys hvalue ih
  by_cases hk : k = key
  · subst hk
    have hvalues : SameButSecrets x y := by
      rcases hvalue with hsensitive | hvalues
      · rw [hkey] at hsensitive
        cases hsensitive
      · exact hvalues
    exact Or.inr ⟨x, y, by simp [Dict.lookupIn], by simp [Dict.lookupIn], hvalues⟩
  · simp only [Dict.lookupIn, if_neg hk]
    exact ih

theorem SameButSecrets.eq_str_iff {v w : Value} (h : SameButSecrets v w) (s : String) :
    v = .str s <-> w = .str s := by
  constructor
  · intro hv
    subst hv
    exact h.symm
  · intro hw
    subst hw
    cases v with
    | dict entries => cases h
    | list items => cases h
    | tuple items => cases h
    | _ => exact h

/-!
## Validation
-/

theorem validateExtraEntry_alike (py : Builtins) (key : Key) {x y : Value}
    (h : isSensitiveKey key = true ∨ SameButSecrets x y) :
    validateExtraEntry py (key, x) = validateExtraEntry py (key, y) := by
  cases key with
  | other text => rfl
  | str text =>
      unfold validateExtraEntry
      dsimp only
      by_cases hblank : Text.isBlank text = true
      · rw [if_pos hblank, if_pos hblank]
      rw [if_neg hblank, if_neg hblank]
      by_cases hmentions : Text.mentionsAny sensitiveExtraParts text = true
      · rw [if_pos hmentions, if_pos hmentions]
      rw [if_neg hmentions, if_neg hmentions]
      rcases h with hsensitive | hvalues
      · exact absurd hsensitive hmentions
      · cases x with
        | dict xs =>
            cases y with
            | dict ys => rfl
            | _ => cases hvalues
        | list xs =>
            cases y with
            | list ys => rfl
            | _ => cases hvalues
        | tuple xs =>
            cases y with
            | tuple ys => rfl
            | _ => cases hvalues
        | _ => rw [hvalues.eq_of_scalar trivial]

theorem validateExtraEntries_alike (py : Builtins) {xs ys : List (Key × Value)}
    (h : SameEntries xs ys) : validateExtraEntries py xs = validateExtraEntries py ys := by
  refine SameEntries.induction rfl ?_ h
  intro key x y xs ys hvalue ih
  rw [validateExtraEntries, validateExtraEntries, validateExtraEntry_alike py key hvalue, ih]

theorem validateExtra_alike (py : Builtins) {extra extra' : Extra}
    (h : SameEntries extra.entries extra'.entries) :
    (exists e, validateExtra py (.dict extra.entries) = .error e ∧
      validateExtra py (.dict extra'.entries) = .error e) ∨
    exists out out', validateExtra py (.dict extra.entries) = .ok out ∧
      validateExtra py (.dict extra'.entries) = .ok out' ∧
      out.mapping = extra ∧ out'.mapping = extra' := by
  rcases validateExtra_dict py extra with ⟨hsize, herror⟩ | ⟨hsize, e, hchecks, herror⟩ |
    ⟨hsize, hchecks, out, hok, hout⟩
  · rcases validateExtra_dict py extra' with ⟨_, herror'⟩ | ⟨hsize', _⟩ | ⟨hsize', _⟩
    · rw [h.length_eq] at herror
      exact Or.inl ⟨_, herror, herror'⟩
    · exact absurd (h.length_eq ▸ hsize) hsize'
    · exact absurd (h.length_eq ▸ hsize) hsize'
  · rw [validateExtraEntries_alike py h] at hchecks
    rcases validateExtra_dict py extra' with ⟨hsize', _⟩ | ⟨_, e', hchecks', herror'⟩ |
      ⟨_, hchecks', _⟩
    · exact absurd (h.length_eq ▸ hsize') hsize
    · rw [hchecks] at hchecks'
      cases hchecks'
      exact Or.inl ⟨e, herror, herror'⟩
    · rw [hchecks] at hchecks'
      cases hchecks'
  · rw [validateExtraEntries_alike py h] at hchecks
    rcases validateExtra_dict py extra' with ⟨hsize', _⟩ | ⟨_, e', hchecks', _⟩ |
      ⟨_, _, out', hok', hout'⟩
    · exact absurd (h.length_eq ▸ hsize') hsize
    · rw [hchecks] at hchecks'
      cases hchecks'
    · exact Or.inr ⟨out, out', hok, hok', hout, hout'⟩

/-!
## Contexts
-/

/-- Contexts that differ only under sensitive keys of their extra metadata. -/
structure SameButSensitive (c d : GovernanceContext) : Prop where
  ids : GovernanceContext.SameIds c d
  extra : SameEntries c.extra.entries d.extra.entries

theorem sameButSensitive_refl (c : GovernanceContext) : SameButSensitive c c :=
  ⟨rfl, sameEntries_refl _⟩

theorem SameButSensitive.isEmpty_eq {c d : GovernanceContext} (h : SameButSensitive c d) :
    c.extra.entries.isEmpty = d.extra.entries.isEmpty := by
  rw [Bool.eq_iff_iff, List.isEmpty_iff_length_eq_zero, List.isEmpty_iff_length_eq_zero,
    h.extra.length_eq]

theorem SameButSensitive.safeContext_eq {c d : GovernanceContext} (h : SameButSensitive c d) :
    safeContext (some c) = safeContext (some d) := by
  apply redactEntries_congr
  have hempty := h.isEmpty_eq
  rcases h with ⟨hids, hextra⟩
  rcases c with ⟨client, agent, project, workspace, task, session, request, correlation, extra⟩
  rcases d with ⟨client', agent', project', workspace', task', session', request',
    correlation', extra'⟩
  simp only [GovernanceContext.SameIds, GovernanceContext.mk.injEq, and_true] at hids
  rcases hids with ⟨hclient, hagent, hproject, hworkspace, htask, hsession, hrequest,
    hcorrelation⟩
  subst hclient hagent hproject hworkspace htask hsession hrequest hcorrelation
  refine SameEntries.append (sameEntries_refl _) ?_
  dsimp only at hempty hextra ⊢
  rw [hempty]
  cases extra'.entries.isEmpty with
  | true => exact trivial
  | false => exact ⟨rfl, Or.inr hextra, trivial⟩

theorem SameButSensitive.withBound {asserted : IntegrationContext} {auth : AuthOutcome}
    {e e' : AcceptedExtra} (h : SameEntries e.mapping.entries e'.mapping.entries) :
    SameButSensitive (boundGovernance { asserted with extra := e } auth)
      (boundGovernance { asserted with extra := e' } auth) := by
  refine ⟨rfl, ?_⟩
  show SameEntries (boundExtra auth e.mapping).entries (boundExtra auth e'.mapping).entries
  unfold boundExtra
  cases auth.identity with
  | none => exact (h.setIn _ _).setIn _ _
  | some identity => exact (((h.setIn _ _).setIn _ _).setIn _ _).setIn _ _

theorem SameButSensitive.withAnswer {c d : GovernanceContext} (h : SameButSensitive c d)
    (result : ApprovalValidationResult) :
    SameButSensitive { c with extra := GovernanceGate.approvalExtra result c.extra }
      { d with extra := GovernanceGate.approvalExtra result d.extra } := by
  refine ⟨h.ids, ?_⟩
  show SameEntries (GovernanceGate.approvalExtra result c.extra).entries
    (GovernanceGate.approvalExtra result d.extra).entries
  unfold GovernanceGate.approvalExtra
  cases result.grant with
  | none => exact (h.extra.setIn _ _).setIn _ _
  | some grant => exact ((h.extra.setIn _ _).setIn _ _).setIn _ _

theorem postInit_alike (py : Builtins) {c d : GovernanceContext} (h : SameButSensitive c d) :
    (exists err, IntegrationContext.postInit py (rebuildArgs c) = .error err ∧
      IntegrationContext.postInit py (rebuildArgs d) = .error err) ∨
    exists (base : IntegrationContext) (e e' : AcceptedExtra),
      IntegrationContext.postInit py (rebuildArgs c) = .ok { base with extra := e } ∧
      IntegrationContext.postInit py (rebuildArgs d) = .ok { base with extra := e' } ∧
      SameEntries e.mapping.entries e'.mapping.entries := by
  have hfields : { rebuildArgs c with extra := .none } =
      { rebuildArgs d with extra := Value.none } := by
    have hids := h.ids
    simp only [GovernanceContext.SameIds, GovernanceContext.mk.injEq, and_true] at hids
    simp [rebuildArgs, hids]
  have hextra : (exists e, validateExtra py (rebuildArgs c).extra = .error e ∧
        validateExtra py (rebuildArgs d).extra = .error e) ∨
      exists out out', validateExtra py (rebuildArgs c).extra = .ok out ∧
        validateExtra py (rebuildArgs d).extra = .ok out' ∧
        SameEntries out.mapping.entries out'.mapping.entries := by
    unfold rebuildArgs
    dsimp only
    rw [h.isEmpty_eq]
    cases d.extra.entries.isEmpty with
    | true => exact Or.inr ⟨_, _, rfl, rfl, sameEntries_refl _⟩
    | false =>
        rcases validateExtra_alike py h.extra with herror | ⟨out, out', hok, hok', hout, hout'⟩
        · exact Or.inl herror
        · exact Or.inr ⟨out, out', hok, hok', by rw [hout, hout']; exact h.extra⟩
  rcases hextra with ⟨e, herror, herror'⟩ | ⟨e, e', hok, hok', hsame⟩
  · rw [IntegrationContext.postInit_extra_error hfields herror herror']
    cases hpost : IntegrationContext.postInit py (rebuildArgs d) with
    | error err => exact Or.inl ⟨err, rfl, rfl⟩
    | ok base => exact Or.inr ⟨base, base.extra, base.extra, rfl, rfl, sameEntries_refl _⟩
  · rw [IntegrationContext.postInit_extra hok, IntegrationContext.postInit_extra hok', hfields]
    cases IntegrationContext.postInit py { rebuildArgs d with extra := .none } with
    | error err => exact Or.inl ⟨err, rfl, rfl⟩
    | ok base => exact Or.inr ⟨base, e, e', rfl, rfl, hsame⟩

/-!
## Calls
-/

def ExecuteCall.withContext (call : ExecuteCall) (c : GovernanceContext) : ExecuteCall :=
  { call with context := some c }

/-- The policy does not read what stands under sensitive keys. -/
def PolicyBlind (policy : GovernancePolicy) : Prop :=
  forall tool c d, SameButSensitive c d -> policy tool (some c) = policy tool (some d)

theorem policyBlind_default : PolicyBlind DefaultConservativePolicy.evaluate := by
  intro tool c d h
  have hmark : saysGranted c.extra = saysGranted d.extra := by
    unfold saysGranted Dict.get?
    have hharmless : isSensitiveKey (Key.str "approval_status") = false := by decide
    rcases h.extra.lookupIn hharmless with ⟨hc, hd⟩ | ⟨x, y, hc, hd, hsame⟩
    · rw [hc, hd]
    · rw [hc, hd]
      simp only [Option.some.injEq, hsame.eq_str_iff]
  unfold DefaultConservativePolicy.evaluate
  rw [DefaultConservativePolicy.decisionFor_congr hmark]

namespace GovernanceGate

theorem authenticate_alike (py : Builtins) (gate : GovernanceGate) (ambient : Ambient)
    (call : ExecuteCall) {c d : GovernanceContext} (h : SameButSensitive c d) :
    (exists err, gate.authenticate py ambient (call.withContext c) = .error err ∧
      gate.authenticate py ambient (call.withContext d) = .error err) ∨
    exists b b' g g',
      gate.authenticate py ambient (call.withContext c) = .ok b ∧
      gate.authenticate py ambient (call.withContext d) = .ok b' ∧
      boundContext b (some c) = some g ∧ boundContext b' (some d) = some g' ∧
      SameButSensitive g g' := by
  cases hconfig : gate.securityConfig with
  | none =>
      refine Or.inr ⟨none, none, c, d, ?_, ?_, rfl, rfl, h⟩
      · simp [authenticate, resolveExecutionAuth, hconfig]
      · simp [authenticate, resolveExecutionAuth, hconfig]
  | some config =>
      have hsecret : effectiveSecret py ambient (call.withContext d) =
          effectiveSecret py ambient (call.withContext c) := rfl
      cases hvars : ambient.vars.assertedContext with
      | some asserted =>
          rw [authenticate_bound hconfig hvars, authenticate_bound hconfig hvars, hsecret]
          cases resolveAuthentication config (some asserted)
            (effectiveSecret py ambient (call.withContext c)) with
          | error err => exact Or.inl ⟨err, rfl, rfl⟩
          | ok bound =>
              exact Or.inr ⟨some bound, some bound, _, _, rfl, rfl, rfl, rfl,
                sameButSensitive_refl _⟩
      | none =>
          have hasserted : forall context, assertedContext py ambient (some context) none =
              (some <$> IntegrationContext.postInit py (rebuildArgs context)) := by
            intro context
            unfold assertedContext
            simp only [hvars]
            cases IntegrationContext.postInit py (rebuildArgs context) <;> rfl
          rw [authenticate_eq hconfig, authenticate_eq hconfig, hsecret,
            show (call.withContext c).context = some c from rfl,
            show (call.withContext d).context = some d from rfl, hasserted, hasserted]
          rcases postInit_alike py h with ⟨err, hc, hd⟩ | ⟨base, e, e', hc, hd, hsame⟩
          · rw [hc, hd]
            exact Or.inl ⟨err, rfl, rfl⟩
          · have hmap : forall asserted : IntegrationContext,
                (some <$> (.ok asserted : Except PyException IntegrationContext)) =
                  .ok (some asserted) := fun _ => rfl
            rw [hc, hd, hmap, hmap, ok_bind, ok_bind,
              resolveAuthentication_withExtra config base _ e,
              resolveAuthentication_withExtra config base _ e']
            cases resolveAuthentication config (some base)
              (effectiveSecret py ambient (call.withContext c)) with
            | error err => exact Or.inl ⟨err, rfl, rfl⟩
            | ok bound =>
                exact Or.inr ⟨some (bound.withExtra e), some (bound.withExtra e'), _, _, rfl, rfl,
                  rfl, rfl, SameButSensitive.withBound hsame⟩

theorem applyApproval_sameButSensitive {world : Type} (host : Host world)
    (gate : GovernanceGate) (toolName : String) (tool : ToolIdentity) {g g' : GovernanceContext}
    (h : SameButSensitive g g') (approvalToken : Option String) (s : HostState world) :
    let r := host.run (gate.applyApproval toolName tool (some g) approvalToken) s
    let r' := host.run (gate.applyApproval toolName tool (some g') approvalToken) s
    r.state = r'.state ∧
      ((exists e, r.result = .error e ∧ r'.result = .error e) ∨
        exists a a', r.result = .ok (some a) ∧ r'.result = .ok (some a') ∧
          SameButSensitive a a') := by
  intro r r'
  by_cases hpass : tool.risk ≠ .mutation ∧ approvalToken = none
  · have hr : r = ⟨.ok (some g), [], s⟩ := run_applyApproval_pass hpass toolName (some g) s
    have hr' : r' = ⟨.ok (some g'), [], s⟩ := run_applyApproval_pass hpass toolName (some g') s
    rw [hr, hr']
    exact ⟨rfl, Or.inr ⟨g, g', rfl, rfl, h⟩⟩
  cases hstore : gate.approvalStore with
  | false =>
      rw [show r = _ from run_applyApproval_no_store hpass hstore toolName (some g) s,
        show r' = _ from run_applyApproval_no_store hpass hstore toolName (some g') s]
      refine ⟨rfl, ?_⟩
      dsimp only
      by_cases htoken : tool.risk = .mutation ∧ textPresent approvalToken = true
      · rw [if_pos htoken, if_pos htoken]
        exact Or.inl ⟨_, rfl, rfl⟩
      · rw [if_neg htoken, if_neg htoken]
        exact Or.inr ⟨g, g', rfl, rfl, h⟩
  | true =>
      rw [show r = _ from run_applyApproval_consult hpass hstore toolName (some g) s,
        show r' = _ from run_applyApproval_consult hpass hstore toolName (some g') s,
        validateAndConsume_of_sameIds h.ids]
      refine ⟨rfl, ?_⟩
      dsimp only
      generalize (s.1.validateAndConsume (presentation toolName (some g') approvalToken)
        (host.clock s.2)).1 = result
      by_cases hpassed : result.status = .granted ∨ result.status = .missing
      · refine Or.inr ⟨_, _, if_pos hpassed, if_pos hpassed, h.withAnswer result⟩
      · exact Or.inl ⟨_, if_neg hpassed, if_neg hpassed⟩

theorem conclude_alike {gate : GovernanceGate} (hblind : PolicyBlind gate.policy)
    (py : Builtins) (toolName : String) {g g' : GovernanceContext} (h : SameButSensitive g g') :
    AlikeAdmissions (gate.conclude py toolName (.ok (some g)))
      (gate.conclude py toolName (.ok (some g'))) := by
  have hevaluate : gate.evaluate py toolName (some g) = gate.evaluate py toolName (some g') := by
    unfold evaluate
    simp only [hblind _ _ _ h]
  unfold conclude
  rw [ok_bind, ok_bind, hevaluate]
  cases gate.evaluate py toolName (some g') with
  | error e => exact rfl
  | ok decided => exact ⟨rfl, rfl, h.safeContext_eq⟩

theorem admission_sameButSensitive {world : Type} (host : Host world) (py : Builtins)
    {gate : GovernanceGate} (hblind : PolicyBlind gate.policy) (ambient : Ambient)
    (call : ExecuteCall) {c d : GovernanceContext} (h : SameButSensitive c d)
    (s : HostState world) :
    let a := host.run (gate.admission py ambient (call.withContext c)) s
    let a' := host.run (gate.admission py ambient (call.withContext d)) s
    AlikeAdmissions a.result a'.result ∧ a.state = a'.state := by
  intro a a'
  rw [show a = _ from run_admission host py gate ambient (call.withContext c) s,
    show a' = _ from run_admission host py gate ambient (call.withContext d) s]
  rcases authenticate_alike py gate ambient call h with
    ⟨e, hc, hd⟩ | ⟨b, b', g, g', hc, hd, hg, hg', hsame⟩
  · rw [hc, hd]
    exact ⟨rfl, rfl⟩
  rw [hc, hd]
  have hname : (call.withContext c).toolName = (call.withContext d).toolName := rfl
  have hcredentials : gate.credentials py ambient (call.withContext c) =
      gate.credentials py ambient (call.withContext d) := rfl
  rw [hname, hcredentials, show (call.withContext c).context = some c from rfl,
    show (call.withContext d).context = some d from rfl]
  cases gate.resolveTool (call.withContext d).toolName with
  | error e => exact ⟨rfl, rfl⟩
  | ok tool =>
      dsimp only
      rw [hg, hg']
      rcases applyApproval_sameButSensitive host gate (call.withContext d).toolName tool hsame
        (gate.credentials py ambient (call.withContext d)).approvalToken s with
        ⟨hstate, ⟨e, hr, hr'⟩ | ⟨x, x', hr, hr', happroved⟩⟩
      · rw [hr, hr']
        exact ⟨rfl, hstate⟩
      · rw [hr, hr']
        exact ⟨conclude_alike hblind py _ happroved, hstate⟩

end GovernanceGate

/-!
## What the recorders keep
-/

def auditEvent? : GateEvent -> Option AuditEvent
  | ⟨.record event, _⟩ => some event
  | _ => none

def auditEvents (trace : List GateEvent) : List AuditEvent :=
  trace.filterMap auditEvent?

def stamped (timestamps : List String) (trace : List GateEvent) : List StampedEvent :=
  List.zipWith AuditEvent.stamp timestamps (auditEvents trace)

def InMemoryAuditRecorder.recordAll (recorder : InMemoryAuditRecorder)
    (events : List StampedEvent) : InMemoryAuditRecorder :=
  events.foldl InMemoryAuditRecorder.record recorder

def LoggingAuditRecorder.recordAll (events : List StampedEvent) : List (List (Key × Value)) :=
  events.map LoggingAuditRecorder.record

namespace GovernanceGate

theorem auditEvents_admission {world : Type} (host : Host world) (py : Builtins)
    (gate : GovernanceGate) (ambient : Ambient) (call : ExecuteCall) (s : HostState world) :
    auditEvents (host.run (gate.admission py ambient call) s).trace = [] := by
  rw [auditEvents, List.filterMap_eq_nil_iff]
  intro entry hentry
  have hconsult := consults_of_admission (Program.emits_run_ended host.handle _ s) entry hentry
  rcases entry with ⟨op, answer⟩
  cases op with
  | consult p => rfl
  | record event => cases hconsult
  | enter args kwargs => cases hconsult
  | leave => cases hconsult

theorem execute_sameButSensitive {world : Type} (host : Host world) (py : Builtins)
    {gate : GovernanceGate} (hblind : PolicyBlind gate.policy) (ambient : Ambient)
    (call : ExecuteCall) {c d : GovernanceContext} (h : SameButSensitive c d)
    (s : HostState world) :
    let r := host.run (gate.execute py ambient (call.withContext c)) s
    let r' := host.run (gate.execute py ambient (call.withContext d)) s
    r.result = r'.result ∧ r.state = r'.state ∧ auditEvents r.trace = auditEvents r'.trace := by
  intro r r'
  rcases admission_sameButSensitive host py hblind ambient call h s with ⟨halike, hstate⟩
  have hname : (call.withContext c).toolName = (call.withContext d).toolName := rfl
  have hargs : (call.withContext c).args = (call.withContext d).args := rfl
  rcases run_execute_alike_host host hname hargs rfl halike hstate with
    ⟨hresult, hstate', rest, htrace, htrace'⟩
  refine ⟨hresult, hstate', ?_⟩
  rw [show r.trace = _ from htrace, show r'.trace = _ from htrace', auditEvents, auditEvents,
    List.filterMap_append, List.filterMap_append]
  exact congrArg (· ++ _) ((auditEvents_admission host py gate ambient _ s).trans
    (auditEvents_admission host py gate ambient _ s).symm)

/--
Redaction hides what stands under sensitive keys and nothing else; and two calls
whose contexts differ under sensitive keys only, decided by a policy that does
not read there, leave the same on both recorders.
-/
theorem redaction_indistinguishable :
    (forall v w, SameButSecrets v w -> redact v = redact w) ∧
    (forall v, redact (redact v) = redact v) ∧
    (forall v, keysOf (redact v) = keysOf v ∧
      itemsOf (redact v) = (itemsOf v).map redact ∧ (IsScalar v -> redact v = v)) ∧
    (forall v path, (forall step, step ∈ path -> step.Harmless) ->
      valueAt? (redact v) path = (valueAt? v path).map redact) ∧
    (forall (world : Type) (host : Host world) (py : Builtins) (gate : GovernanceGate),
      PolicyBlind gate.policy ->
      forall (ambient : Ambient) (call : ExecuteCall) (c d : GovernanceContext),
        SameButSensitive c d ->
        forall s : HostState world,
          let r := host.run (gate.execute py ambient (call.withContext c)) s
          let r' := host.run (gate.execute py ambient (call.withContext d)) s
          r.result = r'.result ∧ r.state = r'.state ∧
            auditEvents r.trace = auditEvents r'.trace ∧
            forall timestamps,
              (forall recorder : InMemoryAuditRecorder,
                recorder.recordAll (stamped timestamps r.trace) =
                  recorder.recordAll (stamped timestamps r'.trace)) ∧
              LoggingAuditRecorder.recordAll (stamped timestamps r.trace) =
                LoggingAuditRecorder.recordAll (stamped timestamps r'.trace)) := by
  refine ⟨redact_congr, redact_redact, ?_, ?_, ?_⟩
  · intro v
    exact ⟨keysOf_redact v, itemsOf_redact v, redact_scalar⟩
  · intro v path hharmless
    exact valueAt?_redact v hharmless
  · intro world host py gate hblind ambient call c d hsame s r r'
    rcases execute_sameButSensitive host py hblind ambient call hsame s with
      ⟨hresult, hstate, hevents⟩
    have hstamped : forall timestamps,
        stamped timestamps r.trace = stamped timestamps r'.trace := by
      intro timestamps
      rw [stamped, stamped, hevents]
    exact ⟨hresult, hstate, hevents, fun timestamps =>
      ⟨fun recorder => congrArg recorder.recordAll (hstamped timestamps),
        congrArg LoggingAuditRecorder.recordAll (hstamped timestamps)⟩⟩

end GovernanceGate

def contextWithToken (token : String) : GovernanceContext where
  agentId := some "alice"
  extra := Dict.ofEntries
    [("note", .dict [(.str "lines", .list [.int 3])]), ("db_token", .str token)]

theorem contextWithToken_same (token token' : String) :
    SameButSensitive (contextWithToken token) (contextWithToken token') := by
  have hsensitive : isSensitiveKey (Key.str "db_token") = true := by decide
  exact ⟨rfl, rfl, Or.inr (sameButSecrets_refl _), rfl, Or.inl hsensitive, trivial⟩

namespace GovernanceGate

theorem redaction_indistinguishable_status :
    let run := fun token => quietHost.run (openGate.execute plainBuiltins
      ⟨fun _ => none, {}⟩ (ExecuteCall.withContext { toolName := "status" }
        (contextWithToken token))) (InMemoryApprovalStore.empty, ())
    contextWithToken "x" ≠ contextWithToken "y" ∧
      (auditEvents (run "x").trace).length = 3 ∧
      auditEvents (run "x").trace = auditEvents (run "y").trace :=
  ⟨by decide, by decide +kernel,
    (redaction_indistinguishable.2.2.2.2 Unit quietHost plainBuiltins openGate
      policyBlind_default ⟨fun _ => none, {}⟩ { toolName := "status" } _ _
      (contextWithToken_same "x" "y") (InMemoryApprovalStore.empty, ())).2.2.1⟩

/-- A policy may read what the redactor hides, and then the decision on record tells. -/
def tokenReadingPolicy : GovernancePolicy :=
  fun _ context =>
    .ok (.decision (if (context.bind fun c => c.extra.get? "db_token") = some (.str "x")
      then .allow else .deny))

theorem token_reading_policy_tells :
    let gate := { openGate with policy := tokenReadingPolicy }
    let run := fun token => quietHost.run (gate.execute plainBuiltins ⟨fun _ => none, {}⟩
      (ExecuteCall.withContext { toolName := "status" } (contextWithToken token)))
      (InMemoryApprovalStore.empty, ())
    SameButSensitive (contextWithToken "x") (contextWithToken "y") ∧
      auditEvents (run "x").trace ≠ auditEvents (run "y").trace ∧
      (InMemoryAuditRecorder.mk []).recordAll (stamped ["0", "1", "2"] (run "x").trace) ≠
        (InMemoryAuditRecorder.mk []).recordAll (stamped ["0", "1", "2"] (run "y").trace) ∧
      LoggingAuditRecorder.recordAll (stamped ["0", "1", "2"] (run "x").trace) ≠
        LoggingAuditRecorder.recordAll (stamped ["0", "1", "2"] (run "y").trace) := by
  refine ⟨contextWithToken_same "x" "y", by decide +kernel, ?_, by decide +kernel⟩
  intro h
  have hevents := congrArg InMemoryAuditRecorder.events h
  revert hevents
  decide +kernel

end GovernanceGate

end YasinMcp
