import YasinMcp.Governance.Escalation
import YasinMcp.Governance.Evidence

/-!
# From a caller's context to the audit trail

A context reaches a call bound to its request, or rebuilt from the governance
context that was passed.  Both routes bind alike, and the audit trail shows the
identifiers and the metadata of the context as they were accepted, but for the
keys that the server writes itself.
-/

namespace YasinMcp

open Foundation

/-!
## Decoded values
-/

mutual

/-- Values a JSON text can denote: no tuples, and strings as keys. -/
def IsJson : Value -> Prop
  | .list items => IsJsonItems items
  | .tuple _ => False
  | .dict entries => IsJsonEntries entries
  | _ => True

def IsJsonItems : List Value -> Prop
  | [] => True
  | item :: rest => IsJson item ∧ IsJsonItems rest

def IsJsonEntries : List (Key × Value) -> Prop
  | [] => True
  | (key, item) :: rest => (exists name, key = .str name) ∧ IsJson item ∧ IsJsonEntries rest

end

theorem isJson_of_mem {entries : List (Key × Value)} (h : IsJsonEntries entries)
    {key : Key} {item : Value} (hmem : (key, item) ∈ entries) : IsJson item := by
  induction entries with
  | nil => cases hmem
  | cons entry rest ih =>
      rcases entry with ⟨other, value⟩
      rcases List.mem_cons.mp hmem with hhead | hrest
      · cases hhead
        exact h.2.1
      · exact ih h.2.2 hrest

/-!
## Validating again
-/

namespace IntegrationContext

theorem asserted_not_trusted : TrustClassification.asserted ≠ .trusted := by
  decide

/-- The context as a caller's: what it claimed about trust is dropped. -/
def asAsserted (c : IntegrationContext) : IntegrationContext :=
  { c with trust := .asserted, not_trusted := asserted_not_trusted }

theorem postInit_again (py : Builtins) (c : IntegrationContext) :
    postInit py (rebuildArgs c.toGovernanceContext) = .ok c.asAsserted := by
  have hextra := validateExtra_rebuildArgs py (c := c.toGovernanceContext) (e := c.extra) rfl
  unfold postInit
  rw [hextra]
  simp only [rebuildArgs, toGovernanceContext, validateOptionalId_identifier, ok_bind]
  rfl

end IntegrationContext

/-!
## Metadata that stays as it is
-/

/-- Metadata keys whose values are the server's to write. -/
def serverOwnedKeys : List String :=
  serverKeys ++ ["approval_status", "approval_reason", "approval_id"]

theorem serverValue_of_not_mem (auth : AuthOutcome) {name : String} (h : name ∉ serverKeys) :
    serverValue auth name = none := by
  simp only [serverKeys, List.mem_cons, List.not_mem_nil, or_false, not_or] at h
  simp [serverValue, h]

theorem get?_approvalExtra_of_not_mem (result : ApprovalValidationResult) (extra : Extra)
    {name : String} (h : name ∉ serverOwnedKeys) :
    (GovernanceGate.approvalExtra result extra).get? name = extra.get? name := by
  simp only [serverOwnedKeys, serverKeys, List.mem_append, List.mem_cons, List.not_mem_nil,
    or_false, not_or] at h
  rcases h with ⟨_, hstatus, hreason, hid⟩
  unfold GovernanceGate.approvalExtra
  cases result.grant with
  | none => simp [Dict.get?_set, Ne.symm hstatus, Ne.symm hreason]
  | some grant => simp [Dict.get?_set, Ne.symm hstatus, Ne.symm hreason, Ne.symm hid]

/-- No key that validation accepts is one the redactor masks. -/
theorem isSensitiveKey_of_accepted {e : AcceptedExtra} {key : Key} {v : Value}
    (h : e.mapping.get? key = some v) : isSensitiveKey key = false := by
  have haccepted := e.accepted _ (Dict.mem_of_get? h)
  cases key with
  | other text => cases haccepted
  | str name =>
      simp only [entryAccepted, Bool.and_eq_true, Bool.not_eq_true'] at haccepted
      exact haccepted.1.2

theorem isScalar_of_accepted {e : AcceptedExtra} {key : Key} {v : Value}
    (h : e.mapping.get? key = some v) (hjson : IsJson v) : IsScalar v := by
  have haccepted := e.accepted _ (Dict.mem_of_get? h)
  cases key with
  | other text => cases haccepted
  | str name =>
      cases v with
      | dict entries => simp [entryAccepted] at haccepted
      | list items => simp [entryAccepted] at haccepted
      | tuple items => exact hjson
      | _ => trivial

/-!
## What is on record
-/

def idFields (c : IntegrationContext) : List (String × Option Identifier) :=
  [("client_id", c.clientId), ("agent_id", c.agentId), ("project_id", c.projectId),
    ("workspace_id", c.workspaceId), ("task_id", c.taskId), ("session_id", c.sessionId),
    ("request_id", c.requestId), ("correlation_id", c.correlationId)]

/-- The event shows the context unchanged, but for what the server writes itself. -/
structure AuditEvent.Carries (event : AuditEvent) (c : IntegrationContext) : Prop where
  ids : forall field, field ∈ idFields c ->
    Dict.lookupIn (Key.str field.1) event.context = field.2.map fun id => .str id.text
  extra : forall name, name ∉ serverOwnedKeys ->
    event.extraEntry? (Key.str name) = c.extra.mapping.get? (Key.str name)
  /-- The recorders redact once more, and change nothing. -/
  kept : redactEntries event.context = event.context

theorem lookupIn_idEntries_of_not_mem {fields : List (String × Option String)} {name : String}
    (h : name ∉ fields.map Prod.fst) (rest : List (Key × Value)) :
    Dict.lookupIn (Key.str name)
        (fields.flatMap (fun f => GovernanceContext.idEntry f.1 f.2) ++ rest) =
      Dict.lookupIn (Key.str name) rest := by
  induction fields with
  | nil => rfl
  | cons first later ih =>
      rw [List.map_cons, List.mem_cons, not_or] at h
      have hne : Key.str first.1 ≠ Key.str name := fun hsame => h.1 (Key.str.inj hsame).symm
      rw [List.flatMap_cons, List.append_assoc, lookupIn_idEntry_append, if_neg hne, ih h.2]

theorem lookupIn_idEntries {fields : List (String × Option String)}
    (hnodup : (fields.map Prod.fst).Nodup) {name : String} {value : Option String}
    (h : (name, value) ∈ fields) (rest : List (Key × Value)) :
    Dict.lookupIn (Key.str name)
        (fields.flatMap (fun f => GovernanceContext.idEntry f.1 f.2) ++ rest) =
      (value.map .str).or (Dict.lookupIn (Key.str name) rest) := by
  induction fields with
  | nil => cases h
  | cons first later ih =>
      rw [List.map_cons, List.nodup_cons] at hnodup
      rw [List.flatMap_cons, List.append_assoc, lookupIn_idEntry_append]
      rcases List.mem_cons.mp h with hhead | hlater
      · subst hhead
        rw [if_pos rfl, lookupIn_idEntries_of_not_mem hnodup.1]
      · have hne : Key.str first.1 ≠ Key.str name := by
          intro hsame
          apply hnodup.1
          rw [Key.str.inj hsame]
          exact List.mem_map_of_mem (f := Prod.fst) hlater
        rw [if_neg hne]
        exact ih hnodup.2 hlater

def idNames : List String :=
  ["client_id", "agent_id", "project_id", "workspace_id", "task_id", "session_id",
    "request_id", "correlation_id"]

theorem idFields_names (c : IntegrationContext) : (idFields c).map Prod.fst = idNames := rfl

theorem lookupIn_asDict_id {g : GovernanceContext} {c : IntegrationContext}
    (h : GovernanceContext.SameIds g c.toGovernanceContext)
    {field : String × Option Identifier} (hfield : field ∈ idFields c) :
    Dict.lookupIn (Key.str field.1) g.asDict = field.2.map fun id => .str id.text := by
  have hdict : g.asDict =
      ((idFields c).map fun f => (f.1, f.2.map Identifier.text)).flatMap
        (fun f => GovernanceContext.idEntry f.1 f.2) ++
        (if g.extra.entries.isEmpty then [] else [(.str "extra", .dict g.extra.entries)]) := by
    simp only [GovernanceContext.SameIds, GovernanceContext.mk.injEq, and_true,
      IntegrationContext.toGovernanceContext] at h
    simp [GovernanceContext.asDict, idFields, h]
  have hname : field.1 ∈ idNames := by
    rw [← idFields_names c]
    exact List.mem_map_of_mem (f := Prod.fst) hfield
  have hnotExtra : Dict.lookupIn (Key.str field.1)
      (if g.extra.entries.isEmpty then []
        else [(.str "extra", Value.dict g.extra.entries)]) = none := by
    have hne : forall name, name ∈ idNames -> Key.str "extra" ≠ Key.str name := by decide
    cases g.extra.entries.isEmpty with
    | true => rfl
    | false => simp [Dict.lookupIn, hne field.1 hname]
  have hmem : (field.1, field.2.map Identifier.text) ∈
      (idFields c).map fun f => (f.1, f.2.map Identifier.text) := List.mem_map_of_mem hfield
  have hnodup : (((idFields c).map fun f => (f.1, f.2.map Identifier.text)).map
      Prod.fst).Nodup := by
    rw [List.map_map]
    exact (by decide : idNames.Nodup)
  rw [hdict, lookupIn_idEntries hnodup hmem, hnotExtra, Option.or_none, Option.map_map]
  rfl

theorem not_sensitive_of_idFields {c : IntegrationContext}
    {field : String × Option Identifier} (hfield : field ∈ idFields c) :
    isSensitiveKey (Key.str field.1) = false := by
  have hname : field.1 ∈ idNames := by
    rw [← idFields_names c]
    exact List.mem_map_of_mem (f := Prod.fst) hfield
  have hnames : forall name, name ∈ idNames -> isSensitiveKey (Key.str name) = false := by decide
  exact hnames field.1 hname

theorem carries_of_context {event : AuditEvent} {c : IntegrationContext}
    {g : GovernanceContext} (hevent : event.context = safeContext (some g))
    (hids : GovernanceContext.SameIds g c.toGovernanceContext)
    (hextra : forall name, name ∉ serverOwnedKeys ->
      g.extra.get? (Key.str name) = c.extra.mapping.get? (Key.str name))
    (hjson : forall key v, c.extra.mapping.get? key = some v -> IsJson v) :
    event.Carries c := by
  constructor
  · intro field hfield
    rw [hevent, safeContext, lookupIn_redactEntries, lookupIn_asDict_id hids hfield,
      not_sensitive_of_idFields hfield]
    cases field.2 <;> rfl
  · intro name hname
    rw [extraEntry?_of_context hevent, shownEntry, Option.bind_some, hextra name hname]
    cases hentry : c.extra.mapping.get? (Key.str name) with
    | none => rfl
    | some v =>
        rw [Option.map_some, isSensitiveKey_of_accepted hentry]
        exact congrArg some (redact_scalar (isScalar_of_accepted hentry (hjson _ v hentry)))
  · rw [hevent]
    exact redactEntries_redactEntries g.asDict

/-!
## Two routes into a call
-/

/-- The context is bound to the request, or passed when nothing is bound. -/
def BringsContext (ambient : Ambient) (call : ExecuteCall) (c : IntegrationContext) : Prop :=
  ambient.vars.assertedContext = some c ∨
    (ambient.vars.assertedContext = none ∧ call.context = some c.toGovernanceContext)

namespace GovernanceGate

theorem authenticate_of_brings {gate : GovernanceGate} {config : ServerConfig}
    (hconfig : gate.securityConfig = some config) (py : Builtins) {ambient : Ambient}
    {call : ExecuteCall} {c : IntegrationContext} (h : BringsContext ambient call c) :
    (exists e, resolveAuthentication config (some c) (effectiveSecret py ambient call) = .error e ∧
      gate.authenticate py ambient call = .error e) ∨
    exists auth b,
      resolveAuthentication config (some c) (effectiveSecret py ambient call) =
        .ok ⟨c, auth, boundGovernance c auth⟩ ∧
      gate.authenticate py ambient call = .ok (some b) ∧
      b.governance = boundGovernance c auth := by
  have hbinds : forall bound,
      resolveAuthentication config (some c) (effectiveSecret py ambient call) = .ok bound ->
        bound = ⟨c, bound.auth, boundGovernance c bound.auth⟩ := by
    intro bound hbound
    rcases resolveAuthentication_ok hbound with ⟨hasserted, hgovernance, _⟩
    have hc : bound.asserted = c := hasserted
    rcases bound with ⟨asserted, auth, governance⟩
    subst hc
    rw [show governance = _ from hgovernance]
  rcases h with hvars | ⟨hvars, hcontext⟩
  · rw [authenticate_bound hconfig hvars]
    cases hresult : resolveAuthentication config (some c) (effectiveSecret py ambient call) with
    | error e => exact Or.inl ⟨e, rfl, rfl⟩
    | ok bound =>
        rw [hbinds bound hresult]
        exact Or.inr ⟨bound.auth, _, rfl, rfl, rfl⟩
  · have hasserted : assertedContext py ambient call.context none = .ok (some c.asAsserted) := by
      unfold assertedContext
      simp only [hvars, hcontext, IntegrationContext.postInit_again, ok_bind]
    rw [authenticate_eq hconfig, hasserted, ok_bind,
      show resolveAuthentication config (some c.asAsserted) (effectiveSecret py ambient call) = _
        from resolveAuthentication_map (f := IntegrationContext.asAsserted) (fun _ => rfl)
          (fun _ => rfl) config c _]
    cases hresult : resolveAuthentication config (some c) (effectiveSecret py ambient call) with
    | error e => exact Or.inl ⟨e, rfl, rfl⟩
    | ok bound =>
        rw [hbinds bound hresult]
        exact Or.inr ⟨bound.auth, _, rfl, rfl, rfl⟩

theorem context_of_admission {world : Type} {host : Host world} {py : Builtins}
    {gate : GovernanceGate} {ambient : Ambient} {call : ExecuteCall} {s : HostState world}
    {admission : Admission}
    (h : (host.run (gate.admission py ambient call) s).result = .ok admission) :
    exists bound tool,
      gate.authenticate py ambient call = .ok bound ∧
      (host.run (gate.applyApproval call.toolName tool (boundContext bound call.context)
        (gate.credentials py ambient call).approvalToken) s).result = .ok admission.context := by
  rw [run_admission] at h
  cases hauth : gate.authenticate py ambient call with
  | error e =>
      rw [hauth] at h
      cases h
  | ok bound =>
      cases htool : gate.resolveTool call.toolName with
      | error e =>
          rw [hauth, htool] at h
          cases h
      | ok tool =>
          simp only [hauth, htool] at h
          rcases bind_eq_ok h with ⟨context, happroval, hconclude⟩
          rcases bind_eq_ok hconclude with ⟨decided, _, hadmission⟩
          cases hadmission
          exact ⟨bound, tool, rfl, happroval⟩

theorem approved_of_applyApproval {world : Type} {host : Host world} {gate : GovernanceGate}
    {toolName : String} {tool : ToolIdentity} {context approved : Option GovernanceContext}
    {approvalToken : Option String} {s : HostState world}
    (h : (host.run (gate.applyApproval toolName tool context approvalToken) s).result =
      .ok approved) :
    approved = context ∨
      exists result, approved = some { context.getD {} with
        extra := approvalExtra result (context.getD {}).extra } := by
  by_cases hpass : tool.risk ≠ .mutation ∧ approvalToken = none
  · rw [run_applyApproval_pass hpass] at h
    cases h
    exact Or.inl rfl
  cases hstore : gate.approvalStore with
  | false =>
      rw [run_applyApproval_no_store hpass hstore] at h
      dsimp only at h
      split at h
      · cases h
      · cases h
        exact Or.inl rfl
  | true =>
      rw [run_applyApproval_consult hpass hstore] at h
      exact Or.inr ⟨_, (shown_of_approvedContext h).2⟩

/-- Every audit event of the call shows the context, by whichever route it came. -/
theorem carries_of_recorded {gate : GovernanceGate} {config : ServerConfig}
    (hconfig : gate.securityConfig = some config) {py : Builtins} {ambient : Ambient}
    {call : ExecuteCall} {c : IntegrationContext} (hbrings : BringsContext ambient call c)
    (hjson : forall key v, c.extra.mapping.get? key = some v -> IsJson v)
    {world : Type} {host : Host world} {s : HostState world} {event : AuditEvent}
    {answer : Except PyException Unit}
    (h : ⟨.record event, answer⟩ ∈ (host.run (gate.execute py ambient call) s).trace) :
    event.Carries c := by
  rcases context_of_recorded h with ⟨admission, hadmission, hevent⟩
  rcases context_of_admission hadmission with ⟨bound, tool, hauth, happroval⟩
  rcases authenticate_of_brings hconfig py hbrings with
    ⟨e, _, herror⟩ | ⟨auth, b, _, hok, hgovernance⟩
  · rw [hauth] at herror
    cases herror
  rw [hauth, Except.ok.injEq] at hok
  subst hok
  rw [show boundContext (some b) call.context = some (boundGovernance c auth) from
    congrArg some hgovernance] at happroval
  have hbound : forall name, name ∉ serverOwnedKeys ->
      (boundGovernance c auth).extra.get? (Key.str name) =
        c.extra.mapping.get? (Key.str name) := by
    intro name hname
    have hnotServer : name ∉ serverKeys := fun hmem => hname (List.mem_append_left _ hmem)
    show (boundExtra auth c.extra.mapping).get? name = _
    rw [get?_boundExtra, serverValue_of_not_mem auth hnotServer]
  rcases approved_of_applyApproval happroval with hcontext | ⟨result, hcontext⟩
  · rw [hcontext] at hevent
    exact carries_of_context hevent rfl hbound hjson
  · rw [hcontext] at hevent
    refine carries_of_context hevent rfl ?_ hjson
    intro name hname
    exact (get?_approvalExtra_of_not_mem result _ hname).trans (hbound name hname)

/-- However two calls with the same credential bring a context, the same one is bound. -/
theorem governance_of_brings {gate : GovernanceGate} {config : ServerConfig}
    (hconfig : gate.securityConfig = some config) (py : Builtins) {c : IntegrationContext}
    {ambient ambient' : Ambient} {call call' : ExecuteCall}
    (hbrings : BringsContext ambient call c) (hbrings' : BringsContext ambient' call' c)
    (hsecret : effectiveSecret py ambient call = effectiveSecret py ambient' call') :
    (exists e, gate.authenticate py ambient call = .error e ∧
      gate.authenticate py ambient' call' = .error e) ∨
    exists b b', gate.authenticate py ambient call = .ok (some b) ∧
      gate.authenticate py ambient' call' = .ok (some b') ∧ b.governance = b'.governance := by
  rcases authenticate_of_brings hconfig py hbrings with
    ⟨e, hresolve, herror⟩ | ⟨auth, b, hresolve, hok, hgovernance⟩
  · rcases authenticate_of_brings hconfig py hbrings' with
      ⟨e', hresolve', herror'⟩ | ⟨auth', b', hresolve', _⟩
    · rw [← hsecret, hresolve] at hresolve'
      cases hresolve'
      exact Or.inl ⟨e, herror, herror'⟩
    · rw [← hsecret, hresolve] at hresolve'
      cases hresolve'
  · rcases authenticate_of_brings hconfig py hbrings' with
      ⟨e', hresolve', _⟩ | ⟨auth', b', hresolve', hok', hgovernance'⟩
    · rw [← hsecret, hresolve] at hresolve'
      cases hresolve'
    · rw [← hsecret, hresolve] at hresolve'
      cases hresolve'
      exact Or.inr ⟨b, b', hok, hok', hgovernance.trans hgovernance'.symm⟩

/--
A context accepted from decoded JSON reaches the audit trail losslessly.  Both
routes into a call bind alike, every audit event of either shows the context as it
was accepted, it would be accepted again, and none of its keys is masked.
-/
theorem context_lossless (py : Builtins) {pairs : List (Key × Value)}
    (hjson : IsJson (.dict pairs)) {c : IntegrationContext}
    (hc : IntegrationContext.fromMapping py (.dict pairs) = .ok c) :
    (forall (gate : GovernanceGate) (config : ServerConfig),
      gate.securityConfig = some config ->
      forall (ambient ambient' : Ambient) (call call' : ExecuteCall),
        ambient.vars.assertedContext = some c ->
        ambient'.vars.assertedContext = none -> call'.context = some c.toGovernanceContext ->
        effectiveSecret py ambient call = effectiveSecret py ambient' call' ->
        (exists e, gate.authenticate py ambient call = .error e ∧
          gate.authenticate py ambient' call' = .error e) ∨
        exists b b', gate.authenticate py ambient call = .ok (some b) ∧
          gate.authenticate py ambient' call' = .ok (some b') ∧
          b.governance = b'.governance) ∧
    (forall (gate : GovernanceGate) (config : ServerConfig),
      gate.securityConfig = some config ->
      forall (ambient : Ambient) (call : ExecuteCall), BringsContext ambient call c ->
        forall (world : Type) (host : Host world) (s : HostState world) event answer,
          ⟨.record event, answer⟩ ∈ (host.run (gate.execute py ambient call) s).trace ->
            event.Carries c) ∧
    IntegrationContext.postInit py (rebuildArgs c.toGovernanceContext) = .ok c.asAsserted ∧
    (forall key v, c.extra.mapping.get? key = some v ->
      isSensitiveKey key = false ∧ redact v = v) := by
  have hentries : forall key v, c.extra.mapping.get? key = some v -> IsJson v := by
    intro key v hv
    rcases IntegrationContext.mem_of_fromMapping hc hv with ⟨entries, hextra, hmem⟩
    exact isJson_of_mem (show IsJsonEntries entries from isJson_of_mem hjson hextra) hmem
  refine ⟨?_, ?_, IntegrationContext.postInit_again py c, ?_⟩
  · intro gate config hconfig ambient ambient' call call' hvars hvars' hcontext hsecret
    exact governance_of_brings hconfig py (Or.inl hvars) (Or.inr ⟨hvars', hcontext⟩) hsecret
  · intro gate config hconfig ambient call hbrings world host s event answer h
    exact carries_of_recorded hconfig hbrings hentries h
  · intro key v hv
    exact ⟨isSensitiveKey_of_accepted hv,
      redact_scalar (isScalar_of_accepted hv (hentries key v hv))⟩

end GovernanceGate

def operatorPairs : List (Key × Value) :=
  [("agent_id", .str " local-operator "),
    ("extra", .dict [("team", .str "red"), ("auth_status", .str "root")])]

def operatorContext : IntegrationContext :=
  { IntegrationContext.default with
    agentId := some ⟨"local-operator", by decide⟩
    extra := ⟨Dict.ofEntries [("team", .str "red"), ("auth_status", .str "root")], by decide,
      by decide⟩ }

namespace GovernanceGate

theorem context_lossless_status :
    exists event answer,
      ⟨.record event, answer⟩ ∈ (quietHost.run (statusGate.execute plainBuiltins
        ⟨fun _ => none, { assertedContext := some operatorContext }⟩ statusCall)
        (InMemoryApprovalStore.empty, ())).trace ∧
      event.Carries operatorContext ∧ event.extraEntry? "team" = some (.str "red") := by
  have hjson : IsJson (.dict operatorPairs) :=
    ⟨⟨_, rfl⟩, trivial, ⟨_, rfl⟩, ⟨⟨_, rfl⟩, trivial, ⟨_, rfl⟩, trivial, trivial⟩, trivial⟩
  have hc : IntegrationContext.fromMapping plainBuiltins (.dict operatorPairs) =
      .ok operatorContext := by
    decide +kernel
  have hcarries := (context_lossless plainBuiltins hjson hc).2.1 statusGate lockedConfig rfl
    ⟨fun _ => none, { assertedContext := some operatorContext }⟩ statusCall (Or.inl rfl) Unit
    quietHost (InMemoryApprovalStore.empty, ()) _ (.ok ()) List.mem_cons_self
  refine ⟨_, _, List.mem_cons_self, hcarries, ?_⟩
  rw [hcarries.extra "team" (by decide)]
  decide

end GovernanceGate

end YasinMcp
