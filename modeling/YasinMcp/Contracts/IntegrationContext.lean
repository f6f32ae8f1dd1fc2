import Mathlib.Data.List.Sort
import YasinMcp.Governance.Types

/-!
# Integration context

The validated, asserted context a caller may attach to a request.  Validation is
carried by the types: an identifier matches the identifier pattern, an accepted
mapping has short scalar values under harmless keys, and no context asserts
trust.
-/

namespace YasinMcp

open Foundation

def maxIdLength : Nat := 128
def maxExtraKeys : Nat := 16
def maxExtraValueLength : Nat := 256

def sensitiveExtraParts : List String :=
  ["token", "secret", "password", "passwd", "authorization", "api_key", "apikey",
    "credential"]

inductive TrustClassification where
  | asserted
  | trusted
  | unresolved
deriving DecidableEq, Repr

namespace TrustClassification

def value : TrustClassification -> String
  | .asserted => "asserted"
  | .trusted => "trusted"
  | .unresolved => "unresolved"

def ofValue? (s : String) : Option TrustClassification :=
  [asserted, trusted, unresolved].find? fun trust => trust.value = s

end TrustClassification

/-!
## Identifiers
-/

def isIdStart (c : Char) : Bool :=
  c.isAlphanum

def isIdPart (c : Char) : Bool :=
  c.isAlphanum || "._:@+/-".toList.contains c

/--
The identifier pattern.  Its end anchor would also match before a final line
break, which a stripped string does not have.
-/
def matchesIdRe (s : String) : Bool :=
  match s.toList with
  | [] => false
  | c :: rest => isIdStart c && decide (rest.length ≤ 127) && rest.all isIdPart

structure Identifier where
  text : String
  matches_re : matchesIdRe text = true
deriving DecidableEq

def validateOptionalId (name : String) (value : Value) :
    Except PyException (Option Identifier) :=
  match value with
  | .none => .ok none
  | .str s =>
      let stripped := Text.strip s
      if stripped = "" then
        .error (validationError (name ++ " must not be empty or whitespace")
          [("field", .str name)])
      else if maxIdLength < stripped.length then
        .error (validationError (name ++ " exceeds maximum length 128")
          [("field", .str name), ("length", .int stripped.length)])
      else if h : matchesIdRe stripped = true then .ok (some ⟨stripped, h⟩)
      else
        .error (validationError (name ++ " contains invalid characters")
          [("field", .str name)])
  | other =>
      .error (validationError (name ++ " must be a string or null")
        [("field", .str name), ("type", .str other.typeName)])

theorem isSpace_of_isIdPart {c : Char} (h : isIdPart c = true) : Text.isSpace c = false := by
  apply Text.isSpace_of_printable
  rw [isIdPart, Bool.or_eq_true] at h
  rcases h with halnum | hmark
  · exact Text.toNat_of_isAlphanum halnum
  · have hmarks : "._:@+/-".toList.all (fun d => 32 < d.toNat ∧ d.toNat < 127) = true := by decide
    have hc := List.all_eq_true.mp hmarks c (List.elem_iff.mp hmark)
    rwa [decide_eq_true_eq] at hc

namespace Identifier

theorem isIdPart_of_mem (id : Identifier) {c : Char} (h : c ∈ id.text.toList) :
    isIdPart c = true := by
  have hmatches := id.matches_re
  unfold matchesIdRe at hmatches
  cases htext : id.text.toList with
  | nil =>
      rw [htext] at h
      cases h
  | cons first rest =>
      rw [htext] at h hmatches
      simp only [Bool.and_eq_true, List.all_eq_true] at hmatches
      rcases List.mem_cons.mp h with hfirst | hrest
      · subst hfirst
        rw [isIdPart, show c.isAlphanum = true from hmatches.1.1, Bool.true_or]
      · exact hmatches.2 c hrest

theorem length_le (id : Identifier) : id.text.length ≤ maxIdLength := by
  have hmatches := id.matches_re
  unfold matchesIdRe at hmatches
  rw [← String.length_toList]
  cases htext : id.text.toList with
  | nil => exact Nat.zero_le _
  | cons first rest =>
      rw [htext] at hmatches
      simp only [Bool.and_eq_true, decide_eq_true_eq] at hmatches
      exact Nat.succ_le_succ hmatches.1.2

theorem ne_empty (id : Identifier) : id.text ≠ "" := by
  intro hempty
  have hmatches := id.matches_re
  rw [hempty] at hmatches
  cases hmatches

end Identifier

theorem validateOptionalId_identifier (name : String) (id : Option Identifier) :
    validateOptionalId name (Value.ofOption (id.map Identifier.text)) = .ok id := by
  cases id with
  | none => rfl
  | some id =>
      have hstrip : Text.strip id.text = id.text :=
        Text.strip_eq_self fun c hc => isSpace_of_isIdPart (id.isIdPart_of_mem hc)
      simp [validateOptionalId, Value.ofOption, hstrip, id.ne_empty, Nat.not_lt.mpr id.length_le,
        id.matches_re]

/-!
## Extra metadata
-/

def validateExtraEntry (py : Builtins) (entry : Key × Value) : Except PyException Unit :=
  match entry.1 with
  | .other text =>
      .error (validationError "extra keys must be non-empty strings"
        [("key", .str (String.ofList (text.toList.take 64)))])
  | .str key =>
      if Text.isBlank key = true then
        .error (validationError "extra keys must be non-empty strings"
          [("key", .str (String.ofList (key.toList.take 64)))])
      else if Text.mentionsAny sensitiveExtraParts key = true then
        .error (validationError "extra must not contain sensitive key names"
          [("key", .str key)])
      else
        match entry.2 with
        | .str s =>
            if maxExtraValueLength < s.length then
              .error (validationError
                ("extra[" ++ py.repr (.str key) ++ "] value exceeds maximum length")
                [("key", .str key), ("length", .int s.length)])
            else .ok ()
        | .dict _ | .list _ =>
            .error (validationError ("extra[" ++ py.repr (.str key) ++ "] must be a scalar")
              [("key", .str key)])
        | _ => .ok ()

def entryAccepted (entry : Key × Value) : Bool :=
  match entry.1 with
  | .other _ => false
  | .str key =>
      !Text.isBlank key && !Text.mentionsAny sensitiveExtraParts key &&
        match entry.2 with
        | .str s => decide (s.length ≤ maxExtraValueLength)
        | .dict _ | .list _ => false
        | _ => true

theorem validateExtraEntry_isOk_iff (py : Builtins) (entry : Key × Value) :
    validateExtraEntry py entry = .ok () <-> entryAccepted entry = true := by
  rcases entry with ⟨key, value⟩
  cases key with
  | other text => simp [validateExtraEntry, entryAccepted]
  | str key =>
      cases hblank : Text.isBlank key with
      | true => simp [validateExtraEntry, entryAccepted, hblank]
      | false =>
          cases hpart : Text.mentionsAny sensitiveExtraParts key with
          | true => simp [validateExtraEntry, entryAccepted, hblank, hpart]
          | false =>
              cases value <;>
                simp [validateExtraEntry, entryAccepted, hblank, hpart]

def validateExtraEntries (py : Builtins) : List (Key × Value) -> Except PyException Unit
  | [] => .ok ()
  | entry :: rest => do
      validateExtraEntry py entry
      validateExtraEntries py rest

theorem validateExtraEntries_isOk_iff (py : Builtins) (entries : List (Key × Value)) :
    validateExtraEntries py entries = .ok () <->
      forall entry, entry ∈ entries -> entryAccepted entry = true := by
  induction entries with
  | nil => simp [validateExtraEntries]
  | cons first rest ih =>
      rw [validateExtraEntries, List.forall_mem_cons, ← ih,
        ← validateExtraEntry_isOk_iff py first]
      cases hfirst : validateExtraEntry py first with
      | error e => simp [bind, Except.bind]
      | ok value => simp [bind, Except.bind]

/-- A mapping the validation accepts. -/
structure AcceptedExtra where
  mapping : Extra
  size_le : mapping.entries.length ≤ maxExtraKeys
  accepted : forall entry, entry ∈ mapping.entries -> entryAccepted entry = true
deriving DecidableEq

def AcceptedExtra.empty : AcceptedExtra :=
  ⟨Dict.empty, Nat.zero_le _, by simp [Dict.empty]⟩

/-- The accepted mapping is a copy: it has the entries of the argument. -/
def validateExtra (py : Builtins) (extra : Value) : Except PyException AcceptedExtra :=
  match extra with
  | .none => .ok AcceptedExtra.empty
  | .dict entries =>
      let mapping : Extra := Dict.ofEntries entries
      if hsize : maxExtraKeys < mapping.entries.length then
        .error (validationError "extra may contain at most 16 keys"
          [("count", .int mapping.entries.length)])
      else
        match hchecks : validateExtraEntries py mapping.entries with
        | .error e => .error e
        | .ok () =>
            .ok ⟨mapping, Nat.le_of_not_lt hsize,
              (validateExtraEntries_isOk_iff py mapping.entries).mp hchecks⟩
  | other =>
      .error (validationError "extra must be a mapping" [("type", .str other.typeName)])

theorem mapping_of_validateExtra {py : Builtins} {entries : List (Key × Value)}
    {out : AcceptedExtra} (h : validateExtra py (.dict entries) = .ok out) :
    out.mapping = Dict.ofEntries entries := by
  simp only [validateExtra] at h
  split at h
  · cases h
  · split at h
    · cases h
    · cases h
      rfl

theorem validateExtra_ok {py : Builtins} {extra : Extra} {out : AcceptedExtra}
    (h : validateExtra py (.dict extra.entries) = .ok out) : out.mapping = extra := by
  rw [mapping_of_validateExtra h, Dict.ofEntries_self]

theorem validateExtra_none (py : Builtins) :
    validateExtra py .none = .ok AcceptedExtra.empty := rfl

theorem validateExtra_accepted (py : Builtins) (e : AcceptedExtra) :
    validateExtra py (.dict e.mapping.entries) = .ok e := by
  cases h : validateExtra py (.dict e.mapping.entries) with
  | ok out =>
      have hmapping := validateExtra_ok h
      cases e
      cases out
      cases hmapping
      rfl
  | error err =>
      have hchecks := (validateExtraEntries_isOk_iff py e.mapping.entries).mpr e.accepted
      simp only [validateExtra, Dict.ofEntries_self] at h
      rw [dif_neg (Nat.not_lt.mpr e.size_le)] at h
      split at h
      · rename_i err' herr
        rw [Dict.ofEntries_self, hchecks] at herr
        cases herr
      · cases h

theorem validateExtra_dict (py : Builtins) (extra : Extra) :
    (maxExtraKeys < extra.entries.length ∧
      validateExtra py (.dict extra.entries) =
        .error (validationError "extra may contain at most 16 keys"
          [("count", .int extra.entries.length)])) ∨
    (¬ maxExtraKeys < extra.entries.length ∧
      exists e, validateExtraEntries py extra.entries = .error e ∧
        validateExtra py (.dict extra.entries) = .error e) ∨
    (¬ maxExtraKeys < extra.entries.length ∧
      validateExtraEntries py extra.entries = .ok () ∧
      exists out, validateExtra py (.dict extra.entries) = .ok out ∧ out.mapping = extra) := by
  by_cases hsize : maxExtraKeys < extra.entries.length
  · left
    simp [validateExtra, hsize]
  · right
    cases hchecks : validateExtraEntries py extra.entries with
    | error e =>
        refine Or.inl ⟨hsize, e, rfl, ?_⟩
        simp only [validateExtra]
        rw [dif_neg (by simpa using hsize)]
        split
        · rename_i e' he'
          rw [Dict.ofEntries_self, hchecks] at he'
          cases he'
          rfl
        · rename_i hok
          rw [Dict.ofEntries_self, hchecks] at hok
          cases hok
    | ok value =>
        let accepted : AcceptedExtra :=
          ⟨extra, Nat.le_of_not_lt hsize,
            (validateExtraEntries_isOk_iff py extra.entries).mp hchecks⟩
        exact Or.inr ⟨hsize, rfl, accepted, validateExtra_accepted py accepted, rfl⟩

/-!
## The context
-/

structure IntegrationContext where
  clientId : Option Identifier
  agentId : Option Identifier
  projectId : Option Identifier
  workspaceId : Option Identifier
  taskId : Option Identifier
  sessionId : Option Identifier
  requestId : Option Identifier
  correlationId : Option Identifier
  extra : AcceptedExtra
  trust : TrustClassification
  not_trusted : trust ≠ .trusted
deriving DecidableEq

structure IntegrationContextArgs where
  clientId : Value := .none
  agentId : Value := .none
  projectId : Value := .none
  workspaceId : Value := .none
  taskId : Value := .none
  sessionId : Value := .none
  requestId : Value := .none
  correlationId : Value := .none
  extra : Value := .none
  trust : TrustClassification := .asserted

namespace IntegrationContext

def postInit (py : Builtins) (args : IntegrationContextArgs) :
    Except PyException IntegrationContext := do
  let clientId ← validateOptionalId "client_id" args.clientId
  let agentId ← validateOptionalId "agent_id" args.agentId
  let projectId ← validateOptionalId "project_id" args.projectId
  let workspaceId ← validateOptionalId "workspace_id" args.workspaceId
  let taskId ← validateOptionalId "task_id" args.taskId
  let sessionId ← validateOptionalId "session_id" args.sessionId
  let requestId ← validateOptionalId "request_id" args.requestId
  let correlationId ← validateOptionalId "correlation_id" args.correlationId
  let extra ← validateExtra py args.extra
  if h : args.trust = .trusted then
    .error (validationError
      "caller cannot assert TRUSTED identity; authentication is UNRESOLVED on stdio"
      [("trust", .str args.trust.value)])
  else
    .ok ⟨clientId, agentId, projectId, workspaceId, taskId, sessionId, requestId,
      correlationId, extra, args.trust, h⟩

theorem postInit_extra {py : Builtins} {args : IntegrationContextArgs} {e : AcceptedExtra}
    (h : validateExtra py args.extra = .ok e) :
    postInit py args =
      (fun base => { base with extra := e }) <$> postInit py { args with extra := .none } := by
  unfold postInit
  by_cases htrust : args.trust = .trusted
  · simp only [h, validateExtra_none, htrust, ok_bind, map_bind, dif_pos]
    rfl
  · simp only [h, validateExtra_none, htrust, ok_bind, map_bind, dif_neg, not_false_eq_true]
    rfl

theorem postInit_extra_error {py : Builtins} {args args' : IntegrationContextArgs}
    {e : PyException}
    (hfields : { args with extra := .none } = { args' with extra := Value.none })
    (h : validateExtra py args.extra = .error e)
    (h' : validateExtra py args'.extra = .error e) : postInit py args = postInit py args' := by
  rcases args with ⟨client, agent, project, workspace, task, session, request, correlation,
    extra, trust⟩
  rcases args' with ⟨client', agent', project', workspace', task', session', request',
    correlation', extra', trust'⟩
  simp only [IntegrationContextArgs.mk.injEq, true_and] at hfields
  rcases hfields with ⟨hclient, hagent, hproject, hworkspace, htask, hsession, hrequest,
    hcorrelation, htrust⟩
  subst hclient hagent hproject hworkspace htask hsession hrequest hcorrelation htrust
  unfold postInit
  dsimp only at h h' ⊢
  rw [h, h']

def default : IntegrationContext where
  clientId := none
  agentId := none
  projectId := none
  workspaceId := none
  taskId := none
  sessionId := none
  requestId := none
  correlationId := none
  extra := AcceptedExtra.empty
  trust := .asserted
  not_trusted := by decide

def fieldNames : List Key :=
  ["client_id", "agent_id", "project_id", "workspace_id", "task_id", "session_id",
    "request_id", "correlation_id", "extra", "trust"]

/-- The trust a mapping asks for; asserted when it says nothing. -/
def trustOf (data : Dict Key Value) : Except PyException TrustClassification :=
  match data.get? "trust" with
  | none => .ok .asserted
  | some (.str raw) =>
      match TrustClassification.ofValue? (Text.lower raw) with
      | some trust => .ok trust
      | none =>
          .error (validationError "invalid trust classification" [("trust", .str raw)])
  | some other =>
      .error (validationError "trust must be a string" [("type", .str other.typeName)])

def fromMapping (py : Builtins) (data : Value) : Except PyException IntegrationContext :=
  match data with
  | .none => .ok default
  | .dict entries => do
      let data : Dict Key Value := Dict.ofEntries entries
      let unknown := data.keys.filter fun key => key ∉ fieldNames
      if unknown ≠ [] then
        .error (validationError "integration context contains unknown fields"
          [("unknown",
            .list (((unknown.map Key.text).insertionSort (· ≤ ·)).take 10 |>.map .str))])
      else do
        let trust ← trustOf data
        postInit py
          { clientId := (data.get? "client_id").getD .none
            agentId := (data.get? "agent_id").getD .none
            projectId := (data.get? "project_id").getD .none
            workspaceId := (data.get? "workspace_id").getD .none
            taskId := (data.get? "task_id").getD .none
            sessionId := (data.get? "session_id").getD .none
            requestId := (data.get? "request_id").getD .none
            correlationId := (data.get? "correlation_id").getD .none
            extra := (data.get? "extra").getD .none
            trust := trust }
  | other =>
      .error (validationError "integration context must be a mapping"
        [("type", .str other.typeName)])

/-!
## The metadata of an accepted mapping
-/

theorem validateExtra_of_postInit {py : Builtins} {args : IntegrationContextArgs}
    {c : IntegrationContext} (h : postInit py args = .ok c) :
    validateExtra py args.extra = .ok c.extra := by
  unfold postInit at h
  rcases bind_eq_ok h with ⟨clientId, _, h⟩
  rcases bind_eq_ok h with ⟨agentId, _, h⟩
  rcases bind_eq_ok h with ⟨projectId, _, h⟩
  rcases bind_eq_ok h with ⟨workspaceId, _, h⟩
  rcases bind_eq_ok h with ⟨taskId, _, h⟩
  rcases bind_eq_ok h with ⟨sessionId, _, h⟩
  rcases bind_eq_ok h with ⟨requestId, _, h⟩
  rcases bind_eq_ok h with ⟨correlationId, _, h⟩
  rcases bind_eq_ok h with ⟨extra, hextra, h⟩
  split at h
  · cases h
  · cases h
    exact hextra

theorem mem_of_fromMapping {py : Builtins} {pairs : List (Key × Value)} {c : IntegrationContext}
    (h : fromMapping py (.dict pairs) = .ok c) {key : Key} {value : Value}
    (hvalue : c.extra.mapping.get? key = some value) :
    exists entries, (Key.str "extra", Value.dict entries) ∈ pairs ∧ (key, value) ∈ entries := by
  unfold fromMapping at h
  dsimp only at h
  split at h
  · cases h
  rcases bind_eq_ok h with ⟨trust, _, hpost⟩
  have hextra := validateExtra_of_postInit hpost
  dsimp only at hextra
  have hmetadata : forall extra, validateExtra py extra = .ok c.extra ->
      exists entries, extra = .dict entries ∧ (key, value) ∈ entries := by
    intro extra hok
    cases extra with
    | none =>
        rw [validateExtra_none, Except.ok.injEq] at hok
        rw [← hok] at hvalue
        cases hvalue
    | dict entries =>
        rw [mapping_of_validateExtra hok] at hvalue
        exact ⟨entries, rfl, Dict.mem_of_get?_ofEntries hvalue⟩
    | _ => cases hok
  rcases hmetadata _ hextra with ⟨entries, hentries, hmem⟩
  cases hentry : (Dict.ofEntries pairs).get? (Key.str "extra") with
  | none =>
      rw [hentry] at hentries
      cases hentries
  | some extra =>
      rw [hentry, Option.getD_some] at hentries
      subst hentries
      exact ⟨entries, Dict.mem_of_get?_ofEntries hentry, hmem⟩

/-!
## What rejects a mapping
-/

theorem raises_validateOptionalId (name : String) (value : Value) :
    RaisesOnly IsValidationError (validateOptionalId name value) := by
  cases value with
  | none => exact raisesOnly_ok none
  | str s =>
      unfold validateOptionalId
      dsimp only
      repeat' split
      · exact raisesOnly_validationError _ _
      · exact raisesOnly_validationError _ _
      · exact raisesOnly_ok _
      · exact raisesOnly_validationError _ _
  | _ => exact raisesOnly_validationError _ _

theorem raises_validateExtraEntries (py : Builtins) (entries : List (Key × Value)) :
    RaisesOnly IsValidationError (validateExtraEntries py entries) := by
  induction entries with
  | nil => exact raisesOnly_ok ()
  | cons entry rest ih =>
      refine RaisesOnly.bind ?_ (fun _ => ih)
      unfold validateExtraEntry
      repeat' split
      all_goals first
        | exact raisesOnly_ok ()
        | exact raisesOnly_validationError _ _

theorem raises_validateExtra (py : Builtins) (extra : Value) :
    RaisesOnly IsValidationError (validateExtra py extra) := by
  cases extra with
  | none => exact raisesOnly_ok _
  | dict entries =>
      unfold validateExtra
      dsimp only
      split
      · exact raisesOnly_validationError _ _
      · split
        · rename_i e he
          exact raisesOnly_error (raises_validateExtraEntries py _ e he)
        · exact raisesOnly_ok _
  | _ => exact raisesOnly_validationError _ _

theorem raises_postInit (py : Builtins) (args : IntegrationContextArgs) :
    RaisesOnly IsValidationError (postInit py args) := by
  refine (raises_validateOptionalId _ _).bind fun clientId => ?_
  refine (raises_validateOptionalId _ _).bind fun agentId => ?_
  refine (raises_validateOptionalId _ _).bind fun projectId => ?_
  refine (raises_validateOptionalId _ _).bind fun workspaceId => ?_
  refine (raises_validateOptionalId _ _).bind fun taskId => ?_
  refine (raises_validateOptionalId _ _).bind fun sessionId => ?_
  refine (raises_validateOptionalId _ _).bind fun requestId => ?_
  refine (raises_validateOptionalId _ _).bind fun correlationId => ?_
  refine (raises_validateExtra _ _).bind fun extra => ?_
  split
  · exact raisesOnly_validationError _ _
  · exact raisesOnly_ok _

theorem raises_trustOf (data : Dict Key Value) :
    RaisesOnly IsValidationError (trustOf data) := by
  unfold trustOf
  repeat' split
  all_goals first
    | exact raisesOnly_ok _
    | exact raisesOnly_validationError _ _

theorem raises_fromMapping (py : Builtins) (data : Value) :
    RaisesOnly IsValidationError (fromMapping py data) := by
  cases data with
  | none => exact raisesOnly_ok _
  | dict entries =>
      unfold fromMapping
      dsimp only
      split
      · exact raisesOnly_validationError _ _
      · exact (raises_trustOf _).bind fun trust => raises_postInit _ _
  | _ => exact raisesOnly_validationError _ _

def toGovernanceContext (context : IntegrationContext) : GovernanceContext where
  clientId := context.clientId.map Identifier.text
  agentId := context.agentId.map Identifier.text
  projectId := context.projectId.map Identifier.text
  workspaceId := context.workspaceId.map Identifier.text
  taskId := context.taskId.map Identifier.text
  sessionId := context.sessionId.map Identifier.text
  requestId := context.requestId.map Identifier.text
  correlationId := context.correlationId.map Identifier.text
  extra := context.extra.mapping

end IntegrationContext

end YasinMcp
