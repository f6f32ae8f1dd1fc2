import YasinMcp.Audit.LogReading

/-!
# Audit events read from the log

A reader of the log rebuilds the audit events from the documents of the audit logger.
It finds the events that a recorder in memory keeps, as that recorder keeps them, as
far as the level in force let their records through.
-/

namespace YasinMcp

open Foundation

/-!
## Values by their texts
-/

/-- The first of the values that is written so. -/
def ofText? {a : Type} (all : List a) (text : a -> String) (s : String) : Option a :=
  all.find? fun x => text x = s

def allEventTypes : List AuditEventType :=
  [.request, .decision, .executionResult, .executionFailure]

def allRisks : List RiskLevel :=
  [.readOnly, .lowRisk, .mutation, .highRisk]

def allDecisions : List GovernanceDecision :=
  [.allow, .deny, .approvalRequired]

theorem ofText?_eventType (x : AuditEventType) :
    ofText? allEventTypes AuditEventType.value x.value = some x := by
  cases x <;> rfl

theorem ofText?_risk (x : RiskLevel) : ofText? allRisks RiskLevel.value x.value = some x := by
  cases x <;> rfl

theorem ofText?_decision (x : GovernanceDecision) :
    ofText? allDecisions GovernanceDecision.value x.value = some x := by
  cases x <;> rfl

/-!
## Rebuilding an event
-/

def textIn (name : String) (fields : List (Key × Value)) : Option String :=
  match Dict.lookupIn (Key.str name) fields with
  | some (.str s) => some s
  | _ => none

def flagIn (name : String) (fields : List (Key × Value)) : Option Bool :=
  match Dict.lookupIn (Key.str name) fields with
  | some (.bool b) => some b
  | _ => none

/-- The entries of a mapping; one that is not there is empty. -/
def mappingIn (name : String) (fields : List (Key × Value)) : List (Key × Value) :=
  match Dict.lookupIn (Key.str name) fields with
  | some (.dict entries) => entries
  | _ => []

namespace StampedEvent

def ofFields? (fields : List (Key × Value)) : Option StampedEvent := do
  let eventType ← (textIn "event_type" fields).bind
    (ofText? allEventTypes AuditEventType.value)
  let toolName ← textIn "tool_name" fields
  let timestamp ← textIn "timestamp" fields
  some
    { eventType := eventType
      toolName := toolName
      timestamp := timestamp
      risk := (textIn "risk" fields).bind (ofText? allRisks RiskLevel.value)
      decision := (textIn "decision" fields).bind
        (ofText? allDecisions GovernanceDecision.value)
      success := flagIn "success" fields
      message := textIn "message" fields
      context := mappingIn "context" fields
      extra := mappingIn "extra" fields }

/-- The event of a document of the audit logger. -/
def ofDocument? : Value -> Option StampedEvent
  | .dict members =>
      if textIn "logger" members = some "yasin_mcp.governance.audit" then
        ofFields? (mappingIn "fields" members)
      else none
  | _ => none

/-- The event as a recorder in memory keeps it. -/
def stored (event : StampedEvent) : StampedEvent :=
  { event with
    context := redactEntries event.context
    extra := redactEntries event.extra }

end StampedEvent

theorem recorded_eq_map (events : List StampedEvent) (before : List StampedEvent) :
    (events.foldl InMemoryAuditRecorder.record ⟨before⟩).events =
      before ++ events.map StampedEvent.stored := by
  induction events generalizing before with
  | nil => exact (List.append_nil before).symm
  | cons event rest ih =>
      rw [List.foldl_cons, InMemoryAuditRecorder.record, ih, List.map_cons, List.append_assoc]
      rfl

theorem lookupIn_optionalEntry_append (key : Key) (name : String) (v : Option Value)
    (rest : List (Key × Value)) :
    Dict.lookupIn key (optionalEntry name v ++ rest) =
      (if Key.str name = key then v else none).or (Dict.lookupIn key rest) := by
  cases v with
  | none => simp [optionalEntry]
  | some x =>
      rw [optionalEntry, List.singleton_append, Dict.lookupIn]
      split <;> rfl

theorem mappingEntry_eq (name : String) (entries : List (Key × Value)) :
    mappingEntry name entries =
      optionalEntry name (if entries.isEmpty then none else some (.dict entries)) := by
  rw [mappingEntry]
  split <;> rfl

/-- What the record of an event shows under a name. -/
def StampedEvent.shown? (event : StampedEvent) (name : String) : Option Value :=
  match name with
  | "event_type" => some (.str event.eventType.value)
  | "tool_name" => some (.str event.toolName)
  | "timestamp" => some (.str event.timestamp)
  | "risk" => event.risk.map fun risk => .str risk.value
  | "decision" => event.decision.map fun decision => .str decision.value
  | "success" => event.success.map .bool
  | "message" => event.message.map .str
  | "context" => if event.context.isEmpty then none else some (.dict event.context)
  | "extra" => if event.extra.isEmpty then none else some (.dict event.extra)
  | _ => none

def eventNames : List String :=
  ["event_type", "tool_name", "timestamp", "risk", "decision", "success", "message", "context",
    "extra"]

theorem lookupIn_asDict (event : StampedEvent) {name : String}
    (h : name ∈ eventNames) :
    Dict.lookupIn (Key.str name) event.asDict = event.shown? name := by
  simp only [eventNames, List.mem_cons, List.not_mem_nil, or_false] at h
  rw [StampedEvent.asDict, mappingEntry_eq, mappingEntry_eq,
    ← List.append_nil (optionalEntry "extra" _)]
  simp only [List.append_assoc, lookupIn_optionalEntry_append]
  rcases h with h | h | h | h | h | h | h | h | h <;> subst h <;>
    simp [Dict.lookupIn, StampedEvent.shown?]

theorem isSensitiveKey_eventNames :
    forall name, name ∈ eventNames -> isSensitiveKey (Key.str name) = false := by
  decide

theorem lookupIn_record (event : StampedEvent) {name : String}
    (h : name ∈ eventNames) :
    Dict.lookupIn (Key.str name) (LoggingAuditRecorder.record event) =
      (event.shown? name).map redact := by
  rw [LoggingAuditRecorder.record, lookupIn_redactEntries, lookupIn_asDict event h,
    isSensitiveKey_eventNames name h]
  rfl

theorem mappingIn_record (event : StampedEvent) (name : String)
    (h : name ∈ eventNames) {entries : List (Key × Value)}
    (hshown : event.shown? name =
      if entries.isEmpty then none else some (.dict entries)) :
    mappingIn name (LoggingAuditRecorder.record event) = redactEntries entries := by
  rw [mappingIn, lookupIn_record event h, hshown]
  cases entries with
  | nil => rfl
  | cons entry rest => rfl

/-- An event is rebuilt from its record as a recorder in memory keeps it. -/
theorem ofFields?_record (event : StampedEvent) :
    StampedEvent.ofFields? (LoggingAuditRecorder.record event) = some event.stored := by
  have hlookup := fun name (h : name ∈ eventNames) => lookupIn_record event h
  have htype : textIn "event_type" (LoggingAuditRecorder.record event) =
      some event.eventType.value := by
    rw [textIn, hlookup "event_type" (by decide)]
    rfl
  have htool : textIn "tool_name" (LoggingAuditRecorder.record event) =
      some event.toolName := by
    rw [textIn, hlookup "tool_name" (by decide)]
    rfl
  have htime : textIn "timestamp" (LoggingAuditRecorder.record event) =
      some event.timestamp := by
    rw [textIn, hlookup "timestamp" (by decide)]
    rfl
  have hrisk : textIn "risk" (LoggingAuditRecorder.record event) =
      event.risk.map RiskLevel.value := by
    rw [textIn, hlookup "risk" (by decide)]
    cases hd : event.risk <;> simp [StampedEvent.shown?, hd, redact]
  have hdecision : textIn "decision" (LoggingAuditRecorder.record event) =
      event.decision.map GovernanceDecision.value := by
    rw [textIn, hlookup "decision" (by decide)]
    cases hd : event.decision <;> simp [StampedEvent.shown?, hd, redact]
  have hsuccess : flagIn "success" (LoggingAuditRecorder.record event) =
      event.success := by
    rw [flagIn, hlookup "success" (by decide)]
    cases hd : event.success <;> simp [StampedEvent.shown?, hd, redact]
  have hmessage : textIn "message" (LoggingAuditRecorder.record event) =
      event.message := by
    rw [textIn, hlookup "message" (by decide)]
    cases hd : event.message <;> simp [StampedEvent.shown?, hd, redact]
  have hcontext := mappingIn_record event "context" (by decide) rfl
  have hextra := mappingIn_record event "extra" (by decide) rfl
  have hreadRisk : (event.risk.map RiskLevel.value).bind (ofText? allRisks RiskLevel.value) =
      event.risk := by
    cases event.risk with
    | none => rfl
    | some risk => exact ofText?_risk risk
  have hreadDecision : (event.decision.map GovernanceDecision.value).bind
      (ofText? allDecisions GovernanceDecision.value) = event.decision := by
    cases event.decision with
    | none => rfl
    | some decision => exact ofText?_decision decision
  rw [StampedEvent.ofFields?, htype, htool, htime, hrisk, hdecision, hsuccess, hmessage, hcontext,
    hextra, hreadRisk, hreadDecision]
  simp only [Option.bind_some, ofText?_eventType, Option.bind_eq_bind]
  rfl

/-!
## Events that can be logged
-/

/-- The two mappings of an event can be written, and read back within this nesting. -/
structure AuditEvent.Loggable (py : Builtins) (depth : Nat) (event : AuditEvent) : Prop where
  context_named : Json.Named (.dict event.context)
  extra_named : Json.Named (.dict event.extra)
  context_floats : forall x, .float x ∈ Json.scalarsEntries event.context -> Json.FloatReads py x
  extra_floats : forall x, .float x ∈ Json.scalarsEntries event.extra -> Json.FloatReads py x
  context_shallow : Json.nesting (.dict event.context) ≤ depth
  extra_shallow : Json.nesting (.dict event.extra) ≤ depth

section

variable (name : String)

theorem keys_optionalEntry (v : Option Value) :
    ((optionalEntry name v).map Prod.fst).Sublist [Key.str name] := by
  cases v with
  | none => exact List.nil_sublist _
  | some x => exact List.Sublist.refl _

theorem keys_mappingEntry (entries : List (Key × Value)) :
    ((mappingEntry name entries).map Prod.fst).Sublist [Key.str name] := by
  rw [mappingEntry_eq]
  exact keys_optionalEntry name _

theorem namedEntries_mappingEntry {entries : List (Key × Value)}
    (h : Json.Named (.dict entries)) : Json.NamedEntries (mappingEntry name entries) := by
  rw [mappingEntry]
  split
  · trivial
  · exact ⟨rfl, h, trivial⟩

theorem scalars_mappingEntry (entries : List (Key × Value)) :
    Json.scalarsEntries (mappingEntry name entries) = Json.scalarsEntries entries := by
  cases entries with
  | nil => rfl
  | cons entry rest => exact List.append_nil _

theorem nesting_mappingEntry (entries : List (Key × Value)) :
    Json.nestingEntries (mappingEntry name entries) ≤ Json.nesting (.dict entries) := by
  cases entries with
  | nil => exact Nat.zero_le _
  | cons entry rest => exact Nat.le_of_eq (Nat.max_zero _)

end

def StampedEvent.plainEntries (event : StampedEvent) : List (Key × Value) :=
  optionalEntry "event_type" (some (.str event.eventType.value)) ++
    optionalEntry "tool_name" (some (.str event.toolName)) ++
    optionalEntry "timestamp" (some (.str event.timestamp)) ++
    optionalEntry "risk" (event.risk.map fun risk => .str risk.value) ++
    optionalEntry "decision" (event.decision.map fun decision => .str decision.value) ++
    optionalEntry "success" (event.success.map .bool) ++
    optionalEntry "message" (event.message.map .str)

theorem asDict_eq (event : StampedEvent) :
    event.asDict =
      event.plainEntries ++
        (mappingEntry "context" event.context ++ mappingEntry "extra" event.extra) := by
  rw [StampedEvent.asDict, StampedEvent.plainEntries, List.append_assoc _ (mappingEntry _ _)]

theorem plainEntries_shape (event : StampedEvent) :
    Json.NamedEntries event.plainEntries ∧
      (forall x, .float x ∉ Json.scalarsEntries event.plainEntries) ∧
      Json.nestingEntries event.plainEntries = 0 := by
  cases hrisk : event.risk <;> cases hdecision : event.decision <;>
    cases hsuccess : event.success <;>
    cases hmessage : event.message <;>
    simp [StampedEvent.plainEntries, optionalEntry, Json.NamedEntries, Json.Named,
      Json.scalarsEntries, Json.scalars, Json.nestingEntries, Json.nesting, Key.text, hrisk,
      hdecision, hsuccess, hmessage]

theorem keys_asDict (event : StampedEvent) :
    (event.asDict.map Prod.fst).Nodup := by
  have hsublist : (event.asDict.map Prod.fst).Sublist
      ([Key.str "event_type"] ++ [Key.str "tool_name"] ++ [Key.str "timestamp"] ++
        [Key.str "risk"] ++ [Key.str "decision"] ++ [Key.str "success"] ++ [Key.str "message"] ++
        [Key.str "context"] ++ [Key.str "extra"]) := by
    simp only [StampedEvent.asDict, List.map_append]
    repeat' apply List.Sublist.append
    all_goals first | exact keys_optionalEntry _ _ | exact keys_mappingEntry _ _
  exact hsublist.nodup (by decide)

theorem named_asDict {py : Builtins} {depth : Nat} {event : StampedEvent}
    (h : event.toAuditEvent.Loggable py depth) :
    Json.Named (.dict event.asDict) := by
  refine ⟨keys_asDict event, ?_⟩
  rw [asDict_eq]
  apply Json.namedEntries_append (plainEntries_shape event).1
  exact Json.namedEntries_append (namedEntries_mappingEntry _ h.context_named)
    (namedEntries_mappingEntry _ h.extra_named)

theorem loggable_logRecord {py : Builtins} {depth : Nat} {event : StampedEvent}
    (h : event.toAuditEvent.Loggable py depth) :
    (LoggingAuditRecorder.logRecord event).Loggable py (depth + 1) where
  named := named_redact (named_asDict h)
  floats := by
    intro x hx
    rcases mem_scalarsEntries_redact hx with hmark | hmem
    · cases hmark
    · rw [asDict_eq, Json.scalarsEntries_append, Json.scalarsEntries_append,
        scalars_mappingEntry, scalars_mappingEntry, List.mem_append, List.mem_append] at hmem
      rcases hmem with hplain | hcontext | hextra
      · exact absurd hplain ((plainEntries_shape event).2.1 x)
      · exact h.context_floats x hcontext
      · exact h.extra_floats x hextra
  shallow := by
    apply Nat.succ_le_succ
    refine (nestingEntries_redact _).trans ?_
    rw [asDict_eq, Json.nestingEntries_append, Json.nestingEntries_append,
      (plainEntries_shape event).2.2, Nat.zero_max]
    exact max_le ((nesting_mappingEntry _ _).trans h.context_shallow)
      ((nesting_mappingEntry _ _).trans h.extra_shallow)

/-!
## The trail of a run
-/

inductive TrailOp where
  | configure (level : LogLevel)
  | log (record : LogRecord)
  | audit (event : StampedEvent)
deriving DecidableEq

def TrailOp.logOp : TrailOp -> LogOp
  | .configure level => .configure level
  | .log record => .log record
  | .audit event => .log (LoggingAuditRecorder.logRecord event)

/-- The events whose records the level in force lets through, and that can be written. -/
def shownEvents (level : LogLevel) : List TrailOp -> List StampedEvent
  | [] => []
  | .configure level :: rest => shownEvents level rest
  | .log _ :: rest => shownEvents level rest
  | .audit event :: rest =>
      if level.severity ≤ LogLevel.info.severity ∧
          (LoggingAuditRecorder.logRecord event).isLong = false then
        event :: shownEvents level rest
      else shownEvents level rest

/-- The audit events among the documents of a stream. -/
def readEvents (depth : Nat) (stream : List Char) : List StampedEvent :=
  (readStream depth stream).filterMap fun read =>
    match read with
    | .ok document => StampedEvent.ofDocument? document
    | .error _ => none

/-- The operation can be logged, and only events go to the logger of events. -/
def TrailOp.Fits (py : Builtins) (depth : Nat) : TrailOp -> Prop
  | .configure _ => True
  | .log record => record.Loggable py (depth + 1) ∧ record.logger ≠ "yasin_mcp.governance.audit"
  | .audit event => event.toAuditEvent.Loggable py depth

theorem TrailOp.Fits.loggable {py : Builtins} {depth : Nat} {op : TrailOp} (h : op.Fits py depth)
    {record : LogRecord} (hop : op.logOp = .log record) : record.Loggable py (depth + 1) := by
  cases op with
  | configure level => cases hop
  | log other =>
      cases hop
      exact h.1
  | audit event =>
      cases hop
      exact loggable_logRecord h

theorem textIn_logger (record : LogRecord) :
    textIn "logger" (JsonFormatter.payload record) = some record.logger := by
  rw [JsonFormatter.payload_eq]
  rfl

theorem ofDocument?_other {record : LogRecord}
    (h : record.logger ≠ "yasin_mcp.governance.audit") :
    StampedEvent.ofDocument? record.document = none := by
  rw [LogRecord.document, StampedEvent.ofDocument?, textIn_logger, if_neg]
  intro hlogger
  exact h (Option.some.inj hlogger)

theorem mappingIn_fields (event : StampedEvent) :
    mappingIn "fields" (JsonFormatter.payload (LoggingAuditRecorder.logRecord event)) =
      LoggingAuditRecorder.record event := by
  have hfields : redactEntries (LoggingAuditRecorder.record event) =
      LoggingAuditRecorder.record event :=
    redactEntries_redactEntries _
  rw [JsonFormatter.payload_eq]
  show mappingIn "fields" (_ :: _ :: _ :: mappingEntry "fields"
    (redactEntries (LoggingAuditRecorder.record event))) = _
  rw [hfields]
  rfl

theorem ofDocument?_logRecord (event : StampedEvent) :
    StampedEvent.ofDocument? (LoggingAuditRecorder.logRecord event).document =
      some event.stored := by
  have hlogger : some (LoggingAuditRecorder.logRecord event).logger =
      some "yasin_mcp.governance.audit" := rfl
  rw [LogRecord.document, StampedEvent.ofDocument?, textIn_logger, if_pos hlogger,
    mappingIn_fields, ofFields?_record]

/-- What is shown of a trail are its other records, and the records of its shown events. -/
theorem shownRecords_trail {py : Builtins} {depth : Nat} (level : LogLevel) {ops : List TrailOp}
    (h : forall op, op ∈ ops -> op.Fits py depth) :
    (((shownRecords level (ops.map TrailOp.logOp)).filter fun record => !record.isLong).filterMap
        fun record => StampedEvent.ofDocument? record.document) =
      (shownEvents level ops).map StampedEvent.stored := by
  induction ops generalizing level with
  | nil => rfl
  | cons op rest ih =>
      have hrest := fun level => ih level fun other hother =>
        h other (List.mem_cons_of_mem _ hother)
      have hop := h op List.mem_cons_self
      rw [List.map_cons]
      cases op with
      | configure other => exact hrest other
      | log record =>
          rw [TrailOp.logOp, shownRecords, shownEvents]
          split
          · cases hlong : record.isLong with
            | true => rw [List.filter_cons_of_neg (by simp [hlong]), hrest]
            | false =>
                rw [List.filter_cons_of_pos (by simp [hlong]), List.filterMap_cons,
                  ofDocument?_other hop.2, hrest]
          · exact hrest level
      | audit event =>
          rw [TrailOp.logOp, shownRecords, shownEvents]
          cases Nat.decLe level.severity LogLevel.info.severity with
          | isTrue hle =>
              have hlevel : level.severity ≤
                  (LoggingAuditRecorder.logRecord event).level.severity := hle
              rw [if_pos hlevel]
              cases hlong : (LoggingAuditRecorder.logRecord event).isLong with
              | true =>
                  rw [List.filter_cons_of_neg (by simp [hlong]), hrest,
                    if_neg fun hshown => Bool.noConfusion hshown.2]
              | false =>
                  rw [List.filter_cons_of_pos (by simp [hlong]), List.filterMap_cons,
                    ofDocument?_logRecord, hrest, if_pos ⟨hle, rfl⟩, List.map_cons]
          | isFalse hlt =>
              have hlevel : ¬ level.severity ≤
                  (LoggingAuditRecorder.logRecord event).level.severity := hlt
              rw [if_neg hlevel, hrest, if_neg fun hshown => hlt hshown.1]

/--
The log and a recorder in memory hold the same events: those whose records were let
through, with their mappings redacted, in the order in which they were recorded.
-/
theorem readEvents_streamOf {py : Builtins} (hfloats : Json.PlainFloats py)
    {logger : StructuredLogger} (hfresh : logger.Fresh) (level : LogLevel) {ops : List TrailOp}
    {depth : Nat} (h : forall op, op ∈ ops -> op.Fits py depth) :
    readEvents (depth + 2)
        (streamOf py logger (.configure level :: ops.map TrailOp.logOp)) =
      ((shownEvents level ops).foldl InMemoryAuditRecorder.record ⟨[]⟩).events := by
  have hlog : forall record, .log record ∈ ops.map TrailOp.logOp ->
      record.Loggable py (depth + 1) := by
    intro record hrecord
    rcases List.mem_map.mp hrecord with ⟨op, hop, heq⟩
    exact (h op hop).loggable heq
  have hstream := readStream_texts hfloats (depth + 1)
    (shownRecords level (ops.map TrailOp.logOp))
    fun record hrecord => hlog record (mem_shownRecords hrecord)
  rw [readEvents, streamOf_fresh py hfresh, hstream, List.filterMap_map, recorded_eq_map,
    List.nil_append, ← shownRecords_trail level h]
  rfl

def deployEvent : AuditEvent where
  eventType := .decision
  toolName := "deploy"
  risk := some .mutation
  decision := some .allow
  context := [("actor_id", .str "a"), ("metadata", .dict [("auth_token", .str "t")])]
  extra := [("attempt", .int 1)]

theorem loggable_deploy : deployEvent.Loggable Json.tenthsBuiltins 2 where
  context_named := ⟨by decide, rfl, trivial, rfl, ⟨by decide, rfl, trivial, trivial⟩, trivial⟩
  extra_named := ⟨by decide, rfl, trivial, trivial⟩
  context_floats := by
    intro x hx
    have hx : Value.float x ∈ [.str "a", .str "t"] := hx
    simp at hx
  extra_floats := by
    intro x hx
    have hx : Value.float x ∈ [.int 1] := hx
    simp at hx
  context_shallow := by decide
  extra_shallow := by decide

/-- A run in which one of the two events is not let through. -/
def deployTrail : List TrailOp :=
  [.log retryRecord, .audit (deployEvent.stamp "t0"), .configure .warning,
    .audit (deployEvent.stamp "t1")]

theorem readEvents_streamOf_deploy :
    readEvents 4 (streamOf Json.tenthsBuiltins ⟨.warning, []⟩
        (.configure .info :: deployTrail.map TrailOp.logOp)) =
      ((shownEvents .info deployTrail).foldl InMemoryAuditRecorder.record ⟨[]⟩).events := by
  apply readEvents_streamOf Json.plainFloats_tenths
  · intro handler hhandler
    cases hhandler
  · intro op hop
    simp only [deployTrail, List.mem_cons, List.not_mem_nil, or_false] at hop
    rcases hop with hop | hop | hop | hop <;> subst hop
    · refine ⟨?_, by decide⟩
      exact ⟨loggable_retry.named, loggable_retry.floats,
        loggable_retry.shallow.trans (by decide)⟩
    · exact loggable_deploy
    · exact trivial
    · exact loggable_deploy

end YasinMcp
