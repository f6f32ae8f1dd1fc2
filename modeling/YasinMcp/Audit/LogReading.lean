import YasinMcp.Audit.Logging
import YasinMcp.Foundation.JsonPrintable
import YasinMcp.Foundation.Lines
import YasinMcp.Governance.Redaction

/-!
# Reading the log back

Every line of the stream is decoded to the redacted members of one record, in the order
of the records that the level in force let through.  No record is split over lines, and
none is written twice, however often the logger is configured.
-/

namespace YasinMcp

open Foundation

/-!
## Redacted values are read back
-/

mutual

theorem named_redact : forall {v : Value}, Json.Named v -> Json.Named (redact v)
  | .dict entries, h => by
      have hkeys : (redactEntries entries).map Prod.fst = entries.map Prod.fst := by
        rw [redactEntries_eq_map, List.map_map]
        rfl
      exact ⟨hkeys ▸ h.1, namedEntries_redact h.2⟩
  | .list _, h => namedItems_redact h
  | .tuple _, h => namedItems_redact h
  | .none, h => h
  | .bool _, h => h
  | .int _, h => h
  | .float _, h => h
  | .str _, h => h

theorem namedItems_redact : forall {items : List Value}, Json.NamedItems items ->
    Json.NamedItems (redactItems items)
  | [], h => h
  | _ :: _, h => ⟨named_redact h.1, namedItems_redact h.2⟩

theorem namedEntries_redact : forall {entries : List (Key × Value)}, Json.NamedEntries entries ->
    Json.NamedEntries (redactEntries entries)
  | [], h => h
  | (key, item) :: rest, h => by
      rw [redactEntries]
      refine ⟨h.1, ?_, namedEntries_redact h.2.2⟩
      cases isSensitiveKey key with
      | true => trivial
      | false => exact named_redact h.2.1

end

mutual

theorem readBack_redact : forall {v : Value}, Json.Named v ->
    Json.readBack (redact v) = redact v
  | .dict entries, h => by
      have hkeys : (redactEntries entries).map Prod.fst = entries.map Prod.fst := by
        rw [redactEntries_eq_map, List.map_map]
        rfl
      rw [redact, Json.readBack, readBackEntries_redact h.2,
        Dict.ofEntries_entries (hkeys ▸ h.1)]
  | .list _, h => congrArg Value.list (readBackItems_redact h)
  | .tuple _, h => congrArg Value.list (readBackItems_redact h)
  | .none, _ => rfl
  | .bool _, _ => rfl
  | .int _, _ => rfl
  | .float _, _ => rfl
  | .str _, _ => rfl

theorem readBackItems_redact : forall {items : List Value}, Json.NamedItems items ->
    Json.readBackItems (redactItems items) = redactItems items
  | [], _ => rfl
  | _ :: _, h => by
      rw [redactItems, Json.readBackItems, readBack_redact h.1, readBackItems_redact h.2]

theorem readBackEntries_redact : forall {entries : List (Key × Value)},
    Json.NamedEntries entries ->
      Json.readBackEntries (redactEntries entries) = redactEntries entries
  | [], _ => rfl
  | (key, item) :: rest, h => by
      have hitem : Json.readBack (if isSensitiveKey key then redacted else redact item) =
          if isSensitiveKey key then redacted else redact item := by
        cases isSensitiveKey key with
        | true => rfl
        | false => exact readBack_redact h.2.1
      rw [redactEntries, Json.readBackEntries, readBackEntries_redact h.2.2, ← h.1, hitem]

end

mutual

theorem mem_scalars_redact : forall {v scalar : Value}, scalar ∈ Json.scalars (redact v) ->
    scalar = redacted ∨ scalar ∈ Json.scalars v
  | .dict _, _, h => mem_scalarsEntries_redact h
  | .list _, _, h => mem_scalarsItems_redact h
  | .tuple _, _, h => mem_scalarsItems_redact h
  | .none, _, h => Or.inr h
  | .bool _, _, h => Or.inr h
  | .int _, _, h => Or.inr h
  | .float _, _, h => Or.inr h
  | .str _, _, h => Or.inr h

theorem mem_scalarsItems_redact : forall {items : List Value} {scalar : Value},
    scalar ∈ Json.scalarsItems (redactItems items) ->
      scalar = redacted ∨ scalar ∈ Json.scalarsItems items
  | [], _, h => Or.inr h
  | _ :: _, _, h => by
      rcases List.mem_append.mp h with hitem | hrest
      · exact (mem_scalars_redact hitem).imp_right fun h => List.mem_append_left _ h
      · exact (mem_scalarsItems_redact hrest).imp_right fun h => List.mem_append_right _ h

theorem mem_scalarsEntries_redact : forall {entries : List (Key × Value)} {scalar : Value},
    scalar ∈ Json.scalarsEntries (redactEntries entries) ->
      scalar = redacted ∨ scalar ∈ Json.scalarsEntries entries
  | [], _, h => Or.inr h
  | (key, _) :: _, _, h => by
      rw [redactEntries] at h
      rcases List.mem_append.mp h with hitem | hrest
      · cases hkey : isSensitiveKey key with
        | true =>
            rw [hkey] at hitem
            exact Or.inl (List.mem_singleton.mp hitem)
        | false =>
            rw [hkey] at hitem
            exact (mem_scalars_redact hitem).imp_right fun h => List.mem_append_left _ h
      · exact (mem_scalarsEntries_redact hrest).imp_right fun h => List.mem_append_right _ h

end

mutual

theorem nesting_redact : forall v : Value, Json.nesting (redact v) ≤ Json.nesting v
  | .dict entries => Nat.succ_le_succ (nestingEntries_redact entries)
  | .list items => Nat.succ_le_succ (nestingItems_redact items)
  | .tuple items => Nat.succ_le_succ (nestingItems_redact items)
  | .none => Nat.le_refl _
  | .bool _ => Nat.le_refl _
  | .int _ => Nat.le_refl _
  | .float _ => Nat.le_refl _
  | .str _ => Nat.le_refl _

theorem nestingItems_redact : forall items : List Value,
    Json.nestingItems (redactItems items) ≤ Json.nestingItems items
  | [] => Nat.le_refl _
  | item :: rest => max_le_max (nesting_redact item) (nestingItems_redact rest)

theorem nestingEntries_redact : forall entries : List (Key × Value),
    Json.nestingEntries (redactEntries entries) ≤ Json.nestingEntries entries
  | [] => Nat.le_refl _
  | (key, item) :: rest => by
      rw [redactEntries]
      apply max_le_max ?_ (nestingEntries_redact rest)
      cases isSensitiveKey key with
      | true => exact Nat.zero_le _
      | false => exact nesting_redact item

end

/-!
## One line
-/

/-- The fields of a record can be written, and read back within this nesting. -/
structure LogRecord.Loggable (py : Builtins) (depth : Nat) (record : LogRecord) : Prop where
  named : Json.Named (.dict record.fields)
  floats : forall x, .float x ∈ Json.scalarsEntries record.fields -> Json.FloatReads py x
  shallow : Json.nesting (.dict record.fields) ≤ depth

/-- A field holds an integer with too many digits, and not under a sensitive key. -/
def LogRecord.isLong (record : LogRecord) : Bool :=
  (Json.scalars (redact (.dict (JsonFormatter.payload record)))).any Json.isLong

def LogRecord.document (record : LogRecord) : Value :=
  .dict (JsonFormatter.payload record)

namespace JsonFormatter

theorem payload_eq (record : LogRecord) :
    payload record =
      [(Key.str "level", .str record.level.name), (Key.str "logger", .str record.logger),
        (Key.str "message", .str record.message)] ++
        (optionalEntry "request_id" (record.requestId.map .str) ++
          mappingEntry "fields" (redactEntries record.fields)) := by
  simp [payload, optionalEntry]

def memberNames : List String :=
  ["level", "logger", "message", "request_id", "fields"]

theorem isSensitiveKey_memberNames :
    forall name, name ∈ memberNames -> isSensitiveKey (Key.str name) = false := by
  decide

theorem redactEntries_cons_kept {name : String} {v : Value} (hname : name ∈ memberNames)
    (hv : redact v = v) (rest : List (Key × Value)) :
    redactEntries ((Key.str name, v) :: rest) = (Key.str name, v) :: redactEntries rest := by
  rw [redactEntries, isSensitiveKey_memberNames name hname, if_neg Bool.false_ne_true, hv]

theorem redact_payload (record : LogRecord) :
    redact (.dict (payload record)) = .dict (payload record) := by
  have hfields : redactEntries (mappingEntry "fields" (redactEntries record.fields)) =
      mappingEntry "fields" (redactEntries record.fields) := by
    have hagain : redact (.dict (redactEntries record.fields)) =
        .dict (redactEntries record.fields) :=
      congrArg Value.dict (redactEntries_redactEntries record.fields)
    rw [mappingEntry]
    split
    · rfl
    · rw [redactEntries_cons_kept (by decide) hagain]
      rfl
  rw [payload_eq, redact, List.cons_append, List.cons_append, List.cons_append, List.nil_append,
    redactEntries_cons_kept (by decide) rfl, redactEntries_cons_kept (by decide) rfl,
    redactEntries_cons_kept (by decide) rfl]
  cases record.requestId with
  | none =>
      rw [Option.map_none, optionalEntry, List.nil_append, hfields]
  | some requestId =>
      rw [Option.map_some, optionalEntry, List.singleton_append,
        redactEntries_cons_kept (by decide) rfl, hfields]

theorem keys_payload (record : LogRecord) : ((payload record).map Prod.fst).Nodup := by
  rw [payload_eq]
  cases record.requestId with
  | none =>
      rw [mappingEntry]
      split <;> simp [optionalEntry]
  | some requestId =>
      rw [mappingEntry]
      split <;> simp [optionalEntry]

theorem named_payload {py : Builtins} {depth : Nat} {record : LogRecord}
    (h : record.Loggable py depth) : Json.Named (.dict (payload record)) := by
  refine ⟨keys_payload record, ?_⟩
  have hfields : Json.Named (.dict (redactEntries record.fields)) := named_redact h.named
  rw [payload_eq]
  refine ⟨rfl, trivial, rfl, trivial, rfl, trivial, ?_⟩
  cases record.requestId with
  | none =>
      rw [mappingEntry]
      split
      · trivial
      · exact ⟨rfl, hfields, trivial⟩
  | some requestId =>
      rw [mappingEntry]
      refine ⟨rfl, trivial, ?_⟩
      split
      · trivial
      · exact ⟨rfl, hfields, trivial⟩

theorem mem_scalars_payload {record : LogRecord} {x : PyFloat}
    (h : .float x ∈ Json.scalars (.dict (payload record))) :
    .float x ∈ Json.scalarsEntries record.fields := by
  have hfields : .float x ∈ Json.scalarsEntries (redactEntries record.fields) := by
    rw [payload_eq] at h
    cases hrequest : record.requestId with
    | none =>
        rw [hrequest, mappingEntry] at h
        split at h
        · simp [Json.scalars, Json.scalarsEntries, optionalEntry] at h
        · simpa [Json.scalars, Json.scalarsEntries, optionalEntry] using h
    | some requestId =>
        rw [hrequest, mappingEntry] at h
        split at h
        · simp [Json.scalars, Json.scalarsEntries, optionalEntry] at h
        · simpa [Json.scalars, Json.scalarsEntries, optionalEntry] using h
  rcases mem_scalarsEntries_redact hfields with hmark | hmem
  · cases hmark
  · exact hmem

theorem nesting_payload (record : LogRecord) :
    Json.nesting (.dict (payload record)) ≤ Json.nesting (.dict record.fields) + 1 := by
  have hfields := nesting_redact (.dict record.fields)
  rw [redact] at hfields
  rw [payload_eq]
  cases record.requestId with
  | none =>
      rw [mappingEntry]
      split
      · simp [Json.nesting, Json.nestingEntries, optionalEntry]
      · simpa [Json.nesting, Json.nestingEntries, optionalEntry] using hfields
  | some requestId =>
      rw [mappingEntry]
      split
      · simp [Json.nesting, Json.nestingEntries, optionalEntry]
      · simpa [Json.nesting, Json.nestingEntries, optionalEntry] using hfields

theorem format_eq (py : Builtins) (record : LogRecord) :
    (record.isLong = true ∧ exists e, format py record = .error e) ∨
      (record.isLong = false ∧ format py record = .ok (Json.dumps py record.document)) := by
  rw [format, LogRecord.isLong, LogRecord.document, redact_payload]
  cases hlong : (Json.scalars (.dict (payload record))).any Json.isLong with
  | true => exact Or.inl ⟨rfl, _, if_pos rfl⟩
  | false => exact Or.inr ⟨rfl, if_neg Bool.false_ne_true⟩

/-- The line of a record is decoded to its members. -/
theorem loads_dumps_document {py : Builtins} {depth : Nat} {record : LogRecord}
    (h : record.Loggable py depth) (hlong : record.isLong = false) :
    Json.loads (depth + 1) (Json.dumps py record.document) = .ok record.document := by
  have hread := readBack_redact (named_payload h)
  rw [redact_payload] at hread
  rw [LogRecord.isLong, redact_payload, List.any_eq_false] at hlong
  have hwritable : Json.Writable py record.document := by
    intro scalar hscalar
    refine ⟨Bool.eq_false_iff.mpr (hlong scalar hscalar), ?_⟩
    intro x hx
    rw [hx] at hscalar
    exact h.floats x (mem_scalars_payload hscalar)
  have hdeep : Json.nesting record.document ≤ depth + 1 :=
    (nesting_payload record).trans (Nat.succ_le_succ h.shallow)
  rw [Json.loads_dumps hwritable hdeep, LogRecord.document, hread]

end JsonFormatter

/-!
## The stream
-/

def LogRecord.text (py : Builtins) (record : LogRecord) : List Char :=
  LogHandler.json.emit py record

theorem LogRecord.text_eq (py : Builtins) (record : LogRecord) :
    record.text py =
      if record.isLong then [] else (Json.dumps py record.document).toList ++ ['\n'] := by
  rw [LogRecord.text, LogHandler.emit]
  rcases JsonFormatter.format_eq py record with ⟨hlong, e, hformat⟩ | ⟨hshort, hformat⟩
  · rw [hformat, if_pos hlong]
  · rw [hformat, if_neg (Bool.eq_false_iff.mp hshort)]

namespace StructuredLogger

/-- There is no handler of a stream. -/
def Fresh (logger : StructuredLogger) : Prop :=
  forall handler, handler ∈ logger.handlers -> handler = .other

/-- The handler of the server is the only one of a stream. -/
def Configured (logger : StructuredLogger) : Prop :=
  exists others, logger.handlers = others ++ [.json] ∧
    forall handler, handler ∈ others -> handler = .other

theorem Fresh.configured {logger : StructuredLogger} (h : logger.Fresh) (level : LogLevel) :
    (configureLogging level logger).Configured := by
  have hnone : logger.handlers.any LogHandler.isStream = false := by
    rw [List.any_eq_false]
    intro handler hhandler
    rw [h handler hhandler]
    exact Bool.false_ne_true
  refine ⟨logger.handlers, ?_, h⟩
  rw [configureLogging, hnone]
  rfl

theorem Configured.configureLogging_eq {logger : StructuredLogger} (h : logger.Configured)
    (level : LogLevel) : configureLogging level logger = ⟨level, logger.handlers⟩ := by
  rcases h with ⟨others, hhandlers, _⟩
  have hsome : logger.handlers.any LogHandler.isStream = true := by
    rw [hhandlers, List.any_append]
    exact Bool.or_true _
  rw [configureLogging, hsome]
  rfl

theorem Configured.handle_eq {logger : StructuredLogger} (h : logger.Configured) (py : Builtins)
    (record : LogRecord) :
    logger.handle py record =
      if logger.level.severity ≤ record.level.severity then record.text py else [] := by
  rcases h with ⟨others, hhandlers, hothers⟩
  have hsilent : (others.flatMap fun handler => handler.emit py record) = [] := by
    rw [List.flatMap_eq_nil_iff]
    intro handler hhandler
    rw [hothers handler hhandler]
    rfl
  rw [handle, isEnabledFor, hhandlers, List.flatMap_append, hsilent, List.nil_append,
    List.flatMap_cons, List.flatMap_nil, List.append_nil, LogRecord.text]
  simp only [decide_eq_true_eq]

end StructuredLogger

theorem streamOf_configured (py : Builtins) {logger : StructuredLogger} (h : logger.Configured)
    (ops : List LogOp) :
    streamOf py logger ops =
      (shownRecords logger.level ops).flatMap fun record => record.text py := by
  induction ops generalizing logger with
  | nil => rfl
  | cons op rest ih =>
      rw [streamOf, Machine.history_cons, List.flatMap_cons]
      cases op with
      | configure level =>
          have hagain := h.configureLogging_eq level
          have hnext : (configureLogging level logger).Configured := by
            rw [hagain]
            exact h
          have hrest := ih hnext
          rw [hagain] at hrest
          show [] ++ streamOf py (configureLogging level logger) rest = _
          rw [hagain, hrest]
          rfl
      | log record =>
          show logger.handle py record ++ streamOf py logger rest = _
          rw [h.handle_eq, ih h, shownRecords]
          split <;> rfl

theorem streamOf_fresh (py : Builtins) {logger : StructuredLogger} (h : logger.Fresh)
    (level : LogLevel) (ops : List LogOp) :
    streamOf py logger (.configure level :: ops) =
      (shownRecords level ops).flatMap fun record => record.text py := by
  have hrest := streamOf_configured py (h.configured level) ops
  rw [streamOf, Machine.history_cons, List.flatMap_cons]
  exact hrest

def readStream (depth : Nat) (stream : List Char) : List (Except Json.LoadsError Value) :=
  (Text.splitLines stream).map fun line => Json.loads depth (String.ofList line)

theorem not_lineBoundary_of_printable {text : List Char} (h : Json.Printable text) {c : Char}
    (hc : c ∈ text) : Text.isLineBoundary c = false := by
  rcases h c hc with ⟨hlow, hhigh⟩
  simp only [Text.isLineBoundary, Bool.or_eq_false_iff, Bool.and_eq_false_iff,
    decide_eq_false_iff_not, beq_eq_false_iff_ne]
  omega

theorem mem_shownRecords {level : LogLevel} {ops : List LogOp} {record : LogRecord}
    (h : record ∈ shownRecords level ops) : .log record ∈ ops := by
  induction ops generalizing level with
  | nil => cases h
  | cons op rest ih =>
      cases op with
      | configure other => exact List.mem_cons_of_mem _ (ih h)
      | log other =>
          rw [shownRecords] at h
          split at h
          · rcases List.mem_cons.mp h with heq | hrest
            · rw [heq]
              exact List.mem_cons_self
            · exact List.mem_cons_of_mem _ (ih hrest)
          · exact List.mem_cons_of_mem _ (ih h)

/-- The lines of records are read one by one. -/
theorem readStream_texts {py : Builtins} (hfloats : Json.PlainFloats py) (depth : Nat)
    (records : List LogRecord) (h : forall record, record ∈ records -> record.Loggable py depth) :
    readStream (depth + 1) (records.flatMap fun record => record.text py) =
      (records.filter fun record => !record.isLong).map fun record => .ok record.document := by
  induction records with
  | nil => rfl
  | cons record rest ih =>
      have hrest := ih fun other hother => h other (List.mem_cons_of_mem _ hother)
      rw [List.flatMap_cons, LogRecord.text_eq]
      cases hlong : record.isLong with
      | true =>
          rw [if_pos rfl, List.nil_append, hrest, List.filter_cons_of_neg (by simp [hlong])]
      | false =>
          have hline := Text.splitLines_line
            (fun c hc => not_lineBoundary_of_printable
              (Json.printable_dumps hfloats record.document) hc)
            (rest.flatMap fun record => record.text py)
          rw [if_neg Bool.false_ne_true, List.filter_cons_of_pos (by simp [hlong]), List.map_cons,
            ← hrest, readStream, List.append_assoc, List.singleton_append, hline, List.map_cons,
            String.ofList_toList, JsonFormatter.loads_dumps_document (h record List.mem_cons_self)
              hlong]
          rfl

/--
Reading the stream of any run gives one document for each record that the level in force
let through, in their order: its members with the fields redacted.  A record with an
integer of too many digits is the only one that is lost.
-/
theorem readStream_streamOf {py : Builtins} (hfloats : Json.PlainFloats py)
    {logger : StructuredLogger} (hfresh : logger.Fresh) (level : LogLevel) {ops : List LogOp}
    {depth : Nat} (h : forall record, .log record ∈ ops -> record.Loggable py depth) :
    readStream (depth + 1) (streamOf py logger (.configure level :: ops)) =
      ((shownRecords level ops).filter fun record => !record.isLong).map
        fun record => .ok record.document := by
  rw [streamOf_fresh py hfresh]
  exact readStream_texts hfloats depth _ fun record hrecord =>
    h record (mem_shownRecords hrecord)

def retryRecord : LogRecord :=
  logWithContext "yasin_mcp" .info "retry:github_rate_limit" (some "r1")
    [("attempt", .int 0), ("auth_token", .str "t"), ("delay", .float (.decimal false 5 (-1)))]

theorem loggable_retry : retryRecord.Loggable Json.tenthsBuiltins 1 where
  named := ⟨by decide, rfl, trivial, rfl, trivial, rfl, trivial, trivial⟩
  floats := by
    intro x hx
    have hx : Value.float x ∈ [.int 0, redacted, .float (.decimal false 5 (-1))] := hx
    simp only [List.mem_cons, List.not_mem_nil, or_false] at hx
    rcases hx with hx | hx | hx
    · cases hx
    · cases hx
    · cases hx
      decide +kernel
  shallow := by decide

theorem readStream_streamOf_retry :
    readStream 2 (streamOf Json.tenthsBuiltins ⟨.warning, [.other]⟩
        [.configure .error, .log retryRecord, .configure .info, .log retryRecord]) =
      ((shownRecords .error [.log retryRecord, .configure .info, .log retryRecord]).filter
        fun record => !record.isLong).map fun record => .ok record.document := by
  apply readStream_streamOf Json.plainFloats_tenths
  · intro handler hhandler
    exact List.mem_singleton.mp hhandler
  · intro record hrecord
    simp only [List.mem_cons, List.not_mem_nil, or_false, LogOp.log.injEq, reduceCtorEq,
      false_or, or_self] at hrecord
    rw [hrecord]
    exact loggable_retry

end YasinMcp
