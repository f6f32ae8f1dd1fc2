import YasinMcp.Audit.AuditReading
import YasinMcp.Audit.Tracing

/-!
# Traced operations read from the log

A reader of the log finds the operations of any run as they were nested, with the fields
they started with and how they ended, and the lines in between.  The level that the server
was configured with does not matter, because every operation configures it again.
-/

namespace YasinMcp

open Foundation

/-!
## Marks
-/

def after? (front s : String) : Option String :=
  (front.toList.isPrefixOf? s.toList).map String.ofList

theorem after?_append (front s : String) : after? front (front ++ s) = some s := by
  rw [after?, String.toList_append, List.isPrefixOf?_eq_some_iff_append_eq.mpr rfl,
    Option.map_some, String.ofList_toList]

def IsPlainMessage (message : String) : Prop :=
  after? "start:" message = none ∧ after? "error:" message = none ∧
    after? "end:" message = none

instance (message : String) : Decidable (IsPlainMessage message) :=
  inferInstanceAs (Decidable (_ ∧ _ ∧ _))

def markOfMessage? (message : String) (requestId : Option String)
    (fields : List (Key × Value)) : Option TraceMark :=
  match after? "start:" message with
  | some operation => requestId.map fun rid => .opened ⟨operation, rid, fields⟩
  | none =>
      match after? "error:" message with
      | some operation => do
          let rid ← requestId
          let className ← textIn "error_type" fields
          let text ← textIn "error" fields
          some (.closed ⟨operation, rid, .raised className text⟩)
      | none =>
          match after? "end:" message with
          | some operation => requestId.map fun rid => .closed ⟨operation, rid, .completed⟩
          | none => some (.noted ⟨message, requestId, fields⟩)

def markOf? : Value -> Option TraceMark
  | .dict members =>
      if textIn "logger" members = some "yasin_mcp" then
        (textIn "message" members).bind fun message =>
          markOfMessage? message (textIn "request_id" members) (mappingIn "fields" members)
      else none
  | _ => none

def readTrace? (depth : Nat) (stream : List Char) : Option (List TraceTree) :=
  Tree.readForest? SpanOpening.belongs
    ((readStream depth stream).filterMap fun line => line.toOption.bind markOf?)

theorem textIn_requestId (record : LogRecord) :
    textIn "request_id" (JsonFormatter.payload record) = record.requestId := by
  rw [JsonFormatter.payload_eq]
  cases record.requestId with
  | none =>
      rw [mappingEntry]
      split <;> rfl
  | some requestId => rfl

theorem mappingIn_payload (record : LogRecord) :
    mappingIn "fields" (JsonFormatter.payload record) = redactEntries record.fields := by
  have hentry : forall front, Dict.lookupIn (Key.str "fields") front = none ->
      mappingIn "fields" (front ++ mappingEntry "fields" (redactEntries record.fields)) =
        redactEntries record.fields := by
    intro front hfront
    rw [mappingIn, Dict.lookupIn_append, hfront, Option.none_or, mappingEntry]
    cases hempty : (redactEntries record.fields).isEmpty with
    | true => exact (List.isEmpty_iff.mp hempty).symm
    | false => rfl
  rw [JsonFormatter.payload_eq, ← List.append_assoc]
  apply hentry
  cases record.requestId with
  | none => rfl
  | some requestId => rfl

theorem markOf?_logWithContext (level : LogLevel) (message : String) (requestId : Option String)
    (fields : List (Key × Value)) :
    markOf? (logWithContext "yasin_mcp" level message requestId fields).document =
      markOfMessage? message requestId (redactEntries fields) := by
  have hfields : redactEntries (logWithContext "yasin_mcp" level message requestId fields).fields =
      redactEntries fields :=
    redactEntries_redactEntries fields
  have hmessage : textIn "message" (JsonFormatter.payload
      (logWithContext "yasin_mcp" level message requestId fields)) = some message := by
    rw [JsonFormatter.payload_eq]
    rfl
  rw [LogRecord.document, markOf?, textIn_logger, hmessage, textIn_requestId, mappingIn_payload,
    hfields]
  rfl

theorem markOf?_other {record : LogRecord} (h : record.logger ≠ "yasin_mcp") :
    markOf? record.document = none := by
  rw [LogRecord.document, markOf?, textIn_logger, if_neg]
  intro hlogger
  exact h (Option.some.inj hlogger)

theorem markOf?_start (operation requestId : String) (fields : List (Key × Value)) :
    markOf? (startRecord operation requestId fields).document =
      some (.opened ⟨operation, requestId, redactEntries (tracedFields operation fields)⟩) := by
  rw [startRecord, markOf?_logWithContext, markOfMessage?, after?_append]
  rfl

theorem markOf?_note {message : String} (h : IsPlainMessage message) (requestId : Option String)
    (fields : List (Key × Value)) :
    markOf? (noteRecord message requestId fields).document =
      some (.noted ⟨message, requestId, redactEntries fields⟩) := by
  rw [noteRecord, markOf?_logWithContext, markOfMessage?, h.1, h.2.1, h.2.2]

theorem after?_apart {front other : String} (h : ¬front.toList <+: other.toList)
    (hother : ¬other.toList <+: front.toList) (s : String) : after? front (other ++ s) = none := by
  cases hafter : front.toList.isPrefixOf? (other ++ s).toList with
  | none =>
      rw [after?, hafter]
      rfl
  | some rest =>
      rw [List.isPrefixOf?_eq_some_iff_append_eq, String.toList_append] at hafter
      rcases List.prefix_or_prefix_of_prefix ⟨rest, hafter⟩
        (List.prefix_append other.toList s.toList) with hprefix | hprefix
      · exact absurd hprefix h
      · exact absurd hprefix hother

theorem markOf?_end (operation requestId : String) :
    markOf? (endRecord operation requestId).document =
      some (.closed ⟨operation, requestId, .completed⟩) := by
  rw [endRecord, markOf?_logWithContext, markOfMessage?, after?_apart (by decide) (by decide),
    after?_apart (by decide) (by decide), after?_append]
  rfl

theorem markOf?_error (host : TraceHost) (operation requestId : String) (e : PyException) :
    markOf? (errorRecord host operation requestId e).document =
      some (.closed ⟨operation, requestId,
        .raised e.className (String.ofList ((host.text e).toList.take 500))⟩) := by
  rw [errorRecord, markOf?_logWithContext, markOfMessage?, after?_apart (by decide) (by decide),
    after?_append]
  rfl

/-!
## What is shown of operations of the logger
-/

def levelAfter (level : LogLevel) : List LogOp -> LogLevel
  | [] => level
  | .configure other :: rest => levelAfter other rest
  | .log _ :: rest => levelAfter level rest

theorem levelAfter_append (level : LogLevel) (ops others : List LogOp) :
    levelAfter level (ops ++ others) = levelAfter (levelAfter level ops) others := by
  induction ops generalizing level with
  | nil => rfl
  | cons op rest ih =>
      cases op with
      | configure other => exact ih other
      | log record => exact ih level

theorem shownRecords_append (level : LogLevel) (ops others : List LogOp) :
    shownRecords level (ops ++ others) =
      shownRecords level ops ++ shownRecords (levelAfter level ops) others := by
  induction ops generalizing level with
  | nil => rfl
  | cons op rest ih =>
      cases op with
      | configure other => exact ih other
      | log record =>
          rw [List.cons_append, shownRecords, shownRecords, levelAfter, ih]
          split <;> rfl

def shownMarks (level : LogLevel) (ops : List LogOp) : List TraceMark :=
  ((shownRecords level ops).filter fun record => !record.isLong).filterMap
    fun record => markOf? record.document

theorem shownMarks_append (level : LogLevel) (ops others : List LogOp) :
    shownMarks level (ops ++ others) =
      shownMarks level ops ++ shownMarks (levelAfter level ops) others := by
  rw [shownMarks, shownRecords_append, List.filter_append, List.filterMap_append]
  rfl

/-- The record has a line, which is read back. -/
structure LogRecord.Shown (py : Builtins) (depth : Nat) (record : LogRecord) : Prop where
  loggable : record.Loggable py depth
  short : record.isLong = false

theorem shownMarks_log {py : Builtins} {depth : Nat} {record : LogRecord}
    (hshown : record.Shown py depth) {mark : TraceMark}
    (hmark : markOf? record.document = some mark) {level : LogLevel}
    (hlevel : level.severity ≤ record.level.severity) :
    shownMarks level [.log record] = [mark] := by
  have hshort := hshown.short
  rw [shownMarks, shownRecords, if_pos hlevel, List.filter_cons_of_pos (by simp [hshort]),
    List.filterMap_cons, hmark]
  rfl

theorem shownMarks_other {record : LogRecord} (h : record.logger ≠ "yasin_mcp")
    (level : LogLevel) : shownMarks level [.log record] = [] := by
  rw [shownMarks, List.filterMap_eq_nil_iff]
  intro shown hshown
  have hmem := mem_shownRecords (List.mem_of_mem_filter hshown)
  rw [List.mem_singleton, LogOp.log.injEq] at hmem
  rw [hmem]
  exact markOf?_other h

/-- What is logged has lines, whose marks are those of the trees at every level. -/
structure Written (py : Builtins) (depth : Nat) (ops : List LogOp) (trees : List TraceTree) :
    Prop where
  loggable : forall record, .log record ∈ ops -> record.Loggable py depth
  marks : forall level, shownMarks level ops = Tree.marksOf trees
  level : forall level, levelAfter level ops = level ∨ levelAfter level ops = .info

namespace Written

variable {py : Builtins} {depth : Nat} {ops others : List LogOp}
  {trees otherTrees : List TraceTree}

theorem nil : Written py depth [] [] where
  loggable := by
    intro record hrecord
    cases hrecord
  marks := fun _ => rfl
  level := fun _ => Or.inl rfl

theorem append (h : Written py depth ops trees) (hothers : Written py depth others otherTrees) :
    Written py depth (ops ++ others) (trees ++ otherTrees) where
  loggable := by
    intro record hrecord
    rcases List.mem_append.mp hrecord with hops | hmem
    · exact h.loggable record hops
    · exact hothers.loggable record hmem
  marks := by
    intro level
    rw [shownMarks_append, h.marks, hothers.marks, Tree.marksOf_append]
  level := by
    intro level
    rw [levelAfter_append]
    rcases hothers.level (levelAfter level ops) with hsame | hinfo
    · rw [hsame]
      exact h.level level
    · exact Or.inr hinfo

theorem note {message : String} {requestId : Option String} {fields : List (Key × Value)}
    (hmessage : IsPlainMessage message)
    (hshown : (noteRecord message requestId fields).Shown py depth) :
    Written py depth [.configure .info, .log (noteRecord message requestId fields)]
      [.leaf ⟨message, requestId, redactEntries fields⟩] where
  loggable := by
    intro record hrecord
    rcases List.mem_cons.mp hrecord with hconfigure | hlog
    · cases hconfigure
    · cases List.mem_singleton.mp hlog
      exact hshown.loggable
  marks := by
    intro level
    have hmark := markOf?_note hmessage requestId fields
    exact shownMarks_log hshown hmark (Nat.le_refl _)
  level := fun _ => Or.inr rfl

theorem otherLine {record : LogRecord} (hlogger : record.logger ≠ "yasin_mcp")
    (hloggable : record.Loggable py depth) : Written py depth [.log record] [] where
  loggable := by
    intro other hother
    cases List.mem_singleton.mp hother
    exact hloggable
  marks := fun level => shownMarks_other hlogger level
  level := fun _ => Or.inl rfl

theorem span {opened : SpanOpening} {closed : SpanClosing} {start last : LogRecord}
    (hstart : start.Shown py depth) (hopened : markOf? start.document = some (.opened opened))
    (hstartLevel : start.level = .info) (hlast : last.Shown py depth)
    (hclosed : markOf? last.document = some (.closed closed))
    (hlastLevel : LogLevel.info.severity ≤ last.level.severity)
    (h : Written py depth ops trees) :
    Written py depth (.configure .info :: .log start :: (ops ++ [.log last]))
      [.span opened trees closed] where
  loggable := by
    intro record hrecord
    simp only [List.mem_cons, List.mem_append, List.not_mem_nil, or_false, reduceCtorEq,
      LogOp.log.injEq, false_or] at hrecord
    rcases hrecord with heq | hops | heq
    · rw [heq]
      exact hstart.loggable
    · exact h.loggable record hops
    · rw [heq]
      exact hlast.loggable
  marks := by
    intro level
    have hinner : levelAfter .info ops = .info := (h.level .info).elim id id
    have hfirst : shownMarks .info [.log start] = [.opened opened] := by
      apply shownMarks_log hstart hopened
      rw [hstartLevel]
    have hend : shownMarks .info [.log last] = [.closed closed] :=
      shownMarks_log hlast hclosed hlastLevel
    show shownMarks .info ([.log start] ++ (ops ++ [.log last])) = _
    rw [shownMarks_append, hfirst, levelAfter, levelAfter, shownMarks_append, h.marks, hinner,
      hend]
    simp [Tree.marksOf, Tree.marks]
  level := by
    intro level
    have hinner : levelAfter .info ops = .info := (h.level .info).elim id id
    apply Or.inr
    show levelAfter .info (ops ++ [.log last]) = _
    rw [levelAfter_append, hinner]
    rfl

end Written

/-!
## Runs
-/

theorem shown_end {py : Builtins} {depth : Nat} (hdepth : 1 ≤ depth)
    (operation requestId : String) : (endRecord operation requestId).Shown py depth where
  loggable :=
    { named := by
        refine ⟨?_, rfl, trivial, rfl, trivial, trivial⟩
        show ([Key.str "operation", Key.str "ok"]).Nodup
        decide
      floats := by
        intro x hx
        have hx : Value.float x ∈ [.str operation, .bool true] := hx
        simp at hx
      shallow := hdepth }
  short := rfl

theorem shown_error {py : Builtins} {depth : Nat} (hdepth : 1 ≤ depth) (host : TraceHost)
    (operation requestId : String) (e : PyException) :
    (errorRecord host operation requestId e).Shown py depth where
  loggable :=
    { named := by
        refine ⟨?_, rfl, trivial, rfl, trivial, rfl, trivial, trivial⟩
        show ([Key.str "operation", Key.str "error_type", Key.str "error"]).Nodup
        decide
      floats := by
        intro x hx
        have hx : Value.float x ∈ [.str operation, .str e.className,
          .str (String.ofList ((host.text e).toList.take 500))] := hx
        simp at hx
      shallow := hdepth }
  short := rfl

/-- What comes out is a result, or an exception that is no exit request. -/
def NoExit {a : Type} (result : Except PyException a) : Prop :=
  forall e, result = .error e -> e.isException = true

theorem NoExit.scopeEnd {a : Type} {result : Except PyException a} (h : NoExit result) :
    NoExit (scopeEnd result) := by
  intro e he
  cases result with
  | ok value => cases he
  | error raised =>
      rcases scopeEnd_error (a := a) raised with hsame | hfrozen
      · rw [hsame] at he
        exact h e he
      · rw [hfrozen] at he
        cases he
        rfl

namespace TracedWork

/-- The lines of the code can be read back, and it raises no exit request of its own. -/
def Traceable (py : Builtins) (depth : Nat) : TracedWork -> Prop
  | .returns _ => True
  | .raises e => e.isException = true
  | .note message fields next =>
      IsPlainMessage message ∧
        (forall requestId, (noteRecord message requestId fields).Shown py depth) ∧
        next.Traceable py depth
  | .otherLine record next =>
      record.logger ≠ "yasin_mcp" ∧ record.Loggable py depth ∧ next.Traceable py depth
  | .traced operation fields _ body next =>
      (forall requestId, (startRecord operation requestId fields).Shown py depth) ∧
        body.Traceable py depth ∧
        forall result, NoExit result -> (next result).Traceable py depth

variable {py : Builtins} {depth : Nat} {work : TracedWork}

theorem noExit_run (host : TraceHost) (h : work.Traceable py depth) (tracer : Tracer) :
    NoExit (work.run host tracer).1 := by
  induction work generalizing tracer with
  | returns result =>
      intro e he
      cases he
  | raises raised =>
      intro e he
      cases he
      exact h
  | note message fields next ih => exact ih h.2.2 _
  | otherLine record next ih => exact ih h.2.2 _
  | traced operation fields requestId body next ihBody ihNext =>
      have hresult := ihBody h.2.1 (tracer.started host operation fields requestId)
      exact ihNext _ (h.2.2 _ hresult.scopeEnd) _

theorem exists_last (py : Builtins) (host : TraceHost) (operation requestId : String)
    (hdepth : 1 ≤ depth) {result : Except PyException Value} (h : NoExit result) :
    exists last, ending host operation requestId result = [.log last] ∧ last.Shown py depth ∧
      markOf? last.document = some (.closed ⟨operation, requestId, spanEnd host result⟩) ∧
      LogLevel.info.severity ≤ last.level.severity := by
  cases result with
  | ok value =>
      exact ⟨_, rfl, shown_end hdepth operation requestId, markOf?_end operation requestId,
        Nat.le_refl _⟩
  | error e =>
      exact ⟨_, if_pos (h e rfl), shown_error hdepth host operation requestId e,
        markOf?_error host operation requestId e,
        show LogLevel.info.severity ≤ LogLevel.error.severity by decide⟩

/-- What a run logs is the marks of its operations. -/
theorem written_run (host : TraceHost) (h : work.Traceable py depth) (tracer : Tracer) :
    exists added, (work.run host tracer).2.logged = tracer.logged ++ added ∧
      Written py depth added (work.forest host tracer) := by
  induction work generalizing tracer with
  | returns result => exact ⟨[], (List.append_nil _).symm, Written.nil⟩
  | raises e => exact ⟨[], (List.append_nil _).symm, Written.nil⟩
  | note message fields next ih =>
      rcases ih h.2.2 (tracer.log
        [.configure .info, .log (noteRecord message tracer.requestId fields)]) with
        ⟨added, hlogged, hwritten⟩
      refine ⟨_, ?_, (Written.note h.1 (h.2.1 tracer.requestId)).append hwritten⟩
      rw [run, hlogged, ← List.append_assoc]
      rfl
  | otherLine record next ih =>
      rcases ih h.2.2 (tracer.log [.log record]) with ⟨added, hlogged, hwritten⟩
      refine ⟨_, ?_, (Written.otherLine h.1 h.2.1).append hwritten⟩
      rw [run, hlogged, ← List.append_assoc]
      rfl
  | traced operation fields requestId body next ihBody ihNext =>
      have hstart := h.1 (host.scopeId requestId tracer.made)
      have hdepth : 1 ≤ depth :=
        Nat.le_trans (Nat.succ_le_succ (Nat.zero_le _)) hstart.loggable.shallow
      have hexit := noExit_run host h.2.1 (tracer.started host operation fields requestId)
      rcases ihBody h.2.1 (tracer.started host operation fields requestId) with
        ⟨inner, hinner, hbody⟩
      rcases exists_last py host operation (host.scopeId requestId tracer.made) hdepth
        hexit with ⟨last, hending, hlast, hclosed, hlevel⟩
      rcases ihNext _ (h.2.2 _ hexit.scopeEnd)
        (runTraced host operation (body.run host) fields requestId tracer).2 with
        ⟨added, hlogged, hwritten⟩
      have hspan := Written.span hstart (markOf?_start operation _ fields) rfl hlast hclosed hlevel
        hbody
      refine ⟨_, ?_, hspan.append hwritten⟩
      have hrun : ((traced operation fields requestId body next).run host tracer).2.logged = _ :=
        hlogged
      rw [hrun, runTraced_logged, hinner, started_logged, hending]
      simp only [List.append_assoc, List.cons_append, List.nil_append]

end TracedWork

/--
Reading the stream of any run gives the operations that it traced, nested as they were, with
the lines in between, at whatever level the server was configured.  Every line has the ID of
the innermost operation around it, and the ID in force is in the end what it was at first.
-/
theorem readTrace_run {py : Builtins} (hfloats : Json.PlainFloats py) {logger : StructuredLogger}
    (hfresh : logger.Fresh) (level : LogLevel) (host : TraceHost) {depth : Nat}
    {work : TracedWork} (h : work.Traceable py depth) (requestId : Option String) (made : Nat) :
    readTrace? (depth + 1) (streamOf py logger
        (.configure level :: (work.run host ⟨requestId, made, []⟩).2.logged)) =
      some (work.forest host ⟨requestId, made, []⟩) ∧
    AllCorrelated requestId (work.forest host ⟨requestId, made, []⟩) ∧
    (work.run host ⟨requestId, made, []⟩).2.requestId = requestId := by
  have hcorrelated := work.correlated_forest host ⟨requestId, made, []⟩
  refine ⟨?_, hcorrelated, work.run_requestId host _⟩
  rcases TracedWork.written_run host h ⟨requestId, made, []⟩ with ⟨ops, hops, hwritten⟩
  rw [List.nil_append] at hops
  have hmarks := hwritten.marks level
  rw [shownMarks] at hmarks
  rw [hops, readTrace?, streamOf_fresh py hfresh, readStream_texts hfloats depth _ fun record hmem =>
    hwritten.loggable record (mem_shownRecords hmem), List.filterMap_map]
  show Tree.readForest? SpanOpening.belongs (List.filterMap (fun record : LogRecord =>
    markOf? record.document) _) = _
  rw [hmarks]
  exact Tree.readForest?_marksOf (allClosed_of_correlated hcorrelated)

def endingName : Except PyException Value -> String
  | .ok _ => "none"
  | .error e => e.className

/-- The request fails with a bare application error, and the code around it goes on. -/
def syncWork : TracedWork :=
  .traced "sync" [("repo", .str "docs")] (some "r1")
    (.note "retry:github_rate_limit" [("status", .str "429")]
      (.traced "fetch" [("auth_token", .str "t")] none
        (.raises (.mcp ⟨.mcpError, .timeout, "down", []⟩))
        fun ended => .note "skipped" [("reason", .str (endingName ended))] (.returns .none)))
    fun _ => .returns (.int 1)

def numberingHost : TraceHost where
  newRequestId made := "new-" ++ toString made
  hostText _ := ""

theorem traceable_sync : syncWork.Traceable Json.tenthsBuiltins 1 := by
  refine ⟨?_, ⟨by decide, ?_, ⟨?_, rfl, ?_⟩⟩, fun _ _ => trivial⟩
  · intro requestId
    refine ⟨⟨⟨?_, rfl, trivial, rfl, trivial, trivial⟩, ?_, Nat.le_refl 1⟩, rfl⟩
    · show ([Key.str "operation", Key.str "repo"]).Nodup
      decide
    intro x hx
    have hx : Value.float x ∈ [.str "sync", .str "docs"] := hx
    simp at hx
  · intro requestId
    refine ⟨⟨⟨List.nodup_singleton _, rfl, trivial, trivial⟩, ?_, Nat.le_refl 1⟩, ?_⟩
    · intro x hx
      have hx : Value.float x ∈ [.str "429"] := hx
      simp at hx
    · cases requestId <;> rfl
  · intro requestId
    refine ⟨⟨⟨?_, rfl, trivial, rfl, trivial, trivial⟩, ?_, Nat.le_refl 1⟩, rfl⟩
    · show ([Key.str "operation", Key.str "auth_token"]).Nodup
      decide
    intro x hx
    have hx : Value.float x ∈ [.str "fetch", redacted] := hx
    simp [redacted] at hx
  · intro ended _
    refine ⟨by decide, fun requestId => ?_, trivial⟩
    refine ⟨⟨⟨List.nodup_singleton _, rfl, trivial, trivial⟩, ?_, Nat.le_refl 1⟩, ?_⟩
    · intro x hx
      have hx : Value.float x ∈ [.str (endingName ended)] := hx
      simp at hx
    · cases requestId <;> rfl

theorem readTrace_run_sync :
    readTrace? 2 (streamOf Json.tenthsBuiltins ⟨.warning, [.other]⟩
        (.configure .error :: (syncWork.run numberingHost ⟨none, 0, []⟩).2.logged)) =
      some [.span ⟨"sync", "r1", [(.str "operation", .str "sync"), (.str "repo", .str "docs")]⟩
        [.leaf ⟨"retry:github_rate_limit", some "r1", [(.str "status", .str "429")]⟩,
          .span ⟨"fetch", "new-0", [(.str "operation", .str "fetch"),
              (.str "auth_token", redacted)]⟩ []
            ⟨"fetch", "new-0", .raised "McpError" "timeout: down"⟩,
          .leaf ⟨"skipped", some "r1", [(.str "reason", .str "FrozenInstanceError")]⟩]
        ⟨"sync", "r1", .completed⟩] := by
  have hfresh : StructuredLogger.Fresh ⟨.warning, [.other]⟩ :=
    fun handler hhandler => List.mem_singleton.mp hhandler
  have hread := readTrace_run Json.plainFloats_tenths hfresh .error numberingHost traceable_sync
    none 0
  rw [hread.1]
  rfl

end YasinMcp
