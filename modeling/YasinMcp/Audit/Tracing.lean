import YasinMcp.Audit.Logging
import YasinMcp.Errors.ClientContract
import YasinMcp.Foundation.Spans

/-!
# Traced operations

An operation runs in a request scope, which binds a correlation ID and restores the one
before, and logs how it starts and how it ends.  What code under a trace does, as far as the
log can tell, is a tree of such operations with lines in between.
-/

namespace YasinMcp

open Foundation

/-- The correlation ID in force, the number of IDs made, and what the logger was told. -/
structure Tracer where
  requestId : Option String := none
  made : Nat := 0
  logged : List LogOp := []

def Tracer.log (tracer : Tracer) (ops : List LogOp) : Tracer :=
  { tracer with logged := tracer.logged ++ ops }

/-- The IDs that are made, and the texts of the exceptions of the host. -/
structure TraceHost where
  newRequestId : Nat -> String
  hostText : PyException -> String

abbrev Traced (a : Type) := Tracer -> Except PyException a × Tracer

def TraceHost.text (host : TraceHost) : PyException -> String
  | .mcp error => error.category.value ++ ": " ++ error.message
  | .valueError message => message
  | .typeError message => message
  | .overflowError message => message
  | .invalidConfiguration message => message
  | e => host.hostText e

/-- The ID that a scope binds: the one given, unless it is empty, or a new one. -/
def TraceHost.scopeId (host : TraceHost) (requestId : Option String) (made : Nat) : String :=
  match requestId with
  | some given => if given = "" then host.newRequestId made else given
  | none => host.newRequestId made

/-- The state in which the block of a scope starts. -/
def Tracer.enter (tracer : Tracer) (host : TraceHost) (requestId : Option String) : Tracer :=
  { tracer with
    requestId := some (host.scopeId requestId tracer.made)
    made :=
      match requestId with
      | some given => if given = "" then tracer.made + 1 else tracer.made
      | none => tracer.made + 1 }

def frozenInstanceError : PyException := .other "FrozenInstanceError" true

/--
How a block ends for the code around its scope.  The scope sets the traceback of the exception
that leaves it, and an instance of the frozen base class, unlike its subclasses, refuses that.
-/
def scopeEnd {a : Type} : Except PyException a -> Except PyException a
  | .ok value => .ok value
  | .error (.mcp ⟨.mcpError, _, _, _⟩) => .error frozenInstanceError
  | .error e => .error e

theorem scopeEnd_error {a : Type} (e : PyException) :
    scopeEnd (.error e : Except PyException a) = .error e ∨
      scopeEnd (.error e : Except PyException a) = .error frozenInstanceError := by
  cases e with
  | mcp error =>
      rcases error with ⟨errorClass, category, message, details⟩
      cases errorClass with
      | mcpError => exact Or.inr rfl
      | _ => exact Or.inl rfl
  | _ => exact Or.inl rfl

/-- Bind a request ID for the block, and restore the one before. -/
def requestScope {a : Type} (host : TraceHost) (requestId : Option String)
    (block : String -> Traced a) : Traced a := fun tracer =>
  let ended := block (host.scopeId requestId tracer.made) (tracer.enter host requestId)
  (scopeEnd ended.1, { ended.2 with requestId := tracer.requestId })

/-- The operation, overwritten by the redacted fields. -/
def tracedFields (operation : String) (fields : List (Key × Value)) : List (Key × Value) :=
  (redactEntries fields).foldl (fun merged entry => Dict.setIn entry.1 entry.2 merged)
    [(.str "operation", .str operation)]

def startRecord (operation requestId : String) (fields : List (Key × Value)) : LogRecord :=
  logWithContext "yasin_mcp" .info ("start:" ++ operation) (some requestId)
    (tracedFields operation fields)

def errorRecord (host : TraceHost) (operation requestId : String) (e : PyException) : LogRecord :=
  logWithContext "yasin_mcp" .error ("error:" ++ operation) (some requestId)
    [(.str "operation", .str operation), (.str "error_type", .str e.className),
      (.str "error", .str (String.ofList ((host.text e).toList.take 500)))]

def endRecord (operation requestId : String) : LogRecord :=
  logWithContext "yasin_mcp" .info ("end:" ++ operation) (some requestId)
    [(.str "operation", .str operation), (.str "ok", .bool true)]

/-- How an operation ends in the log; an exit request leaves no line. -/
def ending {a : Type} (host : TraceHost) (operation requestId : String) :
    Except PyException a -> List LogOp
  | .ok _ => [.log (endRecord operation requestId)]
  | .error e => if e.isException then [.log (errorRecord host operation requestId e)] else []

def runTraced {a : Type} (host : TraceHost) (operation : String) (fn : Traced a)
    (fields : List (Key × Value) := []) (requestId : Option String := none) : Traced a :=
  fun tracer =>
    requestScope host requestId
      (fun rid started =>
        let ended := fn (started.log [.log (startRecord operation rid fields)])
        (ended.1, ended.2.log (ending host operation rid ended.1)))
      (tracer.log [.configure .info])

/-- A line of the logger of the package with the ID in force, as the retries write it. -/
def noteRecord (message : String) (requestId : Option String) (fields : List (Key × Value)) :
    LogRecord :=
  logWithContext "yasin_mcp" .info message requestId fields

/-!
## Code under a trace
-/

/-- Code that logs, traces operations, and goes on with how they ended. -/
inductive TracedWork where
  | returns (result : Value)
  | raises (e : PyException)
  | note (message : String) (fields : List (Key × Value)) (next : TracedWork)
  | otherLine (record : LogRecord) (next : TracedWork)
  | traced (operation : String) (fields : List (Key × Value)) (requestId : Option String)
      (body : TracedWork) (next : Except PyException Value -> TracedWork)

namespace TracedWork

def run (host : TraceHost) : TracedWork -> Traced Value
  | .returns result => fun tracer => (.ok result, tracer)
  | .raises e => fun tracer => (.error e, tracer)
  | .note message fields next => fun tracer =>
      next.run host (tracer.log
        [.configure .info, .log (noteRecord message tracer.requestId fields)])
  | .otherLine record next => fun tracer => next.run host (tracer.log [.log record])
  | .traced operation fields requestId body next => fun tracer =>
      let ended := runTraced host operation (body.run host) fields requestId tracer
      (next ended.1).run host ended.2

end TracedWork

/-!
## What the log shows
-/

inductive SpanEnd where
  | completed
  | raised (className text : String)
deriving DecidableEq, Repr

structure SpanOpening where
  operation : String
  requestId : String
  fields : List (Key × Value)

structure SpanClosing where
  operation : String
  requestId : String
  ended : SpanEnd
deriving DecidableEq, Repr

structure TraceNote where
  message : String
  requestId : Option String
  fields : List (Key × Value)

abbrev TraceTree := Tree SpanOpening SpanClosing TraceNote

abbrev TraceMark := Mark SpanOpening SpanClosing TraceNote

/-- The marks name the same operation and the same ID. -/
def SpanOpening.belongs (opened : SpanOpening) (closed : SpanClosing) : Bool :=
  opened.operation = closed.operation && opened.requestId = closed.requestId

def spanEnd {a : Type} (host : TraceHost) : Except PyException a -> SpanEnd
  | .ok _ => .completed
  | .error e => .raised e.className (String.ofList ((host.text e).toList.take 500))

/-- The state in which the body of a traced operation starts. -/
def Tracer.started (tracer : Tracer) (host : TraceHost) (operation : String)
    (fields : List (Key × Value)) (requestId : Option String) : Tracer :=
  ((tracer.log [.configure .info]).enter host requestId).log
    [.log (startRecord operation (host.scopeId requestId tracer.made) fields)]

namespace TracedWork

/-- The operations that a run traces, with the lines in between. -/
def forest (host : TraceHost) : TracedWork -> Tracer -> List TraceTree
  | .returns _ => fun _ => []
  | .raises _ => fun _ => []
  | .note message fields next => fun tracer =>
      .leaf ⟨message, tracer.requestId, redactEntries fields⟩ ::
        next.forest host (tracer.log
          [.configure .info, .log (noteRecord message tracer.requestId fields)])
  | .otherLine record next => fun tracer => next.forest host (tracer.log [.log record])
  | .traced operation fields requestId body next => fun tracer =>
      let started := tracer.started host operation fields requestId
      let ended := runTraced host operation (body.run host) fields requestId tracer
      .span ⟨operation, host.scopeId requestId tracer.made,
          redactEntries (tracedFields operation fields)⟩
        (body.forest host started)
        ⟨operation, host.scopeId requestId tracer.made, spanEnd host (body.run host started).1⟩ ::
        (next ended.1).forest host ended.2

end TracedWork

/-!
## Running under a trace
-/

section

variable {a : Type} (host : TraceHost) (operation : String) (fn : Traced a)
  (fields : List (Key × Value)) (requestId : Option String) (tracer : Tracer)

theorem runTraced_requestId :
    (runTraced host operation fn fields requestId tracer).2.requestId = tracer.requestId := rfl

/-- The lines of an operation come around those of its body. -/
theorem runTraced_logged :
    (runTraced host operation fn fields requestId tracer).2.logged =
      (fn (tracer.started host operation fields requestId)).2.logged ++
        ending host operation (host.scopeId requestId tracer.made)
          (fn (tracer.started host operation fields requestId)).1 := rfl

theorem started_logged :
    (tracer.started host operation fields requestId).logged =
      tracer.logged ++ [.configure .info,
        .log (startRecord operation (host.scopeId requestId tracer.made) fields)] := by
  show (tracer.logged ++ _) ++ _ = _
  rw [List.append_assoc]
  rfl

end

namespace TracedWork

theorem run_requestId (host : TraceHost) (work : TracedWork) (tracer : Tracer) :
    (work.run host tracer).2.requestId = tracer.requestId := by
  induction work generalizing tracer with
  | returns result => rfl
  | raises e => rfl
  | note message fields next ih => exact ih _
  | otherLine record next ih => exact ih _
  | traced operation fields requestId body next _ ih =>
      rw [run, ih]
      exact runTraced_requestId host operation (body.run host) fields requestId tracer

end TracedWork

/-!
## Correlation
-/

mutual

/-- Every line names the operation around it by its ID, and an operation ends as itself. -/
def Correlated (current : Option String) : TraceTree -> Prop
  | .leaf note => note.requestId = current
  | .span opened inner closed =>
      closed.operation = opened.operation ∧ closed.requestId = opened.requestId ∧
        AllCorrelated (some opened.requestId) inner

def AllCorrelated (current : Option String) : List TraceTree -> Prop
  | [] => True
  | tree :: rest => Correlated current tree ∧ AllCorrelated current rest

end

mutual

theorem closed_of_correlated : forall {tree : TraceTree} {current : Option String},
    Correlated current tree -> tree.Closed SpanOpening.belongs
  | .leaf _, _, _ => trivial
  | .span opened inner closed, _, h => by
      refine ⟨?_, allClosed_of_correlated h.2.2⟩
      rw [SpanOpening.belongs, h.1, h.2.1, decide_eq_true rfl, decide_eq_true rfl]
      rfl

theorem allClosed_of_correlated : forall {trees : List TraceTree} {current : Option String},
    AllCorrelated current trees -> Tree.AllClosed SpanOpening.belongs trees
  | [], _, _ => trivial
  | _ :: _, _, h => ⟨closed_of_correlated h.1, allClosed_of_correlated h.2⟩

end

/-- The lines of a run are correlated with the operations around them. -/
theorem TracedWork.correlated_forest (host : TraceHost) (work : TracedWork) (tracer : Tracer) :
    AllCorrelated tracer.requestId (work.forest host tracer) := by
  induction work generalizing tracer with
  | returns result => exact trivial
  | raises e => exact trivial
  | note message fields next ih => exact ⟨rfl, ih (tracer.log _)⟩
  | otherLine record next ih => exact ih (tracer.log _)
  | traced operation fields requestId body next ihBody ihNext =>
      refine ⟨⟨rfl, rfl, ?_⟩, ?_⟩
      · exact ihBody (tracer.started host operation fields requestId)
      · exact ihNext _ (runTraced host operation (body.run host) fields requestId tracer).2

end YasinMcp
