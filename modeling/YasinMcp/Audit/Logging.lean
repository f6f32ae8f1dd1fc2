import YasinMcp.Foundation.JsonRoundTrip
import YasinMcp.Foundation.Machine
import YasinMcp.Governance.Audit

/-!
# Structured logging

A record that the logger does not drop for its level is written by the handler of the
server as one JSON object on a line of its own, with the fields redacted.  Configuring
the logger again changes its level and never adds a second handler.  The loggers of the
package share the level and the handlers of one logger, and the stream is that handler's.
-/

namespace YasinMcp

open Foundation

inductive LogLevel where
  | debug
  | info
  | warning
  | error
  | critical
deriving DecidableEq, Repr

def LogLevel.name : LogLevel -> String
  | .debug => "DEBUG"
  | .info => "INFO"
  | .warning => "WARNING"
  | .error => "ERROR"
  | .critical => "CRITICAL"

def LogLevel.severity : LogLevel -> Nat
  | .debug => 10
  | .info => 20
  | .warning => 30
  | .error => 40
  | .critical => 50

structure LogRecord where
  level : LogLevel
  logger : String
  message : String
  requestId : Option String := none
  fields : List (Key × Value) := []
deriving DecidableEq

/-!
## Formatting
-/

namespace JsonFormatter

def payload (record : LogRecord) : List (Key × Value) :=
  optionalEntry "level" (some (.str record.level.name)) ++
    optionalEntry "logger" (some (.str record.logger)) ++
    optionalEntry "message" (some (.str record.message)) ++
    optionalEntry "request_id" (record.requestId.map .str) ++
    mappingEntry "fields" (redactEntries record.fields)

/-- The line of a record whose names are strings. -/
def format (py : Builtins) (record : LogRecord) : Except PyException String :=
  if (Json.scalars (redact (.dict (payload record)))).any Json.isLong then
    .error (.valueError
      ("Exceeds the limit (4300 digits) for integer string conversion; use " ++
        "sys.set_int_max_str_digits() to increase the limit"))
  else .ok (Json.dumps py (redact (.dict (payload record))))

end JsonFormatter

/-!
## The logger
-/

/-- A handler is this formatter's on the standard output, another stream's, or neither. -/
inductive LogHandler where
  | json
  | otherStream
  | other
deriving DecidableEq, Repr

def LogHandler.isStream : LogHandler -> Bool
  | .json => true
  | .otherStream => true
  | .other => false

structure StructuredLogger where
  level : LogLevel
  handlers : List LogHandler
deriving DecidableEq

def configureLogging (level : LogLevel) (logger : StructuredLogger) : StructuredLogger where
  level := level
  handlers :=
    if logger.handlers.any LogHandler.isStream then logger.handlers
    else logger.handlers ++ [.json]

/-- What a handler writes to the standard output; a failing format is reported elsewhere. -/
def LogHandler.emit (py : Builtins) (record : LogRecord) : LogHandler -> List Char
  | .json =>
      match JsonFormatter.format py record with
      | .ok line => line.toList ++ ['\n']
      | .error _ => []
  | _ => []

namespace StructuredLogger

def isEnabledFor (logger : StructuredLogger) (level : LogLevel) : Bool :=
  logger.level.severity ≤ level.severity

def handle (py : Builtins) (logger : StructuredLogger) (record : LogRecord) : List Char :=
  if logger.isEnabledFor record.level then
    logger.handlers.flatMap fun handler => handler.emit py record
  else []

end StructuredLogger

def logWithContext (logger : String) (level : LogLevel) (message : String)
    (requestId : Option String := none) (fields : List (Key × Value) := []) : LogRecord where
  level := level
  logger := logger
  message := message
  requestId := requestId
  fields := redactEntries fields

def LoggingAuditRecorder.logRecord (event : StampedEvent) : LogRecord where
  level := .info
  logger := "yasin_mcp.governance.audit"
  message := "governance_audit"
  fields := LoggingAuditRecorder.record event

/-!
## Runs
-/

inductive LogOp where
  | configure (level : LogLevel)
  | log (record : LogRecord)
deriving DecidableEq

/-- Each operation answers with what it wrote to the stream. -/
def loggingMachine (py : Builtins) : Machine StructuredLogger LogOp (List Char) where
  step logger
    | .configure level => ([], configureLogging level logger)
    | .log record => (logger.handle py record, logger)

def streamOf (py : Builtins) (logger : StructuredLogger) (ops : List LogOp) : List Char :=
  ((loggingMachine py).history logger ops).flatMap Prod.snd

/-- The records of a run that the level in force lets through. -/
def shownRecords (level : LogLevel) : List LogOp -> List LogRecord
  | [] => []
  | .configure level :: rest => shownRecords level rest
  | .log record :: rest =>
      if level.severity ≤ record.level.severity then record :: shownRecords level rest
      else shownRecords level rest

end YasinMcp
