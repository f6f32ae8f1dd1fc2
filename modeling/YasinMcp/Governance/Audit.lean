import YasinMcp.Governance.Types

/-!
# Audit events and redaction

Everything that enters an audit event's context has passed the redactor, which
masks the values under sensitive keys at every depth.  The gate gives an event all
its fields but the timestamp, which the clock fills in.
-/

namespace YasinMcp

open Foundation

def redacted : Value := .str "***"

def sensitiveKeyParts : List String :=
  ["token", "secret", "password", "passwd", "authorization", "api_key", "apikey",
    "credential"]

def isSensitiveKey (key : Key) : Bool :=
  Text.mentionsAny sensitiveKeyParts key.text

mutual

/-- Mask sensitive entries of mappings; a tuple comes back as a list. -/
def redact : Value -> Value
  | .dict entries => .dict (redactEntries entries)
  | .list items => .list (redactItems items)
  | .tuple items => .list (redactItems items)
  | value => value

def redactItems : List Value -> List Value
  | [] => []
  | item :: rest => redact item :: redactItems rest

def redactEntries : List (Key × Value) -> List (Key × Value)
  | [] => []
  | (key, item) :: rest =>
      (key, if isSensitiveKey key then redacted else redact item) :: redactEntries rest

end

inductive AuditEventType where
  | request
  | decision
  | executionResult
  | executionFailure
deriving DecidableEq, Repr

def AuditEventType.value : AuditEventType -> String
  | .request => "request"
  | .decision => "decision"
  | .executionResult => "execution_result"
  | .executionFailure => "execution_failure"

structure AuditEvent where
  eventType : AuditEventType
  toolName : String
  risk : Option RiskLevel
  decision : Option GovernanceDecision
  success : Option Bool := none
  message : Option String := none
  context : List (Key × Value)
  extra : List (Key × Value) := []
deriving DecidableEq

/-- An event with the timestamp that it was given. -/
structure StampedEvent extends AuditEvent where
  timestamp : String
deriving DecidableEq

def AuditEvent.stamp (timestamp : String) (event : AuditEvent) : StampedEvent :=
  { event with timestamp := timestamp }

def optionalEntry (name : String) : Option Value -> List (Key × Value)
  | none => []
  | some value => [(.str name, value)]

def mappingEntry (name : String) (entries : List (Key × Value)) : List (Key × Value) :=
  if entries.isEmpty then [] else [(.str name, .dict entries)]

def StampedEvent.asDict (event : StampedEvent) : List (Key × Value) :=
  optionalEntry "event_type" (some (.str event.eventType.value)) ++
    optionalEntry "tool_name" (some (.str event.toolName)) ++
    optionalEntry "timestamp" (some (.str event.timestamp)) ++
    optionalEntry "risk" (event.risk.map fun risk => .str risk.value) ++
    optionalEntry "decision" (event.decision.map fun decision => .str decision.value) ++
    optionalEntry "success" (event.success.map .bool) ++
    optionalEntry "message" (event.message.map .str) ++
    mappingEntry "context" event.context ++
    mappingEntry "extra" event.extra

/-!
## Recorders
-/

structure InMemoryAuditRecorder where
  events : List StampedEvent

/-- Keep the event with its two mappings redacted once more. -/
def InMemoryAuditRecorder.record (recorder : InMemoryAuditRecorder) (event : StampedEvent) :
    InMemoryAuditRecorder :=
  ⟨recorder.events ++
    [{ event with
        context := redactEntries event.context
        extra := redactEntries event.extra }]⟩

def LoggingAuditRecorder.record (event : StampedEvent) : List (Key × Value) :=
  redactEntries event.asDict

def safeContext : Option GovernanceContext -> List (Key × Value)
  | none => []
  | some context => redactEntries context.asDict

end YasinMcp
