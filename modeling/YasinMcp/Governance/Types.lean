import YasinMcp.Errors
import YasinMcp.Foundation.Text

/-!
# Governance domain types

Risk levels, decisions, tool identities and the request context that policies
and audit events read.
-/

namespace YasinMcp

open Foundation

inductive GovernanceDecision where
  | allow
  | deny
  | approvalRequired
deriving DecidableEq, Repr

def GovernanceDecision.value : GovernanceDecision -> String
  | .allow => "allow"
  | .deny => "deny"
  | .approvalRequired => "approval_required"

inductive RiskLevel where
  | readOnly
  | lowRisk
  | mutation
  | highRisk
deriving DecidableEq, Repr

def RiskLevel.value : RiskLevel -> String
  | .readOnly => "read_only"
  | .lowRisk => "low_risk"
  | .mutation => "mutation"
  | .highRisk => "high_risk"

/-- A named tool with its risk; {lit}`known` tells registered names from others. -/
structure ToolIdentity where
  name : String
  risk : RiskLevel
  known : Bool
  name_not_blank : Text.isBlank name = false

def ToolIdentity.postInit (name : String) (risk : RiskLevel) (known : Bool) :
    Except PyException ToolIdentity :=
  if h : Text.isBlank name = false then .ok ⟨name, risk, known, h⟩
  else .error (.valueError "ToolIdentity.name must not be empty")

abbrev Extra := Dict Key Value

structure GovernanceContext where
  clientId : Option String := none
  agentId : Option String := none
  projectId : Option String := none
  workspaceId : Option String := none
  taskId : Option String := none
  sessionId : Option String := none
  requestId : Option String := none
  correlationId : Option String := none
  extra : Extra := Dict.empty
deriving DecidableEq

namespace GovernanceContext

def idEntry (name : String) : Option String -> List (Key × Value)
  | none => []
  | some s => [(.str name, .str s)]

def asDict (c : GovernanceContext) : List (Key × Value) :=
  idEntry "client_id" c.clientId ++
    idEntry "agent_id" c.agentId ++
    idEntry "project_id" c.projectId ++
    idEntry "workspace_id" c.workspaceId ++
    idEntry "task_id" c.taskId ++
    idEntry "session_id" c.sessionId ++
    idEntry "request_id" c.requestId ++
    idEntry "correlation_id" c.correlationId ++
    (if c.extra.entries.isEmpty then [] else [(.str "extra", .dict c.extra.entries)])

def SameIds (c d : GovernanceContext) : Prop :=
  { c with extra := Dict.empty } = { d with extra := Dict.empty }

end GovernanceContext

end YasinMcp
