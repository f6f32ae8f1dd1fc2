import YasinMcp.Approval.Store
import YasinMcp.Auth.Enforcement
import YasinMcp.Foundation.Program
import YasinMcp.Governance.Audit

/-!
# The governance gate

One execute call authenticates, consumes an approval, asks the policy, records
two audit events and only then enters the tool body.  The call is a program: its
operations are the ones other calls can interleave with.
-/

namespace YasinMcp

open Foundation

def approvalTokenKwarg : String := "_yasin_approval_token"
def approvalPresentEnv : String := "YASIN_MCP_PRESENT_APPROVAL_TOKEN"

/-- The operations of an execute call on what it shares with others. -/
inductive GateOp where
  | consult (p : Presentation)
  | record (event : AuditEvent)
  | enter (args : List Value) (kwargs : Kwargs)
  | leave

abbrev GateRes : GateOp -> Type
  | .consult _ => ApprovalValidationResult
  | .record _ => Except PyException Unit
  | .enter _ _ => Unit
  | .leave => Except PyException Value

abbrev GateProgram (a : Type) := Program GateOp GateRes PyException a

abbrev GateEvent := Program.Event GateRes

/-- The gate; its store, when attached, is part of the shared state. -/
structure GovernanceGate where
  catalog : ToolRiskCatalog
  policy : GovernancePolicy := DefaultConservativePolicy.evaluate
  securityConfig : Option ServerConfig := none
  approvalStore : Bool := false

structure ExecuteCall where
  toolName : String
  args : List Value := []
  kwargs : Kwargs := Dict.empty
  context : Option GovernanceContext := none
  presentedSecret : Option String := none
  approvalToken : Option String := none

def decisionMessage (py : Builtins) (decision : GovernanceDecision) (toolName : String) :
    String :=
  match decision with
  | .deny => "Governance denied execution of tool " ++ py.repr (.str toolName)
  | .approvalRequired =>
      "Governance requires approval before executing tool " ++ py.repr (.str toolName) ++
        "; execution was not performed"
  | .allow =>
      "Governance decision " ++ GovernanceDecision.allow.value ++ " for tool " ++
        py.repr (.str toolName)

def extractApprovalToken (py : Builtins) (environ : Environ) (kwargs : Kwargs)
    (allowEnvironmentFallback : Bool) : Kwargs × Option String :=
  let cleaned := kwargs.erase approvalTokenKwarg
  match reservedText py kwargs approvalTokenKwarg with
  | some token => (cleaned, some token)
  | none =>
      if allowEnvironmentFallback = false then (cleaned, none)
      else (cleaned, environValue environ approvalPresentEnv)

structure Credentials where
  kwargs : Kwargs
  presentedSecret : Option String
  approvalToken : Option String

namespace GovernanceGate

def resolveTool (gate : GovernanceGate) (name : String) : Except PyException ToolIdentity :=
  gate.catalog.resolve name

def evaluate (py : Builtins) (gate : GovernanceGate) (toolName : String)
    (context : Option GovernanceContext) :
    Except PyException (ToolIdentity × GovernanceDecision) := do
  let tool ← gate.resolveTool toolName
  match ← gate.policy tool context with
  | .decision decision => .ok (tool, decision)
  | .other v =>
      .error (validationError ("Policy returned invalid decision " ++ py.repr v)
        [("tool", .str toolName), ("decision", .str (py.str v))])

def allowEnvironmentFallback (gate : GovernanceGate) : Bool :=
  match gate.securityConfig with
  | none => true
  | some config => !config.remoteEnabled

/-- The explicit arguments, with the extracted ones where they are absent. -/
def credentials (py : Builtins) (gate : GovernanceGate) (ambient : Ambient)
    (call : ExecuteCall) : Credentials :=
  let (kwargs, extractedSecret) := extractPresentedSecret py ambient call.kwargs
  let (kwargs, extractedApproval) :=
    extractApprovalToken py ambient.environ kwargs gate.allowEnvironmentFallback
  { kwargs := kwargs
    presentedSecret := call.presentedSecret.or extractedSecret
    approvalToken := call.approvalToken.or extractedApproval }

def authenticate (py : Builtins) (gate : GovernanceGate) (ambient : Ambient)
    (call : ExecuteCall) : Except PyException (Option BoundRequestContext) :=
  resolveExecutionAuth py gate.securityConfig ambient call.context
    (gate.credentials py ambient call).presentedSecret none

/-!
## Approval
-/

/-- The metadata after a consultation: the answer overwrites what the caller wrote. -/
def approvalExtra (result : ApprovalValidationResult) (extra : Extra) : Extra :=
  let extra := extra.set "approval_status" (.str result.status.value)
  let extra := extra.set "approval_reason" (.str result.reasonCode)
  match result.grant with
  | none => extra
  | some grant => extra.set "approval_id" (.str grant.approvalId)

/-- The context an answer lets through, or the rejection. -/
def approvedContext (toolName : String) (context : Option GovernanceContext)
    (result : ApprovalValidationResult) : Except PyException (Option GovernanceContext) :=
  let context := context.getD {}
  if result.status = .granted ∨ result.status = .missing then
    .ok (some { context with extra := approvalExtra result context.extra })
  else
    .error (validationError ("approval rejected: " ++ result.reasonCode)
      [("reason_code", .str result.reasonCode),
        ("tool", .str toolName),
        ("approval_status", .str result.status.value)])

def presentation (toolName : String) (context : Option GovernanceContext)
    (approvalToken : Option String) : Presentation where
  token := approvalToken
  toolName := toolName
  context := context
  subjectId := context.bind GovernanceContext.agentId

def consult (p : Presentation) : GateProgram ApprovalValidationResult :=
  .perform (.consult p) .pure

def applyApproval (gate : GovernanceGate) (toolName : String) (tool : ToolIdentity)
    (context : Option GovernanceContext) (approvalToken : Option String) :
    GateProgram (Option GovernanceContext) :=
  if tool.risk ≠ .mutation ∧ approvalToken = none then .pure context
  else if gate.approvalStore = false then
    if tool.risk = .mutation ∧ textPresent approvalToken = true then
      .raise (validationError "approval store not configured"
        [("reason_code", .str "approval_unknown"), ("tool", .str toolName)])
    else .pure context
  else do
    let result ← consult (presentation toolName context approvalToken)
    Program.ofExcept (approvedContext toolName context result)

/-!
## Execution
-/

def record (event : AuditEvent) : GateProgram Unit :=
  .perform (.record event) Program.ofExcept

def enter (args : List Value) (kwargs : Kwargs) : GateProgram Unit :=
  .perform (.enter args kwargs) .pure

def leave : GateProgram (Except PyException Value) :=
  .perform .leave .pure

def requestEvent (tool : ToolIdentity) (toolName : String)
    (context : Option GovernanceContext) : AuditEvent where
  eventType := .request
  toolName := toolName
  risk := some tool.risk
  decision := none
  context := safeContext context
  extra := [("known", .bool tool.known)]

def decisionEvent (py : Builtins) (tool : ToolIdentity) (decision : GovernanceDecision)
    (toolName : String) (context : Option GovernanceContext) : AuditEvent where
  eventType := .decision
  toolName := toolName
  risk := some tool.risk
  decision := some decision
  message := some (decisionMessage py decision toolName)
  context := safeContext context

def failureEvent (tool : ToolIdentity) (decision : GovernanceDecision) (toolName : String)
    (context : Option GovernanceContext) (e : PyException) : AuditEvent where
  eventType := .executionFailure
  toolName := toolName
  risk := some tool.risk
  decision := some decision
  success := some false
  message := some e.className
  context := safeContext context

def resultEvent (tool : ToolIdentity) (decision : GovernanceDecision) (toolName : String)
    (context : Option GovernanceContext) : AuditEvent where
  eventType := .executionResult
  toolName := toolName
  risk := some tool.risk
  decision := some decision
  success := some true
  context := safeContext context

/-- Record how the body ended and end the same way; an exit request is not recorded. -/
def settle (tool : ToolIdentity) (decision : GovernanceDecision) (toolName : String)
    (context : Option GovernanceContext) :
    Except PyException Value -> GateProgram Value
  | .error e =>
      if e.isException = true then do
        record (failureEvent tool decision toolName context e)
        .raise e
      else .raise e
  | .ok result => do
      record (resultEvent tool decision toolName context)
      .pure result

def invoke (tool : ToolIdentity) (decision : GovernanceDecision) (toolName : String)
    (context : Option GovernanceContext) (args : List Value) (kwargs : Kwargs) :
    GateProgram Value := do
  enter args kwargs
  let outcome ← leave
  settle tool decision toolName context outcome

def boundContext (bound : Option BoundRequestContext) (context : Option GovernanceContext) :
    Option GovernanceContext :=
  match bound with
  | none => context
  | some bound => some bound.governance

structure Admission where
  tool : ToolIdentity
  decision : GovernanceDecision
  context : Option GovernanceContext

/-- Everything before the first audit event: authentication, approval and policy. -/
def admission (py : Builtins) (gate : GovernanceGate) (ambient : Ambient) (call : ExecuteCall) :
    GateProgram Admission := do
  let bound ← Program.ofExcept (gate.authenticate py ambient call)
  let context := boundContext bound call.context
  let tool ← Program.ofExcept (gate.resolveTool call.toolName)
  let context ← gate.applyApproval call.toolName tool context
    (gate.credentials py ambient call).approvalToken
  let (tool, decision) ← Program.ofExcept (gate.evaluate py call.toolName context)
  .pure ⟨tool, decision, context⟩

/-- Record the request and the decision, and enter the tool when allowed. -/
def carryOut (py : Builtins) (toolName : String) (args : List Value) (kwargs : Kwargs)
    (admission : Admission) : GateProgram Value := do
  let ⟨tool, decision, context⟩ := admission
  record (requestEvent tool toolName context)
  record (decisionEvent py tool decision toolName context)
  if decision ≠ .allow then
    .raise (policyDeniedError (decisionMessage py decision toolName)
      [("tool", .str toolName),
        ("decision", .str decision.value),
        ("risk", .str tool.risk.value),
        ("known", .bool tool.known)])
  else invoke tool decision toolName context args kwargs

def execute (py : Builtins) (gate : GovernanceGate) (ambient : Ambient)
    (call : ExecuteCall) : GateProgram Value := do
  let admission ← gate.admission py ambient call
  carryOut py call.toolName call.args (gate.credentials py ambient call).kwargs admission

end GovernanceGate

end YasinMcp
