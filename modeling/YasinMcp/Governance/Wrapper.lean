import YasinMcp.Errors.ClientContract
import YasinMcp.Foundation.Semaphore
import YasinMcp.Governance.AuditTrail

/-!
# The tool wrapper

A wrapped tool takes a slot of its gate without waiting, executes the call, and
gives the slot back however the call ended.  Application errors reach the client
as tool errors, every other exception passes.
-/

namespace YasinMcp

open Foundation

abbrev WrapperRes : GateOp ⊕ Program.SlotOp -> Type := Program.SectionRes GateRes

abbrev WrapperProgram (a : Type) := Program (GateOp ⊕ Program.SlotOp) WrapperRes ToolException a

abbrev WrapperEvent := Program.Event WrapperRes

def isLeave : GateEvent -> Bool
  | ⟨.leave, _⟩ => true
  | _ => false

/-- An application error is raised as a tool error, any other exception as it is. -/
def caughtMcpError (py : Builtins) : Except PyException Value -> Except ToolException Value
  | .ok value => .ok value
  | .error (.mcp e) => .error (raiseAsMcpToolError py e)
  | .error e => .error (.passed e)

def releasedTooOften : ToolException :=
  .passed (.valueError "Semaphore released too many times")

namespace GovernanceGate

def concurrencyLimit (gate : GovernanceGate) : Nat :=
  match gate.securityConfig with
  | none => 32
  | some config => config.args.maxConcurrentRequests.toNat

def concurrencySlots (gate : GovernanceGate) : BoundedSemaphore :=
  BoundedSemaphore.ofLimit gate.concurrencyLimit

def limitReached (gate : GovernanceGate) : McpError :=
  rateLimitedError "MCP concurrency limit reached; retry later"
    [("limit", .int gate.concurrencyLimit), ("reason_code", .str "concurrency_limit")]

def syncWrapper (py : Builtins) (gate : GovernanceGate) (ambient : Ambient) (toolName : String)
    (args : List Value) (kwargs : Kwargs) : WrapperProgram Value := do
  if ← Program.acquire then
    (gate.execute py ambient { toolName := toolName, args := args, kwargs := kwargs }).within
      fun outcome => do
        if ← Program.release then Program.ofExcept (caughtMcpError py outcome)
        else .raise releasedTooOften
  else .raise (raiseAsMcpToolError py gate.limitReached)

theorem syncWrapper_eq (py : Builtins) (gate : GovernanceGate) (ambient : Ambient)
    (toolName : String) (args : List Value) (kwargs : Kwargs) :
    gate.syncWrapper py ambient toolName args kwargs =
      Program.withSlot
        (gate.execute py ambient { toolName := toolName, args := args, kwargs := kwargs })
        (raiseAsMcpToolError py gate.limitReached) releasedTooOften (caughtMcpError py) := rfl

/-!
## The limit
-/

theorem concurrencyLimit_bounds (gate : GovernanceGate) :
    1 ≤ gate.concurrencyLimit ∧ gate.concurrencyLimit ≤ 256 := by
  unfold concurrencyLimit
  cases gate.securityConfig with
  | none => exact ⟨by decide, by decide⟩
  | some config =>
      have hbounds := config.concurrency_bounds
      simp only [maxConcurrency] at hbounds
      dsimp only
      omega

theorem safeDetails_limitReached (gate : GovernanceGate) :
    (safeDetails gate.limitReached).entries =
      [("limit", .int gate.concurrencyLimit), ("reason_code", .str "concurrency_limit")] := by
  have hlimit : Text.mentionsAny blockedDetailKeys "limit" = false := by decide
  have hreason : Text.mentionsAny blockedDetailKeys "reason_code" = false := by decide
  simp [safeDetails, filterDetails, limitReached, rateLimitedError, Key.text, hlimit, hreason,
    shownDetail, Dict.ofEntries]
  rfl

theorem raise_limitReached (py : Builtins) (gate : GovernanceGate) :
    exists payload message, mapMcpError py gate.limitReached = .ok payload ∧
      payload.code = .concurrencyLimit ∧ formatToolErrorMessage py payload = .ok message ∧
      raiseAsMcpToolError py gate.limitReached = .toolError message := by
  have hdigits : ¬ Json.BeyondDigits gate.concurrencyLimit := by
    have hbound := (concurrencyLimit_bounds gate).2
    exact Json.not_beyondDigits_of_lt (by omega)
  let payload : ClientPayload :=
    ⟨clientErrorContractVersion, .concurrencyLimit, gate.limitReached.category.value,
      gate.limitReached.message, safeDetails gate.limitReached⟩
  have hpayload : mapMcpError py gate.limitReached = .ok payload := rfl
  have hformat : exists message, formatToolErrorMessage py payload = .ok message := by
    unfold formatToolErrorMessage
    rw [safeDetails_limitReached gate]
    simp [detailMembers, Json.encodeScalar?, hdigits]
  rcases hformat with ⟨message, hmessage⟩
  exact ⟨payload, message, hpayload, rfl, hmessage,
    raiseAsMcpToolError_eq_toolError_iff.mpr ⟨payload, hpayload, hmessage⟩⟩

/-!
## Bodies that ended
-/

theorem countP_of_consults {trace : List GateEvent} {q : GateEvent -> Bool}
    (hq : forall p answer, q ⟨.consult p, answer⟩ = false)
    (h : forall entry, entry ∈ trace -> isConsult entry = true) : trace.countP q = 0 := by
  rw [List.countP_eq_zero]
  intro entry hentry
  have hconsult := h entry hentry
  rcases entry with ⟨op, answer⟩
  cases op with
  | consult p => simp [hq]
  | _ => cases hconsult

theorem records_of_settle {tool : ToolIdentity} {decision : GovernanceDecision}
    {toolName : String} {context : Option GovernanceContext}
    {outcome : Except PyException Value} {trace : List GateEvent} {rest : GateProgram Value}
    (h : Program.Emits (settle tool decision toolName context outcome) trace rest) :
    AuditOnly trace := by
  intro entry hentry
  rcases List.append_of_mem hentry with ⟨before, later, htrace⟩
  have hguard : Program.Guarded (fun _ op => exists event, op = .record event) []
      (settle tool decision toolName context outcome) :=
    guarded_settle (fun _ event _ _ => ⟨event, rfl⟩) outcome
  rcases Program.guarded_of_emits hguard h htrace with ⟨event, hop⟩
  rcases entry with ⟨op, answer⟩
  cases hop
  exact ⟨event, answer, rfl⟩

theorem left_of_execute {py : Builtins} {gate : GovernanceGate} {ambient : Ambient}
    {call : ExecuteCall} {trace : List GateEvent} {result : Except PyException Value}
    (h : Program.Emits (gate.execute py ambient call) trace (Program.ofExcept result)) :
    trace.countP isEnter = trace.countP isLeave := by
  have hadmission : forall {first : List GateEvent} {rest : GateProgram Admission},
      Program.Emits (gate.admission py ambient call) first rest ->
        first.countP isEnter = 0 ∧ first.countP isLeave = 0 := by
    intro first rest hfirst
    exact ⟨countP_of_consults (fun _ _ => rfl) (consults_of_admission hfirst),
      countP_of_consults (fun _ _ => rfl) (consults_of_admission hfirst)⟩
  rcases Program.emits_bind_ended h with ⟨e, hraised, _⟩ |
    ⟨first, second, ⟨tool, decision, context⟩, htrace, hfirst, hsecond⟩
  · rw [(hadmission hraised).1, (hadmission hraised).2]
  subst htrace
  rw [List.countP_append, List.countP_append, (hadmission hfirst).1, (hadmission hfirst).2]
  congr 1
  rcases emits_carryOut hsecond with ⟨hrecords, _⟩ | ⟨later, hlater, hinvoke⟩
  · rw [hrecords.countP_eq_zero fun _ _ => rfl, hrecords.countP_eq_zero fun _ _ => rfl]
  · subst hlater
    rcases Program.emits_perform_ended hinvoke with ⟨_, left, hlater, hleft⟩
    rcases Program.emits_perform_ended hleft with ⟨outcome, settled, hsettled, hrest⟩
    subst hlater hsettled
    have hrecords := records_of_settle hrest
    simp only [opening, List.cons_append, List.nil_append, List.countP_cons,
      hrecords.countP_eq_zero (q := isEnter) fun _ _ => rfl,
      hrecords.countP_eq_zero (q := isLeave) fun _ _ => rfl]
    rfl

end GovernanceGate

end YasinMcp
