import YasinMcp.Errors.ClientReading
import YasinMcp.Governance.Wrapper

/-!
# Where the errors of a wrapped tool come from

A wrapped tool ends in an error of the credential check, the policy, the recorder, the
body, or the boundary itself.  The client sees a code that is made of the class and the
category of the error, not of its origin.
-/

namespace YasinMcp

open Foundation

/-!
## Codes in tool errors
-/

/-- The tool error is the text of an application error with this code. -/
def CarriesCode (py : Builtins) (raised : ToolException) (code : ClientErrorCode) : Prop :=
  exists e payload message, mapMcpError py e = .ok payload ∧
    formatToolErrorMessage py payload = .ok message ∧ raised = .toolError message ∧
    payload.code = code

theorem ErrorCategory.encodeString_value (category : ErrorCategory) :
    (Json.encodeString category.value).toList = '"' :: (category.value.toList ++ ['"']) ∧
      '"' ∉ category.value.toList := by
  cases category <;> exact ⟨by decide +kernel, by decide⟩

theorem ClientErrorCode.encodeString_value (code : ClientErrorCode) :
    (Json.encodeString code.value).toList = '"' :: (code.value.toList ++ ['"']) ∧
      '"' ∉ code.value.toList := by
  cases code <;> exact ⟨by decide +kernel, by decide⟩

theorem sorted_members (version code category message details : String) :
    ([("error_contract_version", version), ("code", code), ("category", category),
        ("message", message), ("details", details)] : List (String × String)).insertionSort
        (fun a b => a.1 ≤ b.1) =
      [("category", category), ("code", code), ("details", details),
        ("error_contract_version", version), ("message", message)] := by
  simp [List.insertionSort, List.orderedInsert]

theorem split_at_mark {mark : Char} {front front' back back' : List Char}
    (h : front ++ mark :: back = front' ++ mark :: back') (hfront : mark ∉ front)
    (hfront' : mark ∉ front') : front = front' ∧ back = back' := by
  induction front generalizing front' with
  | nil =>
      cases front' with
      | nil => exact ⟨rfl, (List.cons.inj h).2⟩
      | cons c rest =>
          refine absurd ?_ hfront'
          rw [(List.cons.inj h).1]
          exact List.mem_cons_self
  | cons c front ih =>
      cases front' with
      | nil =>
          refine absurd ?_ hfront
          rw [← (List.cons.inj h).1]
          exact List.mem_cons_self
      | cons c' rest =>
          rw [List.cons_append, List.cons_append, List.cons.injEq] at h
          rcases ih h.2 (fun hmem => hfront (List.mem_cons_of_mem c hmem))
            (fun hmem => hfront' (List.mem_cons_of_mem c' hmem)) with ⟨hfronts, hbacks⟩
          exact ⟨by rw [h.1, hfronts], hbacks⟩

theorem formatToolErrorMessage_front {py : Builtins} {category : ErrorCategory}
    {payload : ClientPayload} (hcategory : payload.category = category.value) {message : String}
    (h : formatToolErrorMessage py payload = .ok message) :
    exists rest, message.toList =
      "\x7b\"category\":\"".toList ++ (category.value.toList ++
        '"' :: (",\"code\":\"".toList ++ (payload.code.value.toList ++ '"' :: rest))) := by
  unfold formatToolErrorMessage at h
  split at h
  · cases h
  rw [Except.ok.injEq, Json.encodeObject, sorted_members] at h
  subst h
  have hname : (Json.encodeString "category").toList = "\"category\"".toList := by decide +kernel
  have hcode : (Json.encodeString "code").toList = "\"code\"".toList := by decide +kernel
  simp only [List.map_cons, List.map_nil, String.intercalate_cons_cons, String.toList_append,
    hname, hcode, hcategory, category.encodeString_value.1, payload.code.encodeString_value.1,
    List.append_assoc, List.cons_append]
  exact ⟨_, rfl⟩

theorem CarriesCode.unique {py : Builtins} {raised : ToolException} {first second : ClientErrorCode}
    (hfirst : CarriesCode py raised first) (hsecond : CarriesCode py raised second) :
    first = second := by
  rcases hfirst with ⟨e, payload, message, hpayload, hformat, hraised, rfl⟩
  rcases hsecond with ⟨e', payload', message', hpayload', hformat', hraised', rfl⟩
  rw [hraised, ToolException.toolError.injEq] at hraised'
  subst hraised'
  rcases formatToolErrorMessage_front (mapMcpError_eq_ok hpayload).2.1 hformat with ⟨rest, htext⟩
  rcases formatToolErrorMessage_front (mapMcpError_eq_ok hpayload').2.1 hformat' with
    ⟨rest', htext'⟩
  rw [htext, List.append_cancel_left_eq] at htext'
  have hcodes := (split_at_mark htext' e.category.encodeString_value.2
    e'.category.encodeString_value.2).2
  rw [List.append_cancel_left_eq] at hcodes
  have hvalues := (split_at_mark hcodes payload.code.encodeString_value.2
    payload'.code.encodeString_value.2).1
  exact ClientErrorCode.value_injective (String.toList_inj.mp hvalues)

namespace GovernanceGate

/-- What the policy is asked about in a call, given the events before it. -/
def PolicyAsked (py : Builtins) (gate : GovernanceGate) (ambient : Ambient) (call : ExecuteCall)
    (past : List GateEvent) (tool : ToolIdentity) (context : Option GovernanceContext) : Prop :=
  exists bound, gate.authenticate py ambient call = .ok bound ∧
    gate.resolveTool call.toolName = .ok tool ∧
    Program.Emits (gate.applyApproval call.toolName tool (boundContext bound call.context)
      (gate.credentials py ambient call).approvalToken) past (.pure context)

section

variable {py : Builtins} {gate : GovernanceGate} {ambient : Ambient} {call : ExecuteCall}
  {past : List GateEvent}

end

end GovernanceGate

end YasinMcp
