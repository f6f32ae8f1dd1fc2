import YasinMcp.Errors
import YasinMcp.Foundation.Text

/-!
# Client error contract

An application error reaches a client as a stable code with its category,
message and details.  Details under blocked keys are left out, and a value that
is no scalar is shown by its type.  The client reads it as one line of JSON in a
tool error.
-/

namespace YasinMcp

open Foundation

def ErrorCategory.value : ErrorCategory -> String
  | .validationError => "validation_error"
  | .notFound => "not_found"
  | .unauthenticated => "unauthenticated"
  | .unauthorized => "unauthorized"
  | .rateLimited => "rate_limited"
  | .timeout => "timeout"
  | .unavailableDependency => "unavailable_dependency"
  | .upstreamError => "upstream_error"
  | .policyDenied => "policy_denied"
  | .internalError => "internal_error"

def clientErrorContractVersion : String := "1.0.0"

inductive ClientErrorCode where
  | authenticationRequired
  | authenticationFailed
  | authorizationDenied
  | approvalRequired
  | unknownTool
  | invalidContext
  | invalidPolicy
  | executionFailure
  | upstreamFailure
  | validationError
  | internalError
  | concurrencyLimit
deriving DecidableEq, Repr

def ClientErrorCode.value : ClientErrorCode -> String
  | .authenticationRequired => "AUTHENTICATION_REQUIRED"
  | .authenticationFailed => "AUTHENTICATION_FAILED"
  | .authorizationDenied => "AUTHORIZATION_DENIED"
  | .approvalRequired => "APPROVAL_REQUIRED"
  | .unknownTool => "UNKNOWN_TOOL"
  | .invalidContext => "INVALID_CONTEXT"
  | .invalidPolicy => "INVALID_POLICY"
  | .executionFailure => "EXECUTION_FAILURE"
  | .upstreamFailure => "UPSTREAM_FAILURE"
  | .validationError => "VALIDATION_ERROR"
  | .internalError => "INTERNAL_ERROR"
  | .concurrencyLimit => "CONCURRENCY_LIMIT"

theorem ClientErrorCode.value_injective {a b : ClientErrorCode} (h : a.value = b.value) :
    a = b := by
  cases a <;> cases b <;> first
    | rfl
    | exact absurd h (by decide)

/-!
## Details
-/

/-- A scalar as it is, any other value by its type. -/
def shownDetail : Value -> Value
  | .list items => .str (Value.list items).typeName
  | .tuple items => .str (Value.tuple items).typeName
  | .dict entries => .str (Value.dict entries).typeName
  | scalar => scalar

/-- The details without those whose key mentions a blocked part, under the texts of the keys. -/
def filterDetails (blocked : List String) (details : List (Key × Value)) : Dict String Value :=
  Dict.ofEntries ((details.filter fun entry => !Text.mentionsAny blocked entry.1.text).map
    fun entry => (entry.1.text, shownDetail entry.2))

theorem mem_keys_filterDetails (blocked : List String) (details : List (Key × Value))
    (name : String) :
    name ∈ (filterDetails blocked details).keys <->
      Text.mentionsAny blocked name = false ∧
        exists entry, entry ∈ details ∧ entry.1.text = name := by
  rw [filterDetails, Dict.mem_keys_ofEntries, List.map_map, List.mem_map]
  constructor
  · intro h
    rcases h with ⟨entry, hentry, hname⟩
    rcases List.mem_filter.mp hentry with ⟨hmem, hkept⟩
    have htext : entry.1.text = name := hname
    rw [htext] at hkept
    exact ⟨by simpa using hkept, entry, hmem, htext⟩
  · intro h
    rcases h with ⟨hkept, entry, hmem, htext⟩
    exact ⟨entry, List.mem_filter.mpr ⟨hmem, by simp [htext, hkept]⟩, htext⟩

/-!
## The mapping
-/

/-- The text of a detail; a missing one is empty. -/
def detailText (py : Builtins) (details : List (Key × Value)) (name : String) :
    Except PyException String :=
  ((Dict.lookupIn (Key.str name) details).getD (.str "")).toStr py

def codeForCategory : ErrorCategory -> ClientErrorCode
  | .unauthenticated => .authenticationRequired
  | .unauthorized => .authorizationDenied
  | .policyDenied => .authorizationDenied
  | .validationError => .validationError
  | .upstreamError => .upstreamFailure
  | .unavailableDependency => .upstreamFailure
  | .timeout => .upstreamFailure
  | .internalError => .internalError
  | .notFound => .validationError
  | .rateLimited => .concurrencyLimit

def codeFor (py : Builtins) (e : McpError) : Except PyException ClientErrorCode :=
  match e.errorClass with
  | .policyDeniedError => do
      let decision ← detailText py e.details "decision"
      if decision = "approval_required" then .ok .approvalRequired
      else if decision = "deny" ∧
          Dict.lookupIn (Key.str "known") e.details = some (.bool false) then .ok .unknownTool
      else .ok .authorizationDenied
  | .unauthenticatedError => do
      let status ← detailText py e.details "status"
      if status ∈ ["invalid_credential", "malformed"] then .ok .authenticationFailed
      else .ok .authenticationRequired
  | .validationError => do
      let reason ← detailText py e.details "reason_code"
      if reason = "context_mismatch" ∨ Text.isPartOf "conflicts" e.message = true then
        .ok .invalidContext
      else .ok .validationError
  | _ => .ok (codeForCategory e.category)

def blockedDetailKeys : List String :=
  ["token", "secret", "password", "credential", "authorization", "api_key", "apikey",
    "presented_secret", "auth_token"]

def safeDetails (e : McpError) : Dict String Value :=
  filterDetails blockedDetailKeys e.details

structure ClientPayload where
  errorContractVersion : String
  code : ClientErrorCode
  category : String
  message : String
  details : Dict String Value
deriving DecidableEq

def mapMcpError (py : Builtins) (e : McpError) : Except PyException ClientPayload := do
  let code ← codeFor py e
  .ok
    { errorContractVersion := clientErrorContractVersion
      code := code
      category := e.category.value
      message := e.message
      details := safeDetails e }

/-!
## Tool errors
-/

/-- The members of the details, unless one of the values cannot be written. -/
def detailMembers (py : Builtins) : List (String × Value) -> Option (List (String × String))
  | [] => some []
  | (name, value) :: rest => do
      let text ← Json.encodeScalar? py value
      let members ← detailMembers py rest
      some ((name, text) :: members)

def formatToolErrorMessage (py : Builtins) (payload : ClientPayload) :
    Except PyException String :=
  match detailMembers py payload.details.entries with
  | none =>
      .error (.valueError
        ("Exceeds the limit (4300 digits) for integer string conversion; use " ++
          "sys.set_int_max_str_digits() to increase the limit"))
  | some members =>
      .ok (Json.encodeObject
        [("error_contract_version", Json.encodeString payload.errorContractVersion),
          ("code", Json.encodeString payload.code.value),
          ("category", Json.encodeString payload.category),
          ("message", Json.encodeString payload.message),
          ("details", Json.encodeObject members)])

/-- What a wrapped tool raises: a tool error with its text, or the exception it let pass. -/
inductive ToolException where
  | toolError (message : String)
  | passed (e : PyException)
deriving DecidableEq

/-- A payload that cannot be made or written is raised as the error of that. -/
def raiseAsMcpToolError (py : Builtins) (e : McpError) : ToolException :=
  match mapMcpError py e >>= formatToolErrorMessage py with
  | .ok message => .toolError message
  | .error failure => .passed failure

theorem mapMcpError_eq_ok {py : Builtins} {e : McpError} {payload : ClientPayload}
    (h : mapMcpError py e = .ok payload) :
    codeFor py e = .ok payload.code ∧ payload.category = e.category.value ∧
      payload.details = safeDetails e := by
  rcases bind_eq_ok h with ⟨code, hcode, hpayload⟩
  cases hpayload
  exact ⟨hcode, rfl, rfl⟩

theorem raiseAsMcpToolError_eq_toolError_iff {py : Builtins} {e : McpError} {message : String} :
    raiseAsMcpToolError py e = .toolError message <->
      exists payload, mapMcpError py e = .ok payload ∧
        formatToolErrorMessage py payload = .ok message := by
  rw [raiseAsMcpToolError]
  cases hpayload : mapMcpError py e with
  | error failure =>
      apply iff_of_false
      · intro h
        cases h
      · intro h
        rcases h with ⟨payload, hpayload, _⟩
        cases hpayload
  | ok payload =>
      rw [ok_bind]
      constructor
      · intro h
        cases hformat : formatToolErrorMessage py payload with
        | error failure =>
            rw [hformat] at h
            cases h
        | ok text =>
            rw [hformat] at h
            cases h
            exact ⟨payload, rfl, hformat⟩
      · intro h
        rcases h with ⟨payload', hpayload', hformat⟩
        cases hpayload'
        rw [hformat]

end YasinMcp
