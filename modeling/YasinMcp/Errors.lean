import YasinMcp.Foundation.JsonText

/-!
# Structured errors

The error hierarchy of the application, and the host exceptions that its code
raises or lets pass.  Only the application errors carry a category and details;
they are not value errors, so a handler for value errors does not see them.
-/

namespace YasinMcp

open Foundation

inductive ErrorCategory where
  | validationError
  | notFound
  | unauthenticated
  | unauthorized
  | rateLimited
  | timeout
  | unavailableDependency
  | upstreamError
  | policyDenied
  | internalError
deriving DecidableEq, Repr

inductive McpErrorClass where
  | mcpError
  | validationError
  | notFoundError
  | unauthenticatedError
  | unauthorizedError
  | rateLimitedError
  | timeoutMcpError
  | unavailableDependencyError
  | upstreamError
  | policyDeniedError
  | internalError
deriving DecidableEq, Repr

def McpErrorClass.name : McpErrorClass -> String
  | .mcpError => "McpError"
  | .validationError => "ValidationError"
  | .notFoundError => "NotFoundError"
  | .unauthenticatedError => "UnauthenticatedError"
  | .unauthorizedError => "UnauthorizedError"
  | .rateLimitedError => "RateLimitedError"
  | .timeoutMcpError => "TimeoutMcpError"
  | .unavailableDependencyError => "UnavailableDependencyError"
  | .upstreamError => "UpstreamError"
  | .policyDeniedError => "PolicyDeniedError"
  | .internalError => "InternalError"

structure McpError where
  errorClass : McpErrorClass
  category : ErrorCategory
  message : String
  details : List (Key × Value)
deriving DecidableEq

inductive PyException where
  | mcp (error : McpError)
  | valueError (message : String)
  | typeError (message : String)
  | overflowError (message : String)
  | recursionError
  | invalidConfiguration (message : String)
  /-- Any other class, by name; an exit request is not an {lit}`Exception`. -/
  | other (className : String) (isException : Bool)
deriving DecidableEq

namespace PyException

def isException : PyException -> Bool
  | .other _ isException => isException
  | _ => true

def className : PyException -> String
  | .mcp error => error.errorClass.name
  | .valueError _ => "ValueError"
  | .typeError _ => "TypeError"
  | .overflowError _ => "OverflowError"
  | .recursionError => "RecursionError"
  | .invalidConfiguration _ => "InvalidConfigurationError"
  | .other name _ => name

end PyException

def validationError (message : String) (details : List (Key × Value) := []) :
    PyException :=
  .mcp ⟨.validationError, .validationError, message, details⟩

def unauthenticatedError (message : String) (details : List (Key × Value)) :
    PyException :=
  .mcp ⟨.unauthenticatedError, .unauthenticated, message, details⟩

def policyDeniedError (message : String) (details : List (Key × Value)) :
    PyException :=
  .mcp ⟨.policyDeniedError, .policyDenied, message, details⟩

def notFoundError (message : String) : PyException :=
  .mcp ⟨.notFoundError, .notFound, message, []⟩

def rateLimitedError (message : String) (details : List (Key × Value)) : McpError :=
  ⟨.rateLimitedError, .rateLimited, message, details⟩

def timeoutMcpError (message : String) (details : List (Key × Value) := []) : PyException :=
  .mcp ⟨.timeoutMcpError, .timeout, message, details⟩

def unavailableDependencyError (message : String) (details : List (Key × Value) := []) :
    PyException :=
  .mcp ⟨.unavailableDependencyError, .unavailableDependency, message, details⟩

def internalError (message : String) (details : List (Key × Value) := []) : PyException :=
  .mcp ⟨.internalError, .internalError, message, details⟩

def digitLimitMessage (digits : Nat) : String :=
  "Exceeds the limit (4300 digits) for integer string conversion: value has " ++
    toString digits ++ " digits; use sys.set_int_max_str_digits() to increase the limit"

def upstreamError (message : String) (details : List (Key × Value) := []) :
    PyException :=
  .mcp ⟨.upstreamError, .upstreamError, message, details⟩

/-!
## Sequences of fallible steps
-/

@[simp] theorem ok_bind {e a b : Type} (x : a) (f : a -> Except e b) :
    (Except.ok x >>= f) = f x := rfl

@[simp] theorem error_bind {e a b : Type} (x : e) (f : a -> Except e b) :
    (Except.error x >>= f) = .error x := rfl

theorem bind_eq_ok {e a b : Type} {x : Except e a} {f : a -> Except e b} {value : b}
    (h : (x >>= f) = .ok value) : exists middle, x = .ok middle ∧ f middle = .ok value := by
  cases x with
  | error err => cases h
  | ok middle => exact ⟨middle, rfl, h⟩

/-- Every exception of a fallible step is of this kind. -/
def RaisesOnly {a : Type} (kind : PyException -> Prop) (x : Except PyException a) : Prop :=
  forall e, x = .error e -> kind e

section

variable {a b : Type} {kind : PyException -> Prop}

theorem raisesOnly_ok (x : a) : RaisesOnly kind (.ok x) := by
  intro e he
  cases he

theorem raisesOnly_error {e : PyException} (h : kind e) :
    RaisesOnly kind (.error e : Except PyException a) := by
  intro e' he
  cases he
  exact h

theorem RaisesOnly.bind {x : Except PyException a} {f : a -> Except PyException b}
    (hx : RaisesOnly kind x) (hf : forall value, RaisesOnly kind (f value)) :
    RaisesOnly kind (x >>= f) := by
  cases x with
  | error e => exact raisesOnly_error (hx e rfl)
  | ok value => exact hf value

theorem raisesOnly_mapM {f : a -> Except PyException b} {items : List a}
    (h : forall item, item ∈ items -> RaisesOnly kind (f item)) :
    RaisesOnly kind (items.mapM f) := by
  induction items with
  | nil => exact raisesOnly_ok []
  | cons item rest ih =>
      rw [List.mapM_cons]
      refine (h item List.mem_cons_self).bind fun value => ?_
      exact (ih fun other hother => h other (List.mem_cons_of_mem _ hother)).bind
        fun values => raisesOnly_ok (value :: values)

end

def IsValidationError (e : PyException) : Prop :=
  exists message details, e = validationError message details

theorem raisesOnly_validationError {a : Type} (message : String)
    (details : List (Key × Value)) :
    RaisesOnly IsValidationError
      (.error (validationError message details) : Except PyException a) :=
  raisesOnly_error ⟨message, details, rfl⟩

/-!
## Conversion to text
-/

mutual

/-- Some integer in the value has more digits than can be converted. -/
def Foundation.Value.beyondDigits : Value -> Bool
  | .int n => decide (Json.BeyondDigits n)
  | .list items => beyondDigitsList items
  | .tuple items => beyondDigitsList items
  | .dict entries => beyondDigitsEntries entries
  | _ => false

def Foundation.Value.beyondDigitsList : List Value -> Bool
  | [] => false
  | v :: rest => v.beyondDigits || beyondDigitsList rest

def Foundation.Value.beyondDigitsEntries : List (Key × Value) -> Bool
  | [] => false
  | (_, v) :: rest => v.beyondDigits || beyondDigitsEntries rest

end

def Foundation.Value.toStr (py : Builtins) (v : Value) : Except PyException String :=
  match v with
  | .str s => .ok s
  | v =>
      if v.beyondDigits then
        .error (.valueError
          ("Exceeds the limit (4300 digits) for integer string conversion; use " ++
            "sys.set_int_max_str_digits() to increase the limit"))
      else .ok (py.str v)

end YasinMcp
