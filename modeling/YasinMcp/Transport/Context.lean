import YasinMcp.Transport.Remote

/-!
# Rejected context headers

A context header is rejected by its size, by the decoder, by its type or by the
validation of its fields.  The middleware answers the value errors among these;
a validation error of a field is a structured error of another family and leaves
the middleware as an exception.
-/

namespace YasinMcp

open Foundation

namespace RequireBearerAuthMiddleware

/-- One structured refusal, no call of the inner application, and nothing raised. -/
def FailsClosed (h : Handled) : Prop :=
  (exists message, h.sent = [⟨400, "1.0.0", "INVALID_CONTEXT", message⟩]) ∧
    h.calls = [] ∧ h.result = .ok ()

/-- The header is too long, not decodable within the limits, or not an object. -/
def RefusedBeforeValidation (recursionLimit : Nat) (raw : String) : Prop :=
  maxContextHeaderLength < raw.length ∨
    Json.loads recursionLimit raw = .error .decode ∨
    (exists count, Json.loads recursionLimit raw = .error (.digits count)) ∨
    exists value, Json.loads recursionLimit raw = .ok value ∧
      forall entries, value ≠ .dict entries

theorem isValidationError_of_parsed {py : Builtins} {entries : List (Key × Value)}
    {e : PyException}
    (h : (do
        let context ← IntegrationContext.fromMapping py (.dict entries)
        .ok (some context) : Except PyException (Option IntegrationContext)) = .error e) :
    IsValidationError e :=
  (IntegrationContext.raises_fromMapping py (.dict entries)).bind
    (fun context => raisesOnly_ok (some context)) e h

theorem valueError_iff {py : Builtins} {recursionLimit : Nat} {raw : String}
    (hraw : raw ≠ "") {e : PyException}
    (h : extractIntegrationContext py recursionLimit (some raw) = .error e) :
    (exists message, e = .valueError message) <->
      RefusedBeforeValidation recursionLimit raw := by
  rw [extractIntegrationContext, if_neg hraw] at h
  by_cases hlong : maxContextHeaderLength < raw.length
  · rw [if_pos hlong] at h
    cases h
    exact iff_of_true ⟨_, rfl⟩ (Or.inl hlong)
  rw [if_neg hlong] at h
  unfold RefusedBeforeValidation
  cases hloads : Json.loads recursionLimit raw with
  | error err =>
      rw [hloads] at h
      cases err with
      | decode =>
          cases h
          exact iff_of_true ⟨_, rfl⟩ (Or.inr (Or.inl rfl))
      | digits count =>
          cases h
          exact iff_of_true ⟨_, rfl⟩ (Or.inr (Or.inr (Or.inl ⟨count, rfl⟩)))
      | recursion =>
          cases h
          simp [hlong]
  | ok value =>
      rw [hloads] at h
      cases value with
      | dict entries =>
          refine iff_of_false ?_ (by simp [hlong])
          intro hvalue
          rcases hvalue with ⟨message, rfl⟩
          rcases isValidationError_of_parsed h with ⟨text, details, he⟩
          cases he
      | _ =>
          cases h
          exact iff_of_true ⟨_, rfl⟩ (Or.inr (Or.inr (Or.inr ⟨_, rfl, by simp⟩)))

/--
A rejected context is answered by the middleware exactly when it was refused
before the validation of its fields.
-/
theorem handle_failsClosed_iff (py : Builtins) (recursionLimit : Nat)
    (m : RequireBearerAuthMiddleware) (app : App) (vars : RequestVars) {scope : Scope}
    {raw : String} {e : PyException}
    (hhttp : scope.scopeType = "http")
    (hpath : scope.path ∉ exemptPaths)
    (hraw : lastHeader scope contextHeader = some raw)
    (hne : raw ≠ "")
    (hrejected : requestContext py recursionLimit scope = .error e) :
    FailsClosed (m.handle py recursionLimit app scope vars) <->
      RefusedBeforeValidation recursionLimit raw := by
  have hextract : extractIntegrationContext py recursionLimit (some raw) = .error e := by
    rw [← hraw]
    exact hrejected
  rw [← valueError_iff hne hextract, handle_http hhttp hpath, hrejected]
  constructor
  · intro hclosed
    cases e with
    | valueError message => exact ⟨message, rfl⟩
    | _ => cases hclosed.2.2
  · intro hvalue
    rcases hvalue with ⟨message, rfl⟩
    exact ⟨⟨message, rfl⟩, rfl, rfl⟩

theorem handle_failsClosed_list :
    FailsClosed (handle plainBuiltins 1000 ⟨true, some "s3cret"⟩ idleApp
      (remoteRequest (some "s3cret") (some "[1]")) {}) := by
  have hrejected : requestContext plainBuiltins 1000 (remoteRequest (some "s3cret") (some "[1]")) =
      .error (.valueError "integration context must be a JSON object") := by decide +kernel
  have hloads : Json.loads 1000 "[1]" = .ok (.list [.int 1]) := by decide +kernel
  exact (handle_failsClosed_iff plainBuiltins 1000 ⟨true, some "s3cret"⟩ idleApp {} rfl
    (by decide) (by decide +kernel) (by decide) hrejected).mpr
    (Or.inr (Or.inr (Or.inr ⟨_, hloads, by simp⟩)))

/-- A header with an unknown field is refused by an exception, not by a response. -/
theorem handle_raises_unknownField :
    let scope := remoteRequest (some "s3cret") (some "\x7b\"role\": \"admin\"\x7d")
    let h := handle plainBuiltins 1000 ⟨true, some "s3cret"⟩ idleApp scope {}
    lastHeader scope contextHeader = some "\x7b\"role\": \"admin\"\x7d" ∧
      scope.path ∉ exemptPaths ∧
      h.sent = [] ∧
      h.result = .error (validationError "integration context contains unknown fields"
        [("unknown", .list [.str "role"])]) ∧
      ¬ FailsClosed h := by
  intro scope h
  have hsent : h.sent = [] := by decide +kernel
  refine ⟨by decide +kernel, by decide +kernel, hsent, by decide +kernel, ?_⟩
  intro hclosed
  rcases hclosed with ⟨⟨message, hmessage⟩, _⟩
  rw [hsent] at hmessage
  cases hmessage

end RequireBearerAuthMiddleware

end YasinMcp
