import YasinMcp.Errors.ClientContract
import YasinMcp.Foundation.KeyValues
import YasinMcp.Governance.Audit

/-!
# Core error records

The same application error in the shape of the shared ecosystem contract: another
code, a redacted message, and details filtered by a list of its own.  Three lists
of secret name parts exist side by side; the audit redactor's knows one part that
the two error mappings do not.
-/

namespace YasinMcp

open Foundation

def coreErrorCodes : List String :=
  ["CONFLICT", "INVALID", "NOT_FOUND", "REFUSED", "TIMEOUT", "UNAVAILABLE", "UNKNOWN"]

def coerceErrorCodeCompatible : ErrorCategory -> String
  | .validationError => "INVALID"
  | .notFound => "NOT_FOUND"
  | .unauthenticated => "REFUSED"
  | .unauthorized => "REFUSED"
  | .policyDenied => "REFUSED"
  | .rateLimited => "CONFLICT"
  | .timeout => "TIMEOUT"
  | .unavailableDependency => "UNAVAILABLE"
  | .upstreamError => "UNAVAILABLE"
  | .internalError => "UNKNOWN"

/-!
## The message
-/

def secretWords : List String :=
  ["token", "secret", "password", "passwd", "api_key", "api-key", "apikey", "bearer",
    "authorization"]

/-- A word in any case, a separator between white space, and a value that is not blank. -/
def secretMatch? (text : List Char) : Option (List Char × List Char) :=
  secretWords.findSome? fun word =>
    if (text.take word.length).map ignoreCase = word.toList then
      let afterWord := text.drop word.length
      let gap := afterWord.takeWhile Text.isSpace
      match afterWord.dropWhile Text.isSpace with
      | [] => none
      | separator :: afterSeparator =>
          let value := afterSeparator.dropWhile Text.isSpace
          if (separator = ':' ∨ separator = '=') ∧ value ≠ [] then
            some (text.take word.length ++ gap ++
              separator :: afterSeparator.takeWhile Text.isSpace ++ "***".toList,
                value.dropWhile fun c => !Text.isSpace c)
          else none
    else none

def isTokenChar (c : Char) : Bool :=
  c.isAlphanum || c == '_' || c == '-'

/-- A segment of token characters, and what follows it. -/
def tokenSegment? (text : List Char) : Option (List Char) :=
  if text.takeWhile isTokenChar = [] then none else some (text.dropWhile isTokenChar)

def dotSegment? : List Char -> Option (List Char)
  | '.' :: rest => tokenSegment? rest
  | _ => none

/-- Three segments with dots between them, the first past its mark. -/
def jwtMatch? : List Char -> Option (List Char × List Char)
  | 'e' :: 'y' :: 'J' :: rest => do
      let rest ← tokenSegment? rest
      let rest ← dotSegment? rest
      let rest ← dotSegment? rest
      some ("***".toList, rest)
  | _ => none

def redactSecretsCompatible (text : String) (limit : Int := 500) : String :=
  let cleaned := substitute secretMatch? text.length text.toList
  let cleaned := substitute jwtMatch? cleaned.length cleaned
  String.ofList (cleaned.take (max 1 limit).toNat)

example : redactSecretsCompatible "api-KEY = abc eyJa.b.c" = "api-KEY = *** ***" := by
  decide +kernel

/-!
## The record
-/

def coreDetailParts : List String :=
  ["token", "secret", "password", "credential", "authorization", "api_key", "apikey"]

structure CoreErrorInfo where
  code : String
  message : String
  details : Dict String Value
deriving DecidableEq

def validateCoreErrorInfo (record : CoreErrorInfo) : Except PyException Unit :=
  if record.code ∉ coreErrorCodes then
    .error (.valueError
      ("ErrorInfo.code must be one of ['CONFLICT', 'INVALID', 'NOT_FOUND', 'REFUSED', " ++
        "'TIMEOUT', 'UNAVAILABLE', 'UNKNOWN']."))
  else .ok ()

def mcpErrorToCoreInfo (e : McpError) (details : Option (List (Key × Value)) := none) :
    Except PyException CoreErrorInfo := do
  let record :=
    { code := coerceErrorCodeCompatible e.category
      message := redactSecretsCompatible e.message
      details := filterDetails coreDetailParts (details.getD e.details) }
  validateCoreErrorInfo record
  .ok record

theorem mcpErrorToCoreInfo_eq (e : McpError) (details : Option (List (Key × Value))) :
    mcpErrorToCoreInfo e details =
      .ok
        { code := coerceErrorCodeCompatible e.category
          message := redactSecretsCompatible e.message
          details := filterDetails coreDetailParts (details.getD e.details) } := by
  have hcode : coerceErrorCodeCompatible e.category ∈ coreErrorCodes := by
    cases e.category <;> decide
  unfold mcpErrorToCoreInfo validateCoreErrorInfo
  dsimp only
  rw [if_neg (not_not.mpr hcode)]
  rfl

/-!
## Three lists of secret names
-/

theorem mentionsAny_blockedDetailKeys (s : String) :
    Text.mentionsAny blockedDetailKeys s = Text.mentionsAny coreDetailParts s := by
  rw [Bool.eq_iff_iff]
  exact ⟨Text.mentionsAny_of_parts (by decide), Text.mentionsAny_of_parts (by decide)⟩

theorem isSensitiveKey_iff (key : Key) :
    isSensitiveKey key = true <->
      Text.mentionsAny coreDetailParts key.text = true ∨
        Text.mentionsAny ["passwd"] key.text = true := by
  rw [← Bool.or_eq_true, ← Text.mentionsAny_append]
  exact ⟨Text.mentionsAny_of_parts (by decide), Text.mentionsAny_of_parts (by decide)⟩

/-- No detail that the audit redactor masks is in the client payload or the Core record. -/
def HidesSensitiveDetails (py : Builtins) (e : McpError) : Prop :=
  forall entry, entry ∈ e.details -> isSensitiveKey entry.1 = true ->
    (forall payload, mapMcpError py e = .ok payload -> entry.1.text ∉ payload.details.keys) ∧
      forall record, mcpErrorToCoreInfo e = .ok record -> entry.1.text ∉ record.details.keys

/--
Both mappings hide every sensitive detail of an error exactly when each of its
keys that mentions {lit}`passwd` also mentions another secret name part.
-/
theorem hides_sensitive_details_iff (py : Builtins) (e : McpError) :
    HidesSensitiveDetails py e <->
      forall entry, entry ∈ e.details -> Text.mentionsAny ["passwd"] entry.1.text = true ->
        Text.mentionsAny coreDetailParts entry.1.text = true := by
  have hhidden : forall entry, entry ∈ e.details ->
      (entry.1.text ∉ (filterDetails coreDetailParts e.details).keys <->
        Text.mentionsAny coreDetailParts entry.1.text = true) := by
    intro entry hentry
    rw [mem_keys_filterDetails, not_and_or, Bool.not_eq_false]
    exact or_iff_left (not_not.mpr ⟨entry, hentry, rfl⟩)
  have hclient : safeDetails e = filterDetails coreDetailParts e.details := by
    unfold safeDetails filterDetails
    simp only [mentionsAny_blockedDetailKeys]
  unfold HidesSensitiveDetails
  constructor
  · intro h entry hentry hpasswd
    have hkept := (h entry hentry ((isSensitiveKey_iff entry.1).mpr (Or.inr hpasswd))).2 _
      (mcpErrorToCoreInfo_eq e _)
    exact (hhidden entry hentry).mp hkept
  · intro h entry hentry hsensitive
    have hmentions : Text.mentionsAny coreDetailParts entry.1.text = true := by
      rcases (isSensitiveKey_iff entry.1).mp hsensitive with hother | hpasswd
      · exact hother
      · exact h entry hentry hpasswd
    have habsent := (hhidden entry hentry).mpr hmentions
    constructor
    · intro payload hpayload
      rw [(mapMcpError_eq_ok hpayload).2.2, hclient]
      exact habsent
    · intro record hrecord
      rw [mcpErrorToCoreInfo_eq] at hrecord
      cases hrecord
      exact habsent

def passwdError : McpError :=
  ⟨.upstreamError, .upstreamError, "login failed", [("db_passwd", .str "hunter2")]⟩

theorem passwd_detail_shown :
    ¬ HidesSensitiveDetails plainBuiltins passwdError ∧
      (exists payload, mapMcpError plainBuiltins passwdError = .ok payload ∧
        payload.details.get? "db_passwd" = some (.str "hunter2")) ∧
      exists record, mcpErrorToCoreInfo passwdError = .ok record ∧
        record.details.get? "db_passwd" = some (.str "hunter2") := by
  refine ⟨?_, ⟨_, rfl, by decide⟩, _, mcpErrorToCoreInfo_eq _ _, by decide⟩
  intro hhides
  exact (hhides _ List.mem_cons_self (by decide)).1 _ rfl (by decide)

end YasinMcp
