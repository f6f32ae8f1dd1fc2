import YasinMcp.Auth.Types

/-!
# Shared-secret authentication

The presented secret is compared with the configured one.  The outcome is
authenticated exactly when the two are the same non-empty string, and then the
subject is the configured one.
-/

namespace YasinMcp

open Foundation

/-- The constant-time comparison of two strings; it refuses non-ASCII ones. -/
def compareDigest (a b : String) : Except PyException Bool :=
  if Text.isAscii a && Text.isAscii b then .ok (a == b)
  else
    .error (.typeError "comparing strings with non-ASCII characters is not supported")

theorem compareDigest_eq_ok_true_iff (a b : String) :
    compareDigest a b = .ok true <-> a = b ∧ Text.isAscii b = true := by
  unfold compareDigest
  constructor
  · intro h
    split at h
    · rename_i hascii
      rw [Bool.and_eq_true] at hascii
      exact ⟨by simpa using h, hascii.2⟩
    · cases h
  · intro hsame
    rcases hsame with ⟨hab, hascii⟩
    simp [hab, hascii]

def authenticateStdioPeer : AuthOutcome :=
  .refused .transportUnavailable "stdio_peer_identity_unavailable"

/-- The pipeline's outcome when no credential is required and none is presented. -/
def stdioUnauthenticated : AuthOutcome :=
  .refused .unauthenticated "stdio_unauthenticated_asserted_context"

/-- The pipeline's outcome when one is required and there is no secret to compare with. -/
def authRequiredNoCredential : AuthOutcome :=
  .refused .missingCredential "auth_required_no_credential"

def sharedSecretScheme : String := "shared_secret"

def sharedSecretIdentity (subjectId : String) (h : Text.isBlank subjectId = false) :
    AuthenticatedIdentity where
  subjectId := Text.strip subjectId
  scheme := sharedSecretScheme
  trust := .trusted
  scopes := ["mcp:invoke"]
  subject_not_blank := by rw [Text.isBlank_strip, h]
  trusted := rfl
  scheme_not_blank := by decide

def authenticateSharedSecret (configuredSecret : Option SecretStr)
    (presentedSecret : Option String) (subjectId : String) :
    Except PyException AuthOutcome :=
  match configuredSecret with
  | none => .ok (.refused .transportUnavailable "shared_secret_not_configured")
  | some secret =>
      if secret.getSecretValue = "" then
        .ok (.refused .transportUnavailable "shared_secret_not_configured")
      else
        match presentedSecret with
        | none => .ok (.refused .missingCredential "credential_missing")
        | some presented =>
            if presented = "" then
              .ok (.refused .missingCredential "credential_missing")
            else
              match compareDigest presented secret.getSecretValue with
              | .error _ => .ok (.refused .malformed "credential_malformed")
              | .ok false => .ok (.refused .invalidCredential "credential_invalid")
              | .ok true =>
                  if h : Text.isBlank subjectId = false then
                    .ok
                      { status := .authenticated
                        identity := some (sharedSecretIdentity subjectId h)
                        transport := "stdio"
                        reasonCode := some "shared_secret_ok"
                        identity_iff := by simp }
                  else
                    .error (validationError
                      "auth subject_id must be non-empty when secret is configured")

/-- The presented secret is the configured one, which is set and comparable. -/
def PresentsSecret (configuredSecret : Option SecretStr) (presentedSecret : Option String) :
    Prop :=
  exists secret, configuredSecret = some secret ∧ secret.getSecretValue ≠ "" ∧
    Text.isAscii secret.getSecretValue = true ∧
    presentedSecret = some secret.getSecretValue

theorem authenticateSharedSecret_isOk {subjectId : String}
    (hsubject : Text.isBlank subjectId = false) (configuredSecret : Option SecretStr)
    (presentedSecret : Option String) :
    exists auth,
      authenticateSharedSecret configuredSecret presentedSecret subjectId = .ok auth := by
  unfold authenticateSharedSecret
  repeat' split
  all_goals exact ⟨_, rfl⟩

theorem authenticateSharedSecret_identity {configuredSecret : Option SecretStr}
    {presentedSecret : Option String} {subjectId : String} {auth : AuthOutcome}
    (h : authenticateSharedSecret configuredSecret presentedSecret subjectId = .ok auth)
    {identity : AuthenticatedIdentity} (hidentity : auth.identity = some identity) :
    PresentsSecret configuredSecret presentedSecret ∧
      identity.subjectId = Text.strip subjectId ∧ identity.scheme = sharedSecretScheme := by
  unfold authenticateSharedSecret at h
  split at h
  · cases h
    cases hidentity
  rename_i secret
  split at h
  · cases h
    cases hidentity
  rename_i hset
  split at h
  · cases h
    cases hidentity
  rename_i presented
  split at h
  · cases h
    cases hidentity
  split at h
  · cases h
    cases hidentity
  · cases h
    cases hidentity
  rename_i hcompare
  split at h
  · rename_i hsubject
    cases h
    cases hidentity
    rcases (compareDigest_eq_ok_true_iff presented secret.getSecretValue).mp hcompare with
      ⟨hsame, hascii⟩
    exact ⟨⟨secret, rfl, hset, hascii, by rw [hsame]⟩, rfl, rfl⟩
  · cases h

theorem authenticateSharedSecret_ne_unauthenticated {configuredSecret : Option SecretStr}
    {presentedSecret : Option String} {subjectId : String} {auth : AuthOutcome}
    (h : authenticateSharedSecret configuredSecret presentedSecret subjectId = .ok auth) :
    auth.status ≠ .unauthenticated := by
  unfold authenticateSharedSecret at h
  repeat' split at h
  all_goals
    cases h
    try decide
  intro hstatus
  cases hstatus

theorem authenticateSharedSecret_of_presents {configuredSecret : Option SecretStr}
    {presentedSecret : Option String} {subjectId : String} {auth : AuthOutcome}
    (h : authenticateSharedSecret configuredSecret presentedSecret subjectId = .ok auth)
    (hpresents : PresentsSecret configuredSecret presentedSecret) :
    auth.status = .authenticated := by
  rcases hpresents with ⟨secret, rfl, hset, hascii, rfl⟩
  have hcompare : compareDigest secret.getSecretValue secret.getSecretValue = .ok true :=
    (compareDigest_eq_ok_true_iff _ _).mpr ⟨rfl, hascii⟩
  simp only [authenticateSharedSecret, hset, if_false, hcompare] at h
  split at h
  · cases h
    rfl
  · cases h

end YasinMcp
