import YasinMcp.Config
import YasinMcp.Contracts.IntegrationContext

/-!
# Authentication outcomes

A verified identity is trusted and names a subject and a scheme, and an outcome
carries an identity exactly when its status is authenticated.  Both laws are
fields, as the constructors of the source check them.
-/

namespace YasinMcp

open Foundation

inductive AuthStatus where
  | authenticated
  | unauthenticated
  | invalidCredential
  | missingCredential
  | contextMismatch
  | unknownScheme
  | malformed
  | transportUnavailable
deriving DecidableEq, Repr

def AuthStatus.value : AuthStatus -> String
  | .authenticated => "authenticated"
  | .unauthenticated => "unauthenticated"
  | .invalidCredential => "invalid_credential"
  | .missingCredential => "missing_credential"
  | .contextMismatch => "context_mismatch"
  | .unknownScheme => "unknown_scheme"
  | .malformed => "malformed"
  | .transportUnavailable => "transport_unavailable"

theorem AuthStatus.value_injective {a b : AuthStatus} (h : a.value = b.value) : a = b := by
  cases a <;> cases b <;> first
    | rfl
    | exact absurd h (by decide)

structure AuthenticatedIdentity where
  subjectId : String
  scheme : String
  trust : TrustClassification
  scopes : List String
  subject_not_blank : Text.isBlank subjectId = false
  trusted : trust = .trusted
  scheme_not_blank : Text.isBlank scheme = false
deriving DecidableEq

structure AuthOutcome where
  status : AuthStatus
  identity : Option AuthenticatedIdentity
  transport : String
  reasonCode : Option String
  identity_iff : identity.isSome = true <-> status = .authenticated
deriving DecidableEq

namespace AuthOutcome

def isAuthenticated (auth : AuthOutcome) : Bool :=
  decide (auth.status = .authenticated) && auth.identity.isSome

/-- An outcome on the stdio transport that establishes no identity. -/
def refused (status : AuthStatus) (reasonCode : String)
    (h : status ≠ .authenticated := by decide) : AuthOutcome where
  status := status
  identity := none
  transport := "stdio"
  reasonCode := some reasonCode
  identity_iff := by simp [h]

theorem isAuthenticated_iff_status (auth : AuthOutcome) :
    auth.isAuthenticated = true <-> auth.status = .authenticated := by
  rw [isAuthenticated, Bool.and_eq_true, decide_eq_true_iff, auth.identity_iff, and_self]

theorem isAuthenticated_iff_identity (auth : AuthOutcome) :
    auth.isAuthenticated = true <-> exists identity, auth.identity = some identity := by
  rw [isAuthenticated_iff_status, ← auth.identity_iff, Option.isSome_iff_exists]

end AuthOutcome

end YasinMcp
