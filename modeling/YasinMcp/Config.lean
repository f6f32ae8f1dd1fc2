import YasinMcp.Errors
import YasinMcp.Foundation.Text

/-!
# Server configuration

The constructor checks its arguments and strips the subject.  A configuration
carries the checks that the authentication boundary and the gate rely on.
-/

namespace YasinMcp

open Foundation

structure SecretStr where
  getSecretValue : String
deriving DecidableEq

def validLogLevels : List String := ["DEBUG", "INFO", "WARNING", "ERROR", "CRITICAL"]

def maxTimeout : Int := 120
def maxConcurrency : Int := 256
def maxAuthSubjectLen : Nat := 128

structure ServerConfigArgs where
  logLevel : String := "INFO"
  requestTimeoutSeconds : Int := 30
  maxConcurrentRequests : Int := 32
  authToken : Option SecretStr := none
  authSubjectId : String := "local-operator"
  requireAuthentication : Bool := false
  remoteEnabled : Bool := false
  remotePort : Int := 8443
  remoteTlsCertfile : Option String := none
  remoteTlsKeyfile : Option String := none
  remoteAllowInsecureHttp : Bool := false

def secretPresent : Option SecretStr -> Bool
  | none => false
  | some secret => secret.getSecretValue ≠ ""

def textPresent : Option String -> Bool
  | none => false
  | some text => text ≠ ""

structure ServerConfig where
  args : ServerConfigArgs
  authSubjectId : String
  subject_stripped : Text.strip authSubjectId = authSubjectId
  subject_nonempty : authSubjectId ≠ ""
  subject_short : authSubjectId.length ≤ maxAuthSubjectLen
  concurrency_bounds :
    1 ≤ args.maxConcurrentRequests ∧ args.maxConcurrentRequests ≤ maxConcurrency
  token_of_required : args.requireAuthentication = true -> secretPresent args.authToken = true

namespace ServerConfig

def authToken (config : ServerConfig) : Option SecretStr := config.args.authToken

def requireAuthentication (config : ServerConfig) : Bool :=
  config.args.requireAuthentication

def remoteEnabled (config : ServerConfig) : Bool := config.args.remoteEnabled

def postInit (py : Builtins) (args : ServerConfigArgs) : Except PyException ServerConfig :=
  if args.logLevel ∉ validLogLevels then
    .error (.invalidConfiguration
      ("log_level must be one of ['CRITICAL', 'DEBUG', 'ERROR', 'INFO', 'WARNING'], got " ++
        py.repr (.str args.logLevel)))
  else if ¬ (1 ≤ args.requestTimeoutSeconds ∧ args.requestTimeoutSeconds ≤ maxTimeout) then
    .error (.invalidConfiguration "request_timeout_seconds must be between 1 and 120")
  else if hconcurrency : ¬ (1 ≤ args.maxConcurrentRequests ∧
      args.maxConcurrentRequests ≤ maxConcurrency) then
    .error (.invalidConfiguration "max_concurrent_requests must be between 1 and 256")
  else if hsubject : Text.strip args.authSubjectId = "" ∨
      maxAuthSubjectLen < (Text.strip args.authSubjectId).length then
    .error (.invalidConfiguration
      "auth_subject_id must be a non-empty string up to 128 characters")
  else if hrequired : args.requireAuthentication = true ∧
      secretPresent args.authToken = false then
    .error (.invalidConfiguration
      "require_authentication=true requires YASIN_MCP_AUTH_TOKEN to be set")
  else if ¬ (1 ≤ args.remotePort ∧ args.remotePort ≤ 65535) then
    .error (.invalidConfiguration "remote_port must be between 1 and 65535")
  else if args.remoteEnabled = true ∧ args.requireAuthentication = true ∧
      secretPresent args.authToken = false then
    .error (.invalidConfiguration
      "remote_enabled with authentication requires YASIN_MCP_AUTH_TOKEN")
  else if args.remoteEnabled = true ∧ args.remoteAllowInsecureHttp = false ∧
      (textPresent args.remoteTlsCertfile = false ∨
        textPresent args.remoteTlsKeyfile = false) then
    .error (.invalidConfiguration
      ("remote TLS requires certfile and keyfile unless " ++
        "remote_allow_insecure_http is enabled for local testing"))
  else
    .ok
      { args := args
        authSubjectId := Text.strip args.authSubjectId
        subject_stripped := Text.strip_strip args.authSubjectId
        subject_nonempty := (not_or.mp hsubject).1
        subject_short := Nat.le_of_not_lt (not_or.mp hsubject).2
        concurrency_bounds := not_not.mp hconcurrency
        token_of_required := by
          intro hreq
          cases htoken : secretPresent args.authToken with
          | true => rfl
          | false => exact absurd ⟨hreq, htoken⟩ hrequired }

theorem subject_not_blank (config : ServerConfig) :
    Text.isBlank config.authSubjectId = false := by
  cases hblank : Text.isBlank config.authSubjectId with
  | false => rfl
  | true =>
      have hempty := (Text.strip_eq_empty_iff config.authSubjectId).mpr hblank
      rw [config.subject_stripped] at hempty
      exact absurd hempty config.subject_nonempty

theorem exists_token_of_required {config : ServerConfig}
    (h : config.requireAuthentication = true) :
    exists secret, config.authToken = some secret ∧ secret.getSecretValue ≠ "" := by
  have hpresent := config.token_of_required h
  unfold authToken
  cases htoken : config.args.authToken with
  | none => simp [htoken, secretPresent] at hpresent
  | some secret =>
      rw [htoken] at hpresent
      exact ⟨secret, rfl, by simpa [secretPresent] using hpresent⟩

end ServerConfig

end YasinMcp
