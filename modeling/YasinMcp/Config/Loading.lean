import YasinMcp.Adapters.Payload
import YasinMcp.Auth.Enforcement
import YasinMcp.Foundation.DecimalText

/-!
# Loading the configuration

The server reads its configuration from the environment.  A variable that does
not parse and a combination that the constructor refuses both end the start with
an error of the configuration, whose text says nothing of a secret.
-/

namespace YasinMcp

open Foundation

structure ServerSettings where
  config : ServerConfig
  githubToken : Option SecretStr
  remoteHost : String

/-- The upper case of a character, which can be several characters. -/
abbrev UpperCase := Char -> List Char

def upperText (upper : UpperCase) (s : String) : String :=
  String.ofList (s.toList.flatMap upper)

/-!
## Reading variables
-/

def envStr (environ : Environ) (name default : String) : String :=
  (environ name).getD default

def envInt (py : Builtins) (unicode : UnicodeData) (environ : Environ) (name : String)
    (default : Int) : Except PyException Int :=
  match environValue environ name with
  | none => .ok default
  | some raw =>
      match (Value.str raw).toInt py unicode with
      | .ok n => .ok n
      | .error _ =>
          .error (.invalidConfiguration ("Environment variable " ++ name ++ " must be an integer"))

def envSecret (environ : Environ) (name : String) : Option SecretStr :=
  (environValue environ name).map SecretStr.mk

def trueWords : List String := ["1", "true", "yes", "on"]
def falseWords : List String := ["0", "false", "no", "off"]

def envBool (environ : Environ) (name : String) (default : Bool := false) :
    Except PyException Bool :=
  match environValue environ name with
  | none => .ok default
  | some raw =>
      let normalized := Text.lower (Text.strip raw)
      if normalized ∈ trueWords then .ok true
      else if normalized ∈ falseWords then .ok false
      else
        .error (.invalidConfiguration
          ("Environment variable " ++ name ++ " must be a boolean (true/false)"))

def logLevelEnv : String := "YASIN_MCP_LOG_LEVEL"
def timeoutEnv : String := "YASIN_MCP_REQUEST_TIMEOUT_SECONDS"
def concurrencyEnv : String := "YASIN_MCP_MAX_CONCURRENT_REQUESTS"
def githubTokenEnv : String := "YASIN_MCP_GITHUB_TOKEN"
def authTokenEnv : String := "YASIN_MCP_AUTH_TOKEN"
def authSubjectEnv : String := "YASIN_MCP_AUTH_SUBJECT"
def requireAuthEnv : String := "YASIN_MCP_REQUIRE_AUTH"
def remoteEnabledEnv : String := "YASIN_MCP_REMOTE_ENABLED"
def remoteHostEnv : String := "YASIN_MCP_REMOTE_HOST"
def remotePortEnv : String := "YASIN_MCP_REMOTE_PORT"
def remoteCertfileEnv : String := "YASIN_MCP_REMOTE_TLS_CERTFILE"
def remoteKeyfileEnv : String := "YASIN_MCP_REMOTE_TLS_KEYFILE"
def remoteInsecureEnv : String := "YASIN_MCP_REMOTE_ALLOW_INSECURE_HTTP"

/-- The arguments of the constructor, read in their order. -/
def loadArgs (py : Builtins) (unicode : UnicodeData) (upper : UpperCase) (environ : Environ) :
    Except PyException ServerConfigArgs := do
  let timeout ← envInt py unicode environ timeoutEnv 30
  let concurrency ← envInt py unicode environ concurrencyEnv 32
  let required ← envBool environ requireAuthEnv
  let remote ← envBool environ remoteEnabledEnv
  let port ← envInt py unicode environ remotePortEnv 8443
  let insecure ← envBool environ remoteInsecureEnv
  .ok
    { logLevel := upperText upper (envStr environ logLevelEnv "INFO")
      requestTimeoutSeconds := timeout
      maxConcurrentRequests := concurrency
      authToken := envSecret environ authTokenEnv
      authSubjectId := envStr environ authSubjectEnv "local-operator"
      requireAuthentication := required
      remoteEnabled := remote
      remotePort := port
      remoteTlsCertfile := environValue environ remoteCertfileEnv
      remoteTlsKeyfile := environValue environ remoteKeyfileEnv
      remoteAllowInsecureHttp := insecure }

def loadConfig (py : Builtins) (unicode : UnicodeData) (upper : UpperCase) (environ : Environ) :
    Except PyException ServerSettings := do
  let args ← loadArgs py unicode upper environ
  let config ← ServerConfig.postInit py args
  .ok
    { config := config
      githubToken := envSecret environ githubTokenEnv
      remoteHost := envStr environ remoteHostEnv "127.0.0.1" }

/-!
## The start of the server
-/

/-- How the start goes on: with a configuration, or with an exit after a line on standard error. -/
inductive Startup where
  | run (settings : ServerSettings)
  | exit (code : Int) (stderr : String)
  | crash (e : PyException)

/-- The entry point up to its configuration; the logger and the runtime come after it. -/
def loadConfigOrExit (py : Builtins) (unicode : UnicodeData) (upper : UpperCase)
    (environ : Environ) : Startup :=
  match loadConfig py unicode upper environ with
  | .ok settings => .run settings
  | .error (.invalidConfiguration message) =>
      .exit 2 ("yasin-mcp: configuration error: " ++ message ++ "\n")
  | .error e => .crash e

/-!
## What the constructor refuses
-/

namespace ServerConfig

def refusal (py : Builtins) (args : ServerConfigArgs) : Option PyException :=
  if args.logLevel ∉ validLogLevels then
    some (.invalidConfiguration
      ("log_level must be one of ['CRITICAL', 'DEBUG', 'ERROR', 'INFO', 'WARNING'], got " ++
        py.repr (.str args.logLevel)))
  else if ¬ (1 ≤ args.requestTimeoutSeconds ∧ args.requestTimeoutSeconds ≤ maxTimeout) then
    some (.invalidConfiguration "request_timeout_seconds must be between 1 and 120")
  else if ¬ (1 ≤ args.maxConcurrentRequests ∧ args.maxConcurrentRequests ≤ maxConcurrency) then
    some (.invalidConfiguration "max_concurrent_requests must be between 1 and 256")
  else if Text.strip args.authSubjectId = "" ∨
      maxAuthSubjectLen < (Text.strip args.authSubjectId).length then
    some (.invalidConfiguration
      "auth_subject_id must be a non-empty string up to 128 characters")
  else if args.requireAuthentication = true ∧ secretPresent args.authToken = false then
    some (.invalidConfiguration
      "require_authentication=true requires YASIN_MCP_AUTH_TOKEN to be set")
  else if ¬ (1 ≤ args.remotePort ∧ args.remotePort ≤ 65535) then
    some (.invalidConfiguration "remote_port must be between 1 and 65535")
  else if args.remoteEnabled = true ∧ args.requireAuthentication = true ∧
      secretPresent args.authToken = false then
    some (.invalidConfiguration
      "remote_enabled with authentication requires YASIN_MCP_AUTH_TOKEN")
  else if args.remoteEnabled = true ∧ args.remoteAllowInsecureHttp = false ∧
      (textPresent args.remoteTlsCertfile = false ∨
        textPresent args.remoteTlsKeyfile = false) then
    some (.invalidConfiguration
      ("remote TLS requires certfile and keyfile unless " ++
        "remote_allow_insecure_http is enabled for local testing"))
  else none

theorem postInit_cases (py : Builtins) (args : ServerConfigArgs) :
    (exists e, refusal py args = some e ∧ postInit py args = .error e) ∨
      exists config, refusal py args = none ∧ postInit py args = .ok config ∧
        config.args = args ∧ config.authSubjectId = Text.strip args.authSubjectId := by
  unfold refusal postInit
  repeat' split
  all_goals first
    | exact Or.inl ⟨_, rfl, rfl⟩
    | exact Or.inr ⟨_, rfl, rfl, rfl, rfl⟩

end ServerConfig

/-!
## Errors of the start
-/

def IsInvalidConfiguration (e : PyException) : Prop :=
  exists message, e = .invalidConfiguration message

theorem raises_envInt (py : Builtins) (unicode : UnicodeData) (environ : Environ) (name : String)
    (default : Int) : RaisesOnly IsInvalidConfiguration (envInt py unicode environ name default) := by
  unfold envInt
  split
  · exact raisesOnly_ok default
  · split
    · exact raisesOnly_ok _
    · exact raisesOnly_error ⟨_, rfl⟩

theorem raises_envBool (environ : Environ) (name : String) (default : Bool) :
    RaisesOnly IsInvalidConfiguration (envBool environ name default) := by
  unfold envBool
  split
  · exact raisesOnly_ok default
  · dsimp only
    split
    · exact raisesOnly_ok true
    · split
      · exact raisesOnly_ok false
      · exact raisesOnly_error ⟨_, rfl⟩

theorem refusal_isInvalidConfiguration {py : Builtins} {args : ServerConfigArgs} {e : PyException}
    (h : ServerConfig.refusal py args = some e) : IsInvalidConfiguration e := by
  unfold ServerConfig.refusal at h
  repeat' split at h
  all_goals first
    | (cases h; exact ⟨_, rfl⟩)
    | cases h

theorem raises_loadArgs (py : Builtins) (unicode : UnicodeData) (upper : UpperCase)
    (environ : Environ) :
    RaisesOnly IsInvalidConfiguration (loadArgs py unicode upper environ) := by
  unfold loadArgs
  refine (raises_envInt _ _ _ _ _).bind fun timeout => ?_
  refine (raises_envInt _ _ _ _ _).bind fun concurrency => ?_
  refine (raises_envBool _ _ _).bind fun required => ?_
  refine (raises_envBool _ _ _).bind fun remote => ?_
  refine (raises_envInt _ _ _ _ _).bind fun port => ?_
  exact (raises_envBool _ _ _).bind fun insecure => raisesOnly_ok _

/-!
## Secrets
-/

/-- The two environments differ in the values of secrets only; one is set where the other is. -/
structure SameButTokenVars (first second : Environ) : Prop where
  others : forall name, name ≠ githubTokenEnv -> name ≠ authTokenEnv -> first name = second name
  authPresent : (environValue first authTokenEnv).isSome = (environValue second authTokenEnv).isSome

/-- The starts go on alike: with the same settings up to secrets, or the same exit. -/
def SameStart (second : Environ) : Startup -> Startup -> Prop
  | .run s, .run s' =>
      s'.config.args = { s.config.args with authToken := envSecret second authTokenEnv } ∧
        s'.config.authSubjectId = s.config.authSubjectId ∧
        s'.githubToken = envSecret second githubTokenEnv ∧ s'.remoteHost = s.remoteHost
  | .exit code text, .exit code' text' => code = code' ∧ text = text'
  | _, _ => False

theorem environValue_congr {first second : Environ} {name : String} (h : first name = second name) :
    environValue first name = environValue second name := by
  rw [environValue, environValue, h]

theorem loadArgs_secrets {first second : Environ} (h : SameButTokenVars first second)
    (py : Builtins) (unicode : UnicodeData) (upper : UpperCase) :
    loadArgs py unicode upper second =
      (fun args : ServerConfigArgs =>
        { args with authToken := envSecret second authTokenEnv }) <$>
          loadArgs py unicode upper first := by
  have hvalue : forall name, name ≠ githubTokenEnv -> name ≠ authTokenEnv ->
      environValue second name = environValue first name := by
    intro name hgithub hauth
    exact environValue_congr (h.others name hgithub hauth).symm
  have hint : forall name default, name ≠ githubTokenEnv -> name ≠ authTokenEnv ->
      envInt py unicode second name default = envInt py unicode first name default := by
    intro name default hgithub hauth
    rw [envInt, envInt, hvalue name hgithub hauth]
  have hbool : forall name, name ≠ githubTokenEnv -> name ≠ authTokenEnv ->
      envBool second name = envBool first name := by
    intro name hgithub hauth
    rw [envBool, envBool, hvalue name hgithub hauth]
  have hstr : forall name default, name ≠ githubTokenEnv -> name ≠ authTokenEnv ->
      envStr second name default = envStr first name default := by
    intro name default hgithub hauth
    rw [envStr, envStr, h.others name hgithub hauth]
  unfold loadArgs
  rw [hint timeoutEnv 30 (by decide) (by decide), hint concurrencyEnv 32 (by decide) (by decide),
    hint remotePortEnv 8443 (by decide) (by decide), hbool requireAuthEnv (by decide) (by decide),
    hbool remoteEnabledEnv (by decide) (by decide),
    hbool remoteInsecureEnv (by decide) (by decide),
    hstr logLevelEnv "INFO" (by decide) (by decide),
    hstr authSubjectEnv "local-operator" (by decide) (by decide),
    hvalue remoteCertfileEnv (by decide) (by decide),
    hvalue remoteKeyfileEnv (by decide) (by decide)]
  simp only [map_bind]
  rfl

theorem secretPresent_envSecret (environ : Environ) (name : String) :
    secretPresent (envSecret environ name) = (environValue environ name).isSome := by
  unfold envSecret environValue
  split
  · rfl
  · split
    · rfl
    · rename_i hne
      simpa [secretPresent] using hne

theorem refusal_authToken (py : Builtins) (args : ServerConfigArgs) {token : Option SecretStr}
    (h : secretPresent token = secretPresent args.authToken) :
    ServerConfig.refusal py { args with authToken := token } = ServerConfig.refusal py args := by
  unfold ServerConfig.refusal
  simp only [h]

/--
Loading never crashes, and what it does shows nothing of the secrets: environments
that differ in the values of secrets only lead to the same settings but for the
secrets, or to the same exit with the same text.
-/
theorem loadConfigOrExit_secretBlind {first second : Environ} (h : SameButTokenVars first second)
    (py : Builtins) (unicode : UnicodeData) (upper : UpperCase) :
    SameStart second (loadConfigOrExit py unicode upper first)
      (loadConfigOrExit py unicode upper second) := by
  unfold loadConfigOrExit loadConfig
  rw [loadArgs_secrets h]
  cases hargs : loadArgs py unicode upper first with
  | error e =>
      rcases raises_loadArgs py unicode upper first e hargs with ⟨message, he⟩
      subst he
      exact ⟨rfl, rfl⟩
  | ok args =>
      have htoken : args.authToken = envSecret first authTokenEnv := by
        unfold loadArgs at hargs
        rcases bind_eq_ok hargs with ⟨timeout, _, hargs⟩
        rcases bind_eq_ok hargs with ⟨concurrency, _, hargs⟩
        rcases bind_eq_ok hargs with ⟨required, _, hargs⟩
        rcases bind_eq_ok hargs with ⟨remote, _, hargs⟩
        rcases bind_eq_ok hargs with ⟨port, _, hargs⟩
        rcases bind_eq_ok hargs with ⟨insecure, _, hargs⟩
        cases hargs
        rfl
      have hrefusal : ServerConfig.refusal py
          { args with authToken := envSecret second authTokenEnv } =
            ServerConfig.refusal py args := by
        apply refusal_authToken
        rw [htoken, secretPresent_envSecret, secretPresent_envSecret, h.authPresent]
      have hhost : envStr second remoteHostEnv "127.0.0.1" = envStr first remoteHostEnv "127.0.0.1" := by
        rw [envStr, envStr, h.others remoteHostEnv (by decide) (by decide)]
      rcases ServerConfig.postInit_cases py args with
        ⟨e, he, hfirst⟩ | ⟨config, hnone, hfirst, hconfig, hsubject⟩
      · rcases ServerConfig.postInit_cases py
          { args with authToken := envSecret second authTokenEnv } with
          ⟨e', he', hsecond⟩ | ⟨config', hnone', _, _, _⟩
        · rw [hrefusal, he, Option.some.injEq] at he'
          subst he'
          rcases refusal_isInvalidConfiguration he with ⟨message, hmessage⟩
          subst hmessage
          simp only [ok_bind, Functor.map, Except.map, hfirst, hsecond, error_bind]
          exact ⟨rfl, rfl⟩
        · rw [hrefusal, he] at hnone'
          cases hnone'
      · rcases ServerConfig.postInit_cases py
          { args with authToken := envSecret second authTokenEnv } with
          ⟨e', he', _⟩ | ⟨config', _, hsecond, hconfig', hsubject'⟩
        · rw [hrefusal, hnone] at he'
          cases he'
        · simp only [ok_bind, Functor.map, Except.map, hfirst, hsecond]
          exact ⟨by rw [hconfig', hconfig], hsubject'.trans hsubject.symm, rfl, hhost⟩

def environWith (entries : List (String × String)) : Environ :=
  fun name => Dict.lookupIn name entries

theorem loadConfigOrExit_secretBlind_port :
    SameStart (environWith [(authTokenEnv, "right"), (remotePortEnv, "0")])
      (loadConfigOrExit plainBuiltins plainUnicode (fun c => [c])
        (environWith [(authTokenEnv, "wrong"), (remotePortEnv, "0")]))
      (loadConfigOrExit plainBuiltins plainUnicode (fun c => [c])
        (environWith [(authTokenEnv, "right"), (remotePortEnv, "0")])) := by
  apply loadConfigOrExit_secretBlind
  constructor
  · intro name _ hauth
    simp [environWith, Dict.lookupIn, Ne.symm hauth]
  · decide

/-!
## Writing a configuration as an environment
-/

def boolText (flag : Bool) : String := if flag then "true" else "false"

def secretText (secret : Option SecretStr) : String :=
  match secret with
  | none => ""
  | some s => s.getSecretValue

def environEntries (s : ServerSettings) : List (String × String) :=
  [(logLevelEnv, s.config.args.logLevel),
    (timeoutEnv, s.config.args.requestTimeoutSeconds.toNat.repr),
    (concurrencyEnv, s.config.args.maxConcurrentRequests.toNat.repr),
    (githubTokenEnv, secretText s.githubToken),
    (authTokenEnv, secretText s.config.args.authToken),
    (authSubjectEnv, s.config.args.authSubjectId),
    (requireAuthEnv, boolText s.config.args.requireAuthentication),
    (remoteEnabledEnv, boolText s.config.args.remoteEnabled),
    (remoteHostEnv, s.remoteHost),
    (remotePortEnv, s.config.args.remotePort.toNat.repr),
    (remoteCertfileEnv, s.config.args.remoteTlsCertfile.getD ""),
    (remoteKeyfileEnv, s.config.args.remoteTlsKeyfile.getD ""),
    (remoteInsecureEnv, boolText s.config.args.remoteAllowInsecureHttp)]

def environOf (s : ServerSettings) : Environ :=
  environWith (environEntries s)

/-- The interpreter leaves the ASCII capitals as they are. -/
def KeepsCapitals (upper : UpperCase) : Prop :=
  forall c : Char, c.isUpper = true -> upper c = [c]

theorem upperText_capitals {upper : UpperCase} (h : KeepsCapitals upper) {s : String}
    (hs : s.toList.all Char.isUpper = true) : upperText upper s = s := by
  have hself : forall cs : List Char, cs.all Char.isUpper = true -> cs.flatMap upper = cs := by
    intro cs
    induction cs with
    | nil =>
        intro _
        rfl
    | cons c rest ih =>
        intro hcs
        rw [List.all_cons, Bool.and_eq_true] at hcs
        rw [List.flatMap_cons, h c hcs.1, ih hcs.2]
        rfl
  rw [upperText, hself _ hs, String.ofList_toList]

theorem upperText_logLevel {upper : UpperCase} (h : KeepsCapitals upper) {level : String}
    (hlevel : level ∈ validLogLevels) : upperText upper level = level := by
  have hcapitals : forall level, level ∈ validLogLevels ->
      level.toList.all Char.isUpper = true :=
    List.forall_iff_forall_mem.mp (by decide)
  exact upperText_capitals h (hcapitals level hlevel)

section

variable {environ : Environ} {name value : String}

theorem environValue_eq_some (h : environ name = some value) (hne : value ≠ "") :
    environValue environ name = some value := by
  simp [environValue, h, hne]

theorem ne_empty_of_environValue (h : environValue environ name = some value) : value ≠ "" := by
  unfold environValue at h
  split at h
  · cases h
  · split at h
    · cases h
    · rename_i hne
      cases h
      exact hne

theorem envBool_boolText {flag : Bool} (h : environ name = some (boolText flag)) :
    envBool environ name = .ok flag := by
  have hne : boolText flag ≠ "" := by cases flag <;> decide
  rw [envBool, environValue_eq_some h hne]
  cases flag <;> rfl

theorem envInt_repr {py : Builtins} {unicode : UnicodeData} (hdigits : KnowsAsciiDigits unicode)
    {n : Int} (hlow : 0 ≤ n) (hhigh : n < 100000) (h : environ name = some n.toNat.repr)
    (default : Int) : envInt py unicode environ name default = .ok n := by
  have hne : n.toNat.repr ≠ "" := by
    rw [ne_eq, ← String.toList_eq_nil_iff]
    exact repr_toList_ne_nil _
  have hlength : n.toNat.repr.toList.length ≤ 5 := by
    rw [length_repr_le_iff (by decide)]
    show n.toNat < 100000
    omega
  have hshort : ¬ Json.maxIntDigits < (n.toNat.repr.toList.map fun c => c.toNat - 48).length := by
    rw [List.length_map, Json.maxIntDigits]
    omega
  have hread : (Value.str n.toNat.repr).toInt py unicode = .ok n := by
    have hvalue := UnicodeData.foldl_digits_repr n.toNat
    rw [List.foldl_map] at hvalue
    unfold Value.toInt
    simp only [UnicodeData.integer?_repr hdigits, hshort, if_false, Bool.false_eq_true,
      bind_pure_comp, List.map_eq_map, List.foldl_map]
    rw [hvalue, Int.toNat_of_nonneg hlow]
  rw [envInt, environValue_eq_some h hne]
  simp only [hread]

theorem envSecret_secretText {first : Environ} {secret : Option SecretStr} {name' : String}
    (hsecret : secret = envSecret first name') (h : environ name = some (secretText secret)) :
    envSecret environ name = secret := by
  unfold envSecret at hsecret ⊢
  cases hvalue : environValue first name' with
  | none =>
      rw [hvalue] at hsecret
      subst hsecret
      have hnone : environValue environ name = none := by
        rw [environValue, h]
        rfl
      rw [hnone]
  | some text =>
      rw [hvalue] at hsecret
      subst hsecret
      rw [environValue_eq_some h (ne_empty_of_environValue hvalue)]
      rfl

theorem environValue_getD {first : Environ} {file : Option String} {name' : String}
    (hfile : file = environValue first name') (h : environ name = some (file.getD "")) :
    environValue environ name = file := by
  cases hvalue : environValue first name' with
  | none =>
      rw [hvalue] at hfile
      subst hfile
      rw [environValue, h]
      rfl
  | some text =>
      rw [hvalue] at hfile
      subst hfile
      exact environValue_eq_some h (ne_empty_of_environValue hvalue)

end

theorem bounds_of_refusal {py : Builtins} {args : ServerConfigArgs}
    (h : ServerConfig.refusal py args = none) :
    args.logLevel ∈ validLogLevels ∧
      (1 ≤ args.requestTimeoutSeconds ∧ args.requestTimeoutSeconds ≤ maxTimeout) ∧
      (1 ≤ args.maxConcurrentRequests ∧ args.maxConcurrentRequests ≤ maxConcurrency) ∧
      1 ≤ args.remotePort ∧ args.remotePort ≤ 65535 := by
  unfold ServerConfig.refusal at h
  repeat' split at h
  all_goals try cases h
  rename_i hlevel htimeout hconcurrency _ _ hport _ _
  exact ⟨not_not.mp hlevel, not_not.mp htimeout, not_not.mp hconcurrency, not_not.mp hport⟩

structure Loaded (py : Builtins) (unicode : UnicodeData) (upper : UpperCase) (environ : Environ)
    (s : ServerSettings) : Prop where
  args : loadArgs py unicode upper environ = .ok s.config.args
  refusal : ServerConfig.refusal py s.config.args = none
  built : ServerConfig.postInit py s.config.args = .ok s.config
  githubToken : s.githubToken = envSecret environ githubTokenEnv
  remoteHost : s.remoteHost = envStr environ remoteHostEnv "127.0.0.1"

theorem loaded_of_loadConfig {py : Builtins} {unicode : UnicodeData} {upper : UpperCase}
    {environ : Environ} {s : ServerSettings} (h : loadConfig py unicode upper environ = .ok s) :
    Loaded py unicode upper environ s := by
  unfold loadConfig at h
  rcases bind_eq_ok h with ⟨args, hargs, h⟩
  rcases bind_eq_ok h with ⟨config, hconfig, h⟩
  cases h
  rcases ServerConfig.postInit_cases py args with ⟨e, _, he⟩ | ⟨built, hnone, hbuilt, hsame, _⟩
  · rw [hconfig] at he
    cases he
  · rw [hconfig] at hbuilt
    cases hbuilt
    constructor
    · rw [hsame]
      exact hargs
    · rw [hsame]
      exact hnone
    · rw [hsame]
      exact hconfig
    · rfl
    · rfl

theorem secrets_of_loadArgs {py : Builtins} {unicode : UnicodeData} {upper : UpperCase}
    {environ : Environ} {args : ServerConfigArgs}
    (h : loadArgs py unicode upper environ = .ok args) :
    args.authToken = envSecret environ authTokenEnv ∧
      args.remoteTlsCertfile = environValue environ remoteCertfileEnv ∧
      args.remoteTlsKeyfile = environValue environ remoteKeyfileEnv := by
  unfold loadArgs at h
  rcases bind_eq_ok h with ⟨timeout, _, h⟩
  rcases bind_eq_ok h with ⟨concurrency, _, h⟩
  rcases bind_eq_ok h with ⟨required, _, h⟩
  rcases bind_eq_ok h with ⟨remote, _, h⟩
  rcases bind_eq_ok h with ⟨port, _, h⟩
  rcases bind_eq_ok h with ⟨insecure, _, h⟩
  cases h
  exact ⟨rfl, rfl, rfl⟩

/--
The settings that an environment loads to can be written as an environment, which
loads to the same settings.
-/
theorem loadConfig_environOf {py : Builtins} {unicode : UnicodeData} {upper : UpperCase}
    (hdigits : KnowsAsciiDigits unicode) (hupper : KeepsCapitals upper) {environ : Environ}
    {s : ServerSettings} (h : loadConfig py unicode upper environ = .ok s) :
    loadConfig py unicode upper (environOf s) = .ok s := by
  have hloaded := loaded_of_loadConfig h
  rcases bounds_of_refusal hloaded.refusal with ⟨hlevel, htimeout, hconcurrency, hport⟩
  rcases secrets_of_loadArgs hloaded.args with ⟨htoken, hcert, hkey⟩
  simp only [maxTimeout, maxConcurrency] at htimeout hconcurrency
  have hargs : loadArgs py unicode upper (environOf s) = .ok s.config.args := by
    have hlogLevel : upperText upper (envStr (environOf s) logLevelEnv "INFO") =
        s.config.args.logLevel := upperText_logLevel hupper hlevel
    have hsubject : envStr (environOf s) authSubjectEnv "local-operator" =
        s.config.args.authSubjectId := rfl
    have hseconds : envInt py unicode (environOf s) timeoutEnv 30 =
        .ok s.config.args.requestTimeoutSeconds :=
      envInt_repr hdigits (n := s.config.args.requestTimeoutSeconds) (by omega) (by omega) (by rfl) 30
    have hrequests : envInt py unicode (environOf s) concurrencyEnv 32 =
        .ok s.config.args.maxConcurrentRequests :=
      envInt_repr hdigits (n := s.config.args.maxConcurrentRequests) (by omega) (by omega) (by rfl) 32
    have hportNumber : envInt py unicode (environOf s) remotePortEnv 8443 =
        .ok s.config.args.remotePort :=
      envInt_repr hdigits (n := s.config.args.remotePort) (by omega) (by omega) (by rfl) 8443
    have hrequired : envBool (environOf s) requireAuthEnv =
        .ok s.config.args.requireAuthentication := envBool_boolText (by rfl)
    have hremote : envBool (environOf s) remoteEnabledEnv = .ok s.config.args.remoteEnabled :=
      envBool_boolText (by rfl)
    have hinsecure : envBool (environOf s) remoteInsecureEnv =
        .ok s.config.args.remoteAllowInsecureHttp := envBool_boolText (by rfl)
    have hsecret : envSecret (environOf s) authTokenEnv = s.config.args.authToken :=
      envSecret_secretText htoken (by rfl)
    have hcertfile : environValue (environOf s) remoteCertfileEnv =
        s.config.args.remoteTlsCertfile := environValue_getD hcert (by rfl)
    have hkeyfile : environValue (environOf s) remoteKeyfileEnv =
        s.config.args.remoteTlsKeyfile := environValue_getD hkey (by rfl)
    rw [loadArgs, hseconds, hrequests, hrequired, hremote, hportNumber, hinsecure, hsecret,
      hcertfile, hkeyfile, hlogLevel, hsubject]
    rfl
  have hgithub : envSecret (environOf s) githubTokenEnv = s.githubToken :=
    envSecret_secretText hloaded.githubToken (by rfl)
  have hhost : envStr (environOf s) remoteHostEnv "127.0.0.1" = s.remoteHost := rfl
  rw [loadConfig, hargs, ok_bind, hloaded.built, ok_bind, hgithub, hhost]

def strictEnviron : Environ :=
  environWith [(requireAuthEnv, "Yes"), (authTokenEnv, "s3cret"), (timeoutEnv, " 1_0\n")]

def strictArgs : ServerConfigArgs where
  requestTimeoutSeconds := 10
  authToken := some ⟨"s3cret"⟩
  requireAuthentication := true

theorem strictSubject_stripped : Text.strip "local-operator" = "local-operator" := by decide

theorem strictSubject_nonempty : "local-operator" ≠ "" := by decide

theorem strictSubject_short : "local-operator".length ≤ maxAuthSubjectLen := by decide

theorem strictArgs_concurrency :
    1 ≤ strictArgs.maxConcurrentRequests ∧ strictArgs.maxConcurrentRequests ≤ maxConcurrency := by
  decide

def strictSettings : ServerSettings where
  config :=
    { args := strictArgs
      authSubjectId := "local-operator"
      subject_stripped := strictSubject_stripped
      subject_nonempty := strictSubject_nonempty
      subject_short := strictSubject_short
      concurrency_bounds := strictArgs_concurrency
      token_of_required := fun _ => rfl }
  githubToken := none
  remoteHost := "127.0.0.1"

theorem strictEnviron_loads :
    loadConfig plainBuiltins plainUnicode (fun c => [c]) strictEnviron = .ok strictSettings := by
  rfl

theorem loadConfig_environOf_strict :
    loadConfig plainBuiltins plainUnicode (fun c => [c]) (environOf strictSettings) =
      .ok strictSettings :=
  loadConfig_environOf plainUnicode_knowsAsciiDigits (fun _ _ => rfl) strictEnviron_loads

end YasinMcp
