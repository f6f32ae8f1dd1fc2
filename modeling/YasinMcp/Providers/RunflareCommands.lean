import YasinMcp.Adapters.Payload
import YasinMcp.Auth.Enforcement
import YasinMcp.Providers.Runflare

/-!
# The commands of the Runflare provider

The command line is set up from the environment: the binary must have the
official name, and the project directory must exist and lie under the allowed
root, when there is one.  Each tool of the provider runs one fixed command there.
A probe of the command line asks for its version and its help texts only.
-/

namespace YasinMcp
namespace Runflare

open Foundation

def runflareBinEnv : String := "RUNFLARE_BIN"
def runflareTimeoutEnv : String := "RUNFLARE_TIMEOUT_SECONDS"
def runflareMaxOutputEnv : String := "RUNFLARE_MAX_OUTPUT"
def runflareProjectDirEnv : String := "RUNFLARE_PROJECT_DIR"
def runflareAllowedRootEnv : String := "RUNFLARE_ALLOWED_PROJECT_ROOT"

/-!
## The project directory
-/

/-- What the file system says of a path: its resolved parts, and whether they name a directory. -/
structure Paths where
  resolve : String -> Except PyException (List String)
  isDir : List String -> Except PyException Bool

def pathText (parts : List String) : String :=
  "/" ++ "/".intercalate parts

def validateProjectDir (paths : Paths) (environ : Environ) (projectDir : String) :
    Except PyException (List String) :=
  if projectDir = "" then
    .error (.valueError "Runflare project directory is not configured")
  else do
    let path ← paths.resolve projectDir
    let found ← paths.isDir path
    if found = false then
      .error (.valueError "Runflare project directory does not exist")
    else
      match environValue environ runflareAllowedRootEnv with
      | none => .ok path
      | some root => do
          let allowed ← paths.resolve root
          if allowed.isPrefixOf path then .ok path
          else .error (.valueError "Runflare project directory is outside the allowed root")

/-- The directory exists, under the allowed root if one is set. -/
structure Confined (paths : Paths) (environ : Environ) (path : List String) : Prop where
  found : paths.isDir path = .ok true
  within : forall root, environValue environ runflareAllowedRootEnv = some root ->
    exists allowed, paths.resolve root = .ok allowed ∧ allowed <+: path

theorem confined_of_validateProjectDir {paths : Paths} {environ : Environ} {projectDir : String}
    {path : List String} (h : validateProjectDir paths environ projectDir = .ok path) :
    Confined paths environ path := by
  unfold validateProjectDir at h
  split at h
  · cases h
  · rcases bind_eq_ok h with ⟨resolved, _, h⟩
    rcases bind_eq_ok h with ⟨found, hfound, h⟩
    cases found with
    | false => cases h
    | true =>
        rw [if_neg (by decide)] at h
        split at h
        · rename_i hroot
          cases h
          refine ⟨hfound, ?_⟩
          intro root hsome
          rw [hroot] at hsome
          cases hsome
        · rename_i root hroot
          rcases bind_eq_ok h with ⟨allowed, hallowed, h⟩
          split at h
          · rename_i hbelow
            cases h
            refine ⟨hfound, ?_⟩
            intro other hother
            rw [hroot] at hother
            cases hother
            exact ⟨allowed, hallowed, List.isPrefixOf_iff_prefix.mp hbelow⟩
          · cases h

/-!
## Setting up the command line
-/

def baseName (path : String) : String :=
  String.ofList (path.toList.reverse.takeWhile fun c => c ≠ '/').reverse

namespace RunflareCLI

def init (py : Builtins) (unicode : UnicodeData) (paths : Paths) (environ : Environ)
    (projectDir : Option String := none) : Except PyException RunflareCLI :=
  let binary := (environ runflareBinEnv).getD "runflare"
  if baseName binary ≠ "runflare" then
    .error (.valueError "RUNFLARE_BIN must resolve to the official runflare executable")
  else do
    let timeout ← (Value.str ((environ runflareTimeoutEnv).getD "120")).toInt py unicode
    let maxOutput ← (Value.str ((environ runflareMaxOutputEnv).getD "12000")).toInt py unicode
    let given := if textPresent projectDir = true then projectDir else none
    let configured := given.getD ((environ runflareProjectDirEnv).getD "")
    let path ← validateProjectDir paths environ configured
    .ok ⟨binary, timeout, maxOutput, pathText path⟩

theorem init_ok {py : Builtins} {unicode : UnicodeData} {paths : Paths} {environ : Environ}
    {projectDir : Option String} {cli : RunflareCLI}
    (h : init py unicode paths environ projectDir = .ok cli) :
    baseName cli.binary = "runflare" ∧
      exists path, cli.projectDir = pathText path ∧ Confined paths environ path := by
  unfold init at h
  dsimp only at h
  split at h
  · cases h
  · rename_i hname
    rcases bind_eq_ok h with ⟨timeout, _, h⟩
    rcases bind_eq_ok h with ⟨maxOutput, _, h⟩
    rcases bind_eq_ok h with ⟨path, hpath, h⟩
    cases h
    exact ⟨not_not.mp hname, path, rfl, confined_of_validateProjectDir hpath⟩

/-!
## The operations
-/

abbrev CLIProgram := Program CLIOp (fun _ => CLIOutcome) CLIException

section

variable (cli : RunflareCLI)

def status : CLIProgram CLIResult := cli.run ["status"]

def deploy : CLIProgram CLIResult := cli.run ["deploy", "-y"]

def logs (follow : Bool := false) : CLIProgram CLIResult :=
  cli.run (["log", "-y"] ++ if follow then ["-f"] else [])

def events (follow : Bool := false) : CLIProgram CLIResult :=
  cli.run (["event", "-y"] ++ if follow then ["-f"] else [])

def restart : CLIProgram CLIResult := cli.run ["restart", "-y"]

def start : CLIProgram CLIResult := cli.run ["start", "-y"]

end

end RunflareCLI

/-!
## The tools
-/

inductive RunflareMethod where
  | status
  | events
  | logs
  | deploy
  | start
  | restart
deriving DecidableEq, Repr

namespace RunflareMethod

def all : List RunflareMethod := [.status, .events, .logs, .deploy, .start, .restart]

def args : RunflareMethod -> List String
  | .status => ["status"]
  | .events => ["event", "-y"]
  | .logs => ["log", "-y"]
  | .deploy => ["deploy", "-y"]
  | .start => ["start", "-y"]
  | .restart => ["restart", "-y"]

def invoke (cli : RunflareCLI) : RunflareMethod -> RunflareCLI.CLIProgram CLIResult
  | .status => cli.status
  | .events => cli.events
  | .logs => cli.logs
  | .deploy => cli.deploy
  | .start => cli.start
  | .restart => cli.restart

theorem invoke_eq (cli : RunflareCLI) (method : RunflareMethod) :
    method.invoke cli = cli.run method.args := by
  cases method <;> rfl

end RunflareMethod

namespace RunflareToolset

def result (r : CLIResult) : List (Key × Value) :=
  [("returncode", .int r.returncode), ("stdout", .str r.stdout), ("stderr", .str r.stderr)]

def call (cli : RunflareCLI) (method : RunflareMethod) :
    RunflareCLI.CLIProgram (List (Key × Value)) := do
  let r ← method.invoke cli
  .pure (result r)

def answer (cli : RunflareCLI) : CLIOutcome -> Except CLIException (List (Key × Value))
  | .fileNotFound => .error (.runtimeError "Official Runflare CLI was not found")
  | .timeoutExpired => .error (.runtimeError "Runflare CLI timed out")
  | .completed returncode stdout stderr =>
      .ok (result ⟨returncode, redact stdout cli.maxOutput, redact stderr cli.maxOutput⟩)

theorem no_null (method : RunflareMethod) :
    (method.args.any fun arg => arg.toList.contains '\x00') = false := by
  cases method <;> decide

theorem call_eq (cli : RunflareCLI) (method : RunflareMethod) :
    call cli method =
      .perform (.run (cli.binary :: method.args) cli.projectDir cli.timeout) fun outcome =>
        .ofExcept (answer cli outcome) := by
  rw [call, RunflareMethod.invoke_eq, RunflareCLI.run, no_null]
  simp only [Bool.false_eq_true, if_false, Program.perform_bind]
  congr 1
  funext outcome
  cases outcome <;> rfl

/-- A command stops nothing, and neither follows its output nor asks back. -/
def Allowed (args : List String) : Prop :=
  args ∈ RunflareMethod.all.map RunflareMethod.args ∧ "stop" ∉ args ∧ "-f" ∉ args

theorem allowed_args (method : RunflareMethod) : Allowed method.args := by
  cases method <;> (unfold Allowed; decide)

/-- The text is what the command wrote, redacted and cut off at the limit. -/
def Shown (cli : RunflareCLI) (written shown : String) : Prop :=
  shown = redact written cli.maxOutput ∧
    (0 ≤ cli.maxOutput -> shown.length ≤ cli.maxOutput + truncationMarker.length)

theorem shown_redact (cli : RunflareCLI) (written : String) :
    Shown cli written (redact written cli.maxOutput) := by
  refine ⟨rfl, ?_⟩
  intro hlimit
  rcases Int.eq_ofNat_of_zero_le hlimit with ⟨limit, hnat⟩
  rw [hnat, redact_of_nat]
  split
  · rw [String.length_ofList, List.length_append, List.length_take,
      String.length_toList]
    push_cast
    omega
  · rename_i hshort
    rw [String.length_ofList]
    omega

/--
A tool of a command line that was set up, however that was, runs one command: the
official binary with the fixed arguments of the tool, in a confined directory.  It
returns what the command wrote, redacted and bounded, or raises when it did not run.
-/
theorem call_confined {py : Builtins} {unicode : UnicodeData} {paths : Paths} {environ : Environ}
    {projectDir : Option String} {cli : RunflareCLI}
    (hinit : RunflareCLI.init py unicode paths environ projectDir = .ok cli)
    (method : RunflareMethod)
    {trace : List (Program.Event fun _ : CLIOp => CLIOutcome)}
    {outcome : Except CLIException (List (Key × Value))}
    (h : Program.Emits (call cli method) trace (Program.ofExcept outcome)) :
    baseName cli.binary = "runflare" ∧ Allowed method.args ∧
      (exists path, cli.projectDir = pathText path ∧ Confined paths environ path) ∧
      exists ended,
        trace = [⟨.run (cli.binary :: method.args) cli.projectDir cli.timeout, ended⟩] ∧
        forall entries, outcome = .ok entries ->
          exists returncode stdout stderr shownOut shownErr,
            ended = .completed returncode stdout stderr ∧
            entries = result ⟨returncode, shownOut, shownErr⟩ ∧
            Shown cli stdout shownOut ∧ Shown cli stderr shownErr := by
  rcases RunflareCLI.init_ok hinit with ⟨hbinary, hproject⟩
  rw [call_eq] at h
  rcases Program.emits_perform_ended h with ⟨ended, rest, htrace, hrest⟩
  rcases Program.emits_ofExcept hrest with ⟨hrest, hended⟩
  subst hrest
  refine ⟨hbinary, allowed_args method, hproject, ended, htrace, ?_⟩
  intro entries hentries
  subst hentries
  cases ended with
  | fileNotFound => cases hended
  | timeoutExpired => cases hended
  | completed returncode stdout stderr =>
      cases hended
      exact ⟨returncode, stdout, stderr, _, _, rfl, rfl, shown_redact cli stdout,
        shown_redact cli stderr⟩

def appPaths : Paths where
  resolve path := .ok (if path = "/srv" then ["srv"] else ["srv", "app"])
  isDir _ := .ok true

def appEnviron : Environ := fun name =>
  if name = runflareAllowedRootEnv then some "/srv" else none

def appCLI : RunflareCLI := ⟨"runflare", 120, 12000, pathText ["srv", "app"]⟩

theorem appEnviron_init :
    RunflareCLI.init plainBuiltins plainUnicode appPaths appEnviron (some "app") =
      .ok appCLI := by
  rfl

theorem call_confined_deploy :
    Program.Emits (call appCLI .deploy)
        [⟨.run ["runflare", "deploy", "-y"] "/srv/app" 120, .completed 0 "done" ""⟩]
        (Program.ofExcept (answer appCLI (.completed 0 "done" ""))) ∧
      Allowed ["deploy", "-y"] ∧
      exists path, "/srv/app" = pathText path ∧ Confined appPaths appEnviron path := by
  have hemits : Program.Emits (call appCLI .deploy)
      [⟨.run ["runflare", "deploy", "-y"] "/srv/app" 120, .completed 0 "done" ""⟩]
      (Program.ofExcept (answer appCLI (.completed 0 "done" ""))) := by
    rw [call_eq]
    exact .perform (.refl _)
  rcases call_confined appEnviron_init .deploy hemits with ⟨_, hallowed, hproject, _⟩
  exact ⟨hemits, hallowed, hproject⟩

end RunflareToolset

/-!
## Compatibility probes
-/

def expectedCommands : List String :=
  ["status", "deploy", "event", "log", "start", "restart", "stop"]

def expectedFlags : List (String × List String) :=
  [("deploy", ["-y"]), ("event", ["-y"]), ("log", ["-y"]), ("start", ["-y"]),
    ("restart", ["-y"])]

inductive ProbeOp where
  | run (command : List String) (timeout : Int)

inductive ProbeException where
  | runtimeError (message : String)
  /-- The command could not be started, or did not end in time. -/
  | passed (className : String)
deriving DecidableEq

abbrev ProbeProgram := Program ProbeOp (fun _ => CLIOutcome) ProbeException

structure CompatibilityReport where
  version : String
  helpText : String
  missingCommands : List String
  missingFlags : List String
  compatible : Bool

def probeText (args : List String) : CLIOutcome -> Except ProbeException String
  | .fileNotFound => .error (.passed "FileNotFoundError")
  | .timeoutExpired => .error (.passed "TimeoutExpired")
  | .completed returncode stdout stderr =>
      if returncode ≠ 0 then
        .error (.runtimeError ("Runflare compatibility probe failed: " ++ args.headD ""))
      else .ok (stdout ++ "\n" ++ stderr)

def probe (binary : String) (args : List String) : ProbeProgram String :=
  .perform (.run (binary :: args) 15) fun outcome => .ofExcept (probeText args outcome)

def missingIn (help : String) (words : List String) : List String :=
  words.filter fun word => !Text.isPartOf word help

def probeFlags (binary : String) : List (String × List String) -> ProbeProgram (List String)
  | [] => .pure []
  | (command, flags) :: rest => do
      let commandHelp ← probe binary [command, "--help"]
      let missing ← probeFlags binary rest
      .pure ((missingIn commandHelp flags).map (fun flag => command ++ ":" ++ flag) ++ missing)

def probeExecutable (environ : Environ) (binary : Option String) : String :=
  let given := if textPresent binary = true then binary else none
  (given.or (environValue environ runflareBinEnv)).getD "runflare"

def probeCompatibility (environ : Environ) (binary : Option String := none) :
    ProbeProgram CompatibilityReport := do
  let executable := probeExecutable environ binary
  let version ← probe executable ["version"]
  let helpText ← probe executable ["--help"]
  let missingCommands := missingIn helpText expectedCommands
  let missingFlags ← probeFlags executable expectedFlags
  .pure
    { version := Text.strip version
      helpText := helpText
      missingCommands := missingCommands
      missingFlags := missingFlags
      compatible := missingCommands.isEmpty && missingFlags.isEmpty }

def Inspects (executable : String) : ProbeOp -> Prop
  | .run command _ =>
      command = [executable, "version"] ∨
        exists words, command = executable :: words ++ ["--help"]

theorem guarded_probe {executable : String} {args : List String}
    (h : Inspects executable (.run (executable :: args) 15))
    (past : List (Program.Event fun _ : ProbeOp => CLIOutcome)) :
    Program.Guarded (fun _ op => Inspects executable op) past (probe executable args) := by
  refine ⟨h, ?_⟩
  intro outcome
  dsimp only
  cases probeText args outcome <;> trivial

theorem guarded_probeFlags (executable : String) (table : List (String × List String))
    (past : List (Program.Event fun _ : ProbeOp => CLIOutcome)) :
    Program.Guarded (fun _ op => Inspects executable op) past (probeFlags executable table) := by
  induction table generalizing past with
  | nil => trivial
  | cons entry rest ih =>
      have hhelp : Inspects executable (.run (executable :: [entry.1, "--help"]) 15) :=
        Or.inr ⟨[entry.1], rfl⟩
      apply Program.guarded_bind (guarded_probe hhelp past)
      intro trace commandHelp _
      apply Program.guarded_bind (ih (past ++ trace))
      intro _ _ _
      trivial

theorem guarded_probeCompatibility (environ : Environ) (binary : Option String) :
    Program.Guarded (fun _ op => Inspects (probeExecutable environ binary) op) []
      (probeCompatibility environ binary) := by
  apply Program.guarded_bind (guarded_probe (Or.inl rfl) [])
  intro trace version _
  apply Program.guarded_bind (guarded_probe (Or.inr ⟨[], rfl⟩) _)
  intro trace' helpText _
  apply Program.guarded_bind (guarded_probeFlags _ expectedFlags _)
  intro _ _ _
  trivial

section

variable {answer : ProbeOp -> CLIOutcome} {executable : String}

theorem under_probe (args : List String) :
    (probe executable args).under answer =
      probeText args (answer (.run (executable :: args) 15)) := by
  rw [probe, Program.under_perform, Program.under_ofExcept]

def Says (answer : ProbeOp -> CLIOutcome) (executable : String) (args : List String)
    (text : String) : Prop :=
  probeText args (answer (.run (executable :: args) 15)) = .ok text

theorem missingIn_eq_nil_iff (help : String) (words : List String) :
    missingIn help words = [] <-> forall word, word ∈ words -> Text.isPartOf word help = true := by
  rw [missingIn, List.filter_eq_nil_iff]
  simp

theorem probeFlags_eq_nil_iff {table : List (String × List String)} {missing : List String}
    (h : (probeFlags executable table).under answer = .ok missing) :
    missing = [] <-> forall entry, entry ∈ table ->
      exists help, Says answer executable [entry.1, "--help"] help ∧
        forall flag, flag ∈ entry.2 -> Text.isPartOf flag help = true := by
  induction table generalizing missing with
  | nil =>
      cases h
      simp
  | cons entry rest ih =>
      rw [probeFlags, Program.under_bind, under_probe] at h
      cases hhelp : probeText [entry.1, "--help"]
          (answer (.run (executable :: [entry.1, "--help"]) 15)) with
      | error e =>
          rw [hhelp] at h
          cases h
      | ok help =>
          rw [hhelp] at h
          simp only [Program.under_bind] at h
          cases hrest : (probeFlags executable rest).under answer with
          | error e =>
              rw [hrest] at h
              cases h
          | ok later =>
              rw [hrest] at h
              cases h
              rw [List.append_eq_nil_iff, List.map_eq_nil_iff, missingIn_eq_nil_iff, ih hrest,
                List.forall_mem_cons]
              refine and_congr_left fun _ => ?_
              constructor
              · intro hflags
                exact ⟨help, hhelp, hflags⟩
              · intro hsays
                rcases hsays with ⟨other, hother, hflags⟩
                rw [Says, hhelp] at hother
                cases hother
                exact hflags

/--
A probe only inspects, whatever it is answered.  When the command line gives one answer
to each command and the probe returns, the report says compatible exactly when the help
text names every expected command and each command's own help text every expected flag.
-/
theorem probeCompatibility_exact (environ : Environ) (binary : Option String) :
    (forall trace rest event, Program.Emits (probeCompatibility environ binary) trace rest ->
      event ∈ trace -> Inspects (probeExecutable environ binary) event.1) ∧
    forall answer report, (probeCompatibility environ binary).under answer = .ok report ->
      (report.compatible = true <->
        (forall command, command ∈ expectedCommands ->
          Text.isPartOf command report.helpText = true) ∧
        forall entry, entry ∈ expectedFlags ->
          exists help, Says answer (probeExecutable environ binary) [entry.1, "--help"] help ∧
            forall flag, flag ∈ entry.2 -> Text.isPartOf flag help = true) ∧
      Says answer (probeExecutable environ binary) ["--help"] report.helpText := by
  constructor
  · intro trace rest event htrace hmem
    rcases List.append_of_mem hmem with ⟨before, later, hsplit⟩
    exact Program.guarded_of_emits (guarded_probeCompatibility environ binary) htrace hsplit
  · intro answer report hreport
    rw [probeCompatibility] at hreport
    simp only [Program.under_bind, under_probe] at hreport
    split at hreport
    · split at hreport
      · rename_i helpText hhelp
        split at hreport
        · rename_i missingFlags hflags
          cases hreport
          refine ⟨?_, hhelp⟩
          rw [Bool.and_eq_true, List.isEmpty_iff, List.isEmpty_iff, missingIn_eq_nil_iff,
            probeFlags_eq_nil_iff hflags]
        · cases hreport
      · cases hreport
    · cases hreport

end

end Runflare
end YasinMcp
