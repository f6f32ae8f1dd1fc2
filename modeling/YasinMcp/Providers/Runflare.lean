import YasinMcp.Foundation.KeyValues
import YasinMcp.Foundation.Program

/-!
# The Runflare provider

The output of the provider's command line is redacted before it is returned: five
substitutions one after another, each of which goes over text that those before it have
masked already, and then a bound on the length.
-/

namespace YasinMcp
namespace Runflare

open Foundation

/-!
## The patterns
-/

/-- Neither white space nor a comma or a semicolon. -/
def isSecretValue (c : Char) : Bool :=
  !Text.isSpace c && c != ',' && c != ';'

theorem isSecretValue_of_mem_redacted (c : Char) (h : c ∈ '[' :: "REDACTED]".toList) :
    isSecretValue c = true := by
  revert c
  exact List.forall_iff_forall_mem.mp (by decide)

def redactedMask : Mask Char where
  isValue := isSecretValue
  first := '['
  others := "REDACTED]".toList
  isValue_of_mem := isSecretValue_of_mem_redacted

theorem isSpace_of_isSecretValue (c : Char) (h : isSecretValue c = true) :
    Text.isSpace c = false := by
  rw [isSecretValue, Bool.and_eq_true, Bool.and_eq_true, Bool.not_eq_true'] at h
  exact h.1.1

theorem isKeySeparator_of_mem_redacted (c : Char) (h : c ∈ redactedMask.text) :
    isKeySeparator c = false := by
  revert c
  exact List.forall_iff_forall_mem.mp (by decide)

def redactedValues : Alphabet redactedMask :=
  keyValues redactedMask isSpace_of_isSecretValue isKeySeparator_of_mem_redacted

/-- The patterns in their order; the optional separator of the second gives three keys. -/
def secretPatterns : List (KeyPattern Char) :=
  [{ keys := ["authorization".toList], scheme := some "bearer".toList },
    { keys := ["api_key".toList, "api-key".toList, "apikey".toList], scheme := none },
    { keys := ["token".toList], scheme := none },
    { keys := ["password".toList], scheme := none },
    { keys := ["secret".toList], scheme := none }]

/-- No key of a pattern takes up a part of its others, of its scheme or of the mask. -/
theorem secretPatterns_clean : forall pattern, pattern ∈ secretPatterns ->
    redactedValues.Clean pattern := by
  decide

/-!
## Redaction
-/

def redactSecrets (text : List Char) : List Char :=
  secretPatterns.foldl (fun value pattern => redactedValues.sub pattern value) text

/-- The first characters; a negative bound leaves out as many at the end. -/
def firstChars (limit : Int) (value : List Char) : List Char :=
  if 0 ≤ limit then value.take limit.toNat else value.take (value.length + limit).toNat

def truncationMarker : String := "\n[OUTPUT TRUNCATED]"

def redact (text : String) (limit : Int) : String :=
  let value := redactSecrets text.toList
  if limit < value.length then
    String.ofList (firstChars limit value ++ truncationMarker.toList)
  else String.ofList value

example : redact "token=abc Authorization: bearer xyz; PASSWORD = secret=x" 62 =
    "token=[REDACTED] Authorization: bearer [REDACTED]; PASSWORD = \n[OUTPUT TRUNCATED]" := by
  decide +kernel

/-- Every match of every pattern, wherever it stands, has the mask for its value. -/
def NothingUnmasked (text : List Char) : Prop :=
  forall pattern, pattern ∈ secretPatterns -> redactedValues.Masked pattern text

theorem redactSecrets_nothingUnmasked (text : List Char) :
    NothingUnmasked (redactSecrets text) :=
  Alphabet.foldl_sub_masked secretPatterns_clean text

theorem redactSecrets_eq_self {text : List Char} (h : NothingUnmasked text) :
    redactSecrets text = text :=
  Alphabet.foldl_sub_eq_self secretPatterns_clean h

theorem redact_of_nat (text : String) (limit : Nat) :
    redact text limit =
      if limit < (redactSecrets text.toList).length then
        String.ofList ((redactSecrets text.toList).take limit ++ truncationMarker.toList)
      else String.ofList (redactSecrets text.toList) := by
  have hfirst : firstChars limit (redactSecrets text.toList) =
      (redactSecrets text.toList).take limit := by
    rw [firstChars, if_pos (Int.natCast_nonneg limit), Int.toNat_natCast]
  unfold redact
  dsimp only
  rw [hfirst]
  simp only [Int.ofNat_lt]

/--
The substitutions leave no match of any of the patterns with a value other than the mask,
so that a second round changes nothing; what is returned is their result, or as many of
its characters as the limit says with the marker after them, when it is longer.
-/
theorem redact_fixpoint (text : String) :
    NothingUnmasked (redactSecrets text.toList) ∧
      redactSecrets (redactSecrets text.toList) = redactSecrets text.toList ∧
      forall limit : Nat, redact text limit =
        if limit < (redactSecrets text.toList).length then
          String.ofList ((redactSecrets text.toList).take limit ++ truncationMarker.toList)
        else String.ofList (redactSecrets text.toList) := by
  have hmasked := redactSecrets_nothingUnmasked text.toList
  exact ⟨hmasked, redactSecrets_eq_self hmasked, redact_of_nat text⟩

/-!
## Running the command line
-/

structure CLIResult where
  returncode : Int
  stdout : String
  stderr : String

structure RunflareCLI where
  binary : String
  timeout : Int
  maxOutput : Int
  projectDir : String

inductive CLIException where
  | valueError (message : String)
  | runtimeError (message : String)

inductive CLIOp where
  | run (command : List String) (cwd : String) (timeout : Int)

inductive CLIOutcome where
  | fileNotFound
  | timeoutExpired
  | completed (returncode : Int) (stdout stderr : String)

namespace RunflareCLI

def run (cli : RunflareCLI) (args : List String) :
    Program CLIOp (fun _ => CLIOutcome) CLIException CLIResult :=
  if args.any (fun arg => arg.toList.contains '\x00') then
    .raise (.valueError "Invalid CLI argument")
  else
    .perform (.run (cli.binary :: args) cli.projectDir cli.timeout) fun outcome =>
      match outcome with
      | .fileNotFound => .raise (.runtimeError "Official Runflare CLI was not found")
      | .timeoutExpired => .raise (.runtimeError "Runflare CLI timed out")
      | .completed returncode stdout stderr =>
          .pure ⟨returncode, redact stdout cli.maxOutput, redact stderr cli.maxOutput⟩

end RunflareCLI

end Runflare
end YasinMcp
