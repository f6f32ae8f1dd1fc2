import YasinMcp.Governance.Types

/-!
# Capability contracts

A descriptor names a capability and says whether it mutates; a contract publishes
it with a risk of its own.  Construction refuses blank texts, forbidden names and
a scope of another kind.  Nothing compares the risk with the descriptor.
-/

namespace YasinMcp

open Foundation

/-!
## Forbidden names
-/

/-- The shapes of the forbidden-name patterns, over lower-case ASCII words. -/
inductive NamePattern where
  | anywhere (word : String)
  | whole (word : String)
  | wordStart (word : String)
  | startsWith (words : List String)
deriving DecidableEq, Repr

/--
The letter a character matches when case is ignored.  Besides the capitals, the
dotted and dotless i, the long s and the kelvin sign match ASCII letters.
-/
def foldCase (c : Char) : Char :=
  let n := c.toNat
  if 65 ≤ n && n ≤ 90 then Char.ofNat (n + 32)
  else if n == 0x130 || n == 0x131 then 'i'
  else if n == 0x17f then 's'
  else if n == 0x212a then 'k'
  else c

namespace NamePattern

def pattern : NamePattern -> String
  | anywhere word => word
  | whole word => "^" ++ word ++ "$"
  | wordStart word => "\\b" ++ word
  | startsWith words => "^(" ++ "|".intercalate words ++ ")_"

/-- The word occurs at a word boundary; the flag tells whether a word precedes. -/
def searchWordStart (py : Builtins) (word : List Char) : Bool -> List Char -> Bool
  | _, [] => false
  | inWord, c :: rest =>
      let isWord := py.isAlnum c || c = '_'
      ((inWord != isWord) && word.isPrefixOf ((c :: rest).map foldCase)) ||
        searchWordStart py word isWord rest

/-- An end anchor also matches before a final line break. -/
def search (py : Builtins) (p : NamePattern) (name : String) : Bool :=
  let folded := name.toList.map foldCase
  match p with
  | anywhere word => decide (word.toList <:+: folded)
  | whole word => decide (folded = word.toList ∨ folded = word.toList ++ ['\n'])
  | wordStart word => searchWordStart py word.toList false name.toList
  | startsWith words => words.any fun word => (word.toList ++ ['_']).isPrefixOf folded

end NamePattern

def forbiddenNamePatterns : List NamePattern :=
  [.anywhere "exec", .anywhere "shell", .anywhere "command", .whole "request",
    .anywhere "arbitrary", .anywhere "filesystem", .wordStart "deploy", .anywhere "delete",
    .startsWith ["start", "stop", "restart"]]

def forbiddenPattern (py : Builtins) (name : String) : Option NamePattern :=
  forbiddenNamePatterns.find? fun p => p.search py name

/-- The registration-time ban on mutations was lifted. -/
def phase1ReadOnly : Bool := false

example : forbiddenPattern plainBuiltins "Run_Shell" = some (.anywhere "shell") := by decide
example : forbiddenPattern plainBuiltins "runflare_deploy" = none := by decide

/-!
## Descriptors
-/

inductive CapabilityKind where
  | tool
  | resource
deriving DecidableEq, Repr

def CapabilityKind.value : CapabilityKind -> String
  | .tool => "tool"
  | .resource => "resource"

structure CapabilityDescriptor (py : Builtins) where
  name : String
  kind : CapabilityKind
  description : String
  isMutating : Bool
  name_not_blank : Text.isBlank name = false
  description_not_blank : Text.isBlank description = false
  name_allowed : forbiddenPattern py name = none

def CapabilityDescriptor.postInit (py : Builtins) (name : String) (kind : CapabilityKind)
    (description : String) (isMutating : Bool := false) :
    Except PyException (CapabilityDescriptor py) :=
  if hname : Text.isBlank name = true then
    .error (.valueError "CapabilityDescriptor.name must not be empty")
  else if hdescription : Text.isBlank description = true then
    .error (.valueError "CapabilityDescriptor.description must not be empty")
  else
    match hallowed : forbiddenPattern py name with
    | some p =>
        .error (policyDeniedError
          ("Capability name " ++ py.repr (.str name) ++ " matches a forbidden pattern (" ++
            py.repr (.str p.pattern) ++ ") and cannot be registered.")
          [("name", .str name), ("pattern", .str p.pattern)])
    | none =>
        if isMutating = true ∧ phase1ReadOnly = true then
          .error (policyDeniedError
            "Mutating capabilities are not permitted in Phase 1 (read-only server)."
            [("phase_1_read_only", .bool true)])
        else
          .ok
            { name := name
              kind := kind
              description := description
              isMutating := isMutating
              name_not_blank := by simpa using hname
              description_not_blank := by simpa using hdescription
              name_allowed := hallowed }

/-!
## Contracts
-/

inductive CapabilityScope where
  | tool
  | resource
deriving DecidableEq, Repr

def CapabilityScope.value : CapabilityScope -> String
  | .tool => "tool"
  | .resource => "resource"

inductive EvidenceStatus where
  | confirmed
  | target
  | proposed
  | unresolved
deriving DecidableEq, Repr

def EvidenceStatus.value : EvidenceStatus -> String
  | .confirmed => "confirmed"
  | .target => "target"
  | .proposed => "proposed"
  | .unresolved => "unresolved"

/-- What the risk field holds: construction does not check that it is a level. -/
inductive ContractRisk where
  | level (risk : RiskLevel)
  | other (v : Value)
deriving DecidableEq

structure CapabilityContractArgs (py : Builtins) where
  descriptor : CapabilityDescriptor py
  scope : CapabilityScope
  version : String := "1.0"
  inputSchema : Value := .dict []
  evidenceStatus : EvidenceStatus := .confirmed
  risk : ContractRisk := .level .readOnly

structure CapabilityContract (py : Builtins) where
  descriptor : CapabilityDescriptor py
  scope : CapabilityScope
  version : String
  inputSchema : List (Key × Value)
  evidenceStatus : EvidenceStatus
  risk : ContractRisk
  version_not_blank : Text.isBlank version = false
  scope_matches : scope.value = descriptor.kind.value

namespace CapabilityContract

variable {py : Builtins}

def postInit (args : CapabilityContractArgs py) : Except PyException (CapabilityContract py) :=
  if hversion : Text.isBlank args.version = true then
    .error (validationError "capability contract version must not be empty")
  else if hscope : args.scope.value ≠ args.descriptor.kind.value then
    .error (validationError "capability scope must match its descriptor kind"
      [("scope", .str args.scope.value), ("kind", .str args.descriptor.kind.value)])
  else
    match args.inputSchema with
    | .dict entries =>
        .ok
          { descriptor := args.descriptor
            scope := args.scope
            version := args.version
            inputSchema := entries
            evidenceStatus := args.evidenceStatus
            risk := args.risk
            version_not_blank := by simpa using hversion
            scope_matches := not_not.mp hscope }
    | _ => .error (validationError "input_schema must be a dictionary")

def name (contract : CapabilityContract py) : String := contract.descriptor.name

def readOnly (contract : CapabilityContract py) : Bool := !contract.descriptor.isMutating

/-- The discovery entry; a risk that is no level has no value to show. -/
def asDict (contract : CapabilityContract py) : Except PyException (List (Key × Value)) :=
  match contract.risk with
  | .other _ => .error (.other "AttributeError" true)
  | .level risk =>
      .ok
        [("name", .str contract.name),
          ("kind", .str contract.scope.value),
          ("description", .str contract.descriptor.description),
          ("version", .str contract.version),
          ("input_schema", .dict contract.inputSchema),
          ("read_only", .bool contract.readOnly),
          ("evidence_status", .str contract.evidenceStatus.value),
          ("risk", .str risk.value)]

theorem name_not_blank (contract : CapabilityContract py) :
    Text.isBlank contract.name = false :=
  contract.descriptor.name_not_blank

end CapabilityContract

end YasinMcp
