import YasinMcp.Capabilities.Registry
import YasinMcp.Tools.Definitions

/-!
# Registration of the tools

Each table of tools is registered in its order, one contract after the other.  A
name that is taken stops the registration with an error, and what was registered
before it stays in the registry.
-/

namespace YasinMcp

open Foundation

def CapabilityKind.ofValue? : String -> Option CapabilityKind
  | "tool" => some .tool
  | "resource" => some .resource
  | _ => none

def descriptorFor (py : Builtins) (name kind description : String) (isMutating : Bool := false) :
    Except PyException (CapabilityDescriptor py) :=
  match CapabilityKind.ofValue? kind with
  | none =>
      .error (validationError ("Unsupported capability kind " ++ py.repr (.str kind))
        [("kind", .str kind)])
  | some capabilityKind =>
      CapabilityDescriptor.postInit py name capabilityKind description isMutating

def toolContract (py : Builtins) (definition : ToolDefinition) (risk : RiskLevel)
    (isMutating : Bool := false) : Except PyException (CapabilityContract py) := do
  let descriptor ←
    descriptorFor py definition.name "tool" definition.description isMutating
  CapabilityContract.postInit
    { descriptor := descriptor
      scope := .tool
      inputSchema := .dict definition.inputSchema
      risk := .level risk }

/-!
## Registering code
-/

/-- Code that fills a registry; what it registered stays there when it raises. -/
abbrev Registering (py : Builtins) := ExceptT PyException (StateM (CapabilityRegistry py))

namespace Registering

variable {py : Builtins}

def construct {a : Type} (x : Except PyException a) : Registering py a :=
  ExceptT.mk (pure x)

def register (contract : CapabilityContract py) : Registering py Unit :=
  ExceptT.mk fun registry => CapabilityRegistry.machine.step registry contract

def registerMany (contracts : List (CapabilityContract py)) : Registering py Unit :=
  contracts.forM register

end Registering

section

open Registering

variable {py : Builtins}

def registerDocsTools : Registering py Nat := do
  docsToolDefinitions.forM fun definition => do
    register (← construct (toolContract py definition .readOnly))
  pure docsToolDefinitions.length

def registerGithubTools : Registering py Nat := do
  githubToolDefinitions.forM fun definition => do
    register (← construct (toolContract py definition .readOnly))
  pure githubToolDefinitions.length

def registerRegistryTools : Registering py Nat := do
  registryToolDefinitions.forM fun definition => do
    register (← construct (toolContract py definition .readOnly))
  pure registryToolDefinitions.length

def registerRunflareCapabilities : Registering py Nat := do
  runflareCapabilityDefinitions.forM fun definition => do
    register (← construct
      (toolContract py definition.toToolDefinition definition.risk definition.isMutating))
  pure runflareCapabilityDefinitions.length

/-- The gateway's tools, if the gateway can be launched; whether they were registered. -/
def registerOperationsTools (available : Bool) : Registering py Bool :=
  if available = false then pure false
  else do
    operationsToolDefinitions.forM fun definition => do
      register (← construct (toolContract py definition .readOnly))
    pure true

def pingLowRiskDefinition : ToolDefinition where
  name := toolGovPingLowRisk
  description := "Governance reference: LOW_RISK ping (Stage 11)."
  inputSchema := openSchema []

def applyMarkDefinition : ToolDefinition where
  name := toolGovApplyMark
  description := "Governance reference: MUTATION apply_mark (requires approval)."
  inputSchema := openSchema [typedProperty "mark" "string"]

/-- Both contracts are constructed before the first of them is registered. -/
def registerGovernanceRefTools : Registering py Nat := do
  let ping ← construct (toolContract py pingLowRiskDefinition .lowRisk)
  let mark ← construct (toolContract py applyMarkDefinition .mutation true)
  registerMany [ping, mark]
  pure 2

end

/-!
## Filling a registry
-/

namespace CapabilityRegistry

variable {py : Builtins}

def alreadyRegistered (py : Builtins) (name : String) : PyException :=
  validationError ("Capability " ++ py.repr (.str name) ++ " is already registered")
    [("name", .str name)]

structure Fresh (registry : CapabilityRegistry py) (contracts : List (CapabilityContract py)) :
    Prop where
  nodup : (contracts.map CapabilityContract.name).Nodup
  free : forall contract, contract ∈ contracts -> registry.items.get? contract.name = none

theorem step_of_free {registry : CapabilityRegistry py} {contract : CapabilityContract py}
    (h : registry.items.get? contract.name = none) :
    exists registered, machine.step registry contract = (.ok (), registered) ∧
      registered.items = registry.items.set contract.name contract := by
  refine ⟨(machine.step registry contract).2, ?_, ?_⟩ <;> simp [machine, register, h]

theorem step_of_taken {registry : CapabilityRegistry py} {contract : CapabilityContract py}
    (h : registry.items.get? contract.name ≠ none) :
    machine.step registry contract = (.error (alreadyRegistered py contract.name), registry) := by
  have htaken : (registry.items.get? contract.name).isSome = true :=
    Option.isSome_iff_ne_none.mpr h
  simp [machine, register, htaken, alreadyRegistered]

theorem registerMany_cons (contract : CapabilityContract py)
    (rest : List (CapabilityContract py)) :
    Registering.registerMany (contract :: rest) =
      (Registering.register contract >>= fun _ => Registering.registerMany rest) := rfl

theorem run_registerMany_of_free {registry registered : CapabilityRegistry py}
    {contract : CapabilityContract py}
    (h : machine.step registry contract = (.ok (), registered))
    (rest : List (CapabilityContract py)) :
    (Registering.registerMany (contract :: rest)).run.run registry =
      (Registering.registerMany rest).run.run registered := by
  have hstep : (Registering.register contract).run.run registry = (.ok (), registered) := h
  rw [registerMany_cons, ExceptT.run_bind, StateT.run_bind, hstep]
  rfl

theorem run_registerMany_of_taken {registry : CapabilityRegistry py}
    {contract : CapabilityContract py} {e : PyException}
    (h : machine.step registry contract = (.error e, registry))
    (rest : List (CapabilityContract py)) :
    (Registering.registerMany (contract :: rest)).run.run registry = (.error e, registry) := by
  have hstep : (Registering.register contract).run.run registry = (.error e, registry) := h
  rw [registerMany_cons, ExceptT.run_bind, StateT.run_bind, hstep]
  rfl

theorem entries_set_of_free {registry : CapabilityRegistry py} {contract : CapabilityContract py}
    (h : registry.items.get? contract.name = none) :
    (registry.items.set contract.name contract).entries =
      registry.items.entries ++ [(contract.name, contract)] := by
  apply Dict.setIn_of_not_mem
  exact (Dict.lookupIn_eq_none_iff contract.name registry.items.entries).mp h

theorem fresh_cons_iff {registry next : CapabilityRegistry py} {contract : CapabilityContract py}
    (hfree : registry.items.get? contract.name = none)
    (hitems : next.items = registry.items.set contract.name contract)
    (rest : List (CapabilityContract py)) :
    registry.Fresh (contract :: rest) <-> next.Fresh rest := by
  constructor
  · intro h
    have hnodup := List.nodup_cons.mp h.nodup
    refine ⟨hnodup.2, ?_⟩
    intro other hother
    have hne : contract.name ≠ other.name := by
      intro hname
      exact hnodup.1 (hname ▸ List.mem_map_of_mem hother)
    rw [hitems, Dict.get?_set_of_ne _ _ hne]
    exact h.free other (List.mem_cons_of_mem _ hother)
  · intro h
    have hother : forall other, other ∈ rest ->
        contract.name ≠ other.name ∧ registry.items.get? other.name = none := by
      intro other hmem
      have hnone := h.free other hmem
      rw [hitems, Dict.get?_set] at hnone
      split at hnone
      · cases hnone
      · rename_i hne
        exact ⟨hne, hnone⟩
    constructor
    · rw [List.map_cons, List.nodup_cons]
      refine ⟨?_, h.nodup⟩
      intro hmem
      rcases List.mem_map.mp hmem with ⟨other, hin, hname⟩
      exact (hother other hin).1 hname.symm
    · intro other hmem
      rcases List.mem_cons.mp hmem with hhead | htail
      · rw [hhead]
        exact hfree
      · exact (hother other htail).2

theorem fresh_nil (registry : CapabilityRegistry py) : registry.Fresh [] :=
  ⟨List.nodup_nil, fun _ hcontract => nomatch hcontract⟩

/-- Fresh contracts are appended in their order. -/
theorem run_registerMany_of_fresh {contracts : List (CapabilityContract py)}
    {registry : CapabilityRegistry py} (h : registry.Fresh contracts) :
    exists registered,
      (Registering.registerMany contracts).run.run registry = (.ok (), registered) ∧
        registered.items.entries =
          registry.items.entries ++ contracts.map fun contract => (contract.name, contract) := by
  induction contracts generalizing registry with
  | nil => exact ⟨registry, rfl, by simp⟩
  | cons contract rest ih =>
      have hfree := h.free contract List.mem_cons_self
      rcases step_of_free hfree with ⟨next, hstep, hitems⟩
      rcases ih ((fresh_cons_iff hfree hitems rest).mp h) with ⟨registered, hrun, hentries⟩
      refine ⟨registered, (run_registerMany_of_free hstep rest).trans hrun, ?_⟩
      rw [hentries, hitems, entries_set_of_free hfree]
      simp

/-- A registration that meets a taken name keeps what it registered before. -/
theorem run_registerMany_of_not_fresh {contracts : List (CapabilityContract py)}
    {registry : CapabilityRegistry py} (h : ¬ registry.Fresh contracts) :
    exists first clash rest registered, contracts = first ++ clash :: rest ∧
      registry.Fresh first ∧
      (Registering.registerMany first).run.run registry = (.ok (), registered) ∧
      registered.items.get? clash.name ≠ none ∧
      (Registering.registerMany contracts).run.run registry =
        (.error (alreadyRegistered py clash.name), registered) := by
  induction contracts generalizing registry with
  | nil => exact absurd (fresh_nil registry) h
  | cons contract rest ih =>
      by_cases hfree : registry.items.get? contract.name = none
      · rcases step_of_free hfree with ⟨next, hstep, hitems⟩
        have hrest : ¬ next.Fresh rest := by
          rw [← fresh_cons_iff hfree hitems]
          exact h
        rcases ih hrest with ⟨first, clash, later, registered, hsplit, hfirst, hrun, htaken, hfail⟩
        exact ⟨contract :: first, clash, later, registered, by rw [hsplit]; rfl,
          (fresh_cons_iff hfree hitems first).mpr hfirst,
          (run_registerMany_of_free hstep first).trans hrun, htaken,
          (run_registerMany_of_free hstep rest).trans hfail⟩
      · exact ⟨[], contract, rest, registry, rfl, fresh_nil registry, rfl, hfree,
          run_registerMany_of_taken (step_of_taken hfree) rest⟩

end CapabilityRegistry

/-!
## The contracts of the tables
-/

/-- The interpreter takes the ASCII letters and digits for word characters. -/
def KnowsAsciiWords (py : Builtins) : Prop :=
  forall c : Char, c.isAlphanum = true -> py.isAlnum c = true

/-- A table entry with the risk it is published with, and whether it mutates. -/
structure ToolPlan where
  definition : ToolDefinition
  risk : RiskLevel
  isMutating : Bool := false

namespace ToolPlan

def name (plan : ToolPlan) : String := plan.definition.name

def isWord (c : Char) : Bool := c.isAlphanum || c = '_'

/-- The name passes the checks of construction, whatever else counts as a word. -/
def nameAdmissible (name : String) : Bool :=
  !Text.isBlank name && name.toList.all isWord && (forbiddenPattern plainBuiltins name).isNone

structure Admissible (plan : ToolPlan) : Prop where
  name : nameAdmissible plan.name = true
  described : Text.isBlank plan.definition.description = false

variable {py : Builtins}

structure Publishes (py : Builtins) (plan : ToolPlan) (contract : CapabilityContract py) :
    Prop where
  built : toolContract py plan.definition plan.risk plan.isMutating = .ok contract
  name_eq : contract.name = plan.name
  risk_eq : contract.risk = .level plan.risk
  readOnly_eq : contract.readOnly = !plan.isMutating

theorem searchWordStart_congr {first second : Builtins} (word : List Char) {cs : List Char}
    (h : forall c, c ∈ cs -> (first.isAlnum c || c = '_') = (second.isAlnum c || c = '_'))
    (inWord : Bool) :
    NamePattern.searchWordStart first word inWord cs =
      NamePattern.searchWordStart second word inWord cs := by
  induction cs generalizing inWord with
  | nil => rfl
  | cons c rest ih =>
      rw [NamePattern.searchWordStart, NamePattern.searchWordStart, h c List.mem_cons_self,
        ih fun d hd => h d (List.mem_cons_of_mem _ hd)]

theorem forbiddenPattern_of_words (hpy : KnowsAsciiWords py) {name : String}
    (h : name.toList.all isWord = true) :
    forbiddenPattern py name = forbiddenPattern plainBuiltins name := by
  have hword : forall c, c ∈ name.toList ->
      (py.isAlnum c || c = '_') = (plainBuiltins.isAlnum c || c = '_') := by
    intro c hc
    have hc' : (c.isAlphanum || decide (c = '_')) = true := List.all_eq_true.mp h c hc
    show _ = (c.isAlphanum || decide (c = '_'))
    rw [hc']
    rcases Bool.or_eq_true_iff.mp hc' with halnum | hunderscore
    · rw [hpy c halnum, Bool.true_or]
    · rw [hunderscore, Bool.or_true]
  have hsearch : forall p : NamePattern, p.search py name = p.search plainBuiltins name := by
    intro p
    cases p with
    | wordStart word => exact searchWordStart_congr word.toList hword false
    | _ => rfl
  unfold forbiddenPattern
  simp only [hsearch]

theorem exists_publishes (hpy : KnowsAsciiWords py) {plan : ToolPlan}
    (h : plan.Admissible) : exists contract, Publishes py plan contract := by
  rcases h with ⟨hnames, hdescription⟩
  simp only [nameAdmissible, Bool.and_eq_true, Bool.not_eq_true', Option.isNone_iff_eq_none]
    at hnames
  rcases hnames with ⟨⟨hname, hwords⟩, hallowed⟩
  have hpattern : forbiddenPattern py plan.name = none :=
    (forbiddenPattern_of_words hpy hwords).trans hallowed
  let descriptor : CapabilityDescriptor py :=
    ⟨plan.name, .tool, plan.definition.description, plan.isMutating, hname, hdescription, hpattern⟩
  have hdescriptor : descriptorFor py plan.definition.name "tool" plan.definition.description
      plan.isMutating = .ok descriptor := by
    show CapabilityDescriptor.postInit py plan.name .tool plan.definition.description
      plan.isMutating = .ok descriptor
    unfold CapabilityDescriptor.postInit
    rw [dif_neg (by simp [hname]), dif_neg (by simp [hdescription])]
    split
    · rename_i p hp
      rw [hpattern] at hp
      cases hp
    · rw [if_neg (by simp [phase1ReadOnly])]
  have hversion : Text.isBlank "1.0" = false := by decide
  refine ⟨⟨descriptor, .tool, "1.0", plan.definition.inputSchema, .confirmed, .level plan.risk,
    hversion, rfl⟩, ?_, rfl, rfl, rfl⟩
  rw [toolContract, hdescriptor, ok_bind, CapabilityContract.postInit, dif_neg (by simp [hversion]),
    dif_neg (by simp [CapabilityScope.value, CapabilityKind.value, descriptor])]

theorem exists_publishes_all (hpy : KnowsAsciiWords py) {plans : List ToolPlan}
    (h : forall plan, plan ∈ plans -> plan.Admissible) :
    exists contracts, List.Forall₂ (Publishes py) plans contracts := by
  induction plans with
  | nil => exact ⟨[], List.Forall₂.nil⟩
  | cons plan rest ih =>
      rcases exists_publishes hpy (h plan List.mem_cons_self) with ⟨contract, hcontract⟩
      rcases ih fun other hother => h other (List.mem_cons_of_mem plan hother) with
        ⟨contracts, hcontracts⟩
      exact ⟨contract :: contracts, List.Forall₂.cons hcontract hcontracts⟩

theorem map_name_of_publishes {plans : List ToolPlan} {contracts : List (CapabilityContract py)}
    (h : List.Forall₂ (Publishes py) plans contracts) :
    contracts.map CapabilityContract.name = plans.map name := by
  induction h with
  | nil => rfl
  | cons hfirst _ ih => rw [List.map_cons, List.map_cons, hfirst.name_eq, ih]

end ToolPlan

end YasinMcp
