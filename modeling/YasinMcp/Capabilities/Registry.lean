import Mathlib.Data.List.Sort
import YasinMcp.Capabilities.Contract
import YasinMcp.Foundation.Machine
import YasinMcp.Governance.Policy

/-!
# Capability registry

The registry keeps one contract for each name and refuses a second.  The risk
catalog of the gate is derived from it: every registered name gets the risk of
its contract, so a mutating capability is governed by the risk it was published
with, not by its descriptor.
-/

namespace YasinMcp

open Foundation

structure CapabilityRegistry (py : Builtins) where
  items : Dict String (CapabilityContract py)
  keyed : forall name contract, items.get? name = some contract -> contract.name = name

namespace CapabilityRegistry

variable {py : Builtins}

def empty : CapabilityRegistry py where
  items := Dict.empty
  keyed := by simp

def register (registry : CapabilityRegistry py) (contract : CapabilityContract py) :
    Except PyException (CapabilityRegistry py) :=
  if (registry.items.get? contract.name).isSome = true then
    .error (validationError
      ("Capability " ++ py.repr (.str contract.name) ++ " is already registered")
      [("name", .str contract.name)])
  else
    .ok
      { items := registry.items.set contract.name contract
        keyed := by
          intro name other hother
          by_cases hname : contract.name = name
          · subst hname
            rw [Dict.get?_set_self, Option.some.injEq] at hother
            rw [hother]
          · rw [Dict.get?_set_of_ne registry.items contract hname] at hother
            exact registry.keyed name other hother }

def all (registry : CapabilityRegistry py) : List (CapabilityContract py) :=
  (registry.items.keys.insertionSort (· ≤ ·)).filterMap registry.items.get?

/-- A registry that is filled by calls, each of which may raise. -/
def machine :
    Machine (CapabilityRegistry py) (CapabilityContract py) (Except PyException Unit) where
  step registry contract :=
    match registry.register contract with
    | .ok registered => (.ok (), registered)
    | .error e => (.error e, registry)

theorem mem_all_iff (registry : CapabilityRegistry py) (contract : CapabilityContract py) :
    contract ∈ registry.all <-> registry.items.get? contract.name = some contract := by
  unfold all
  rw [List.mem_filterMap]
  constructor
  · intro hmem
    rcases hmem with ⟨name, _, hname⟩
    rw [registry.keyed name contract hname]
    exact hname
  · intro hcontract
    refine ⟨contract.name, ?_, hcontract⟩
    rw [List.mem_insertionSort, ← Dict.get?_isSome_iff, hcontract]
    rfl

theorem get?_step (registry : CapabilityRegistry py) (contract : CapabilityContract py)
    (name : String) :
    (machine.step registry contract).2.items.get? name =
      (registry.items.get? name).or
        (if contract.name = name then some contract else none) := by
  by_cases htaken : (registry.items.get? contract.name).isSome = true
  · have hstep : (machine.step registry contract).2 = registry := by
      simp [machine, register, htaken]
    rw [hstep]
    by_cases hname : contract.name = name
    · subst hname
      rcases Option.isSome_iff_exists.mp htaken with ⟨first, hfirst⟩
      simp [hfirst]
    · simp [hname]
  · have hstep : (machine.step registry contract).2.items =
        registry.items.set contract.name contract := by
      simp [machine, register, htaken]
    rw [hstep, Dict.get?_set]
    by_cases hname : contract.name = name
    · subst hname
      have hfree : registry.items.get? contract.name = none := by simpa using htaken
      simp [hfree]
    · simp [hname]

/-- A run of calls keeps, for each name, the first contract that has it. -/
theorem get?_after (registry : CapabilityRegistry py)
    (contracts : List (CapabilityContract py)) (name : String) :
    (machine.after registry contracts).items.get? name =
      (registry.items.get? name).or (contracts.find? fun c => c.name = name) := by
  induction contracts generalizing registry with
  | nil => simp
  | cons contract rest ih =>
      rw [Machine.after_cons, ih, get?_step, Option.or_assoc]
      by_cases hname : contract.name = name <;> simp [hname]

end CapabilityRegistry

/-!
## The derived catalog
-/

def CapabilityContract.catalogRisk {py : Builtins} (contract : CapabilityContract py) :
    RiskLevel :=
  match contract.risk with
  | .level risk => risk
  | .other _ => .readOnly

section

variable {py : Builtins}

def catalogContracts (catalog : ToolRiskCatalog) :
    List (CapabilityContract py) -> Except PyException ToolRiskCatalog
  | [] => .ok catalog
  | contract :: rest => do
      let catalog ← catalog.register contract.name contract.catalogRisk
      catalogContracts catalog rest

def catalogFromRegistry (registry : CapabilityRegistry py) : Except PyException ToolRiskCatalog :=
  catalogContracts ToolRiskCatalog.empty registry.all

theorem catalogContracts_eq_ok {lookup : String -> Option (CapabilityContract py)}
    {contracts : List (CapabilityContract py)}
    (hagree : forall contract, contract ∈ contracts -> lookup contract.name = some contract)
    (catalog : ToolRiskCatalog) :
    exists out, catalogContracts catalog contracts = .ok out ∧
      forall name, out.entries.get? name =
        if name ∈ contracts.map CapabilityContract.name then
          (lookup name).map CapabilityContract.catalogRisk
        else catalog.entries.get? name := by
  induction contracts generalizing catalog with
  | nil => exact ⟨catalog, rfl, by simp⟩
  | cons contract rest ih =>
      have hregister : catalog.register contract.name contract.catalogRisk =
          .ok ⟨catalog.entries.set contract.name contract.catalogRisk⟩ := by
        simp [ToolRiskCatalog.register, contract.name_not_blank]
      rcases ih (fun other hother => hagree other (List.mem_cons_of_mem contract hother))
        ⟨catalog.entries.set contract.name contract.catalogRisk⟩ with ⟨out, hout, hentries⟩
      refine ⟨out, by rw [catalogContracts, hregister, ok_bind, hout], ?_⟩
      intro name
      rw [hentries, Dict.get?_set]
      by_cases hrest : name ∈ rest.map CapabilityContract.name
      · simp [hrest]
      · by_cases hname : contract.name = name
        · subst hname
          simp [hrest, hagree contract List.mem_cons_self]
        · simp [hrest, hname, Ne.symm hname]

/-- The derivation never raises, and gives every registered name the risk of its contract. -/
theorem catalogFromRegistry_eq_ok (registry : CapabilityRegistry py) :
    exists catalog, catalogFromRegistry registry = .ok catalog ∧
      forall name, catalog.entries.get? name =
        (registry.items.get? name).map CapabilityContract.catalogRisk := by
  rcases catalogContracts_eq_ok
    (fun contract hcontract => (registry.mem_all_iff contract).mp hcontract)
    ToolRiskCatalog.empty with ⟨catalog, hcatalog, hentries⟩
  refine ⟨catalog, hcatalog, ?_⟩
  intro name
  rw [hentries]
  split
  · rfl
  · rename_i hmissing
    cases hitem : registry.items.get? name with
    | none => rfl
    | some contract =>
        have hname := registry.keyed name contract hitem
        refine absurd (List.mem_map.mpr ⟨contract, ?_, hname⟩) hmissing
        rw [registry.mem_all_iff, hname]
        exact hitem

/-!
## Mutations under the default policy
-/

def CarriesNoApproval (context : Option GovernanceContext) : Prop :=
  forall c, context = some c -> saysGranted c.extra = false

/-- No advertised mutation is allowed without an approval. -/
def MutationsGoverned (registry : CapabilityRegistry py) : Prop :=
  exists catalog, catalogFromRegistry registry = .ok catalog ∧
    forall contract, contract ∈ registry.all -> contract.readOnly = false ->
      forall context, CarriesNoApproval context ->
        forall tool, catalog.resolve contract.name = .ok tool ->
          DefaultConservativePolicy.evaluate tool context ≠ .ok (.decision .allow)

/-- The risk withholds the capability until it is approved, or for good. -/
def Withheld (risk : ContractRisk) : Prop :=
  risk = .level .mutation ∨ risk = .level .highRisk

theorem decisionFor_eq_allow_of_noApproval {tool : ToolIdentity}
    {context : Option GovernanceContext} (h : CarriesNoApproval context) :
    DefaultConservativePolicy.decisionFor tool context = .allow <->
      tool.known = true ∧ (tool.risk = .readOnly ∨ tool.risk = .lowRisk) := by
  rw [DefaultConservativePolicy.decisionFor_eq_allow_iff]
  constructor
  · intro hallowed
    rcases hallowed with ⟨hknown, hread | hlow | ⟨_, c, hc, hgranted⟩⟩
    · exact ⟨hknown, Or.inl hread⟩
    · exact ⟨hknown, Or.inr hlow⟩
    · rw [h c hc] at hgranted
      cases hgranted
  · intro hlow
    rcases hlow with ⟨hknown, hread | hlow⟩
    · exact ⟨hknown, Or.inl hread⟩
    · exact ⟨hknown, Or.inr (Or.inl hlow)⟩

theorem withheld_iff (contract : CapabilityContract py) :
    Withheld contract.risk <->
      contract.catalogRisk ≠ .readOnly ∧ contract.catalogRisk ≠ .lowRisk := by
  unfold Withheld CapabilityContract.catalogRisk
  cases hrisk : contract.risk with
  | other v => simp
  | level risk => cases risk <;> simp

/-- A registry governs its mutations exactly when it withholds each of them. -/
theorem mutationsGoverned_iff_all (registry : CapabilityRegistry py) :
    MutationsGoverned registry <->
      forall contract, contract ∈ registry.all -> contract.readOnly = false ->
        Withheld contract.risk := by
  rcases catalogFromRegistry_eq_ok registry with ⟨catalog, hcatalog, hentries⟩
  have hresolve : forall contract, contract ∈ registry.all -> forall tool,
      catalog.resolve contract.name = .ok tool <->
        tool.name = contract.name ∧ tool.risk = contract.catalogRisk ∧ tool.known = true := by
    intro contract hcontract tool
    rw [ToolRiskCatalog.resolve_eq_ok_iff, hentries,
      (registry.mem_all_iff contract).mp hcontract]
    rfl
  have hallow : forall (tool : ToolIdentity) context,
      DefaultConservativePolicy.evaluate tool context = .ok (.decision .allow) <->
        DefaultConservativePolicy.decisionFor tool context = .allow := by
    intro tool context
    simp [DefaultConservativePolicy.evaluate]
  constructor
  · intro hgoverns contract hcontract hmutating
    rcases hgoverns with ⟨other, hother, hgoverned⟩
    rw [hcatalog, Except.ok.injEq] at hother
    subst hother
    have htool := (hresolve contract hcontract
      ⟨contract.name, contract.catalogRisk, true, contract.name_not_blank⟩).mpr ⟨rfl, rfl, rfl⟩
    have hnone : CarriesNoApproval none := by
      intro c hc
      cases hc
    have hdenied := hgoverned contract hcontract hmutating none hnone _ htool
    rw [Ne, hallow, decisionFor_eq_allow_of_noApproval hnone] at hdenied
    rw [withheld_iff]
    exact ⟨fun hread => hdenied ⟨rfl, Or.inl hread⟩, fun hlow => hdenied ⟨rfl, Or.inr hlow⟩⟩
  · intro hwithheld
    refine ⟨catalog, hcatalog, ?_⟩
    intro contract hcontract hmutating context hcontext tool htool
    rw [Ne, hallow, decisionFor_eq_allow_of_noApproval hcontext,
      ((hresolve contract hcontract tool).mp htool).2.1]
    rcases (withheld_iff contract).mp (hwithheld contract hcontract hmutating) with
      ⟨hread, hlow⟩
    intro hallowed
    rcases hallowed with ⟨_, hrisk | hrisk⟩
    · exact hread hrisk
    · exact hlow hrisk

/--
After any sequence of register calls, the advertised mutations are governed as
mutations exactly when each mutating contract that came first under its name was
published with a risk that withholds it.
-/
theorem mutationsGoverned_iff (contracts : List (CapabilityContract py)) :
    MutationsGoverned (CapabilityRegistry.machine.after CapabilityRegistry.empty contracts) <->
      forall name contract, (contracts.find? fun c => c.name = name) = some contract ->
        contract.readOnly = false -> Withheld contract.risk := by
  have hitems : forall name,
      (CapabilityRegistry.machine.after CapabilityRegistry.empty contracts).items.get? name =
        contracts.find? fun c => c.name = name := by
    intro name
    rw [CapabilityRegistry.get?_after]
    simp [CapabilityRegistry.empty]
  rw [mutationsGoverned_iff_all]
  constructor
  · intro h name contract hfirst hmutating
    have hname : contract.name = name := by simpa using List.find?_some hfirst
    refine h contract ?_ hmutating
    rw [CapabilityRegistry.mem_all_iff, hitems, hname]
    exact hfirst
  · intro h contract hcontract hmutating
    rw [CapabilityRegistry.mem_all_iff, hitems] at hcontract
    exact h contract.name contract hcontract hmutating

end

/-- A mutating capability, published with the default risk. -/
def updateDocsArgs : CapabilityContractArgs plainBuiltins where
  descriptor :=
    { name := "update_docs"
      kind := .tool
      description := "Update docs"
      isMutating := true
      name_not_blank := by decide
      description_not_blank := by decide
      name_allowed := by decide }
  scope := .tool

def updateDocs : CapabilityContract plainBuiltins where
  descriptor := updateDocsArgs.descriptor
  scope := .tool
  version := "1.0"
  inputSchema := []
  evidenceStatus := .confirmed
  risk := .level .readOnly
  version_not_blank := by decide
  scope_matches := rfl

/-- It passes construction, is advertised as mutating, and is not governed. -/
theorem mutationsGoverned_fails_updateDocs :
    CapabilityContract.postInit updateDocsArgs = .ok updateDocs ∧
      (exists entry, updateDocs.asDict = .ok entry ∧
        (Key.str "read_only", Value.bool false) ∈ entry) ∧
      ¬ MutationsGoverned
        (CapabilityRegistry.machine.after CapabilityRegistry.empty [updateDocs]) := by
  refine ⟨rfl, ⟨_, rfl, by decide⟩, ?_⟩
  rw [mutationsGoverned_iff_all]
  intro h
  rcases h updateDocs ((CapabilityRegistry.mem_all_iff _ updateDocs).mpr rfl) rfl with
    hrisk | hrisk
  · cases hrisk
  · cases hrisk

end YasinMcp
