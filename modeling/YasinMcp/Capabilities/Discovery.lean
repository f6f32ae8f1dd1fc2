import Mathlib.Data.List.Perm.Basic
import Mathlib.Data.String.Basic
import YasinMcp.Capabilities.Registry

/-!
# Discovery

The registry is shown in the order of its names.  What is shown depends only on what
each name is registered to, hence neither on the order of the registrations nor on the
refused ones among them.
-/

namespace YasinMcp

open Foundation

/-!
## Snapshots
-/

def currentProtocolVersion : String := "2026-07-28"
def contractVersion : String := "1.0"

theorem currentProtocolVersion_not_blank : Text.isBlank currentProtocolVersion = false := by
  decide

theorem contractVersion_not_blank : Text.isBlank contractVersion = false := by
  decide

structure ProtocolVersion where
  protocol : String
  contract : String
  protocol_not_blank : Text.isBlank protocol = false
  contract_not_blank : Text.isBlank contract = false

namespace ProtocolVersion

def postInit (protocol : String := currentProtocolVersion)
    (contract : String := contractVersion) : Except PyException ProtocolVersion :=
  if hprotocol : Text.isBlank protocol = true then
    .error (validationError "protocol version must not be empty")
  else if hcontract : Text.isBlank contract = true then
    .error (validationError "contract version must not be empty")
  else
    .ok
      { protocol := protocol
        contract := contract
        protocol_not_blank := Text.isBlank_eq_false hprotocol
        contract_not_blank := Text.isBlank_eq_false hcontract }

def default : ProtocolVersion where
  protocol := currentProtocolVersion
  contract := contractVersion
  protocol_not_blank := currentProtocolVersion_not_blank
  contract_not_blank := contractVersion_not_blank

example : postInit = .ok default := rfl

def asDict (version : ProtocolVersion) : List (Key × Value) :=
  [("protocol", .str version.protocol), ("contract", .str version.contract)]

end ProtocolVersion

structure ServerIdentity where
  name : String
  version : String
  name_not_blank : Text.isBlank name = false
  version_not_blank : Text.isBlank version = false

namespace ServerIdentity

def postInit (name : String := "Yasin-MCP") (version : String := "0.1.0") :
    Except PyException ServerIdentity :=
  if hname : Text.isBlank name = true then
    .error (validationError "server name must not be empty")
  else if hversion : Text.isBlank version = true then
    .error (validationError "server version must not be empty")
  else
    .ok
      { name := name
        version := version
        name_not_blank := Text.isBlank_eq_false hname
        version_not_blank := Text.isBlank_eq_false hversion }

def default : ServerIdentity where
  name := "Yasin-MCP"
  version := "0.1.0"
  name_not_blank := by decide
  version_not_blank := by decide

example : postInit = .ok default := rfl

def asDict (identity : ServerIdentity) : List (Key × Value) :=
  [("name", .str identity.name), ("version", .str identity.version)]

end ServerIdentity

structure CapabilityCatalog (py : Builtins) where
  identity : ServerIdentity
  protocol : ProtocolVersion
  capabilities : List (CapabilityContract py)

/-- The advertised snapshot; it cannot be shown with a risk that has no value. -/
def CapabilityCatalog.asDict {py : Builtins} (catalog : CapabilityCatalog py) :
    Except PyException (List (Key × Value)) := do
  let entries ← catalog.capabilities.mapM CapabilityContract.asDict
  .ok
    [("server", .dict catalog.identity.asDict),
      ("protocol", .dict catalog.protocol.asDict),
      ("capabilities", .list (entries.map .dict))]

def discoverCapabilities {py : Builtins} (registry : CapabilityRegistry py)
    (identity : Option ServerIdentity := none) (protocol : Option ProtocolVersion := none) :
    CapabilityCatalog py where
  identity := identity.getD .default
  protocol := protocol.getD .default
  capabilities := registry.all

/-!
## Order of the snapshot
-/

namespace CapabilityRegistry

variable {py : Builtins}

theorem map_name_all (registry : CapabilityRegistry py) :
    registry.all.map CapabilityContract.name =
      registry.items.keys.insertionSort (· ≤ ·) := by
  have hnames : forall names : List String,
      (forall name, name ∈ names -> name ∈ registry.items.keys) ->
        (names.filterMap registry.items.get?).map CapabilityContract.name = names := by
    intro names hkeys
    induction names with
    | nil => rfl
    | cons name rest ih =>
        have hname := (registry.items.get?_isSome_iff name).mpr (hkeys name List.mem_cons_self)
        rcases Option.isSome_iff_exists.mp hname with ⟨contract, hcontract⟩
        rw [List.filterMap_cons_some hcontract, List.map_cons,
          registry.keyed name contract hcontract,
          ih fun other hother => hkeys other (List.mem_cons_of_mem name hother)]
  apply hnames
  intro name hname
  exact (List.mem_insertionSort (· ≤ ·)).mp hname

theorem nodup_map_name_all (registry : CapabilityRegistry py) :
    (registry.all.map CapabilityContract.name).Nodup := by
  rw [map_name_all]
  exact (List.perm_insertionSort (· ≤ ·) registry.items.keys).nodup_iff.mpr
    registry.items.nodup

theorem all_increasing (registry : CapabilityRegistry py) :
    (registry.all.map CapabilityContract.name).Pairwise (· < ·) := by
  have hsorted : (registry.all.map CapabilityContract.name).Pairwise (· ≤ ·) := by
    rw [map_name_all]
    exact registry.items.keys.pairwise_insertionSort (· ≤ ·)
  apply hsorted.imp₂ ?_ registry.nodup_map_name_all
  intro first second hle hne
  exact lt_of_le_of_ne hle hne

theorem all_filter_name (registry : CapabilityRegistry py) (name : String) :
    registry.all.filter (fun contract => contract.name = name) =
      (registry.items.get? name).toList := by
  have hnodup : (registry.all.filter fun contract => contract.name = name).Nodup :=
    (List.Nodup.of_map CapabilityContract.name registry.nodup_map_name_all).filter _
  have hmem : forall contract,
      contract ∈ registry.all.filter (fun contract => contract.name = name) <->
        registry.items.get? name = some contract := by
    intro contract
    rw [List.mem_filter, mem_all_iff, decide_eq_true_eq]
    constructor
    · intro h
      rw [← h.2]
      exact h.1
    · intro h
      have hname := registry.keyed name contract h
      exact ⟨by rw [hname, h], hname⟩
  cases hitem : registry.items.get? name with
  | none =>
      rw [Option.toList_none, List.eq_nil_iff_forall_not_mem]
      intro contract hcontract
      rw [hmem, hitem] at hcontract
      cases hcontract
  | some contract =>
      apply List.Perm.eq_singleton
      rw [List.perm_ext_iff_of_nodup hnodup (List.nodup_singleton contract)]
      intro other
      rw [hmem, hitem, List.mem_singleton, Option.some.injEq, eq_comm]

theorem all_congr {first second : CapabilityRegistry py}
    (h : forall name, first.items.get? name = second.items.get? name) :
    first.all = second.all := by
  have hkeys : first.items.keys.Perm second.items.keys := by
    apply (List.perm_ext_iff_of_nodup first.items.nodup second.items.nodup).mpr
    intro name
    change name ∈ first.items.keys <-> name ∈ second.items.keys
    rw [← Dict.get?_isSome_iff, ← Dict.get?_isSome_iff, h]
  have hsorted : first.items.keys.insertionSort (· ≤ ·) =
      second.items.keys.insertionSort (· ≤ ·) := by
    apply List.Perm.eq_of_pairwise' (List.pairwise_insertionSort (· ≤ ·) _)
      (List.pairwise_insertionSort (· ≤ ·) _)
    calc first.items.keys.insertionSort (· ≤ ·)
        |>.Perm first.items.keys := List.perm_insertionSort (· ≤ ·) _
      _ |>.Perm second.items.keys := hkeys
      _ |>.Perm (second.items.keys.insertionSort (· ≤ ·)) :=
          (List.perm_insertionSort (· ≤ ·) _).symm
  have hget : first.items.get? = second.items.get? := funext h
  rw [all, all, hsorted, hget]

/-!
## Histories of registrations
-/

theorem get?_after_empty (contracts : List (CapabilityContract py)) (name : String) :
    (machine.after empty contracts).items.get? name =
      contracts.find? fun contract => contract.name = name := by
  rw [get?_after]
  rfl

theorem step_fst_eq_ok_iff (registry : CapabilityRegistry py)
    (contract : CapabilityContract py) :
    (machine.step registry contract).1 = .ok () <->
      contract.name ∉ registry.items.keys := by
  rw [← Dict.get?_isSome_iff]
  by_cases h : (registry.items.get? contract.name).isSome = true
  · simp [machine, register, h]
  · simp [machine, register, h]

/-- A registration is refused exactly when its name was offered before. -/
theorem step_after_empty_eq_ok_iff (before : List (CapabilityContract py))
    (contract : CapabilityContract py) :
    (machine.step (machine.after empty before) contract).1 = .ok () <->
      contract.name ∉ before.map CapabilityContract.name := by
  rw [step_fst_eq_ok_iff, ← Dict.get?_isSome_iff, get?_after_empty, List.find?_isSome,
    List.mem_map]
  simp only [decide_eq_true_eq]

theorem step_of_error {registry : CapabilityRegistry py} {contract : CapabilityContract py}
    {e : PyException} (h : (machine.step registry contract).1 = .error e) :
    (machine.step registry contract).2 = registry := by
  simp only [machine] at h ⊢
  cases hregister : registry.register contract with
  | error raised => rfl
  | ok registered =>
      rw [hregister] at h
      cases h

end CapabilityRegistry

section

variable {py : Builtins}

theorem find?_name_eq_some_iff {contracts : List (CapabilityContract py)}
    (hdistinct : (contracts.map CapabilityContract.name).Nodup) (name : String)
    (contract : CapabilityContract py) :
    (contracts.find? fun contract => contract.name = name) = some contract <->
      contract ∈ contracts ∧ contract.name = name := by
  constructor
  · intro h
    exact ⟨List.mem_of_find?_eq_some h, by simpa using List.find?_some h⟩
  · intro h
    rcases h with ⟨hmem, hname⟩
    have hsome : (contracts.find? fun contract => contract.name = name).isSome = true := by
      rw [List.find?_isSome]
      exact ⟨contract, hmem, decide_eq_true hname⟩
    rcases Option.isSome_iff_exists.mp hsome with ⟨other, hother⟩
    have hfound : other.name = name := by simpa using List.find?_some hother
    have hsame : other = contract :=
      List.inj_on_of_nodup_map hdistinct (List.mem_of_find?_eq_some hother) hmem
        (by rw [hfound, hname])
    rw [hother, hsame]

theorem get?_after_empty_of_perm {first second : List (CapabilityContract py)}
    (hperm : first.Perm second) (hdistinct : (first.map CapabilityContract.name).Nodup)
    (name : String) :
    (CapabilityRegistry.machine.after CapabilityRegistry.empty first).items.get? name =
      (CapabilityRegistry.machine.after CapabilityRegistry.empty second).items.get? name := by
  have hsecond : (second.map CapabilityContract.name).Nodup :=
    (hperm.map CapabilityContract.name).nodup_iff.mp hdistinct
  apply Option.ext
  intro contract
  rw [CapabilityRegistry.get?_after_empty, CapabilityRegistry.get?_after_empty,
    find?_name_eq_some_iff hdistinct, find?_name_eq_some_iff hsecond, hperm.mem_iff]

/--
What discovery shows after any history of registrations: each name once, in increasing
order, with the contract that came first.  A refused registration changes nothing, and
registrations under distinct names can be made in any order.
-/
structure CanonicalDiscovery (contracts : List (CapabilityContract py)) : Prop where
  increasing :
    ((CapabilityRegistry.machine.after CapabilityRegistry.empty contracts).all.map
      CapabilityContract.name).Pairwise (· < ·)
  first : forall name,
    (CapabilityRegistry.machine.after CapabilityRegistry.empty contracts).all.filter
        (fun contract => contract.name = name) =
      (contracts.find? fun contract => contract.name = name).toList
  refused : forall before contract later, contracts = before ++ contract :: later ->
    ((exists e, (CapabilityRegistry.machine.step
        (CapabilityRegistry.machine.after CapabilityRegistry.empty before) contract).1 =
          .error e) <-> contract.name ∈ before.map CapabilityContract.name) ∧
    forall e, (CapabilityRegistry.machine.step
        (CapabilityRegistry.machine.after CapabilityRegistry.empty before) contract).1 =
          .error e ->
      CapabilityRegistry.machine.after CapabilityRegistry.empty (before ++ [contract]) =
        CapabilityRegistry.machine.after CapabilityRegistry.empty before
  reordered : forall other, contracts.Perm other ->
    (contracts.map CapabilityContract.name).Nodup ->
      forall identity protocol,
        discoverCapabilities
            (CapabilityRegistry.machine.after CapabilityRegistry.empty contracts)
            identity protocol =
          discoverCapabilities
            (CapabilityRegistry.machine.after CapabilityRegistry.empty other)
            identity protocol ∧
        exists catalog,
          catalogFromRegistry
              (CapabilityRegistry.machine.after CapabilityRegistry.empty contracts) =
            .ok catalog ∧
          catalogFromRegistry
              (CapabilityRegistry.machine.after CapabilityRegistry.empty other) =
            .ok catalog

/-- Every history of registrations is shown canonically. -/
theorem canonicalDiscovery (contracts : List (CapabilityContract py)) :
    CanonicalDiscovery contracts where
  increasing := CapabilityRegistry.all_increasing _
  first := by
    intro name
    rw [CapabilityRegistry.all_filter_name, CapabilityRegistry.get?_after_empty]
  refused := by
    intro before contract later _
    have hok := CapabilityRegistry.step_after_empty_eq_ok_iff before contract
    constructor
    · constructor
      · intro h
        rcases h with ⟨e, he⟩
        by_contra hnew
        rw [hok.mpr hnew] at he
        cases he
      · intro hmem
        cases hanswer : (CapabilityRegistry.machine.step
            (CapabilityRegistry.machine.after CapabilityRegistry.empty before) contract).1 with
        | error e => exact ⟨e, rfl⟩
        | ok answer => exact absurd hmem (hok.mp hanswer)
    · intro e he
      rw [Machine.after_append, Machine.after_cons, Machine.after_nil]
      exact CapabilityRegistry.step_of_error he
  reordered := by
    intro other hperm hdistinct identity protocol
    have hall := CapabilityRegistry.all_congr (get?_after_empty_of_perm hperm hdistinct)
    rcases catalogFromRegistry_eq_ok
      (CapabilityRegistry.machine.after CapabilityRegistry.empty contracts) with
      ⟨catalog, hcatalog, _⟩
    constructor
    · unfold discoverCapabilities
      rw [hall]
    · refine ⟨catalog, hcatalog, ?_⟩
      rw [catalogFromRegistry, ← hall]
      exact hcatalog

end

end YasinMcp
