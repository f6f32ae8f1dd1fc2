import YasinMcp.Governance.Accounting
import YasinMcp.Server.Creation

/-!
# Governed tools

What a runtime serves is what it advertises: each tool is published as mutating
exactly if its body mutates, and the gate knows it by the risk it was published
with.  Behind the default gate a mutation is therefore entered at most as often as
it was approved, over any run of concurrent calls.
-/

namespace YasinMcp

open Foundation

namespace ServerRuntime

variable {py : Builtins}

def stopName : String := "runflare_stop"

def runflareNames : List String :=
  runflareCapabilityDefinitions.map fun definition => definition.name

/-- A planned tool that is not served: stopping, and all of a provider that is not set up. -/
def isUnserved (runflare : Bool) (name : String) : Bool :=
  name = stopName || !runflare && runflareNames.contains name

/-- The plan that a served tool goes back to. -/
def Plans (planned : ToolPlan) (served : String × Bool) : Bool :=
  planned.name = served.1 && planned.isMutating = served.2 &&
    decide (planned.risk = .mutation) = served.2 && planned.risk ≠ .highRisk

theorem plans_iff {planned : ToolPlan} {served : String × Bool} :
    Plans planned served = true <->
      planned.name = served.1 ∧ planned.isMutating = served.2 ∧
        (planned.risk = .mutation <-> served.2 = true) ∧ planned.risk ≠ .highRisk := by
  unfold Plans
  cases served.2 <;> simp [and_assoc]

theorem servedShapes_nodup (operations runflare : Bool) :
    ((servedShapes operations runflare).map Prod.fst).Nodup := by
  cases operations <;> cases runflare <;> decide +kernel

theorem servedShapes_planned (operations runflare : Bool) :
    ((servedShapes operations runflare).all fun served =>
      (plannedTools operations).any fun planned => Plans planned served) = true := by
  cases operations <;> cases runflare <;> decide +kernel

theorem plannedTools_served (operations runflare : Bool) :
    ((plannedTools operations).all fun planned =>
      ((servedShapes operations runflare).map Prod.fst).contains planned.name =
        !isUnserved runflare planned.name) = true := by
  cases operations <;> cases runflare <;> decide +kernel

/-!
## What a creation governs
-/

theorem exists_of_forall₂_left {a b : Type} {related : a -> b -> Prop} {first : List a}
    {second : List b} (h : List.Forall₂ related first second) {x : a} (hx : x ∈ first) :
    exists y, y ∈ second ∧ related x y := by
  induction h with
  | nil => cases hx
  | @cons x' y' rest others hfirst _ ih =>
      rcases List.mem_cons.mp hx with hhead | htail
      · exact ⟨y', List.mem_cons_self, hhead ▸ hfirst⟩
      · rcases ih htail with ⟨y, hy, hrelated⟩
        exact ⟨y, List.mem_cons_of_mem y' hy, hrelated⟩

theorem get?_of_published {registry registered : CapabilityRegistry py}
    {plans : List ToolPlan} {contracts : List (CapabilityContract py)}
    (hpublished : List.Forall₂ (ToolPlan.Publishes py) plans contracts)
    (hentries : registered.items.entries =
      registry.items.entries ++ contracts.map fun contract => (contract.name, contract))
    {plan : ToolPlan} (hplan : plan ∈ plans) :
    exists contract, registered.items.get? plan.name = some contract ∧
      ToolPlan.Publishes py plan contract := by
  rcases exists_of_forall₂_left hpublished hplan with ⟨contract, hcontract, hpublishes⟩
  refine ⟨contract, ?_, hpublishes⟩
  apply Dict.lookupIn_of_mem registered.items.nodup
  rw [hentries, ← hpublishes.name_eq]
  exact List.mem_append_right _ (List.mem_map.mpr ⟨contract, hcontract, rfl⟩)

/-- A name that is new to the registry is the name of a plan. -/
theorem planned_of_registered {registry registered : CapabilityRegistry py}
    {plans : List ToolPlan} {contracts : List (CapabilityContract py)}
    (hpublished : List.Forall₂ (ToolPlan.Publishes py) plans contracts)
    (hentries : registered.items.entries =
      registry.items.entries ++ contracts.map fun contract => (contract.name, contract))
    {name : String} (hnew : registry.items.get? name = none)
    (hregistered : registered.items.get? name ≠ none) :
    exists plan, plan ∈ plans ∧ plan.name = name := by
  have hkey : name ∈ registered.items.entries.map Prod.fst :=
    (Dict.get?_isSome_iff _ _).mp (Option.isSome_iff_ne_none.mpr hregistered)
  rw [hentries, List.map_append, List.mem_append] at hkey
  rcases hkey with hold | hplanned
  · exact absurd hnew (Option.isSome_iff_ne_none.mp ((Dict.get?_isSome_iff _ _).mpr hold))
  · rw [List.map_map] at hplanned
    have hname : name ∈ contracts.map CapabilityContract.name := hplanned
    rw [ToolPlan.map_name_of_publishes hpublished] at hname
    exact List.mem_map.mp hname

/--
What holds of a runtime and of the registry it was created over: the served names are
distinct, each is registered with the risk of its body, the gate knows every
registered name and nothing was served that was not planned.
-/
structure Governed (args : CreateArgs) (registry registered : CapabilityRegistry py)
    (runtime : ServerRuntime) : Prop where
  distinct : (runtime.tools.map ServedTool.name).Nodup
  published : forall tool, tool ∈ runtime.tools ->
    exists contract, registered.items.get? tool.name = some contract ∧
      contract.readOnly = !tool.body.mutates ∧
      (contract.risk = .level .mutation <-> tool.body.mutates = true) ∧
      contract.risk ≠ .level .highRisk
  known : forall name, runtime.governance.catalog.entries.get? name =
    ((args.governance.map GovernanceGate.catalog).bind fun catalog =>
      catalog.entries.get? name).or
        ((registered.items.get? name).map CapabilityContract.catalogRisk)
  unserved : forall name, registry.items.get? name = none ->
    registered.items.get? name ≠ none ->
      (name ∉ runtime.tools.map ServedTool.name <->
        isUnserved runtime.runflareAvailable name = true)

/-!
## Which creations succeed
-/

def plannedNames (available : Bool) : List String :=
  (plannedTools available).map ToolPlan.name

theorem keys_of_entries {registry registered : CapabilityRegistry py}
    {contracts : List (CapabilityContract py)}
    (h : registered.items.entries =
      registry.items.entries ++ contracts.map fun contract => (contract.name, contract)) :
    registered.items.keys = registry.items.keys ++ contracts.map CapabilityContract.name := by
  rw [Dict.keys, h, List.map_append, List.map_map]
  rfl

theorem fresh_iff {available : Bool} {contracts : List (CapabilityContract py)}
    (hplanned : Planned py available contracts) (registry : CapabilityRegistry py) :
    registry.Fresh contracts <->
      forall name, name ∈ plannedNames available -> registry.items.get? name = none := by
  have hnames := ToolPlan.map_name_of_publishes hplanned.published
  constructor
  · intro h name hname
    rw [plannedNames, ← hnames] at hname
    rcases List.mem_map.mp hname with ⟨contract, hcontract, hsame⟩
    rw [← hsame]
    exact h.free contract hcontract
  · intro h
    constructor
    · rw [hnames]
      exact plannedTools_nodup available
    · intro contract hcontract
      apply h
      rw [plannedNames, ← hnames]
      exact List.mem_map_of_mem hcontract

/-- The first planned name that is taken; those before it are registered. -/
structure Stopped (available : Bool) (registry registered : CapabilityRegistry py)
    (name : String) : Prop where
  taken : registry.items.get? name ≠ none
  before : exists free later, plannedNames available = free ++ name :: later ∧
    (forall other, other ∈ free -> registry.items.get? other = none) ∧
    registered.items.keys = registry.items.keys ++ free

theorem stopped_of_clash {available : Bool} {contracts : List (CapabilityContract py)}
    (hplanned : Planned py available contracts) {registry registered : CapabilityRegistry py}
    {name : String} (h : Clash registry contracts name registered) :
    Stopped available registry registered name := by
  rcases h.taken with ⟨first, clash, rest, hsplit, hname, hfresh, htaken, hrun⟩
  rcases CapabilityRegistry.run_registerMany_of_fresh hfresh with ⟨registered', hrun', hentries⟩
  have hsame : registered' = registered := (Prod.mk.inj (hrun'.symm.trans hrun)).2
  subst hsame
  have hnames : plannedNames available =
      first.map CapabilityContract.name ++ name :: rest.map CapabilityContract.name := by
    rw [plannedNames, ← ToolPlan.map_name_of_publishes hplanned.published, hsplit,
      List.map_append, List.map_cons, hname]
  have hnodup : (plannedNames available).Nodup := plannedTools_nodup available
  rw [hnames] at hnodup
  have habsent : name ∉ first.map CapabilityContract.name := by
    intro hmem
    exact (List.nodup_append.mp hnodup).2.2 name hmem name List.mem_cons_self rfl
  constructor
  · intro hnone
    apply htaken
    rw [← Option.not_isSome_iff_eq_none, Dict.get?_isSome_iff, keys_of_entries hentries,
      List.mem_append, not_or]
    refine ⟨?_, habsent⟩
    rw [← Dict.get?_isSome_iff, hnone]
    exact Bool.false_ne_true
  · refine ⟨_, _, hnames, ?_, keys_of_entries hentries⟩
    intro other hother
    rcases List.mem_map.mp hother with ⟨contract, hcontract, hsameName⟩
    rw [← hsameName]
    exact hfresh.free contract hcontract

theorem applyMark_served (operations runflare : Bool) :
    (toolGovApplyMark, true) ∈ servedShapes operations runflare :=
  List.mem_append_left _ (List.mem_append_left _ (List.mem_append_right _ List.mem_cons_self))

theorem exists_runtime (hpy : KnowsAsciiWords py) (site : Site) {args : CreateArgs}
    (haccepted : args.Accepted py)
    (hproject : site.environ Runflare.runflareProjectDirEnv = none) :
    exists runtime registered tool,
      (create site args : Registering py ServerRuntime).outcome .empty =
        (.ok runtime, registered) ∧
      tool ∈ runtime.tools ∧ tool.name = toolGovApplyMark ∧ tool.body.mutates = true := by
  have hsetUp : setUpRunflare py site = .ok none := by
    rw [setUpRunflare, environValue, hproject]
    rfl
  rcases creation_of_create hpy site haccepted .empty with ⟨available, contracts, _, hplanned, hcreation⟩
  generalize (create site args : Registering py ServerRuntime).outcome .empty = outcome at *
  rcases outcome with ⟨result, registered⟩
  cases hcreation with
  | clash hclash => exact absurd rfl (stopped_of_clash hplanned hclash).taken
  | setUpFailed _ _ hfailed =>
      rw [hsetUp] at hfailed
      cases hfailed
  | @created runtime _ _ _ _ _ _ hassembled =>
      have hmark := applyMark_served available runtime.runflareAvailable
      rw [← hassembled.tools] at hmark
      rcases List.mem_map.mp hmark with ⟨tool, htool, hshape⟩
      exact ⟨runtime, registered, tool, rfl, htool, congrArg Prod.fst hshape,
        congrArg Prod.snd hshape⟩

def bareSite : Site where
  environ _ := none
  unicode := plainUnicode
  paths := ⟨fun _ => .ok [], fun _ => .ok false⟩
  gateway
    | .isReadableFile _ => false
    | .which _ => false
    | .requestId => ""
    | .run _ _ _ => .fileNotFound

theorem plainBuiltins_knowsAsciiWords : KnowsAsciiWords plainBuiltins :=
  fun _ h => h

theorem accepted_default (py : Builtins) : ({} : CreateArgs).Accepted py :=
  fun _ h => nomatch h

/--
A creation succeeds exactly if no planned name is taken and the provider's set-up ends
in a way that is expected.  It registers all planned names in their order, and stops
at the first of them that is taken; nothing that was registered is lost.
-/
theorem create_exact (hpy : KnowsAsciiWords py) (site : Site) {args : CreateArgs}
    (haccepted : args.Accepted py) (registry : CapabilityRegistry py) :
    exists available,
      operationsAvailability site (args.operationsAdapter.getD {}) = .ok available ∧
      ((exists runtime, ((create site args : Registering py ServerRuntime).outcome registry).1 =
          .ok runtime) <->
        (forall name, name ∈ plannedNames available -> registry.items.get? name = none) ∧
          exists runflare, setUpRunflare py site = .ok runflare) ∧
      ((forall name, name ∈ plannedNames available -> registry.items.get? name = none) ->
        ((create site args : Registering py ServerRuntime).outcome registry).2.items.keys =
          registry.items.keys ++ plannedNames available) ∧
      ((exists name, name ∈ plannedNames available ∧ registry.items.get? name ≠ none) ->
        exists name,
          ((create site args : Registering py ServerRuntime).outcome registry).1 =
            .error (CapabilityRegistry.alreadyRegistered py name) ∧
          Stopped available registry
            ((create site args : Registering py ServerRuntime).outcome registry).2 name) := by
  rcases creation_of_create hpy site haccepted registry with
    ⟨available, contracts, havailable, hplanned, hcreation⟩
  refine ⟨available, havailable, ?_⟩
  have hnames : contracts.map CapabilityContract.name = plannedNames available :=
    ToolPlan.map_name_of_publishes hplanned.published
  rw [← fresh_iff hplanned registry]
  have hnot : (exists name, name ∈ plannedNames available ∧ registry.items.get? name ≠ none) ->
      ¬ registry.Fresh contracts := by
    intro htaken hfresh
    rcases htaken with ⟨name, hname, hsome⟩
    exact hsome ((fresh_iff hplanned registry).mp hfresh name hname)
  generalize (create site args : Registering py ServerRuntime).outcome registry = outcome at *
  rcases outcome with ⟨result, registered⟩
  cases hcreation with
  | @clash name _ hclash =>
      have hstopped := stopped_of_clash hplanned hclash
      have hunfresh : ¬ registry.Fresh contracts := by
        intro hfresh
        rcases hclash.taken with ⟨first, clash, rest, hsplit, hname, _, _, _⟩
        apply hstopped.taken
        rw [← hname]
        apply hfresh.free
        rw [hsplit]
        exact List.mem_append_right _ List.mem_cons_self
      refine ⟨⟨?_, fun h => absurd h.1 hunfresh⟩, fun h => absurd h hunfresh,
        fun _ => ⟨name, rfl, hstopped⟩⟩
      intro h
      rcases h with ⟨runtime, hok⟩
      cases hok
  | setUpFailed hfresh hentries hsetUp =>
      refine ⟨⟨?_, ?_⟩, fun _ => ?_, fun h => absurd hfresh (hnot h)⟩
      · intro h
        rcases h with ⟨runtime, hok⟩
        cases hok
      · intro h
        rcases h with ⟨_, runflare, hok⟩
        rw [hsetUp] at hok
        cases hok
      · rw [← hnames]
        exact keys_of_entries hentries
  | created hfresh hentries hsetUp hflag hassembled =>
      refine ⟨⟨fun _ => ⟨hfresh, _, hsetUp⟩, fun _ => ⟨_, rfl⟩⟩, fun _ => ?_,
        fun h => absurd hfresh (hnot h)⟩
      rw [← hnames]
      exact keys_of_entries hentries

theorem create_exact_bare :
    exists runtime, ((create bareSite {} : Registering plainBuiltins ServerRuntime).outcome
      .empty).1 = .ok runtime := by
  rcases create_exact plainBuiltins_knowsAsciiWords bareSite (accepted_default plainBuiltins)
    .empty with ⟨available, _, hsucceeds, _⟩
  exact hsucceeds.mpr ⟨fun _ _ => rfl, none, rfl⟩

/-!
## What a runtime governs
-/

/--
A creation that succeeds governs what it serves, whatever was registered before,
whichever gate was supplied and whichever adapters there are.
-/
theorem create_governed (hpy : KnowsAsciiWords py) {site : Site} {args : CreateArgs}
    (haccepted : args.Accepted py) {registry registered : CapabilityRegistry py}
    {runtime : ServerRuntime}
    (h : (create site args : Registering py ServerRuntime).outcome registry =
      (.ok runtime, registered)) :
    Governed args registry registered runtime := by
  rcases creation_of_create hpy site haccepted registry with
    ⟨available, contracts, _, hplanned, hcreation⟩
  rw [h] at hcreation
  cases hcreation with
  | @created _ _ runflare hfresh hentries hsetUp hflag hassembled =>
      have hnames : runtime.tools.map ServedTool.name =
          (servedShapes available runtime.runflareAvailable).map Prod.fst := by
        rw [← hassembled.tools, List.map_map]
        rfl
      constructor
      · rw [hnames]
        exact servedShapes_nodup available runtime.runflareAvailable
      · intro tool htool
        have hshape : shape tool ∈ servedShapes available runtime.runflareAvailable := by
          rw [← hassembled.tools]
          exact List.mem_map_of_mem htool
        have hsome := List.all_eq_true.mp
          (servedShapes_planned available runtime.runflareAvailable) _ hshape
        rcases List.any_eq_true.mp hsome with ⟨plan, hplan, hplans⟩
        rcases plans_iff.mp hplans with ⟨hname, hmutating, hrisk, hlevel⟩
        rcases get?_of_published hplanned.published hentries hplan with
          ⟨contract, hcontract, hpublishes⟩
        rw [hname] at hcontract
        refine ⟨contract, hcontract, ?_, ?_, ?_⟩
        · rw [hpublishes.readOnly_eq, hmutating]
          rfl
        · rw [hpublishes.risk_eq, ContractRisk.level.injEq]
          exact hrisk
        · rw [hpublishes.risk_eq, Ne, ContractRisk.level.injEq]
          exact hlevel
      · exact hassembled.known
      · intro name hnew hregistered
        rcases planned_of_registered hplanned.published hentries hnew hregistered with
          ⟨plan, hplan, hname⟩
        have hserved := List.all_eq_true.mp
          (plannedTools_served available runtime.runflareAvailable) plan hplan
        have hcontains := of_decide_eq_true hserved
        rw [hname, ← hnames] at hcontains
        rw [← List.contains_iff_mem, hcontains]
        simp

theorem create_governed_bare :
    exists runtime registered,
      (create bareSite {} : Registering plainBuiltins ServerRuntime).outcome .empty =
        (.ok runtime, registered) ∧ Governed {} .empty registered runtime := by
  rcases exists_runtime plainBuiltins_knowsAsciiWords bareSite (accepted_default plainBuiltins)
    rfl with ⟨runtime, registered, _, houtcome, _⟩
  exact ⟨runtime, registered, houtcome,
    create_governed plainBuiltins_knowsAsciiWords (accepted_default plainBuiltins) houtcome⟩

/-!
## Creations that share a registry
-/

def creations (py : Builtins) :
    Machine (CapabilityRegistry py) (Site × CreateArgs) (Except PyException ServerRuntime) where
  step registry creation :=
    (create creation.1 creation.2 : Registering py ServerRuntime).outcome registry

theorem plannedTools_first (available : Bool) :
    exists rest, (plannedTools available).map ToolPlan.name = toolListDocs :: rest := by
  cases available <;> exact ⟨_, rfl⟩

theorem taken_after_create (hpy : KnowsAsciiWords py) (site : Site) {args : CreateArgs}
    (haccepted : args.Accepted py) (registry : CapabilityRegistry py) :
    ((creations py).step registry (site, args)).2.items.get? toolListDocs ≠ none := by
  rcases creation_of_create hpy site haccepted registry with
    ⟨available, contracts, _, hplanned, hcreation⟩
  rcases plannedTools_first available with ⟨later, hfirst⟩
  rw [← ToolPlan.map_name_of_publishes hplanned.published] at hfirst
  cases contracts with
  | nil => cases hfirst
  | cons head rest =>
      rw [List.map_cons, List.cons.injEq] at hfirst
      have hentered : forall {others : List (CapabilityContract py)}
          {registered : CapabilityRegistry py},
          registered.items.entries = registry.items.entries ++
            (head :: others).map (fun contract => (contract.name, contract)) ->
          registered.items.get? toolListDocs ≠ none := by
        intro others registered hentries
        rw [← Option.isSome_iff_ne_none, Dict.get?_isSome_iff, ← hfirst.1, Dict.keys, hentries]
        simp
      show ((create site args : Registering py ServerRuntime).outcome registry).2.items.get?
        toolListDocs ≠ none
      generalize (create site args : Registering py ServerRuntime).outcome registry = outcome at *
      rcases outcome with ⟨result, registered⟩
      cases hcreation with
      | setUpFailed _ hentries _ => exact hentered hentries
      | created _ hentries _ _ _ => exact hentered hentries
      | clash hclash =>
          rcases hclash.taken with ⟨first, clash, others, hsplit, hname, hfresh, htaken, hrun⟩
          cases first with
          | nil =>
              rw [List.nil_append, List.cons.injEq] at hsplit
              rw [← hfirst.1, hsplit.1, hname]
              exact htaken
          | cons front others' =>
              rw [List.cons_append, List.cons.injEq] at hsplit
              rcases CapabilityRegistry.run_registerMany_of_fresh hfresh with
                ⟨registered', hrun', hentries⟩
              have hsame : registered' = registered := by
                have houtcome := hrun'.symm.trans hrun
                exact (Prod.mk.inj houtcome).2
              rw [← hsplit.1, hsame] at hentries
              exact hentered hentries

/-- Over a registry that has the first planned name, a creation does nothing. -/
theorem create_of_taken (hpy : KnowsAsciiWords py) (site : Site) {args : CreateArgs}
    (haccepted : args.Accepted py) {registry : CapabilityRegistry py}
    (htaken : registry.items.get? toolListDocs ≠ none) :
    (creations py).step registry (site, args) =
      (.error (CapabilityRegistry.alreadyRegistered py toolListDocs), registry) := by
  rcases exists_availability site (args.operationsAdapter.getD {}) with ⟨available, havailable⟩
  rcases exists_planned hpy available with ⟨contracts, hplanned⟩
  rcases outcome_create haccepted havailable hplanned registry with ⟨docs, _, houtcome⟩
  rcases plannedTools_first available with ⟨later, hfirst⟩
  rw [← ToolPlan.map_name_of_publishes hplanned.published] at hfirst
  cases contracts with
  | nil => cases hfirst
  | cons head rest =>
      rw [List.map_cons, List.cons.injEq] at hfirst
      rw [← hfirst.1] at htaken ⊢
      have hrefused : (Registering.registerMany (head :: rest)).outcome registry =
          (.error (CapabilityRegistry.alreadyRegistered py head.name), registry) :=
        CapabilityRegistry.run_registerMany_of_taken (CapabilityRegistry.step_of_taken htaken) rest
      rw [hrefused] at houtcome
      exact houtcome

/--
Of the creations that share a registry only the first can succeed: all later ones
raise for the first planned name and leave the registry as the first one left it,
also when the first one failed.
-/
theorem creations_shared (hpy : KnowsAsciiWords py) (registry : CapabilityRegistry py)
    (first : Site × CreateArgs) (later : List (Site × CreateArgs))
    (haccepted : forall creation, creation ∈ first :: later -> creation.2.Accepted py) :
    (creations py).history registry (first :: later) =
        (first, ((creations py).step registry first).1) :: later.map (fun creation =>
          (creation, .error (CapabilityRegistry.alreadyRegistered py toolListDocs))) ∧
      (creations py).after registry (first :: later) =
        ((creations py).step registry first).2 := by
  have htaken := taken_after_create hpy first.1 (haccepted first List.mem_cons_self) registry
  have hrest : forall {registered : CapabilityRegistry py} (others : List (Site × CreateArgs)),
      registered.items.get? toolListDocs ≠ none ->
      (forall creation, creation ∈ others -> creation.2.Accepted py) ->
        (creations py).history registered others = others.map (fun creation =>
          (creation, .error (CapabilityRegistry.alreadyRegistered py toolListDocs))) ∧
        (creations py).after registered others = registered := by
    intro registered others hregistered hothers
    induction others with
    | nil => exact ⟨rfl, rfl⟩
    | cons creation rest ih =>
        have hstep := create_of_taken hpy creation.1 (hothers creation List.mem_cons_self)
          hregistered
        rcases ih fun other hother => hothers other (List.mem_cons_of_mem creation hother) with
          ⟨hhistory, hafter⟩
        rw [Machine.history_cons, Machine.after_cons, hstep, hhistory, hafter]
        exact ⟨rfl, rfl⟩
  rcases hrest later htaken fun creation hcreation =>
    haccepted creation (List.mem_cons_of_mem first hcreation) with ⟨hhistory, hafter⟩
  rw [Machine.history_cons, Machine.after_cons, hhistory, hafter]
  exact ⟨rfl, rfl⟩

theorem creations_shared_bare :
    ((creations plainBuiltins).history .empty [(bareSite, {}), (bareSite, {})]).map
        (fun entry => entry.2.toOption.isSome) = [true, false] := by
  have hshared := creations_shared plainBuiltins_knowsAsciiWords .empty (bareSite, {})
    [(bareSite, {})]
    (by
      intro creation hcreation
      rcases List.mem_pair.mp hcreation with hfirst | hsecond
      · rw [hfirst]
        exact accepted_default plainBuiltins
      · rw [hsecond]
        exact accepted_default plainBuiltins)
  rcases exists_runtime plainBuiltins_knowsAsciiWords bareSite (accepted_default plainBuiltins)
    rfl with ⟨runtime, registered, _, houtcome, _⟩
  have hfirst : (creations plainBuiltins).step .empty (bareSite, {}) =
      (.ok runtime, registered) := houtcome
  rw [hshared.1, hfirst]
  rfl

/-!
## Mutations behind the default gate
-/

theorem default_gate (hpy : KnowsAsciiWords py) {site : Site} {args : CreateArgs}
    (haccepted : args.Accepted py) (hgate : args.governance = none) (hpolicy : args.policy = none)
    {registry registered : CapabilityRegistry py} {runtime : ServerRuntime}
    (h : (create site args : Registering py ServerRuntime).outcome registry =
      (.ok runtime, registered)) :
    runtime.governance.Conservative ∧
      runtime.governance.securityConfig = some args.settings.config ∧
      forall tool, tool ∈ runtime.tools -> tool.body.mutates = true ->
        runtime.governance.catalog.entries.get? tool.name = some .mutation := by
  have hgoverned := create_governed hpy haccepted h
  rcases creation_of_create hpy site haccepted registry with ⟨_, _, _, _, hcreation⟩
  rw [h] at hcreation
  cases hcreation with
  | created _ _ _ _ hassembled =>
      have hdefault : runtime.governance.policy = DefaultConservativePolicy.evaluate := by
        rw [hassembled.policy hgate, hpolicy]
        rfl
      refine ⟨⟨hdefault, (hassembled.secured hgate).2⟩, (hassembled.secured hgate).1, ?_⟩
      intro tool htool hmutates
      rcases hgoverned.published tool htool with ⟨contract, hcontract, _, hrisk, _⟩
      rw [hgoverned.known, hgate, hcontract]
      simp [CapabilityContract.catalogRisk, hrisk.mpr hmutates]

/--
Behind the gate that a creation makes, a tool whose body mutates is entered at most as
often as approvals were issued for it, at any moment of any run of concurrent calls.
-/
theorem mutations_accounted (hpy : KnowsAsciiWords py) {site : Site} {args : CreateArgs}
    (haccepted : args.Accepted py) (hgate : args.governance = none) (hpolicy : args.policy = none)
    {registry registered : CapabilityRegistry py} {runtime : ServerRuntime}
    (h : (create site args : Registering py ServerRuntime).outcome registry =
      (.ok runtime, registered))
    {thread : Type} [DecidableEq thread] {calls : thread -> WrappedCall}
    {trace : List ((thread × WrapperEvent) ⊕ InMemoryApprovalStore.StoreOp)}
    {rest : thread -> WrapperProgram Value} {s' : BoundedSemaphore × InMemoryApprovalStore}
    (hrun : WrappedRun StoreStep OtherCall py runtime.governance calls
      InMemoryApprovalStore.empty trace rest s')
    (hsingle : forall op, op ∈ Program.movesOf trace -> InMemoryApprovalStore.IssuesSingleUse op)
    {tool : ServedTool} (htool : tool ∈ runtime.tools) (hmutates : tool.body.mutates = true) :
    (Program.threadEvents trace).countP (fun entry =>
        decide ((calls entry.1).toolName = tool.name) && entersBody entry.2) ≤
      (Program.movesOf trace).countP (InMemoryApprovalStore.storesGrantFor tool.name) := by
  rcases default_gate hpy haccepted hgate hpolicy h with ⟨hconservative, _, hmutation⟩
  exact GovernanceGate.enters_le_issued hconservative hrun hsingle (hmutation tool htool hmutates)

def markApproval : InMemoryApprovalStore.StoreOp :=
  .issue { toolName := toolGovApplyMark } 0 "t0" "a0"

def markCall : WrappedCall where
  ambient := ⟨fun _ => none, {}⟩
  toolName := toolGovApplyMark
  kwargs := Dict.ofEntries [(approvalTokenKwarg, .str "t0")]

def markStore : InMemoryApprovalStore :=
  (InMemoryApprovalStore.machine.step .empty markApproval).2

def storeHandle (store : InMemoryApprovalStore) (op : GateOp) :
    GateRes op × InMemoryApprovalStore :=
  ((quietHost.handle (store, ()) op).1, (quietHost.handle (store, ()) op).2.1)

theorem storeStep_storeHandle (store : InMemoryApprovalStore) (op : GateOp) :
    StoreStep store ⟨op, (storeHandle store op).1⟩ (storeHandle store op).2 := by
  cases op with
  | consult p => exact StoreStep.consult store p 0
  | record event => exact StoreStep.record store event _
  | enter args kwargs => exact StoreStep.enter store args kwargs
  | leave => exact StoreStep.leave store _

theorem trace_storeHandle {a : Type} (p : GateProgram a) (store : InMemoryApprovalStore) :
    (Program.run storeHandle p store).trace = (quietHost.run p (store, ())).trace := by
  induction p generalizing store with
  | pure value => rfl
  | raise e => rfl
  | perform op next ih =>
      rw [Program.run_perform, Host.run, Program.run_perform]
      exact congrArg (List.cons _) (ih _ _)

theorem invocations_mark {gate : GovernanceGate} (hgate : gate.Conservative)
    (hconfig : gate.securityConfig = some ServerConfig.default)
    (hmutation : gate.catalog.entries.get? toolGovApplyMark = some .mutation) :
    invocations (quietHost.run (gate.execute plainBuiltins markCall.ambient markCall.executeCall)
      (markStore, ())).trace = 1 := by
  have hauth : exists bound,
      gate.authenticate plainBuiltins markCall.ambient markCall.executeCall = .ok bound := by
    rw [GovernanceGate.authenticate_eq hconfig]
    exact ⟨_, rfl⟩
  rcases hauth with ⟨bound, hauth⟩
  have htoken : (gate.credentials plainBuiltins markCall.ambient
      markCall.executeCall).approvalToken = some "t0" := by
    rw [GovernanceGate.credentials_approval]
    rfl
  rcases (ToolRiskCatalog.resolve_isOk_iff gate.catalog toolGovApplyMark).mpr (by decide) with
    ⟨tool, htool⟩
  have hrisk := ((ToolRiskCatalog.resolve_eq_ok_iff _ _ _).mp htool).2.1
  rw [hmutation, Option.getD_some] at hrisk
  have hallowed : GovernanceGate.decisionOf (quietHost.run (gate.admission plainBuiltins markCall.ambient
      markCall.executeCall) (markStore, ())).result = some .allow := by
    apply (GovernanceGate.admission_allows_iff_of_resolved quietHost plainBuiltins hgate.policy
      hgate.store hauth htool _).mpr
    have hneeds : ¬ (tool.risk ≠ .mutation ∧
        (gate.credentials plainBuiltins markCall.ambient
          markCall.executeCall).approvalToken = none) := by simp [hrisk]
    have hanswers : exists result, consultations (quietHost.run
        (gate.admission plainBuiltins markCall.ambient markCall.executeCall)
          (markStore, ())).trace = [result] ∧ result.status = .granted := by
      rw [GovernanceGate.run_admission, hauth, show gate.resolveTool
        markCall.executeCall.toolName = .ok tool from htool]
      dsimp only
      rw [GovernanceGate.run_applyApproval_consult hneeds hgate.store, htoken]
      exact ⟨_, rfl, by rfl⟩
    rcases hanswers with ⟨result, hanswers, hgranted⟩
    exact ⟨⟨bound, hauth⟩, .mutation, hmutation, Or.inr ⟨result, hanswers, Or.inl hgranted⟩,
      Or.inr (Or.inr ⟨rfl, result, hanswers, hgranted⟩)⟩
  have hrun := GovernanceGate.run_execute quietHost_quiet plainBuiltins gate markCall.ambient
    markCall.executeCall (markStore, ())
  rw [hrun.1, (GovernanceGate.admission_quiet _ _ _ _ _ _).1, if_pos hallowed]

/-- One approval, and one call that is entered with it. -/
theorem mutations_accounted_mark :
    exists runtime registered,
      (create bareSite {} : Registering plainBuiltins ServerRuntime).outcome .empty =
        (.ok runtime, registered) ∧
      exists (trace : List ((Unit × WrapperEvent) ⊕ InMemoryApprovalStore.StoreOp)) (rest : _)
        (s' : _),
        WrappedRun StoreStep OtherCall plainBuiltins runtime.governance (fun _ => markCall)
          InMemoryApprovalStore.empty trace rest s' ∧
        Program.movesOf trace = [markApproval] ∧
        (Program.threadEvents trace).countP (fun entry =>
          decide (markCall.toolName = toolGovApplyMark) && entersBody entry.2) = 1 ∧
        (Program.threadEvents trace).countP (fun entry =>
            decide (markCall.toolName = toolGovApplyMark) && entersBody entry.2) ≤
          (Program.movesOf trace).countP
            (InMemoryApprovalStore.storesGrantFor toolGovApplyMark) := by
  rcases exists_runtime plainBuiltins_knowsAsciiWords bareSite (accepted_default plainBuiltins)
    rfl with ⟨runtime, registered, tool, houtcome, htool, hname, hmutates⟩
  rcases default_gate plainBuiltins_knowsAsciiWords (accepted_default plainBuiltins) rfl rfl
    houtcome with ⟨hconservative, hconfig, hrisk⟩
  have hmutation := hrisk tool htool hmutates
  rw [hname] at hmutation
  let gate := runtime.governance
  let run := Program.run (Program.slotHandle storeHandle) (markCall.program plainBuiltins gate)
    (gate.concurrencySlots, markStore)
  have hissued : Program.SlotMove OtherCall (gate.concurrencySlots, InMemoryApprovalStore.empty)
      markApproval (gate.concurrencySlots, markStore) := ⟨rfl, rfl⟩
  have hrun : WrappedRun StoreStep OtherCall plainBuiltins gate (fun _ : Unit => markCall)
      InMemoryApprovalStore.empty
      (.inr markApproval :: run.trace.map fun event => .inl ((), event))
      (fun _ => Program.ofExcept run.result) run.state :=
    .environment hissued (Program.interleaves_alone
      (Program.slotStep_slotHandle storeStep_storeHandle) _ _)
  have hmoves : Program.movesOf ((.inr markApproval :: run.trace.map fun event =>
      .inl ((), event)) : List ((Unit × WrapperEvent) ⊕ InMemoryApprovalStore.StoreOp)) =
        [markApproval] := by
    rw [Program.movesOf_inr, Program.movesOf, List.filterMap_map]
    simp
  have hentered : (Program.threadEvents ((.inr markApproval :: run.trace.map fun event =>
      .inl ((), event)) : List ((Unit × WrapperEvent) ⊕ InMemoryApprovalStore.StoreOp))).countP
        (fun entry => decide (markCall.toolName = toolGovApplyMark) && entersBody entry.2) =
          1 := by
    have hslot : gate.concurrencySlots.acquire? ≠ none := by
      rw [ne_eq, BoundedSemaphore.acquire?_eq_none_iff]
      exact Nat.ne_of_gt (GovernanceGate.concurrencyLimit_bounds gate).1
    rcases Option.ne_none_iff_exists'.mp hslot with ⟨slots, hslots⟩
    rcases Program.trace_withSlot storeHandle (gate.execute plainBuiltins markCall.ambient
      markCall.executeCall) (raiseAsMcpToolError plainBuiltins gate.limitReached)
      releasedTooOften (caughtMcpError plainBuiltins) hslots
      markStore with ⟨given, htrace⟩
    have hcount : run.trace.countP entersBody = 1 := by
      have hwhole : run.trace = acquiredSlot :: (Program.run storeHandle (gate.execute
          plainBuiltins markCall.ambient markCall.executeCall) markStore).trace.map
            Program.amongSlots ++ [⟨.inr .release, given⟩] := htrace
      rw [hwhole, GovernanceGate.countP_among entersBody _ rfl, trace_storeHandle]
      exact congrArg (· + 0) (invocations_mark hconservative hconfig hmutation)
    have halone : (Program.threadEvents (run.trace.map fun event =>
        (Sum.inl ((), event) : (Unit × WrapperEvent) ⊕ InMemoryApprovalStore.StoreOp))).map
          Prod.snd = run.trace := Program.threadEvents_alone () run.trace
    have heq := congrArg (List.countP entersBody) halone
    rw [List.countP_map, hcount] at heq
    rw [Program.threadEvents_inr, ← heq]
    exact List.countP_congr fun entry _ => by simp [markCall]
  have hbound := mutations_accounted plainBuiltins_knowsAsciiWords
    (accepted_default plainBuiltins) rfl rfl houtcome hrun
    (by
      intro op hop
      rw [hmoves, List.mem_singleton] at hop
      rw [hop]
      rfl)
    htool hmutates
  rw [hname] at hbound
  exact ⟨runtime, registered, houtcome, _, _, _, hrun, hmoves, hentered, hbound⟩

end ServerRuntime

end YasinMcp
