import YasinMcp.Server.Runtime

/-!
# Creating runtimes

A creation offers one list of planned tools to its registry.  It goes on if none of
their names is taken, and then it serves every planned tool but the provider's when
the provider cannot be set up, and never the provider's stop.  What is served is
advertised and known to the gate.  Creations that share a registry get in each
other's way: the first one takes the names of all.
-/

namespace YasinMcp

open Foundation

/-!
## Running registering code
-/

namespace Registering

variable {py : Builtins} {a b : Type}

abbrev outcome (m : Registering py a) (registry : CapabilityRegistry py) :
    Except PyException a × CapabilityRegistry py :=
  m.run.run registry

theorem outcome_bind_ok {m : Registering py a} {f : a -> Registering py b}
    {registry registered : CapabilityRegistry py} {value : a}
    (h : m.outcome registry = (.ok value, registered)) :
    (m >>= f).outcome registry = (f value).outcome registered := by
  rw [outcome, ExceptT.run_bind, StateT.run_bind]
  rw [outcome] at h
  rw [h]
  rfl

theorem outcome_bind_error {m : Registering py a} {f : a -> Registering py b}
    {registry registered : CapabilityRegistry py} {e : PyException}
    (h : m.outcome registry = (.error e, registered)) :
    (m >>= f).outcome registry = (.error e, registered) := by
  rw [outcome, ExceptT.run_bind, StateT.run_bind]
  rw [outcome] at h
  rw [h]
  rfl

theorem construct_ok (value : a) : (construct (.ok value) : Registering py a) = pure value := rfl

theorem registerMany_append (first second : List (CapabilityContract py)) :
    registerMany (first ++ second) = (registerMany first >>= fun _ => registerMany second) :=
  List.forM_append

theorem forM_publishes {entry : Type} (toPlan : entry -> ToolPlan) {definitions : List entry}
    {contracts : List (CapabilityContract py)}
    (h : List.Forall₂ (ToolPlan.Publishes py) (definitions.map toPlan) contracts) :
    (definitions.forM fun definition => do
      register (← construct (toolContract py (toPlan definition).definition
        (toPlan definition).risk (toPlan definition).isMutating))) = registerMany contracts := by
  induction definitions generalizing contracts with
  | nil =>
      cases h
      rfl
  | cons definition rest ih =>
      cases h with
      | cons hfirst hrest =>
          rw [List.forM_eq_forM, List.forM_cons, hfirst.built, ← List.forM_eq_forM, ih hrest]
          rfl

end Registering

/-!
## The planned tools
-/

def readOnlyPlan (definition : ToolDefinition) : ToolPlan :=
  { definition := definition, risk := .readOnly }

def runflarePlan (definition : RunflareCapabilityDefinition) : ToolPlan :=
  { definition := definition.toToolDefinition
    risk := definition.risk
    isMutating := definition.isMutating }

def pingLowRiskPlan : ToolPlan :=
  { definition := pingLowRiskDefinition, risk := .lowRisk }

def applyMarkPlan : ToolPlan :=
  { definition := applyMarkDefinition, risk := .mutation, isMutating := true }

def leadingPlans : List ToolPlan :=
  docsToolDefinitions.map readOnlyPlan ++ githubToolDefinitions.map readOnlyPlan ++
    registryToolDefinitions.map readOnlyPlan ++ runflareCapabilityDefinitions.map runflarePlan

def operationsPlans (available : Bool) : List ToolPlan :=
  if available = true then operationsToolDefinitions.map readOnlyPlan else []

/-- What a creation registers, in its order. -/
def plannedTools (available : Bool) : List ToolPlan :=
  leadingPlans ++ operationsPlans available ++ [pingLowRiskPlan, applyMarkPlan]

theorem plannedTools_subset (available : Bool) {plan : ToolPlan}
    (h : plan ∈ plannedTools available) : plan ∈ plannedTools true := by
  cases available with
  | true => exact h
  | false =>
      simp only [plannedTools, operationsPlans, List.mem_append] at h ⊢
      rcases h with (hleading | hnone) | hreference
      · exact Or.inl (Or.inl hleading)
      · cases hnone
      · exact Or.inr hreference

theorem plannedTools_names :
    (plannedTools true).all (fun plan => ToolPlan.nameAdmissible plan.name) = true := by
  decide +kernel

theorem not_isBlank_cons {c : Char} {cs : List Char} (h : Text.isSpace c = false) :
    Text.isBlank (String.ofList (c :: cs)) = false := by
  rw [Text.isBlank, String.toList_ofList, List.all_cons, h, Bool.false_and]

theorem not_isBlank_append {s : String} (h : Text.isBlank s = false) (t : String) :
    Text.isBlank (s ++ t) = false := by
  rw [Text.isBlank, String.toList_append, List.all_append]
  rw [Text.isBlank] at h
  rw [h, Bool.false_and]

theorem plannedTools_described : forall plan, plan ∈ plannedTools true ->
    Text.isBlank plan.definition.description = false := by
  simp only [plannedTools, leadingPlans, operationsPlans, docsToolDefinitions,
    githubToolDefinitions, registryToolDefinitions, runflareCapabilityDefinitions,
    operationsToolDefinitions, repositoryTool, readOnlyPlan, runflarePlan, pingLowRiskPlan,
    applyMarkPlan, pingLowRiskDefinition, applyMarkDefinition, List.map_cons, List.map_nil, List.cons_append, List.nil_append,
    if_true, List.forall_mem_cons, List.not_mem_nil]
  repeat' apply And.intro
  all_goals try with_reducible apply not_isBlank_append
  all_goals first
    | exact not_isBlank_cons rfl
    | exact nofun

theorem plannedTools_admissible (available : Bool) :
    forall plan, plan ∈ plannedTools available -> plan.Admissible := by
  intro plan hplan
  have hall := plannedTools_subset available hplan
  exact ⟨List.all_eq_true.mp plannedTools_names plan hall, plannedTools_described plan hall⟩

theorem plannedTools_nodup (available : Bool) :
    ((plannedTools available).map ToolPlan.name).Nodup := by
  cases available <;> decide +kernel

structure Planned (py : Builtins) (available : Bool) (contracts : List (CapabilityContract py)) :
    Prop where
  published : List.Forall₂ (ToolPlan.Publishes py) (plannedTools available) contracts
  registered : forall (site : Site) (operations : OperationsAdapter),
    ServerRuntime.operationsAvailability site operations = .ok available ->
      ServerRuntime.registerTools site operations =
        (Registering.registerMany contracts >>= fun _ => pure available)

section

variable {py : Builtins}

theorem exists_availability (site : Site) (operations : OperationsAdapter) :
    exists available,
      ServerRuntime.operationsAvailability site operations = .ok available := by
  unfold ServerRuntime.operationsAvailability executableAvailable
  split
  · exact ⟨_, rfl⟩
  · exact ⟨_, rfl⟩

theorem registerOperationsTools_eq {available : Bool} {contracts : List (CapabilityContract py)}
    (h : List.Forall₂ (ToolPlan.Publishes py) (operationsPlans available) contracts) :
    registerOperationsTools available =
      (Registering.registerMany contracts >>= fun _ => pure available) := by
  cases available with
  | false =>
      cases h
      rfl
  | true =>
      rw [← Registering.forM_publishes readOnlyPlan h]
      rfl

theorem registerGovernanceRefTools_eq {ping mark : CapabilityContract py}
    (hping : ToolPlan.Publishes py pingLowRiskPlan ping)
    (hmark : ToolPlan.Publishes py applyMarkPlan mark) :
    registerGovernanceRefTools =
      (Registering.registerMany [ping, mark] >>= fun _ => pure 2) := by
  have hbuilt : toolContract py pingLowRiskDefinition .lowRisk = .ok ping := hping.built
  have hbuiltMark : toolContract py applyMarkDefinition .mutation true = .ok mark := hmark.built
  rw [registerGovernanceRefTools, hbuilt, hbuiltMark]
  rfl

theorem exists_planned (hpy : KnowsAsciiWords py) (available : Bool) :
    exists contracts, Planned py available contracts := by
  have hall : forall plans : List ToolPlan, (forall plan, plan ∈ plans ->
      plan ∈ plannedTools available) ->
        exists contracts, List.Forall₂ (ToolPlan.Publishes py) plans contracts := by
    intro plans hplans
    apply ToolPlan.exists_publishes_all hpy
    intro plan hplan
    exact plannedTools_admissible available plan (hplans plan hplan)
  rcases hall (docsToolDefinitions.map readOnlyPlan)
    (by intro plan h; simp [plannedTools, leadingPlans, h]) with ⟨docs, hdocs⟩
  rcases hall (githubToolDefinitions.map readOnlyPlan)
    (by intro plan h; simp [plannedTools, leadingPlans, h]) with ⟨github, hgithub⟩
  rcases hall (registryToolDefinitions.map readOnlyPlan)
    (by intro plan h; simp [plannedTools, leadingPlans, h]) with ⟨registry, hregistry⟩
  rcases hall (runflareCapabilityDefinitions.map runflarePlan)
    (by intro plan h; simp [plannedTools, leadingPlans, h]) with ⟨runflare, hrunflare⟩
  rcases hall (operationsPlans available)
    (by intro plan h; simp [plannedTools, h]) with ⟨operations, hoperations⟩
  rcases hall [pingLowRiskPlan] (by simp [plannedTools]) with ⟨pings, hpings⟩
  rcases hall [applyMarkPlan] (by simp [plannedTools]) with ⟨marks, hmarks⟩
  cases hpings with
  | @cons _ ping _ _ hping hnil =>
      cases hnil
      cases hmarks with
      | @cons _ mark _ _ hmark hnil =>
          cases hnil
          refine ⟨docs ++ github ++ registry ++ runflare ++ operations ++ [ping, mark], ?_, ?_⟩
          · have hreference : List.Forall₂ (ToolPlan.Publishes py)
                [pingLowRiskPlan, applyMarkPlan] [ping, mark] :=
              .cons hping (.cons hmark .nil)
            exact List.rel_append (List.rel_append (List.rel_append (List.rel_append
              (List.rel_append hdocs hgithub) hregistry) hrunflare) hoperations) hreference
          · intro site adapter havailable
            simp only [Registering.registerMany_append, bind_assoc]
            rw [ServerRuntime.registerTools, havailable, Registering.construct_ok, pure_bind,
              registerOperationsTools_eq hoperations, registerGovernanceRefTools_eq hping hmark, registerDocsTools, registerGithubTools,
              registerRegistryTools, registerRunflareCapabilities,
              ← Registering.forM_publishes readOnlyPlan hdocs,
              ← Registering.forM_publishes readOnlyPlan hgithub,
              ← Registering.forM_publishes readOnlyPlan hregistry,
              ← Registering.forM_publishes runflarePlan hrunflare]
            simp only [bind_assoc, pure_bind]
            rfl

/-!
## Completing the catalog
-/

namespace ToolRiskCatalog

theorem complete_eq_ok {derived : ToolRiskCatalog} {names : List String}
    (hnames : forall name, name ∈ names -> Text.isBlank name = false ∧
      derived.entries.get? name ≠ none) (catalog : ToolRiskCatalog) :
    exists out, complete derived names catalog = .ok out ∧
      forall name, out.entries.get? name = (catalog.entries.get? name).or
        (if name ∈ names then derived.entries.get? name else none) := by
  induction names generalizing catalog with
  | nil => exact ⟨catalog, rfl, by simp⟩
  | cons first rest ih =>
      rcases hnames first List.mem_cons_self with ⟨hblank, hfirst⟩
      rcases Option.ne_none_iff_exists'.mp hfirst with ⟨risk, hrisk⟩
      have hrest : forall name, name ∈ rest -> Text.isBlank name = false ∧
          derived.entries.get? name ≠ none :=
        fun name hname => hnames name (List.mem_cons_of_mem first hname)
      cases hknown : catalog.entries.get? first with
      | some old =>
          rcases ih hrest catalog with ⟨out, hout, hentries⟩
          refine ⟨out, by rw [complete, hknown, if_pos (by rfl), hout], ?_⟩
          intro name
          rw [hentries]
          cases decEq first name with
          | isTrue hname =>
              subst hname
              simp [hknown]
          | isFalse hname => simp [Ne.symm hname]
      | none =>
          have hresolve : derived.resolve first = .ok ⟨first, risk, true, hblank⟩ := by
            rw [resolve_eq_ok_iff, hrisk]
            exact ⟨rfl, rfl, rfl⟩
          have hregister : catalog.register first risk = .ok ⟨catalog.entries.set first risk⟩ := by
            rw [register, if_neg (by simp [hblank])]
          rcases ih hrest ⟨catalog.entries.set first risk⟩ with ⟨out, hout, hentries⟩
          refine ⟨out, ?_, ?_⟩
          · rw [complete, hknown, if_neg (by decide), hresolve, ok_bind, hregister, ok_bind, hout]
          · intro name
            rw [hentries, Dict.get?_set]
            cases decEq first name with
            | isTrue hname =>
                subst hname
                simp [hknown, hrisk]
            | isFalse hname => simp [hname, Ne.symm hname]

end ToolRiskCatalog

theorem complete_catalogFromRegistry (registry : CapabilityRegistry py)
    (given : ToolRiskCatalog -> ToolRiskCatalog) :
    exists derived catalog, catalogFromRegistry registry = .ok derived ∧
      (forall name, derived.entries.get? name =
        (registry.items.get? name).map CapabilityContract.catalogRisk) ∧
      ToolRiskCatalog.complete derived derived.knownNames (given derived) = .ok catalog ∧
      forall name, catalog.entries.get? name = ((given derived).entries.get? name).or
        ((registry.items.get? name).map CapabilityContract.catalogRisk) := by
  rcases catalogFromRegistry_eq_ok registry with ⟨derived, hderived, hentries⟩
  have hnames : forall name, name ∈ derived.knownNames -> Text.isBlank name = false ∧
      derived.entries.get? name ≠ none := by
    intro name hname
    have hsome := (Dict.get?_isSome_iff derived.entries name).mpr hname
    refine ⟨?_, Option.isSome_iff_ne_none.mp hsome⟩
    rw [hentries, Option.isSome_map] at hsome
    rcases Option.isSome_iff_exists.mp hsome with ⟨contract, hcontract⟩
    rw [← registry.keyed name contract hcontract]
    exact contract.name_not_blank
  rcases ToolRiskCatalog.complete_eq_ok hnames (given derived) with ⟨catalog, hcatalog, hknown⟩
  refine ⟨derived, catalog, hderived, hentries, hcatalog, ?_⟩
  intro name
  rw [hknown, ← hentries]
  congr 1
  split
  · rfl
  · rename_i hmissing
    rw [ToolRiskCatalog.knownNames, ← Dict.get?_isSome_iff] at hmissing
    simpa using Eq.symm (Option.not_isSome_iff_eq_none.mp hmissing)

/-!
## Assembling a runtime
-/

/-- The settings, if they are supplied, passed the checks of the constructor. -/
def CreateArgs.Accepted (py : Builtins) (args : CreateArgs) : Prop :=
  forall settings, args.config = some settings ->
    ServerConfig.postInit py settings.config.args = .ok settings.config

def CreateArgs.settings (args : CreateArgs) : ServerSettings :=
  args.config.getD .default

theorem CreateArgs.Accepted.timeout {args : CreateArgs} (h : args.Accepted py) :
    0 < args.settings.config.args.requestTimeoutSeconds := by
  unfold settings
  cases hconfig : args.config with
  | none => decide
  | some settings =>
      have haccepted := h settings hconfig
      rcases ServerConfig.postInit_cases py settings.config.args with
        ⟨e, _, herror⟩ | ⟨config, hnone, _, _, _⟩
      · rw [haccepted] at herror
        cases herror
      · exact (bounds_of_refusal hnone).2.1.1

namespace ServerRuntime

theorem exists_docs {args : CreateArgs} (h : args.Accepted py) :
    exists docs, resolveDocs args args.settings = .ok docs := by
  unfold resolveDocs
  cases args.docsAdapter with
  | some docs => exact ⟨docs, rfl⟩
  | none =>
      have hpositive := h.timeout
      unfold YasinDocsAdapter.init
      rw [dif_neg (Int.not_le.mpr hpositive), dif_pos (by decide)]
      exact ⟨_, rfl⟩

theorem exists_github {args : CreateArgs} (h : args.Accepted py) :
    exists gh, resolveGithub args args.settings = .ok gh := by
  unfold resolveGithub
  cases args.githubAdapter with
  | some gh => exact ⟨gh, rfl⟩
  | none =>
      have hpositive := h.timeout
      unfold GitHubAdapter.init
      rw [dif_neg (Int.not_le.mpr hpositive)]
      exact ⟨_, rfl⟩

def shape (tool : ServedTool) : String × Bool := (tool.name, tool.body.mutates)

def servedShapes (operations runflare : Bool) : List (String × Bool) :=
  [toolListDocs, toolGetDoc, toolSearchDocs, toolListAdrs, toolGetAdr, toolListArchitecture,
      toolGetProjectArchitecture, toolGetRepo, toolListIssues, toolGetIssue, toolListPrs,
      toolGetPr, toolListCommits, toolCommitStatus, toolListWorkflows, toolListBranches,
      toolListReleases, toolListProjects, toolGetProject, toolListDeps,
      toolGovPingLowRisk].map (fun name => (name, false)) ++
    [(toolGovApplyMark, true)] ++
    (if runflare = true then
      [(toolStatus, false), (toolEvents, false), (toolLogs, false), (toolDeploy, true),
        (toolStart, true), (toolRestart, true)]
    else []) ++
    if operations = true then
      [toolListServices, toolServiceStatus, toolHealth, toolDiagnostics].map
        fun name => (name, false)
    else []

/-- What a runtime is made of, once its registrations went through. -/
structure Assembled (args : CreateArgs) (operations : Bool) (registry : CapabilityRegistry py)
    (runtime : ServerRuntime) : Prop where
  config : runtime.config = args.settings
  operationsAvailable : runtime.operationsAvailable = operations
  tools : runtime.tools.map shape = servedShapes operations runtime.runflareAvailable
  known : forall name, runtime.governance.catalog.entries.get? name =
    ((args.governance.map GovernanceGate.catalog).bind fun catalog =>
      catalog.entries.get? name).or
        ((registry.items.get? name).map CapabilityContract.catalogRisk)
  supplied : forall gate, args.governance = some gate ->
    runtime.governance = { gate with catalog := runtime.governance.catalog }
  policy : args.governance = none ->
    runtime.governance.policy = args.policy.getD DefaultConservativePolicy.evaluate
  secured : args.governance = none ->
    runtime.governance.securityConfig = some args.settings.config ∧
      runtime.governance.approvalStore = true

theorem assemble_cases {args : CreateArgs} (haccepted : args.Accepted py) (site : Site)
    (docs : YasinDocsAdapter) (adapter : OperationsAdapter) (operations : Bool)
    (registry : CapabilityRegistry py) :
    (exists e, setUpRunflare py site = .error e ∧
      assemble site args args.settings docs adapter operations registry = .error e) ∨
    exists runtime runflare, setUpRunflare py site = .ok runflare ∧
      assemble site args args.settings docs adapter operations registry = .ok runtime ∧
      runtime.runflareAvailable = runflare.isSome ∧
      Assembled args operations registry runtime := by
  cases hrunflare : setUpRunflare py site with
  | error e => exact Or.inl ⟨e, rfl, by rw [assemble, hrunflare, error_bind]⟩
  | ok runflare =>
      rcases complete_catalogFromRegistry registry
        (fun derived => (resolveGate args args.settings derived).catalog) with
        ⟨derived, catalog, hderived, hrisks, hcatalog, hknown⟩
      rcases exists_github haccepted with ⟨gh, hgithub⟩
      let gate := resolveGate args args.settings derived
      refine Or.inr ⟨serve args.settings docs gh runflare adapter operations
        { gate with catalog := catalog }, runflare, rfl, ?_, rfl, ?_⟩
      · rw [assemble, hrunflare, ok_bind, hderived, ok_bind]
        dsimp only
        rw [hcatalog, ok_bind, hgithub, ok_bind]
      · constructor
        · rfl
        · rfl
        · cases runflare <;> cases operations <;> rfl
        · intro name
          refine (hknown name).trans ?_
          cases hgate : args.governance with
          | some gate => simp [resolveGate, hgate]
          | none => simp [resolveGate, hgate, hrisks]
        · intro given hgate
          simp [serve, gate, resolveGate, hgate]
        · intro hgate
          simp [serve, gate, resolveGate, hgate]
        · intro hgate
          simp [serve, gate, resolveGate, hgate]

/-!
## Whole creations
-/

/-- The first planned name that is taken, and what was registered before it. -/
structure Clash (registry : CapabilityRegistry py) (contracts : List (CapabilityContract py))
    (name : String) (registered : CapabilityRegistry py) : Prop where
  taken : exists first clash rest, contracts = first ++ clash :: rest ∧ clash.name = name ∧
    registry.Fresh first ∧ registered.items.get? name ≠ none ∧
    (Registering.registerMany first).outcome registry = (.ok (), registered)

/-- How a creation ends, and which registry it leaves. -/
inductive Creation (py : Builtins) (site : Site) (args : CreateArgs) (available : Bool)
    (contracts : List (CapabilityContract py)) (registry : CapabilityRegistry py) :
    Except PyException ServerRuntime -> CapabilityRegistry py -> Prop where
  | clash {name : String} {registered : CapabilityRegistry py} :
      Clash registry contracts name registered ->
      Creation py site args available contracts registry
        (.error (CapabilityRegistry.alreadyRegistered py name)) registered
  | setUpFailed {e : PyException} {registered : CapabilityRegistry py} :
      registry.Fresh contracts ->
      registered.items.entries =
        registry.items.entries ++ contracts.map (fun contract => (contract.name, contract)) ->
      setUpRunflare py site = .error e ->
      Creation py site args available contracts registry (.error e) registered
  | created {runtime : ServerRuntime} {registered : CapabilityRegistry py}
      {runflare : Option Runflare.RunflareCLI} :
      registry.Fresh contracts ->
      registered.items.entries =
        registry.items.entries ++ contracts.map (fun contract => (contract.name, contract)) ->
      setUpRunflare py site = .ok runflare ->
      runtime.runflareAvailable = runflare.isSome ->
      Assembled args available registered runtime ->
      Creation py site args available contracts registry (.ok runtime) registered

theorem outcome_create {site : Site} {args : CreateArgs} (haccepted : args.Accepted py)
    {available : Bool}
    (havailable : operationsAvailability site (args.operationsAdapter.getD {}) = .ok available)
    {contracts : List (CapabilityContract py)} (hplanned : Planned py available contracts)
    (registry : CapabilityRegistry py) :
    exists docs, resolveDocs args args.settings = .ok docs ∧
      (create site args : Registering py ServerRuntime).outcome registry =
        match (Registering.registerMany contracts).outcome registry with
        | (.error e, registered) => (.error e, registered)
        | (.ok (), registered) =>
            (assemble site args args.settings docs (args.operationsAdapter.getD {}) available
              registered, registered) := by
  rcases exists_docs haccepted with ⟨docs, hdocs⟩
  refine ⟨docs, hdocs, ?_⟩
  have hresolved : resolveDocs args (args.config.getD .default) = .ok docs := hdocs
  rw [create, hresolved, Registering.construct_ok, pure_bind,
    hplanned.registered site _ havailable, bind_assoc]
  rcases hrun : (Registering.registerMany contracts).outcome registry with ⟨result, registered⟩
  cases result with
  | error e => exact Registering.outcome_bind_error hrun
  | ok value => exact Registering.outcome_bind_ok hrun

/-- Every creation with accepted settings ends in one of these ways. -/
theorem creation_of_create (hpy : KnowsAsciiWords py) (site : Site) {args : CreateArgs}
    (haccepted : args.Accepted py) (registry : CapabilityRegistry py) :
    exists available contracts,
      operationsAvailability site (args.operationsAdapter.getD {}) = .ok available ∧
      Planned py available contracts ∧
      Creation py site args available contracts registry
        ((create site args : Registering py ServerRuntime).outcome registry).1
        ((create site args : Registering py ServerRuntime).outcome registry).2 := by
  rcases exists_availability site (args.operationsAdapter.getD {}) with ⟨available, havailable⟩
  rcases exists_planned hpy available with ⟨contracts, hplanned⟩
  refine ⟨available, contracts, havailable, hplanned, ?_⟩
  rcases outcome_create haccepted havailable hplanned registry with ⟨docs, _, houtcome⟩
  rw [houtcome]
  cases Classical.em (registry.Fresh contracts) with
  | inl hfresh =>
      rcases CapabilityRegistry.run_registerMany_of_fresh hfresh with
        ⟨registered, hrun, hentries⟩
      have hregistered : (Registering.registerMany contracts).outcome registry =
          (.ok (), registered) := hrun
      rw [hregistered]
      dsimp only
      rcases assemble_cases haccepted site docs (args.operationsAdapter.getD {}) available
        registered with ⟨e, hsetUp, herror⟩ | ⟨runtime, runflare, hsetUp, hok, hflag, hassembled⟩
      · rw [herror]
        exact .setUpFailed hfresh hentries hsetUp
      · rw [hok]
        exact .created hfresh hentries hsetUp hflag hassembled
  | inr hclash =>
      rcases CapabilityRegistry.run_registerMany_of_not_fresh hclash with
        ⟨first, clash, rest, registered, hsplit, hfirst, hrun, htaken, hfail⟩
      have hfailed : (Registering.registerMany contracts).outcome registry =
          (.error (CapabilityRegistry.alreadyRegistered py clash.name), registered) := hfail
      rw [hfailed]
      exact .clash ⟨first, clash, rest, hsplit, rfl, hfirst, htaken, hrun⟩

end ServerRuntime

end

end YasinMcp
