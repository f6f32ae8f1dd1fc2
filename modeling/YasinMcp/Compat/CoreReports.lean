import YasinMcp.Adapters.Requester
import YasinMcp.Compat.CoreContracts
import YasinMcp.Config.Loading

/-!
# Core reports

Health and status in the shape of the shared ecosystem contract.  A report is built from
texts that can say anything, and a state is never guessed from them.  What the validators
accept is what the builders give back when they are given its members again.
-/

namespace YasinMcp

open Foundation

def coreHealthStates : List String :=
  ["DEGRADED", "HEALTHY", "UNHEALTHY", "UNKNOWN"]

def coreStatusValues : List String :=
  ["FAILED", "IDLE", "RUNNING", "STALE", "STOPPED", "SUCCESS", "UNKNOWN"]

def healthyTokens : List String :=
  ["healthy", "ok", "up"]

def degradedTokens : List String :=
  ["degraded"]

def unhealthyTokens : List String :=
  ["unhealthy", "failed", "failure", "error", "down"]

def coerceHealthStateCompatible (value : String) : String :=
  let token := Text.lower (Text.strip value)
  if token ∈ healthyTokens then "HEALTHY"
  else if token ∈ degradedTokens then "DEGRADED"
  else if token ∈ unhealthyTokens then "UNHEALTHY"
  else "UNKNOWN"

def coerceStatusValueCompatible (upper : UpperCase) (value : String) : String :=
  let token := upperText upper (Text.strip value)
  if token ∈ coreStatusValues then token else "UNKNOWN"

def coercePid : Value -> Value
  | .int n => if n ≤ 0 then .none else .int n
  | _ => .none

/-!
## Validators
-/

def memberOf (data : Value) (name : String) : Value :=
  match data with
  | .dict entries => (Dict.lookupIn (Key.str name) entries).getD .none
  | _ => .none

def saysSomething : Value -> Bool
  | .str s => Text.strip s ≠ ""
  | _ => false

def isText : Value -> Bool
  | .str _ => true
  | _ => false

def isFlag : Value -> Bool
  | .bool _ => true
  | _ => false

def isMapping : Value -> Bool
  | .dict _ => true
  | _ => false

def isPid : Value -> Bool
  | .none => true
  | .int n => 0 < n
  | _ => false

def demand (holds : Bool) (message : String) : Except PyException Unit :=
  if holds then .ok () else .error (.valueError message)

def validateCoreHealthReport (py : Builtins) (data : Value) : Except PyException Unit := do
  demand (isMapping data) "HealthReport snapshot must be a dict."
  demand (saysSomething (memberOf data "service"))
    "HealthReport.service must be a non-empty string."
  let state ← (memberOf data "state").toStr py
  demand (state ∈ coreHealthStates)
    "HealthReport.state must be one of ['DEGRADED', 'HEALTHY', 'UNHEALTHY', 'UNKNOWN']."
  demand (isText (memberOf data "message")) "HealthReport.message must be a string."
  demand (isMapping (memberOf data "details")) "HealthReport.details must be a dict."

def validateCoreServiceStatus (py : Builtins) (data : Value) : Except PyException Unit := do
  demand (isMapping data) "ServiceStatus snapshot must be a dict."
  demand (saysSomething (memberOf data "name")) "ServiceStatus.name must be a non-empty string."
  let status ← (memberOf data "status").toStr py
  demand (status ∈ coreStatusValues)
    ("ServiceStatus.status must be one of ['FAILED', 'IDLE', 'RUNNING', 'STALE', 'STOPPED', " ++
      "'SUCCESS', 'UNKNOWN'].")
  demand (isPid (memberOf data "pid"))
    "ServiceStatus.pid must be a positive integer PID or None."
  demand (isFlag (memberOf data "running")) "ServiceStatus.running must be a bool."
  demand (isText (memberOf data "message")) "ServiceStatus.message must be a string."
  demand (isMapping (memberOf data "extra")) "ServiceStatus.extra must be a dict."

/-!
## Builders
-/

def healthReport (service state message : String) (details : List (Key × Value)) :
    List (Key × Value) :=
  [(.str "service", .str service), (.str "state", .str state), (.str "message", .str message),
    (.str "details", .dict details)]

def mcpHealthToCoreReport (py : Builtins) (service status : String) (message : String := "")
    (details : List (Key × Value) := []) : Except PyException (List (Key × Value)) :=
  if Text.strip service = "" then .error (.valueError "service must be a non-empty string.")
  else do
    let report :=
      healthReport (Text.strip service) (coerceHealthStateCompatible status) message details
    validateCoreHealthReport py (.dict report)
    .ok report

def serviceStatus (name status : String) (pid : Value) (running : Bool) (message : String)
    (extra : List (Key × Value)) : List (Key × Value) :=
  [(.str "name", .str name), (.str "status", .str status), (.str "pid", pid),
    (.str "running", .bool running), (.str "message", .str message), (.str "extra", .dict extra)]

def operationsResultToCoreStatus (py : Builtins) (upper : UpperCase) (name status : String)
    (running : Bool := false) (message : String := "") (pid : Value := .none)
    (extra : List (Key × Value) := []) : Except PyException (List (Key × Value)) :=
  if Text.strip name = "" then .error (.valueError "name must be a non-empty string.")
  else do
    let snapshot := serviceStatus (Text.strip name) (coerceStatusValueCompatible upper status)
      (coercePid pid) running message extra
    validateCoreServiceStatus py (.dict snapshot)
    .ok snapshot

/-!
## States and values
-/

theorem coerceHealthState_mem (value : String) :
    coerceHealthStateCompatible value ∈ coreHealthStates := by
  unfold coerceHealthStateCompatible
  dsimp only
  split
  · decide
  · split
    · decide
    · split <;> decide

theorem coerceHealthState_self {state : String} (h : state ∈ coreHealthStates) :
    coerceHealthStateCompatible state = state := by
  have hstates : coreHealthStates.Forall fun state =>
      coerceHealthStateCompatible state = state := by
    decide +kernel
  exact List.forall_iff_forall_mem.mp hstates state h

theorem coerceHealthState_healthy_iff (value : String) :
    coerceHealthStateCompatible value = "HEALTHY" <->
      Text.lower (Text.strip value) ∈ healthyTokens := by
  unfold coerceHealthStateCompatible
  dsimp only
  constructor
  · intro h
    split at h
    · assumption
    · split at h
      · exact absurd h (by decide)
      · split at h <;> exact absurd h (by decide)
  · intro h
    exact if_pos h

theorem coerceStatusValue_mem (upper : UpperCase) (value : String) :
    coerceStatusValueCompatible upper value ∈ coreStatusValues := by
  unfold coerceStatusValueCompatible
  dsimp only
  split
  · assumption
  · decide

theorem coerceStatusValue_self {upper : UpperCase} (hupper : KeepsCapitals upper) {status : String}
    (h : status ∈ coreStatusValues) : coerceStatusValueCompatible upper status = status := by
  have hcapitals : coreStatusValues.Forall fun status =>
      Text.strip status = status ∧ status.toList.all Char.isUpper = true := by
    decide +kernel
  rcases List.forall_iff_forall_mem.mp hcapitals status h with ⟨hstrip, hall⟩
  rw [coerceStatusValueCompatible, hstrip, upperText_capitals hupper hall]
  exact if_pos h

theorem coercePid_eq_self_iff (v : Value) : coercePid v = v <-> isPid v = true := by
  cases v with
  | int n =>
      rw [coercePid, isPid, decide_eq_true_eq]
      split
      · rename_i hnot
        constructor
        · intro h
          cases h
        · intro h
          omega
      · rename_i hpositive
        exact iff_of_true rfl (by omega)
  | none => exact iff_of_true rfl rfl
  | bool b => exact iff_of_false (fun h => by cases h) Bool.false_ne_true
  | float x => exact iff_of_false (fun h => by cases h) Bool.false_ne_true
  | str t => exact iff_of_false (fun h => by cases h) Bool.false_ne_true
  | list items => exact iff_of_false (fun h => by cases h) Bool.false_ne_true
  | tuple items => exact iff_of_false (fun h => by cases h) Bool.false_ne_true
  | dict entries => exact iff_of_false (fun h => by cases h) Bool.false_ne_true

theorem isPid_coercePid (v : Value) : isPid (coercePid v) = true := by
  cases v with
  | int n =>
      rw [coercePid]
      split
      · rfl
      · rename_i hpositive
        exact decide_eq_true (Int.not_le.mp hpositive)
  | _ => rfl

theorem coercePid_observed (v : Value) (h : coercePid v ≠ .none) : coercePid v = v := by
  cases v with
  | int n =>
      rw [coercePid] at h ⊢
      split at h
      · exact absurd rfl h
      · rename_i hpositive
        exact if_neg hpositive
  | _ => exact absurd rfl h

/-!
## What the validators accept
-/

theorem demand_eq_ok_iff (holds : Bool) (message : String) :
    demand holds message = .ok () <-> holds = true := by
  cases holds with
  | true => exact iff_of_true rfl rfl
  | false => exact iff_of_false (fun h => by cases h) Bool.false_ne_true

theorem demand_bind_iff (holds : Bool) (message : String) (next : Unit -> Except PyException Unit) :
    (demand holds message >>= next) = .ok () <-> holds = true ∧ next () = .ok () := by
  cases holds with
  | true => exact (and_iff_right rfl).symm
  | false => exact iff_of_false (fun h => by cases h) fun h => Bool.false_ne_true h.1

theorem text_bind_iff {x : Except PyException String} (next : String -> Except PyException Unit) :
    (x >>= next) = .ok () <-> exists s, x = .ok s ∧ next s = .ok () := by
  constructor
  · exact bind_eq_ok
  · intro h
    rcases h with ⟨s, hx, hnext⟩
    rw [hx]
    exact hnext

theorem saysSomething_iff (v : Value) :
    saysSomething v = true <-> exists s, v = .str s ∧ Text.strip s ≠ "" := by
  cases v <;> simp [saysSomething]

theorem isText_iff (v : Value) : isText v = true <-> exists s, v = .str s := by
  cases v <;> simp [isText]

theorem isFlag_iff (v : Value) : isFlag v = true <-> exists b, v = .bool b := by
  cases v <;> simp [isFlag]

theorem isMapping_iff (v : Value) : isMapping v = true <-> exists entries, v = .dict entries := by
  cases v <;> simp [isMapping]

theorem isMapping_of_memberOf {data : Value} {name text : String}
    (h : memberOf data name = .str text) : isMapping data = true := by
  cases data with
  | dict entries => rfl
  | _ => cases h

structure HealthMembers (py : Builtins) (data : Value) (service state message : String)
    (details : List (Key × Value)) : Prop where
  service : memberOf data "service" = .str service
  state : (memberOf data "state").toStr py = .ok state
  message : memberOf data "message" = .str message
  details : memberOf data "details" = .dict details

structure StatusMembers (py : Builtins) (data : Value) (name status : String) (pid : Value)
    (running : Bool) (message : String) (extra : List (Key × Value)) : Prop where
  name : memberOf data "name" = .str name
  status : (memberOf data "status").toStr py = .ok status
  pid : memberOf data "pid" = pid
  running : memberOf data "running" = .bool running
  message : memberOf data "message" = .str message
  extra : memberOf data "extra" = .dict extra

section

variable {py : Builtins} {upper : UpperCase} {data : Value}

theorem validateCoreHealthReport_iff :
    validateCoreHealthReport py data = .ok () <->
      exists service state message details,
        HealthMembers py data service state message details ∧ Text.strip service ≠ "" ∧
          state ∈ coreHealthStates := by
  rw [validateCoreHealthReport, demand_bind_iff, demand_bind_iff, text_bind_iff]
  simp only [demand_bind_iff, demand_eq_ok_iff, saysSomething_iff, isText_iff,
    isMapping_iff (memberOf _ _), decide_eq_true_eq]
  constructor
  · intro h
    rcases h with ⟨_, ⟨service, hservice, hsaid⟩, state, hstate, hmem, ⟨message, hmessage⟩, details,
      hdetails⟩
    exact ⟨service, state, message, details, ⟨hservice, hstate, hmessage, hdetails⟩, hsaid, hmem⟩
  · intro h
    rcases h with ⟨service, state, message, details, hmembers, hsaid, hmem⟩
    exact ⟨isMapping_of_memberOf hmembers.service, ⟨service, hmembers.service, hsaid⟩, state,
      hmembers.state, hmem, ⟨message, hmembers.message⟩, details, hmembers.details⟩

theorem validateCoreServiceStatus_iff :
    validateCoreServiceStatus py data = .ok () <->
      exists name status pid running message extra,
        StatusMembers py data name status pid running message extra ∧ Text.strip name ≠ "" ∧
          status ∈ coreStatusValues ∧ isPid pid = true := by
  rw [validateCoreServiceStatus, demand_bind_iff, demand_bind_iff, text_bind_iff]
  simp only [demand_bind_iff, demand_eq_ok_iff, saysSomething_iff, isText_iff, isFlag_iff,
    isMapping_iff (memberOf _ _), decide_eq_true_eq]
  constructor
  · intro h
    rcases h with ⟨_, ⟨name, hname, hsaid⟩, status, hstatus, hmem, hpid, ⟨running, hrunning⟩,
      ⟨message, hmessage⟩, extra, hextra⟩
    exact ⟨name, status, _, running, message, extra,
      ⟨hname, hstatus, rfl, hrunning, hmessage, hextra⟩, hsaid, hmem, hpid⟩
  · intro h
    rcases h with ⟨name, status, pid, running, message, extra, hmembers, hsaid, hmem, hpid⟩
    rw [← hmembers.pid] at hpid
    exact ⟨isMapping_of_memberOf hmembers.name, ⟨name, hmembers.name, hsaid⟩, status,
      hmembers.status, hmem, hpid, ⟨running, hmembers.running⟩, ⟨message, hmembers.message⟩,
      extra, hmembers.extra⟩

theorem mcpHealthToCoreReport_eq {service : String} (h : Text.strip service ≠ "")
    (status message : String) (details : List (Key × Value)) :
    mcpHealthToCoreReport py service status message details =
      .ok (healthReport (Text.strip service) (coerceHealthStateCompatible status) message
        details) := by
  have haccepted : validateCoreHealthReport py (.dict (healthReport (Text.strip service)
      (coerceHealthStateCompatible status) message details)) = .ok () := by
    apply validateCoreHealthReport_iff.mpr
    refine ⟨_, _, message, details, ⟨rfl, rfl, rfl, rfl⟩, ?_, coerceHealthState_mem status⟩
    rw [Text.strip_strip]
    exact h
  rw [mcpHealthToCoreReport, if_neg h]
  dsimp only
  rw [haccepted]
  rfl

theorem operationsResultToCoreStatus_eq {name : String} (h : Text.strip name ≠ "")
    (status : String) (running : Bool) (message : String) (pid : Value)
    (extra : List (Key × Value)) :
    operationsResultToCoreStatus py upper name status running message pid extra =
      .ok (serviceStatus (Text.strip name) (coerceStatusValueCompatible upper status)
        (coercePid pid) running message extra) := by
  have haccepted : validateCoreServiceStatus py (.dict (serviceStatus (Text.strip name)
      (coerceStatusValueCompatible upper status) (coercePid pid) running message extra)) =
        .ok () := by
    apply validateCoreServiceStatus_iff.mpr
    refine ⟨_, _, _, running, message, extra, ⟨rfl, rfl, rfl, rfl, rfl, rfl⟩, ?_,
      coerceStatusValue_mem upper status, isPid_coercePid pid⟩
    rw [Text.strip_strip]
    exact h
  rw [operationsResultToCoreStatus, if_neg h]
  dsimp only
  rw [haccepted]
  rfl

theorem healthReport_accepted_iff :
    validateCoreHealthReport py data = .ok () <->
      exists service state message details,
        HealthMembers py data service state message details ∧
          mcpHealthToCoreReport py service state message details =
            .ok (healthReport (Text.strip service) state message details) := by
  rw [validateCoreHealthReport_iff]
  constructor
  · intro h
    rcases h with ⟨service, state, message, details, hmembers, hsaid, hmem⟩
    refine ⟨service, state, message, details, hmembers, ?_⟩
    rw [mcpHealthToCoreReport_eq hsaid, coerceHealthState_self hmem]
  · intro h
    rcases h with ⟨service, state, message, details, hmembers, hbuilt⟩
    by_cases hsaid : Text.strip service = ""
    · rw [mcpHealthToCoreReport, if_pos hsaid] at hbuilt
      cases hbuilt
    · rw [mcpHealthToCoreReport_eq hsaid, Except.ok.injEq] at hbuilt
      have hstate : coerceHealthStateCompatible state = state := by
        simp only [healthReport, List.cons.injEq, Prod.mk.injEq, Value.str.injEq, true_and,
          and_true] at hbuilt
        exact hbuilt
      refine ⟨service, state, message, details, hmembers, hsaid, ?_⟩
      rw [← hstate]
      exact coerceHealthState_mem state

theorem serviceStatus_accepted_iff (hupper : KeepsCapitals upper) :
    validateCoreServiceStatus py data = .ok () <->
      exists name status pid running message extra,
        StatusMembers py data name status pid running message extra ∧
          operationsResultToCoreStatus py upper name status running message pid extra =
            .ok (serviceStatus (Text.strip name) status pid running message extra) := by
  rw [validateCoreServiceStatus_iff]
  constructor
  · intro h
    rcases h with ⟨name, status, pid, running, message, extra, hmembers, hsaid, hmem, hpid⟩
    refine ⟨name, status, pid, running, message, extra, hmembers, ?_⟩
    rw [operationsResultToCoreStatus_eq hsaid, coerceStatusValue_self hupper hmem,
      (coercePid_eq_self_iff pid).mpr hpid]
  · intro h
    rcases h with ⟨name, status, pid, running, message, extra, hmembers, hbuilt⟩
    by_cases hsaid : Text.strip name = ""
    · rw [operationsResultToCoreStatus, if_pos hsaid] at hbuilt
      cases hbuilt
    · rw [operationsResultToCoreStatus_eq hsaid, Except.ok.injEq] at hbuilt
      simp only [serviceStatus, List.cons.injEq, Prod.mk.injEq, Value.str.injEq, true_and,
        and_true] at hbuilt
      refine ⟨name, status, pid, running, message, extra, hmembers, hsaid, ?_,
        (coercePid_eq_self_iff pid).mp hbuilt.2⟩
      rw [← hbuilt.1]
      exact coerceStatusValue_mem upper status

end

theorem exists_coreReport (py : Builtins) {service : String} (h : Text.strip service ≠ "")
    (status message : String) (details : List (Key × Value)) :
    exists report, mcpHealthToCoreReport py service status message details = .ok report ∧
      (memberOf (.dict report) "state" = .str "HEALTHY" <->
        Text.lower (Text.strip status) ∈ healthyTokens) := by
  refine ⟨_, mcpHealthToCoreReport_eq h status message details, ?_⟩
  rw [← coerceHealthState_healthy_iff]
  exact iff_of_eq (Value.str.injEq _ _)

theorem exists_coreStatus (py : Builtins) (upper : UpperCase) {name : String}
    (h : Text.strip name ≠ "") (status : String) (running : Bool) (message : String) (pid : Value)
    (extra : List (Key × Value)) :
    exists snapshot,
      operationsResultToCoreStatus py upper name status running message pid extra =
        .ok snapshot ∧
      (memberOf (.dict snapshot) "pid" ≠ .none -> memberOf (.dict snapshot) "pid" = pid) :=
  ⟨_, operationsResultToCoreStatus_eq h status running message pid extra, coercePid_observed pid⟩

/--
The validators accept exactly the mappings whose members the builders give back unchanged,
with the name stripped.  The builders give a record of every service with a name; it is
healthy only when the status says so, and has no process that was not observed.
-/
theorem coreReports_exact (py : Builtins) {upper : UpperCase} (hupper : KeepsCapitals upper) :
    (forall data, validateCoreHealthReport py data = .ok () <->
      exists service state message details,
        HealthMembers py data service state message details ∧
          mcpHealthToCoreReport py service state message details =
            .ok (healthReport (Text.strip service) state message details)) ∧
    (forall data, validateCoreServiceStatus py data = .ok () <->
      exists name status pid running message extra,
        StatusMembers py data name status pid running message extra ∧
          operationsResultToCoreStatus py upper name status running message pid extra =
            .ok (serviceStatus (Text.strip name) status pid running message extra)) ∧
    (forall service status message details, Text.strip service ≠ "" ->
      exists report, mcpHealthToCoreReport py service status message details = .ok report ∧
        (memberOf (.dict report) "state" = .str "HEALTHY" <->
          Text.lower (Text.strip status) ∈ healthyTokens)) ∧
    forall name status running message pid extra, Text.strip name ≠ "" ->
      exists snapshot,
        operationsResultToCoreStatus py upper name status running message pid extra =
          .ok snapshot ∧
        (memberOf (.dict snapshot) "pid" ≠ .none -> memberOf (.dict snapshot) "pid" = pid) := by
  constructor
  · intro data
    exact healthReport_accepted_iff
  · constructor
    · intro data
      exact serviceStatus_accepted_iff hupper
    · constructor
      · intro service status message details h
        exact exists_coreReport py h status message details
      · intro name status running message pid extra h
        exact exists_coreStatus py upper h status running message pid extra

def idleWorker : List (Key × Value) :=
  serviceStatus "worker" "IDLE" (.int 7) false "" []

theorem coreReports_exact_idle :
    validateCoreServiceStatus plainBuiltins (.dict idleWorker) = .ok () := by
  apply ((coreReports_exact plainBuiltins
    (show KeepsCapitals (fun c => [c]) from fun _ _ => rfl)).2.1 _).mpr
  exact ⟨"worker", "IDLE", .int 7, false, "", [], ⟨rfl, rfl, rfl, rfl, rfl, rfl⟩, rfl⟩

end YasinMcp
