import YasinMcp.Governance.Types

/-!
# Risk catalog and default policy

The catalog maps registered names to risks; an unregistered name resolves to an
unknown identity.  The default policy allows low risks, denies high risks and
unknown tools, and allows a mutation only when the context metadata says granted.
-/

namespace YasinMcp

open Foundation

structure ToolRiskCatalog where
  entries : Dict String RiskLevel

namespace ToolRiskCatalog

def empty : ToolRiskCatalog := ⟨Dict.empty⟩

def register (catalog : ToolRiskCatalog) (name : String) (risk : RiskLevel) :
    Except PyException ToolRiskCatalog :=
  if Text.isBlank name = true then .error (.valueError "tool name must not be empty")
  else .ok ⟨catalog.entries.set name risk⟩

def resolve (catalog : ToolRiskCatalog) (name : String) : Except PyException ToolIdentity :=
  match catalog.entries.get? name with
  | none => ToolIdentity.postInit name .highRisk false
  | some risk => ToolIdentity.postInit name risk true

def Named (catalog : ToolRiskCatalog) : Prop :=
  forall name, name ∈ catalog.entries.keys -> Text.isBlank name = false

theorem resolve_eq_ok_iff (catalog : ToolRiskCatalog) (name : String)
    (tool : ToolIdentity) :
    catalog.resolve name = .ok tool <->
      tool.name = name ∧
        tool.risk = (catalog.entries.get? name).getD .highRisk ∧
        tool.known = (catalog.entries.get? name).isSome := by
  rcases tool with ⟨toolName, risk, known, hname⟩
  unfold resolve ToolIdentity.postInit
  constructor
  · intro h
    cases hentry : catalog.entries.get? name <;> rw [hentry] at h <;>
      by_cases hblank : Text.isBlank name = false <;> simp_all
  · intro hparts
    rcases hparts with ⟨htool, hrisk, hknown⟩
    subst htool
    cases hentry : catalog.entries.get? toolName <;> simp_all

theorem resolve_isOk_iff (catalog : ToolRiskCatalog) (name : String) :
    (exists tool, catalog.resolve name = .ok tool) <-> Text.isBlank name = false := by
  constructor
  · intro hresolved
    rcases hresolved with ⟨tool, htool⟩
    rw [← ((resolve_eq_ok_iff catalog name tool).mp htool).1]
    exact tool.name_not_blank
  · intro h
    exact ⟨⟨name, (catalog.entries.get? name).getD .highRisk,
      (catalog.entries.get? name).isSome, h⟩,
      (resolve_eq_ok_iff catalog name _).mpr ⟨rfl, rfl, rfl⟩⟩

theorem Named.resolve_of_get? {catalog : ToolRiskCatalog} (hnamed : catalog.Named)
    {name : String} {risk : RiskLevel} (h : catalog.entries.get? name = some risk) :
    exists tool, catalog.resolve name = .ok tool ∧
      tool.risk = risk ∧ tool.known = true := by
  have hkey : name ∈ catalog.entries.keys := by
    rw [← Dict.get?_isSome_iff, h]
    rfl
  refine ⟨⟨name, risk, true, hnamed name hkey⟩, ?_, rfl, rfl⟩
  rw [resolve_eq_ok_iff, h]
  exact ⟨rfl, rfl, rfl⟩

end ToolRiskCatalog

/-- What a policy returns: a decision, or an object that is none. -/
inductive PolicyAnswer where
  | decision (d : GovernanceDecision)
  | other (v : Value)

abbrev GovernancePolicy :=
  ToolIdentity -> Option GovernanceContext -> Except PyException PolicyAnswer

def saysGranted (extra : Extra) : Bool :=
  extra.get? "approval_status" = some (.str "granted")

namespace DefaultConservativePolicy

/-- The decision; the risk levels leave no further case that could be invalid. -/
def decisionFor (tool : ToolIdentity) (context : Option GovernanceContext) :
    GovernanceDecision :=
  if tool.known = false then .deny
  else
    match tool.risk with
    | .readOnly => .allow
    | .lowRisk => .allow
    | .mutation =>
        match context with
        | none => .approvalRequired
        | some c => if saysGranted c.extra then .allow else .approvalRequired
    | .highRisk => .deny

def evaluate : GovernancePolicy :=
  fun tool context => .ok (.decision (decisionFor tool context))

theorem decisionFor_eq_allow_iff (tool : ToolIdentity) (context : Option GovernanceContext) :
    decisionFor tool context = .allow <->
      tool.known = true ∧
        (tool.risk = .readOnly ∨ tool.risk = .lowRisk ∨
          tool.risk = .mutation ∧ exists c, context = some c ∧ saysGranted c.extra = true) := by
  unfold decisionFor
  cases hknown : tool.known with
  | false => simp
  | true =>
      cases hrisk : tool.risk with
      | readOnly => simp
      | lowRisk => simp
      | highRisk => simp
      | mutation =>
          cases context with
          | none => simp
          | some c => cases hgranted : saysGranted c.extra <;> simp [hgranted]

theorem decisionFor_congr {tool : ToolIdentity} {c d : GovernanceContext}
    (h : saysGranted c.extra = saysGranted d.extra) :
    decisionFor tool (some c) = decisionFor tool (some d) := by
  unfold decisionFor
  simp only [h]

theorem decisionFor_of_ne_mutation {tool : ToolIdentity} (h : tool.risk ≠ .mutation)
    (first second : Option GovernanceContext) :
    decisionFor tool first = decisionFor tool second := by
  unfold decisionFor
  cases hrisk : tool.risk with
  | mutation => exact absurd hrisk h
  | _ => rfl

theorem decisionFor_mutation {tool : ToolIdentity} (hknown : tool.known = true)
    (hrisk : tool.risk = .mutation) (c : GovernanceContext) :
    decisionFor tool (some c) =
      if saysGranted c.extra = true then .allow else .approvalRequired := by
  simp [decisionFor, hknown, hrisk]

end DefaultConservativePolicy

end YasinMcp
