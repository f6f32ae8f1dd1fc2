import YasinMcp.Foundation.Machine
import YasinMcp.Governance.Types

/-!
# In-memory approval store

The store maps opaque tokens to grants and remembers which single-use grants
were consumed.  Issuing and presenting a token are atomic under the store's lock,
so the store is a machine whose operations are these two calls.
-/

namespace YasinMcp

open Foundation

inductive ApprovalStatus where
  | granted
  | missing
  | invalid
  | expired
  | replayed
  | mismatch
deriving DecidableEq, Repr

def ApprovalStatus.value : ApprovalStatus -> String
  | .granted => "granted"
  | .missing => "missing"
  | .invalid => "invalid"
  | .expired => "expired"
  | .replayed => "replayed"
  | .mismatch => "mismatch"

/-- Microseconds since the first representable date. -/
abbrev Instant := Nat

/-- The last representable instant, at the end of the year 9999. -/
def datetimeMax : Instant := 315537897599999999

structure ApprovalGrant where
  approvalId : String
  toolName : String
  subjectId : Option String
  requestId : Option String
  projectId : Option String
  expiresAt : Instant
  singleUse : Bool
deriving DecidableEq

def ApprovalGrant.isExpired (grant : ApprovalGrant) (now : Instant) : Bool :=
  grant.expiresAt ≤ now

structure ApprovalValidationResult where
  status : ApprovalStatus
  grant : Option ApprovalGrant := none
  reasonCode : String
deriving DecidableEq

structure InMemoryApprovalStore where
  entries : Dict String (ApprovalGrant × Bool)
deriving DecidableEq

structure IssueRequest where
  toolName : String
  subjectId : Option String := none
  requestId : Option String := none
  projectId : Option String := none
  ttlSeconds : Int := 300
  singleUse : Bool := true
deriving DecidableEq

/-- The error for a life time that leads past the last instant, or is itself too long. -/
def ttlOverflow (ttlSeconds : Int) : PyException :=
  let days := ttlSeconds / 86400
  if 2147483647 < days then .overflowError "Python int too large to convert to C int"
  else if 999999999 < days then
    .overflowError ("days=" ++ toString days ++ "; must have magnitude <= 999999999")
  else .overflowError "date value out of range"

def IssueRequest.grant (request : IssueRequest) (now : Instant) (approvalId : String) :
    Except PyException ApprovalGrant :=
  if Text.isBlank request.toolName = true then
    .error (validationError "approval tool_name must be non-empty"
      [("reason_code", .str "approval_tool_required")])
  else if request.ttlSeconds ≤ 0 then
    .error (validationError "approval ttl_seconds must be positive"
      [("reason_code", .str "approval_ttl_invalid")])
  else if datetimeMax < now + request.ttlSeconds.toNat * 1000000 then
    .error (ttlOverflow request.ttlSeconds)
  else
    .ok
      { approvalId := approvalId
        toolName := Text.strip request.toolName
        subjectId := request.subjectId
        requestId := request.requestId
        projectId := request.projectId
        expiresAt := now + request.ttlSeconds.toNat * 1000000
        singleUse := request.singleUse }

/-- What a presentation is checked against: the call that presents the token. -/
structure Presentation where
  token : Option String
  toolName : String
  context : Option GovernanceContext
  subjectId : Option String
deriving DecidableEq

def presentedToken : Option String -> Option String
  | none => none
  | some token => if Text.isBlank token = true then none else some (Text.strip token)

namespace Presentation

def presented (p : Presentation) : Option String :=
  presentedToken p.token

def expectedSubject (p : Presentation) : Option String :=
  match p.subjectId with
  | some subject => some subject
  | none => p.context.bind GovernanceContext.agentId

def requestId (p : Presentation) : Option String :=
  p.context.bind GovernanceContext.requestId

def projectId (p : Presentation) : Option String :=
  p.context.bind GovernanceContext.projectId

/-- The subjects are both present and differ; an absent subject conflicts with none. -/
def subjectConflict (p : Presentation) (grant : ApprovalGrant) : Bool :=
  match grant.subjectId, p.expectedSubject with
  | some subject, some expected => subject ≠ expected
  | _, _ => false

/-- The grant carries a request and the call's own is another or absent. -/
def requestConflict (p : Presentation) (grant : ApprovalGrant) : Bool :=
  match grant.requestId with
  | none => false
  | some request => p.requestId ≠ some request

def projectConflict (p : Presentation) (grant : ApprovalGrant) : Bool :=
  match grant.projectId with
  | none => false
  | some project => p.projectId ≠ some project

end Presentation

namespace InMemoryApprovalStore

def empty : InMemoryApprovalStore := ⟨Dict.empty⟩

/-- The answer for a known token: the early returns of the source, in order. -/
def judge (grant : ApprovalGrant) (consumed : Bool) (p : Presentation) (now : Instant) :
    ApprovalValidationResult :=
  if consumed = true ∧ grant.singleUse = true then
    ⟨.replayed, some grant, "approval_replayed"⟩
  else if grant.isExpired now = true then ⟨.expired, some grant, "approval_expired"⟩
  else if grant.toolName ≠ p.toolName then
    ⟨.mismatch, some grant, "approval_tool_mismatch"⟩
  else if p.subjectConflict grant = true then
    ⟨.mismatch, some grant, "approval_subject_mismatch"⟩
  else if p.requestConflict grant = true then
    ⟨.mismatch, some grant, "approval_request_mismatch"⟩
  else if p.projectConflict grant = true then
    ⟨.mismatch, some grant, "approval_project_mismatch"⟩
  else ⟨.granted, some grant, "approval_granted"⟩

/-- The consumed flag after an answer: only a granted single-use token sets it. -/
def consumedAfter (grant : ApprovalGrant) (consumed : Bool)
    (result : ApprovalValidationResult) : Bool :=
  if result.status = .granted ∧ grant.singleUse = true then true else consumed

def validateAndConsume (store : InMemoryApprovalStore) (p : Presentation) (now : Instant) :
    ApprovalValidationResult × InMemoryApprovalStore :=
  match p.presented with
  | none => (⟨.missing, none, "approval_missing"⟩, store)
  | some token =>
      match store.entries.get? token with
      | none => (⟨.invalid, none, "approval_unknown"⟩, store)
      | some (grant, consumed) =>
          let result := judge grant consumed p now
          if result.status = .granted ∧ grant.singleUse = true then
            (result, ⟨store.entries.set token (grant, true)⟩)
          else (result, store)

/-- Issue under a token the generator drew; an exception leaves the store as it was. -/
def issue (store : InMemoryApprovalStore) (request : IssueRequest) (now : Instant)
    (token approvalId : String) : Except PyException String × InMemoryApprovalStore :=
  match request.grant now approvalId with
  | .error e => (.error e, store)
  | .ok grant => (.ok token, ⟨store.entries.set token (grant, false)⟩)

/-!
## Granted answers
-/

/-- Everything a granted answer says about the grant and the presentation. -/
structure Grants (grant : ApprovalGrant) (consumed : Bool) (p : Presentation)
    (now : Instant) : Prop where
  fresh : ¬ (consumed = true ∧ grant.singleUse = true)
  unexpired : now < grant.expiresAt
  tool : grant.toolName = p.toolName
  subject : p.subjectConflict grant = false
  request : p.requestConflict grant = false
  project : p.projectConflict grant = false

theorem judge_grant (grant : ApprovalGrant) (consumed : Bool) (p : Presentation)
    (now : Instant) : (judge grant consumed p now).grant = some grant := by
  unfold judge
  repeat' split
  all_goals rfl

theorem judge_status_ne_missing (grant : ApprovalGrant) (consumed : Bool)
    (p : Presentation) (now : Instant) : (judge grant consumed p now).status ≠ .missing := by
  unfold judge
  repeat' split
  all_goals simp

theorem judge_status_granted_iff (grant : ApprovalGrant) (consumed : Bool)
    (p : Presentation) (now : Instant) :
    (judge grant consumed p now).status = .granted <-> Grants grant consumed p now := by
  unfold judge ApprovalGrant.isExpired
  constructor
  · intro h
    split at h
    · cases h
    rename_i hfresh
    split at h
    · cases h
    rename_i hexpired
    split at h
    · cases h
    rename_i htool
    split at h
    · cases h
    rename_i hsubject
    split at h
    · cases h
    rename_i hrequest
    split at h
    · cases h
    rename_i hproject
    exact ⟨hfresh, by simpa using hexpired, not_not.mp htool,
      by simpa using hsubject, by simpa using hrequest, by simpa using hproject⟩
  · intro hgrants
    rcases hgrants with ⟨hfresh, hexpired, htool, hsubject, hrequest, hproject⟩
    have hnow : ¬ grant.expiresAt ≤ now := Nat.not_le.mpr hexpired
    rw [if_neg hfresh]
    simp [hnow, htool, hsubject, hrequest, hproject]

theorem validateAndConsume_congr (store : InMemoryApprovalStore) {p q : Presentation}
    (htoken : p.token = q.token) (htool : p.toolName = q.toolName)
    (hsubject : p.expectedSubject = q.expectedSubject)
    (hrequest : p.requestId = q.requestId) (hproject : p.projectId = q.projectId)
    (now : Instant) : store.validateAndConsume p now = store.validateAndConsume q now := by
  have hjudge : forall grant consumed, judge grant consumed p now = judge grant consumed q now := by
    intro grant consumed
    have hsubjects : p.subjectConflict grant = q.subjectConflict grant := by
      rw [Presentation.subjectConflict, hsubject, Presentation.subjectConflict]
    have hrequests : p.requestConflict grant = q.requestConflict grant := by
      rw [Presentation.requestConflict, hrequest, Presentation.requestConflict]
    have hprojects : p.projectConflict grant = q.projectConflict grant := by
      rw [Presentation.projectConflict, hproject, Presentation.projectConflict]
    rw [judge, htool, hsubjects, hrequests, hprojects, judge]
  have hpresented : p.presented = q.presented := by
    rw [Presentation.presented, htoken, Presentation.presented]
  simp only [validateAndConsume, hpresented, hjudge]

theorem judge_consumed {grant : ApprovalGrant} (hsingle : grant.singleUse = true)
    (p : Presentation) (now : Instant) :
    judge grant true p now = ⟨.replayed, some grant, "approval_replayed"⟩ := by
  simp [judge, hsingle]

theorem validateAndConsume_answer {store : InMemoryApprovalStore} {p : Presentation}
    {token : String} {grant : ApprovalGrant} {consumed : Bool}
    (hp : p.presented = some token)
    (hentry : store.entries.get? token = some (grant, consumed)) (now : Instant) :
    (store.validateAndConsume p now).1 = judge grant consumed p now := by
  simp only [validateAndConsume, hp, hentry]
  split <;> rfl

theorem validateAndConsume_of_presented (store : InMemoryApprovalStore) {p : Presentation}
    {token : String} (hp : p.presented = some token) (now : Instant) :
    (store.validateAndConsume p now).1.status ≠ .missing ∧
      ((store.validateAndConsume p now).1.status = .granted ->
        exists grant, (store.validateAndConsume p now).1.grant = some grant) := by
  cases hentry : store.entries.get? token with
  | none => simp [validateAndConsume, hp, hentry]
  | some entry =>
      rcases entry with ⟨grant, consumed⟩
      rw [validateAndConsume_answer hp hentry]
      exact ⟨judge_status_ne_missing grant consumed p now,
        fun _ => ⟨grant, judge_grant grant consumed p now⟩⟩

theorem validateAndConsume_of_absent (store : InMemoryApprovalStore) {p : Presentation}
    (hp : p.presented = none) (now : Instant) :
    store.validateAndConsume p now = (⟨.missing, none, "approval_missing"⟩, store) := by
  simp only [validateAndConsume, hp]

/-!
## The store as a machine
-/

inductive StoreOp where
  | issue (request : IssueRequest) (now : Instant) (token approvalId : String)
  | present (p : Presentation) (now : Instant)

inductive StoreAnswer where
  | issued (outcome : Except PyException String)
  | validated (result : ApprovalValidationResult)

def machine : Machine InMemoryApprovalStore StoreOp StoreAnswer where
  step store op :=
    match op with
    | .issue request now token approvalId =>
        let (outcome, store) := store.issue request now token approvalId
        (.issued outcome, store)
    | .present p now =>
        let (result, store) := store.validateAndConsume p now
        (.validated result, store)

abbrev Cell := Option (ApprovalGrant × Bool)

/--
The ledger: one cell for each token.  Issuing opens the cell of the drawn token
and presenting reads, and may consume, the cell of the presented one.
-/
def ledger : Cells String Cell StoreOp StoreAnswer where
  address
    | .issue request now token approvalId =>
        match request.grant now approvalId with
        | .error _ => none
        | .ok _ => some token
    | .present p _ => p.presented
  idle
    | .issue request now token approvalId =>
        .issued ((request.grant now approvalId).map fun _ => token)
    | .present _ _ => .validated ⟨.missing, none, "approval_missing"⟩
  touch cell op :=
    match op with
    | .issue request now token approvalId =>
        match request.grant now approvalId with
        | .error e => (.issued (.error e), cell)
        | .ok grant => (.issued (.ok token), some (grant, false))
    | .present p now =>
        match cell with
        | none => (.validated ⟨.invalid, none, "approval_unknown"⟩, none)
        | some (grant, consumed) =>
            let result := judge grant consumed p now
            (.validated result, some (grant, consumedAfter grant consumed result))

def cells (store : InMemoryApprovalStore) : String -> Cell :=
  fun token => store.entries.get? token

theorem cells_set (store : InMemoryApprovalStore) (token : String)
    (entry : ApprovalGrant × Bool) :
    cells ⟨store.entries.set token entry⟩ =
      Function.update (cells store) token (some entry) := by
  funext other
  by_cases h : other = token
  · subst h
    simp [cells]
  · rw [Function.update_of_ne h]
    exact Dict.get?_set_of_ne store.entries entry (Ne.symm h)

/-- The store refines the ledger: same answers, and the same cells after each call. -/
theorem machine_simulates_ledger : Machine.Simulates machine ledger.machine cells where
  answer := by
    intro store op
    cases op with
    | issue request now token approvalId =>
        cases hgrant : request.grant now approvalId with
        | error e => simp [machine, issue, Cells.machine, ledger, hgrant, Except.map]
        | ok grant => simp [machine, issue, Cells.machine, ledger, hgrant]
    | present p now =>
        cases hp : p.presented with
        | none => simp [machine, validateAndConsume, Cells.machine, ledger, hp]
        | some token =>
            cases hentry : store.entries.get? token with
            | none =>
                simp [machine, validateAndConsume, Cells.machine, ledger, hp, cells, hentry]
            | some entry =>
                rcases entry with ⟨grant, consumed⟩
                simp only [machine, validateAndConsume, Cells.machine, ledger, hp, cells,
                  hentry]
                split <;> rfl
  next := by
    intro store op
    cases op with
    | issue request now token approvalId =>
        cases hgrant : request.grant now approvalId with
        | error e => simp [machine, issue, Cells.machine, ledger, hgrant]
        | ok grant => simp [machine, issue, Cells.machine, ledger, hgrant, cells_set]
    | present p now =>
        cases hp : p.presented with
        | none => simp [machine, validateAndConsume, Cells.machine, ledger, hp]
        | some token =>
            cases hentry : store.entries.get? token with
            | none =>
                have hcell : cells store token = none := hentry
                simp [machine, validateAndConsume, Cells.machine, ledger, hp, hentry, hcell]
            | some entry =>
                rcases entry with ⟨grant, consumed⟩
                have hcell : cells store token = some (grant, consumed) := hentry
                simp only [machine, validateAndConsume, Cells.machine, ledger, hp, hentry,
                  hcell]
                split
                · rename_i hconsume
                  simp [cells_set, consumedAfter, hconsume]
                · rename_i hkeep
                  simp [consumedAfter, hkeep, ← hcell, Function.update_eq_self]

end InMemoryApprovalStore

end YasinMcp
