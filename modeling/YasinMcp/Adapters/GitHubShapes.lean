import Mathlib.Tactic.Tauto
import YasinMcp.Adapters.GitHubRoutes

/-!
# Shapes of the answers of GitHub

What an answer has to be for an operation to read it.  The lists are looked at before
they are gone over; the objects in them, the objects that are answers themselves and
the numbers are not.  A reading returns where the answer has its shape, and otherwise
raises an exception of the interpreter.
-/

namespace YasinMcp

open Foundation

namespace GitHub

/-- The member, or the empty object in place of one that is not true, has this shape. -/
def NestedIs (v : Value) (name : String) (p : Value -> Prop) : Prop :=
  forall found, memberOrEmpty v name = .ok found -> p found

/-- The first items of a list have this shape; of other values nothing is asked. -/
def ItemsAre (limit : Int) (p : Value -> Prop) (v : Value) : Prop :=
  forall items, v = .list items -> forall item, item ∈ items.take limit.toNat -> p item

def IsRepositoryShape (v : Value) : Prop :=
  HasTexts v ["full_name", "default_branch", "html_url"]

def IsIssueShape (v : Value) : Prop :=
  HasTexts v ["title", "state", "html_url"]

/-- A number that is converted to an integer, and shown. -/
def IsNumbered (unicode : UnicodeData) (v : Value) : Prop :=
  MemberIs v "number" (IsIntable unicode) ∧ MemberIs v "number" IsStrable

/-- An item that mentions a pull request is not looked at any further. -/
def IsIssueItemShape (unicode : UnicodeData) (v : Value) : Prop :=
  IsIterable v ∧
    (v.hasName "pull_request" = .ok false -> IsIssueShape v ∧ IsNumbered unicode v)

def IsPullRequestItemShape (unicode : UnicodeData) (v : Value) : Prop :=
  IsIssueShape v ∧ IsNumbered unicode v

def IsCommitStatusShape (unicode : UnicodeData) (v : Value) : Prop :=
  HasTexts v ["state"] ∧ MemberIs v "total_count" (IsIntable unicode)

def IsCommitShape (v : Value) : Prop :=
  HasTexts v ["sha", "html_url"] ∧
    NestedIs v "commit" fun commit =>
      HasTexts commit ["message"] ∧ NestedIs commit "author" fun author =>
        HasTexts author ["name", "date"]

def IsBranchShape (v : Value) : Prop :=
  HasTexts v ["name"] ∧ NestedIs v "commit" fun commit => HasTexts commit ["sha"]

def IsReleaseShape (v : Value) : Prop :=
  HasTexts v ["tag_name", "name", "html_url"]

def IsSearchResultShape (v : Value) : Prop :=
  HasTexts v ["name", "path", "html_url"] ∧
    MemberIs v "repository" fun repository => HasTexts repository ["full_name"]

def ListsIn (name : String) (limit : Int) (p : Value -> Prop) (v : Value) : Prop :=
  IsDict v ∧ MemberIs v name (ItemsAre limit p)

section

variable {py : Builtins} {unicode : UnicodeData} {owner repository : String}

theorem checks_orText (v : Value) (name : String) :
    Checks (do let found ← member v name; (found.orElse (.str "")).toStr py)
      (IsDict v ∧ MemberIs v name IsStrable) := by
  refine ((checks_member v name .none).bind_value fun found _ =>
    checks_toStr py (found.orElse (.str ""))).congr (and_congr_right fun hdict => ?_)
  rw [← forall_member_iff hdict (show IsStrable .none from rfl)]
  exact forall₂_congr fun found _ => isStrable_orElse_iff fun _ => rfl

/-!
## Readings
-/

theorem checks_readRepository (payload : Value) :
    Checks (readRepository py owner repository payload) (IsRepositoryShape payload) := by
  refine ((checks_memberText payload _ _).bind fun _ _ =>
    (checks_memberText payload _ _).bind fun _ _ =>
    (checks_member payload _ _).bind fun _ _ =>
    (checks_memberTrue payload _).bind fun _ _ =>
    (checks_memberText payload _ _).bind fun _ _ => checks_ok _).congr ?_
  simp only [IsRepositoryShape, HasTexts, List.forall_mem_cons, List.not_mem_nil]
  tauto

theorem checks_readIssue {number : Int} (hnumber : ¬ Json.BeyondDigits number) (payload : Value) :
    Checks (readIssue py owner repository number payload) (IsIssueShape payload) := by
  refine ((checks_memberText payload _ _).bind fun _ _ =>
    (checks_memberText payload _ _).bind fun _ _ =>
    (checks_memberText payload _ _).bind fun _ _ =>
    (checks_intText number).bind fun _ _ => checks_ok _).congr ?_
  simp only [IsIssueShape, HasTexts, List.forall_mem_cons, List.not_mem_nil]
  tauto

theorem checks_readPullRequest {number : Int} (hnumber : ¬ Json.BeyondDigits number)
    (payload : Value) :
    Checks (readPullRequest py owner repository number payload) (IsIssueShape payload) := by
  refine ((checks_memberText payload _ _).bind fun _ _ =>
    (checks_memberText payload _ _).bind fun _ _ =>
    (checks_memberTrue payload _).bind fun _ _ =>
    (checks_memberText payload _ _).bind fun _ _ =>
    (checks_intText number).bind fun _ _ => checks_ok _).congr ?_
  simp only [IsIssueShape, HasTexts, List.forall_mem_cons, List.not_mem_nil]
  tauto

theorem checks_shownNumber (v : Value) :
    Checks (do (← member v "number" (.int 0)).toStr py)
      (IsDict v ∧ MemberIs v "number" IsStrable) := by
  have hzero : IsStrable (.int 0) := isStrable_of_not_truthy rfl
  exact ((checks_member v "number" (.int 0)).bind_value fun found _ =>
    checks_toStr py found).congr (and_congr_right fun hdict => forall_member_iff hdict hzero)

theorem checks_readPullRequestItem (item : Value) :
    Checks (readPullRequestItem py unicode owner repository item)
      (IsPullRequestItemShape unicode item) := by
  refine ((checks_memberInt item _).bind fun _ _ =>
    (checks_memberText item _ _).bind fun _ _ =>
    (checks_memberText item _ _).bind fun _ _ =>
    (checks_memberTrue item _).bind fun _ _ =>
    (checks_memberText item _ _).bind fun _ _ =>
    (checks_shownNumber item).bind_nested fun _ _ => checks_ok _).congr ?_
  simp only [IsPullRequestItemShape, IsIssueShape, IsNumbered, HasTexts, List.forall_mem_cons,
    List.not_mem_nil]
  tauto

theorem checks_readListedIssue (item : Value) :
    Checks (readListedIssue py unicode owner repository item)
      (IsIssueShape item ∧ IsNumbered unicode item) := by
  refine ((checks_memberInt item _).bind fun _ _ =>
    (checks_memberText item _ _).bind fun _ _ =>
    (checks_memberText item _ _).bind fun _ _ =>
    (checks_memberText item _ _).bind fun _ _ =>
    (checks_shownNumber item).bind_nested fun _ _ => checks_ok _).congr ?_
  simp only [IsIssueShape, IsNumbered, HasTexts, List.forall_mem_cons, List.not_mem_nil]
  tauto

theorem checks_readIssueItem (item : Value) :
    Checks (readIssueItem py unicode owner repository item) (IsIssueItemShape unicode item) := by
  refine ((checks_hasName item "pull_request").branch (checks_ok none)
    (checks_readListedIssue item).map).congr (and_congr_right fun _ => ?_)
  exact and_iff_right fun _ => trivial

theorem checks_readCommitStatus {sha : String} (payload : Value) :
    Checks (readCommitStatus py unicode owner repository sha payload)
      (IsCommitStatusShape unicode payload) := by
  refine ((checks_memberText payload _ _).bind fun _ _ =>
    (checks_memberInt payload _).bind fun _ _ => checks_ok _).congr ?_
  simp only [IsCommitStatusShape, HasTexts, List.forall_mem_cons, List.not_mem_nil]
  tauto

theorem checks_readWorkflowRun (item : Value) :
    Checks (readWorkflowRun owner repository item) (IsDict item) := by
  refine ((checks_member item _ _).bind fun _ _ =>
    (checks_member item _ _).bind fun _ _ =>
    (checks_member item _ _).bind fun _ _ =>
    (checks_member item _ _).bind fun _ _ =>
    (checks_member item _ _).bind fun _ _ => checks_ok _).congr ?_
  tauto

theorem checks_readCommit (item : Value) :
    Checks (readCommit py owner repository item) (IsCommitShape item) := by
  refine ((checks_memberText item _ _).bind fun sha _ =>
    (checks_memberOrEmpty item _).bind_value fun commit _ =>
    (checks_memberOrEmpty commit _).bind_value fun author _ =>
    (checks_memberText commit _ _).bind fun message _ =>
    (checks_orText author _).bind_nested fun name _ =>
    (checks_orText author _).bind_nested fun date _ =>
    (checks_memberText item _ _).bind fun _ _ => checks_ok _).congr ?_
  by_cases hitem : IsDict item
  · rcases (checks_memberOrEmpty item "commit").returns hitem with ⟨commit, hcommit⟩
    by_cases hdict : IsDict commit
    · rcases (checks_memberOrEmpty commit "author").returns hdict with ⟨author, hauthor⟩
      simp only [IsCommitShape, NestedIs, HasTexts, List.forall_mem_cons, List.not_mem_nil,
        hcommit, hauthor, Except.ok.injEq, forall_eq']
      tauto
    · simp only [IsCommitShape, NestedIs, HasTexts, hcommit, Except.ok.injEq, forall_eq']
      tauto
  · simp only [IsCommitShape, HasTexts]
    tauto

theorem checks_readBranch (item : Value) :
    Checks (readBranch py owner repository item) (IsBranchShape item) := by
  refine ((checks_memberText item _ _).bind fun _ _ =>
    (checks_memberTrue item _).bind fun _ _ =>
    (checks_memberOrEmpty item _).bind_value fun commit _ =>
    (checks_memberText commit _ _).bind fun _ _ => checks_ok _).congr ?_
  simp only [IsBranchShape, NestedIs, HasTexts, List.forall_mem_singleton, and_true]
  tauto

theorem checks_releaseName (item : Value) :
    Checks (releaseName py item)
      (IsDict item ∧ MemberIs item "name" IsStrable ∧
        forall named, member item "name" = .ok named -> named.truthy = false ->
          MemberIs item "tag_name" IsStrable) := by
  refine ((checks_member item "name" .none).bind_value fun named _ =>
    (checks_member item "tag_name" .none).bind_value fun tagged _ =>
    checks_toStr py ((named.orElse tagged).orElse (.str ""))).congr
      (and_congr_right fun hdict => ?_)
  have hnone : IsStrable .none := rfl
  rcases (checks_member item "name" .none).returns hdict with ⟨named, hnamed⟩
  rcases (checks_member item "tag_name" .none).returns hdict with ⟨tagged, htagged⟩
  rw [← forall_member_iff hdict hnone, ← forall_member_iff hdict hnone]
  simp only [hnamed, htagged, Except.ok.injEq, forall_eq', and_iff_right hdict]
  rw [isStrable_orElse_iff (w := .str "") fun _ => rfl]
  cases htruthy : named.truthy with
  | true => simp [Value.orElse, htruthy]
  | false => simp [Value.orElse, htruthy, isStrable_of_not_truthy htruthy]

theorem checks_readRelease (item : Value) :
    Checks (readRelease py owner repository item) (IsReleaseShape item) := by
  refine ((checks_memberText item _ _).bind fun _ _ =>
    (checks_releaseName item).bind fun _ _ =>
    (checks_memberTrue item _).bind fun _ _ =>
    (checks_memberTrue item _).bind fun _ _ =>
    (checks_memberText item _ _).bind fun _ _ =>
    (checks_member item _ _).bind fun _ _ => checks_ok _).congr ?_
  simp only [IsReleaseShape, HasTexts, List.forall_mem_cons, List.not_mem_nil]
  tauto

theorem checks_readSearchResult (item : Value) :
    Checks (readSearchResult py item) (IsSearchResultShape item) := by
  refine ((checks_memberText item _ _).bind fun _ _ =>
    (checks_memberText item _ _).bind fun _ _ =>
    (checks_member item _ _).bind_value fun repository _ =>
    (checks_memberText repository _ _).bind fun _ _ =>
    (checks_memberText item _ _).bind fun _ _ => checks_ok _).congr ?_
  by_cases hitem : IsDict item
  · have hempty : HasTexts (.dict []) ["full_name"] := by
      refine ⟨trivial, fun name _ found hfound => ?_⟩
      cases hfound
    rcases (checks_member item "repository" (.dict [])).returns hitem with ⟨found, hfound⟩
    rw [IsSearchResultShape,
      ← forall_member_iff (p := fun found => HasTexts found ["full_name"]) hitem hempty]
    simp only [HasTexts, List.forall_mem_cons, List.not_mem_nil, hfound, Except.ok.injEq,
      forall_eq']
    tauto
  · simp only [IsSearchResultShape, HasTexts]
    tauto

/-!
## Lists
-/

theorem answersFor_readList_iff {a : Type} {shape : String} {limit : Int}
    {read : Value -> Except PyException a} {p : Value -> Prop}
    (h : forall item, Checks (read item) (p item)) (payload : Value) :
    AnswersFor (readList shape limit read payload) <-> ItemsAre limit p payload := by
  cases payload with
  | list items =>
      rw [readList, (checks_mapM fun item _ => h item).answersFor_iff]
      constructor
      · intro hitems other hother
        cases hother
        exact hitems
      · intro hitems
        exact hitems items rfl
  | _ =>
      refine iff_of_true ((answersFor_error_iff _).mpr trivial) ?_
      intro items hitems
      cases hitems

theorem answersFor_listIn_iff {a : Type} {shape name : String} {limit : Int}
    {read : Value -> Except PyException a} {p : Value -> Prop}
    (h : forall item, Checks (read item) (p item)) (payload : Value) :
    AnswersFor (do let found ← member payload name (.list []); readList shape limit read found) <->
      ListsIn name limit p payload := by
  rw [answersFor_bind_iff, (checks_member payload name _).answersFor_iff, ListsIn]
  refine and_congr_right fun hdict => ?_
  have hnil : ItemsAre limit p (.list []) := by
    intro items hitems item hitem
    cases hitems
    exact absurd hitem (by simp)
  rw [← forall_member_iff hdict hnil]
  exact forall₂_congr fun found _ => answersFor_readList_iff h found

end

end GitHub

open GitHub GitHubAdapter

/-!
## Operations
-/

namespace RepositoryOperation

def Shape (unicode : UnicodeData) : RepositoryOperation -> Value -> Prop
  | .getRepository => IsRepositoryShape
  | .getIssue _ => IsIssueShape
  | .listIssues limit => ItemsAre limit (IsIssueItemShape unicode)
  | .getPullRequest _ => IsIssueShape
  | .listPullRequests limit => ItemsAre limit (IsPullRequestItemShape unicode)
  | .getCommitStatus _ => IsCommitStatusShape unicode
  | .listWorkflowRuns limit => ListsIn "workflow_runs" limit IsDict
  | .listCommits limit => ItemsAre limit IsCommitShape
  | .listBranches limit => ItemsAre limit IsBranchShape
  | .listReleases limit => ItemsAre limit IsReleaseShape

def number? : RepositoryOperation -> Option Int
  | .getIssue number => some number
  | .getPullRequest number => some number
  | _ => none

/-- A number that is accepted can be put into the path. -/
def Printable (operation : RepositoryOperation) (owner repository : String) : Prop :=
  forall number, operation.number? = some number ->
    validateRepo owner repository = .ok () -> 1 ≤ number -> ¬ Json.BeyondDigits number

section

variable {py : Builtins} {unicode : UnicodeData} {owner repository : String}

theorem answersFor_validateRepo : AnswersFor (validateRepo owner repository) := by
  unfold validateRepo
  split
  · exact (answersFor_error_iff _).mpr trivial
  · exact answersFor_ok _

theorem answersFor_validateLimit (limit : Int) : AnswersFor (validateLimit limit) := by
  unfold validateLimit
  split
  · exact answersFor_ok _
  · exact (answersFor_error_iff _).mpr trivial

theorem answersFor_validateSha (sha : String) : AnswersFor (validateSha sha) := by
  unfold validateSha
  split
  · exact (answersFor_error_iff _).mpr trivial
  · exact answersFor_ok _

theorem answersFor_listPath (endpoint : String) (limit : Int) :
    AnswersFor (listPath owner repository endpoint limit) :=
  answersFor_bind_iff.mpr ⟨answersFor_validateRepo, fun _ _ =>
    answersFor_bind_iff.mpr ⟨answersFor_validateLimit limit, fun _ _ => answersFor_ok _⟩⟩

theorem answersFor_numberPath_iff (what endpoint : String) (number : Int) :
    AnswersFor (numberPath what owner repository endpoint number) <->
      (validateRepo owner repository = .ok () -> 1 ≤ number -> ¬ Json.BeyondDigits number) := by
  have htext : AnswersFor (do
      let text ← intText number
      .ok (repositoryPath owner repository (endpoint ++ text))) <-> ¬ Json.BeyondDigits number :=
    ((checks_intText number).bind fun _ _ => checks_ok _).answersFor_iff.trans
      (and_iff_left trivial)
  rw [numberPath, answersFor_bind_iff, and_iff_right answersFor_validateRepo]
  refine ⟨fun h hrepo hpositive => ?_, fun h _ hrepo => ?_⟩
  · have hchecked := (answersFor_bind_iff.mp (h () hrepo)).2 ()
    rw [validateNumber, if_neg (Int.not_lt.mpr hpositive)] at hchecked
    exact htext.mp (hchecked rfl)
  · rw [validateNumber]
    by_cases hpositive : number < 1
    · rw [if_pos hpositive, error_bind]
      exact (answersFor_error_iff _).mpr trivial
    · rw [if_neg hpositive, ok_bind]
      exact htext.mpr (h hrepo (Int.not_lt.mp hpositive))

theorem answersFor_path_iff (operation : RepositoryOperation) :
    AnswersFor (operation.path owner repository) <-> operation.Printable owner repository := by
  have hnone : operation.number? = none -> operation.Printable owner repository := by
    intro h number hnumber
    rw [h] at hnumber
    cases hnumber
  cases operation with
  | getRepository =>
      exact iff_of_true (answersFor_bind_iff.mpr ⟨answersFor_validateRepo, fun _ _ =>
        answersFor_ok _⟩) (hnone rfl)
  | getCommitStatus sha =>
      exact iff_of_true (answersFor_bind_iff.mpr ⟨answersFor_validateRepo, fun _ _ =>
        answersFor_bind_iff.mpr ⟨answersFor_validateSha sha, fun _ _ => answersFor_ok _⟩⟩)
        (hnone rfl)
  | getIssue number | getPullRequest number =>
      refine (answersFor_numberPath_iff _ _ number).trans ⟨fun h other hother => ?_, fun h => ?_⟩
      · cases hother
        exact h
      · exact h number rfl
  | listIssues limit | listPullRequests limit | listWorkflowRuns limit | listCommits limit
  | listBranches limit | listReleases limit =>
      exact iff_of_true (answersFor_listPath _ limit) (hnone rfl)

theorem short_of_path {operation : RepositoryOperation} {text : String}
    (h : operation.path owner repository = .ok text) {number : Int}
    (hnumber : operation.number? = some number) : ¬ Json.BeyondDigits number := by
  have hshort : forall {what endpoint : String} {n : Int},
      numberPath what owner repository endpoint n = .ok text -> ¬ Json.BeyondDigits n := by
    intro what endpoint n hpath
    rcases bind_eq_ok hpath with ⟨_, _, hpath⟩
    rcases bind_eq_ok hpath with ⟨_, _, hpath⟩
    rcases bind_eq_ok hpath with ⟨shown, hshown, _⟩
    exact (checks_intText n).of_ok hshown
  cases operation with
  | getIssue n | getPullRequest n =>
      cases hnumber
      exact hshort h
  | _ => cases hnumber

/-- Reading an answer returns or raises an error of the application when it has the shape. -/
theorem answersFor_read_iff (operation : RepositoryOperation)
    (hshort : forall number, operation.number? = some number -> ¬ Json.BeyondDigits number)
    (payload : Value) :
    AnswersFor (operation.read py unicode owner repository payload) <->
      operation.Shape unicode payload := by
  cases operation with
  | getRepository =>
      exact (checks_readRepository payload).map.answersFor_iff
  | getIssue number =>
      exact (checks_readIssue (hshort number rfl) payload).map.answersFor_iff
  | getPullRequest number =>
      exact (checks_readPullRequest (hshort number rfl) payload).map.answersFor_iff
  | getCommitStatus sha =>
      exact (checks_readCommitStatus payload).map.answersFor_iff
  | listIssues limit =>
      refine answersFor_map_iff.trans (answersFor_bind_iff.trans ?_)
      rw [answersFor_readList_iff checks_readIssueItem]
      exact and_iff_left fun _ _ => answersFor_ok _
  | listWorkflowRuns limit =>
      exact answersFor_map_iff.trans (answersFor_listIn_iff checks_readWorkflowRun payload)
  | listPullRequests limit =>
      exact answersFor_map_iff.trans (answersFor_readList_iff checks_readPullRequestItem payload)
  | listCommits limit =>
      exact answersFor_map_iff.trans (answersFor_readList_iff checks_readCommit payload)
  | listBranches limit =>
      exact answersFor_map_iff.trans (answersFor_readList_iff checks_readBranch payload)
  | listReleases limit =>
      exact answersFor_map_iff.trans (answersFor_readList_iff checks_readRelease payload)

end

end RepositoryOperation

inductive GitHubCall where
  | onRepository (operation : RepositoryOperation) (owner repository : String)
  | searchCode (query : String) (limit : Int)

namespace GitHubCall

def run (py : Builtins) (unicode : UnicodeData) (adapter : GitHubAdapter) :
    GitHubCall -> Fetch GitHubResult
  | .onRepository operation owner repository =>
      operation.run py unicode adapter owner repository
  | .searchCode query limit => do
      let results ← adapter.searchCode py query limit
      .pure (.results results)

def Shape (unicode : UnicodeData) : GitHubCall -> Value -> Prop
  | .onRepository operation _ _ => operation.Shape unicode
  | .searchCode _ limit => ListsIn "items" limit IsSearchResultShape

def Printable : GitHubCall -> Prop
  | .onRepository operation owner repository => operation.Printable owner repository
  | .searchCode _ _ => True

section

variable {a : Type} {py : Builtins} {unicode : UnicodeData} {adapter : GitHubAdapter}

theorem answersFor_fetch_iff {path : Except PyException String}
    {read : Value -> Except PyException a} {shape : Value -> Prop}
    (hread : forall text, path = .ok text -> forall payload,
      AnswersFor (read payload) <-> shape payload)
    {trace : List (Program.Event UpstreamAnswer)} {result : Except PyException a}
    (h : Program.Emits (adapter.fetch path read) trace (.ofExcept result)) :
    AnswersFor result <->
      AnswersFor path ∧ forall event, event ∈ trace -> GoodAnswer shape event.2 := by
  cases hpath : path with
  | error e =>
      rw [GitHubAdapter.fetch_of_error hpath] at h
      rcases Program.emits_ofExcept_ended (show Program.Emits (.ofExcept (.error e)) trace
        (.ofExcept result) from h) with ⟨htrace, hresult⟩
      subst htrace hresult
      rw [answersFor_error_iff, answersFor_error_iff]
      exact (and_iff_left fun event hevent => absurd hevent List.not_mem_nil).symm
  | ok text =>
      rw [GitHubAdapter.fetch_of_ok hpath] at h
      rcases Program.emits_perform_ended h with ⟨answer, rest, htrace, hrest⟩
      rcases Program.emits_ofExcept_ended hrest with ⟨hnil, hresult⟩
      subst hnil hresult htrace
      rw [answersFor_answer_iff (hread text hpath), and_iff_right (answersFor_ok text)]
      simp

theorem answersFor_run_iff (call : GitHubCall)
    {trace : List (Program.Event UpstreamAnswer)} {result : Except PyException GitHubResult}
    (h : Program.Emits (call.run py unicode adapter) trace (.ofExcept result)) :
    AnswersFor result <->
      call.Printable ∧ forall event, event ∈ trace -> GoodAnswer (call.Shape unicode) event.2 := by
  cases call with
  | onRepository operation owner repository =>
      rw [run, RepositoryOperation.run_eq] at h
      rw [Printable, ← RepositoryOperation.answersFor_path_iff]
      exact answersFor_fetch_iff (fun text hpath => operation.answersFor_read_iff fun number =>
        RepositoryOperation.short_of_path hpath) h
  | searchCode query limit =>
      rw [run, GitHubAdapter.searchCode, GitHubAdapter.fetch_bind_pure] at h
      refine (answersFor_fetch_iff (fun _ _ payload => answersFor_map_iff.trans
        (answersFor_listIn_iff checks_readSearchResult payload)) h).trans (and_congr_left' ?_)
      refine iff_of_true ?_ trivial
      split
      · exact (answersFor_error_iff _).mpr trivial
      · exact answersFor_bind_iff.mpr
          ⟨RepositoryOperation.answersFor_validateLimit limit, fun _ _ => answersFor_ok _⟩

end

end GitHubCall

end YasinMcp
