import YasinMcp.Adapters.Docs
import YasinMcp.Adapters.GitHub
import YasinMcp.Foundation.UriSegments

/-!
# Routes of the GitHub adapter

The operations on a repository, each with the segments and the query it is meant to
request.  Owner, repository and commit are checked for a slash, a blank and two dots,
and go into the path as they are.  The request then is the one meant exactly when each
of them stands for itself in a segment.
-/

namespace YasinMcp

open Foundation GitHub

inductive RepositoryOperation where
  | getRepository
  | getIssue (number : Int)
  | listIssues (limit : Int)
  | getPullRequest (number : Int)
  | listPullRequests (limit : Int)
  | getCommitStatus (sha : String)
  | listWorkflowRuns (limit : Int)
  | listCommits (limit : Int)
  | listBranches (limit : Int)
  | listReleases (limit : Int)
deriving DecidableEq

inductive GitHubResult where
  | repository (info : RepositoryInfo)
  | issue (info : IssueInfo)
  | issues (infos : List IssueInfo)
  | pullRequest (info : PullRequestInfo)
  | pullRequests (infos : List PullRequestInfo)
  | commitStatus (status : CommitStatus)
  | workflowRuns (runs : List WorkflowRun)
  | commits (infos : List CommitInfo)
  | branches (infos : List BranchInfo)
  | releases (infos : List ReleaseInfo)
  | results (results : List SearchResult)

namespace GitHubAdapter

/-- Both adapters reach the same site. -/
abbrev site : Uri.Site := YasinDocsAdapter.site

section

variable {a b : Type} {adapter : GitHubAdapter}

theorem fetch_of_error {path : Except PyException String} {e : PyException}
    (h : path = .error e) (read : Value -> Except PyException a) :
    adapter.fetch path read = .raise e := by
  subst h
  rfl

theorem fetch_of_ok {path : Except PyException String} {text : String} (h : path = .ok text)
    (read : Value -> Except PyException a) :
    adapter.fetch path read =
      .perform (adapter.request text) fun answer => .ofExcept (answer >>= read) := by
  subst h
  rw [fetch, Program.ofExcept_ok, Program.pure_bind, get, requester, Program.perform_bind]
  congr 1
  funext answer
  cases answer with
  | error e => rfl
  | ok payload => rfl

theorem fetch_bind_pure (path : Except PyException String) (read : Value -> Except PyException a)
    (f : a -> b) :
    (adapter.fetch path read >>= fun x => .pure (f x)) =
      adapter.fetch path fun payload => (read payload).map f := by
  cases path with
  | error e => rfl
  | ok text =>
      rw [fetch_of_ok rfl, fetch_of_ok rfl, Program.perform_bind]
      congr 1
      funext answer
      cases answer with
      | error e => rfl
      | ok payload =>
          rw [ok_bind, ok_bind]
          cases read payload <;> rfl

theorem emits_fetch {path : Except PyException String} {read : Value -> Except PyException a}
    {trace : List (Program.Event UpstreamAnswer)} {rest : Fetch a}
    (h : Program.Emits (adapter.fetch path read) trace rest) :
    (trace = [] ∧ rest = adapter.fetch path read) ∨
      exists text answer, path = .ok text ∧ trace = [⟨adapter.request text, answer⟩] ∧
        rest = .ofExcept (answer >>= read) := by
  cases hpath : path with
  | error e =>
      rw [fetch_of_error hpath] at h
      cases h
      exact Or.inl ⟨rfl, by rw [fetch_of_error rfl]⟩
  | ok text =>
      rw [fetch_of_ok hpath] at h
      cases h with
      | refl => exact Or.inl ⟨rfl, (fetch_of_ok rfl read).symm⟩
      | perform hrest =>
          rcases Program.emits_ofExcept hrest with ⟨htrace, hended⟩
          subst htrace
          exact Or.inr ⟨text, _, rfl, rfl, hended⟩

end

end GitHubAdapter

namespace RepositoryOperation

open GitHubAdapter

section

variable (py : Builtins) (unicode : UnicodeData) (adapter : GitHubAdapter)
  (owner repository : String)

def run : RepositoryOperation -> Fetch GitHubResult
  | .getRepository => do
      let info ← adapter.getRepository py owner repository
      .pure (.repository info)
  | .getIssue number => do
      let info ← adapter.getIssue py owner repository number
      .pure (.issue info)
  | .listIssues limit => do
      let infos ← adapter.listIssues py unicode owner repository limit
      .pure (.issues infos)
  | .getPullRequest number => do
      let info ← adapter.getPullRequest py owner repository number
      .pure (.pullRequest info)
  | .listPullRequests limit => do
      let infos ← adapter.listPullRequests py unicode owner repository limit
      .pure (.pullRequests infos)
  | .getCommitStatus sha => do
      let status ← adapter.getCommitStatus py unicode owner repository sha
      .pure (.commitStatus status)
  | .listWorkflowRuns limit => do
      let runs ← adapter.listWorkflowRuns owner repository limit
      .pure (.workflowRuns runs)
  | .listCommits limit => do
      let infos ← adapter.listCommits py owner repository limit
      .pure (.commits infos)
  | .listBranches limit => do
      let infos ← adapter.listBranches py owner repository limit
      .pure (.branches infos)
  | .listReleases limit => do
      let infos ← adapter.listReleases py owner repository limit
      .pure (.releases infos)

def path : RepositoryOperation -> Except PyException String
  | .getRepository => do
      validateRepo owner repository
      .ok (repositoryPath owner repository "")
  | .getIssue number => numberPath "issue" owner repository "/issues/" number
  | .listIssues limit => listPath owner repository "/issues?state=all&" limit
  | .getPullRequest number => numberPath "pull request" owner repository "/pulls/" number
  | .listPullRequests limit => listPath owner repository "/pulls?state=all&" limit
  | .getCommitStatus sha => do
      validateRepo owner repository
      validateSha sha
      .ok (repositoryPath owner repository ("/commits/" ++ sha ++ "/status"))
  | .listWorkflowRuns limit => listPath owner repository "/actions/runs?" limit
  | .listCommits limit => listPath owner repository "/commits?" limit
  | .listBranches limit => listPath owner repository "/branches?" limit
  | .listReleases limit => listPath owner repository "/releases?" limit

def read : RepositoryOperation -> Value -> Except PyException GitHubResult
  | .getRepository, payload => (readRepository py owner repository payload).map .repository
  | .getIssue number, payload => (readIssue py owner repository number payload).map .issue
  | .listIssues limit, payload =>
      (readIssues py unicode owner repository limit payload).map .issues
  | .getPullRequest number, payload =>
      (readPullRequest py owner repository number payload).map .pullRequest
  | .listPullRequests limit, payload =>
      (readPullRequests py unicode owner repository limit payload).map .pullRequests
  | .getCommitStatus sha, payload =>
      (readCommitStatus py unicode owner repository sha payload).map .commitStatus
  | .listWorkflowRuns limit, payload =>
      (readWorkflowRuns owner repository limit payload).map .workflowRuns
  | .listCommits limit, payload => (readCommits py owner repository limit payload).map .commits
  | .listBranches limit, payload => (readBranches py owner repository limit payload).map .branches
  | .listReleases limit, payload => (readReleases py owner repository limit payload).map .releases

theorem run_eq (operation : RepositoryOperation) :
    operation.run py unicode adapter owner repository =
      adapter.fetch (operation.path owner repository)
        (operation.read py unicode owner repository) := by
  cases operation <;> exact fetch_bind_pure _ _ _

end

/-!
## What an operation is meant to request
-/

def endpoint : RepositoryOperation -> List String
  | .getRepository => []
  | .getIssue number => ["issues", toString number]
  | .listIssues _ => ["issues"]
  | .getPullRequest number => ["pulls", toString number]
  | .listPullRequests _ => ["pulls"]
  | .getCommitStatus sha => ["commits", sha, "status"]
  | .listWorkflowRuns _ => ["actions", "runs"]
  | .listCommits _ => ["commits"]
  | .listBranches _ => ["branches"]
  | .listReleases _ => ["releases"]

def query : RepositoryOperation -> Option String
  | .listIssues limit => some ("state=all&per_page=" ++ toString limit)
  | .listPullRequests limit => some ("state=all&per_page=" ++ toString limit)
  | .listWorkflowRuns limit => some ("per_page=" ++ toString limit)
  | .listCommits limit => some ("per_page=" ++ toString limit)
  | .listBranches limit => some ("per_page=" ++ toString limit)
  | .listReleases limit => some ("per_page=" ++ toString limit)
  | _ => none

def segments (operation : RepositoryOperation) (owner repository : String) : List (List Char) :=
  (["repos", owner, repository] ++ operation.endpoint).map String.toList

def Accepted (operation : RepositoryOperation) (owner repository : String) : Prop :=
  exists text, operation.path owner repository = .ok text

/-- The URL is read as one of this operation, with these arguments. -/
def RoutesTo (operation : RepositoryOperation) (owner repository url : String) : Prop :=
  Uri.Routes url "api.github.com" (operation.segments owner repository)
    (operation.query.map String.toList)

/-- Each name of the arguments stands for itself in a segment. -/
def PlainArguments (operation : RepositoryOperation) (owner repository : String) : Prop :=
  Uri.IsPlainSegment owner.toList ∧ Uri.IsPlainSegment repository.toList ∧
    forall sha, operation = .getCommitStatus sha -> Uri.IsPlainSegment sha.toList

section

variable {py : Builtins} {unicode : UnicodeData} {adapter : GitHubAdapter}
  {owner repository : String} {operation : RepositoryOperation}

/-!
## The URL of an operation
-/

theorem listPath_eq_ok {endpoint text : String} {limit : Int}
    (h : listPath owner repository endpoint limit = .ok text) :
    validateRepo owner repository = .ok () ∧ 1 ≤ limit ∧
      text = repositoryPath owner repository (endpoint ++ "per_page=" ++ toString limit) := by
  rcases bind_eq_ok h with ⟨_, hrepo, h⟩
  rcases bind_eq_ok h with ⟨_, hlimit, h⟩
  unfold validateLimit at hlimit
  split at hlimit
  · rename_i hbounds
    cases h
    exact ⟨hrepo, hbounds.1, rfl⟩
  · cases hlimit

theorem numberPath_eq_ok {what endpoint text : String} {number : Int}
    (h : numberPath what owner repository endpoint number = .ok text) :
    validateRepo owner repository = .ok () ∧ 1 ≤ number ∧
      text = repositoryPath owner repository (endpoint ++ toString number) := by
  rcases bind_eq_ok h with ⟨_, hrepo, h⟩
  rcases bind_eq_ok h with ⟨_, hnumber, h⟩
  rcases bind_eq_ok h with ⟨shown, htext, h⟩
  unfold validateNumber at hnumber
  unfold intText at htext
  split at hnumber
  · cases hnumber
  · rename_i hpositive
    split at htext
    · cases htext
    · cases htext
      cases h
      exact ⟨hrepo, Int.not_lt.mp hpositive, rfl⟩

theorem route_of_endpoint (owner repository : String) {endpoint : String} (tail : List String)
    (query : Option String)
    (h : endpoint.toList = (tail.map String.toList).flatMap (fun seg => '/' :: seg) ++
      Uri.queryPart (query.map String.toList)) :
    githubApi ++ repositoryPath owner repository endpoint =
      site.route ((["repos", owner, repository] ++ tail).map String.toList)
        (query.map String.toList) := by
  have hapi : githubApi.toList = site.scheme ++ ':' :: '/' :: '/' :: site.authority := by decide
  have hrepos : "/repos/".toList = '/' :: ("repos".toList ++ ['/']) := by decide
  have hslash : "/".toList = ['/'] := rfl
  refine String.toList_injective ?_
  rw [Uri.Site.route, String.toList_ofList, Uri.slash_intercalate (by simp), repositoryPath]
  simp only [String.toList_append, hapi, hrepos, hslash, h, List.map_cons, List.flatMap_cons,
    List.append_assoc, List.cons_append, List.nil_append]

theorem route_of_path {text : String} (h : operation.path owner repository = .ok text) :
    (adapter.request text).url =
      site.route (operation.segments owner repository) (operation.query.map String.toList) := by
  have hlist : forall {endpoint : String} (front : String) {limit : Int} (tail : List String),
      listPath owner repository endpoint limit = .ok text ->
      endpoint.toList ++ "per_page=".toList =
        (tail.map String.toList).flatMap (fun seg => '/' :: seg) ++ '?' :: front.toList ->
      githubApi ++ text = site.route ((["repos", owner, repository] ++ tail).map String.toList)
        (some (front ++ toString limit).toList) := by
    intro endpoint front limit tail hpath hendpoint
    rw [(listPath_eq_ok hpath).2.2]
    refine route_of_endpoint owner repository tail (some (front ++ toString limit)) ?_
    simp only [String.toList_append, hendpoint, Option.map_some, Uri.queryPart, List.append_assoc,
      List.cons_append]
  have hnumber : forall {what endpoint : String} {number : Int} (tail : List String),
      numberPath what owner repository endpoint number = .ok text ->
      endpoint.toList = (tail.map String.toList).flatMap (fun seg => '/' :: seg) ++ ['/'] ->
      githubApi ++ text =
        site.route ((["repos", owner, repository] ++ (tail ++ [toString number])).map
          String.toList) none := by
    intro what endpoint number tail hpath hendpoint
    rw [(numberPath_eq_ok hpath).2.2]
    refine route_of_endpoint owner repository _ none ?_
    simp [hendpoint, Uri.queryPart]
  cases operation with
  | getRepository =>
      rcases bind_eq_ok h with ⟨_, _, h⟩
      cases h
      exact route_of_endpoint owner repository [] none rfl
  | getIssue number => exact hnumber ["issues"] h (by decide)
  | listIssues limit =>
      exact hlist "state=all&per_page=" ["issues"] h (by decide)
  | getPullRequest number => exact hnumber ["pulls"] h (by decide)
  | listPullRequests limit =>
      exact hlist "state=all&per_page=" ["pulls"] h (by decide)
  | getCommitStatus sha =>
      rcases bind_eq_ok h with ⟨_, _, h⟩
      rcases bind_eq_ok h with ⟨_, _, h⟩
      cases h
      refine route_of_endpoint owner repository ["commits", sha, "status"] none ?_
      simp [Uri.queryPart]
  | listWorkflowRuns limit =>
      exact hlist "per_page=" ["actions", "runs"] h (by decide)
  | listCommits limit => exact hlist "per_page=" ["commits"] h (by decide)
  | listBranches limit => exact hlist "per_page=" ["branches"] h (by decide)
  | listReleases limit => exact hlist "per_page=" ["releases"] h (by decide)

/-!
## The names in the arguments
-/

theorem isPartOf_slash_iff (s : String) : Text.isPartOf "/" s = true <-> '/' ∈ s.toList := by
  have hslash : "/".toList = ['/'] := rfl
  rw [Text.isPartOf, decide_eq_true_eq, hslash, List.singleton_infix_iff]

theorem no_slash_of_validateRepo (h : validateRepo owner repository = .ok ()) :
    '/' ∉ owner.toList ∧ '/' ∉ repository.toList := by
  unfold validateRepo at h
  split at h
  · cases h
  · rename_i hvalid
    have hpart : Text.isPartOf "/" (owner ++ repository) ≠ true := by
      intro hpart
      refine hvalid ?_
      rw [Bool.or_eq_true]
      exact Or.inr (List.any_eq_true.mpr ⟨"/", List.mem_cons_self, hpart⟩)
    rw [ne_eq, isPartOf_slash_iff, String.toList_append, List.mem_append, not_or] at hpart
    exact hpart

theorem no_slash_of_validateSha {sha : String} (h : validateSha sha = .ok ()) :
    '/' ∉ sha.toList := by
  unfold validateSha at h
  split at h
  · cases h
  · rename_i hvalid
    intro hmem
    refine hvalid ?_
    rw [(isPartOf_slash_iff sha).mpr hmem, Bool.or_true, Bool.true_or]

/-- What is left to look at in an operation: the commit, if it has one. -/
structure Clean (operation : RepositoryOperation) : Prop where
  slash : forall seg, seg ∈ operation.endpoint -> '/' ∉ seg.toList
  plain : (forall seg, seg ∈ operation.endpoint -> Uri.IsPlainSegment seg.toList) <->
    forall sha, operation = .getCommitStatus sha -> Uri.IsPlainSegment sha.toList
  query : forall q, operation.query = some q -> forall c, c ∈ q.toList -> Uri.isQueryChar c = true

theorem clean_of_plain (hsha : forall sha, operation ≠ .getCommitStatus sha)
    (h : forall seg, seg ∈ operation.endpoint ->
      '/' ∉ seg.toList ∧ Uri.IsPlainSegment seg.toList)
    (hquery : forall q, operation.query = some q ->
      forall c, c ∈ q.toList -> Uri.isQueryChar c = true) : Clean operation where
  slash := fun seg hmem => (h seg hmem).1
  plain := iff_of_true (fun seg hmem => (h seg hmem).2) fun sha hop => absurd hop (hsha sha)
  query := hquery

theorem isQueryChar_limit {front : String} (hfront : front.toList.all Uri.isQueryChar = true)
    {limit : Int} (hlimit : 0 ≤ limit) :
    forall q, some (front ++ toString limit) = some q ->
      forall c, c ∈ q.toList -> Uri.isQueryChar c = true := by
  intro q hq c hc
  cases hq
  rw [String.toList_append, List.mem_append] at hc
  rcases hc with hc | hc
  · exact List.all_eq_true.mp hfront c hc
  · rw [Uri.isQueryChar, Uri.isPchar_of_isDigit (Uri.isDigit_of_mem_toString hlimit hc)]
    rfl

theorem plain_number (name : String)
    (hname : '/' ∉ name.toList ∧ Uri.IsPlainSegment name.toList) {number : Int}
    (hnumber : 0 ≤ number) :
    forall seg, seg ∈ [name, toString number] ->
      '/' ∉ seg.toList ∧ Uri.IsPlainSegment seg.toList := by
  intro seg hmem
  rcases List.mem_cons.mp hmem with hseg | hseg
  · exact hseg ▸ hname
  · rw [List.mem_singleton.mp hseg]
    exact ⟨Uri.no_slash_toString hnumber, Uri.isPlainSegment_toString hnumber⟩

theorem checked_of_path {text : String} (h : operation.path owner repository = .ok text) :
    validateRepo owner repository = .ok () ∧ Clean operation := by
  have hlist : forall {endpoint : String} {limit : Int},
      listPath owner repository endpoint limit = .ok text ->
        validateRepo owner repository = .ok () ∧ 0 ≤ limit := by
    intro endpoint limit hpath
    rcases listPath_eq_ok hpath with ⟨hrepo, hlimit, _⟩
    exact ⟨hrepo, by omega⟩
  have hnumber : forall {what endpoint : String} {number : Int},
      numberPath what owner repository endpoint number = .ok text ->
        validateRepo owner repository = .ok () ∧ 0 ≤ number := by
    intro what endpoint number hpath
    rcases numberPath_eq_ok hpath with ⟨hrepo, hpositive, _⟩
    exact ⟨hrepo, by omega⟩
  cases operation with
  | getRepository =>
      rcases bind_eq_ok h with ⟨_, hrepo, _⟩
      exact ⟨hrepo, clean_of_plain (fun sha => by simp) (fun seg hmem => absurd hmem
        List.not_mem_nil) fun q hq => by cases hq⟩
  | getIssue number =>
      rcases hnumber h with ⟨hrepo, hpositive⟩
      exact ⟨hrepo, clean_of_plain (fun sha => by simp) (plain_number "issues" (by decide)
        hpositive) fun q hq => by cases hq⟩
  | getPullRequest number =>
      rcases hnumber h with ⟨hrepo, hpositive⟩
      exact ⟨hrepo, clean_of_plain (fun sha => by simp) (plain_number "pulls" (by decide)
        hpositive) fun q hq => by cases hq⟩
  | getCommitStatus sha =>
      rcases bind_eq_ok h with ⟨_, hrepo, h⟩
      rcases bind_eq_ok h with ⟨_, hsha, _⟩
      have hcommits : '/' ∉ "commits".toList ∧ Uri.IsPlainSegment "commits".toList := by decide
      have hstatus : '/' ∉ "status".toList ∧ Uri.IsPlainSegment "status".toList := by decide
      refine ⟨hrepo, ?_, ?_, fun q hq => by cases hq⟩
      · simp only [endpoint, List.forall_mem_cons]
        exact ⟨hcommits.1, no_slash_of_validateSha hsha, hstatus.1, fun seg hmem => absurd hmem
          List.not_mem_nil⟩
      · simp only [endpoint, List.forall_mem_cons]
        constructor
        · intro hplain sha' hop
          cases hop
          exact hplain.2.1
        · intro hplain
          exact ⟨hcommits.2, hplain sha rfl, hstatus.2, fun seg hmem => absurd hmem
            List.not_mem_nil⟩
  | listIssues limit | listPullRequests limit | listWorkflowRuns limit | listCommits limit
  | listBranches limit | listReleases limit =>
      rcases hlist h with ⟨hrepo, hlimit⟩
      refine ⟨hrepo, clean_of_plain (fun sha => by simp) ?_
        (isQueryChar_limit (by decide) hlimit)⟩
      simp only [endpoint]
      exact List.forall_iff_forall_mem.mp (by decide)

/-- The URL of an accepted operation is read as meant when its names are plain, and only then. -/
theorem routesTo_iff {text : String} (h : operation.path owner repository = .ok text) :
    operation.RoutesTo owner repository (adapter.request text).url <->
      operation.PlainArguments owner repository := by
  rcases checked_of_path h with ⟨hrepo, hclean⟩
  have hslashes := no_slash_of_validateRepo hrepo
  have hrepos : '/' ∉ "repos".toList ∧ Uri.IsPlainSegment "repos".toList := by decide
  have hslash : forall seg, seg ∈ operation.segments owner repository -> '/' ∉ seg := by
    simp only [segments, List.map_cons, List.cons_append, List.nil_append,
      List.forall_mem_cons, List.forall_mem_map]
    exact ⟨hrepos.1, hslashes.1, hslashes.2, hclean.slash⟩
  have hquery : forall q, operation.query.map String.toList = some q ->
      forall c, c ∈ q -> Uri.isQueryChar c = true := by
    intro q hq
    rcases Option.map_eq_some_iff.mp hq with ⟨text, htext, htoList⟩
    subst htoList
    exact hclean.query text htext
  rw [RoutesTo, route_of_path h, show "api.github.com" = site.host by decide,
    Uri.path_split_iff site (by simp [segments]) hslash hquery, PlainArguments, ← hclean.plain]
  simp only [segments, List.map_cons, List.cons_append, List.nil_append,
    List.forall_mem_cons, List.forall_mem_map]
  exact and_iff_right hrepos.2

theorem plainArguments_of_routes {text : String} (hpath : operation.path owner repository = .ok text)
    (h : forall trace rest,
      Program.Emits (operation.run py unicode adapter owner repository) trace rest ->
        forall event, event ∈ trace -> operation.RoutesTo owner repository event.1.url) :
    operation.PlainArguments owner repository := by
  have hfirst : Program.Emits (operation.run py unicode adapter owner repository)
      [⟨adapter.request text, .ok .none⟩]
      (.ofExcept (Except.ok .none >>= operation.read py unicode owner repository)) := by
    rw [run_eq, fetch_of_ok hpath]
    exact Program.Emits.perform (Program.Emits.refl _)
  have hroutes := h _ _ hfirst ⟨adapter.request text, .ok .none⟩ List.mem_cons_self
  exact (routesTo_iff hpath).mp hroutes

/--
An accepted operation requests what it is meant to request if and only if owner,
repository and commit are each a plain segment.
-/
theorem routes_iff (py : Builtins) (unicode : UnicodeData) (adapter : GitHubAdapter)
    (haccepted : operation.Accepted owner repository) :
    (forall trace rest,
      Program.Emits (operation.run py unicode adapter owner repository) trace rest ->
        forall event, event ∈ trace -> operation.RoutesTo owner repository event.1.url) <->
      operation.PlainArguments owner repository := by
  rcases haccepted with ⟨text, hpath⟩
  constructor
  · exact plainArguments_of_routes hpath
  · intro hplain trace rest hemits event hevent
    rw [run_eq] at hemits
    rcases emits_fetch hemits with ⟨htrace, _⟩ | ⟨other, answer, hother, htrace, _⟩
    · subst htrace
      cases hevent
    · subst htrace
      rw [hpath] at hother
      cases hother
      rw [List.mem_singleton] at hevent
      subst hevent
      exact (routesTo_iff hpath).mpr hplain

end

end RepositoryOperation

namespace GitHubAdapter

def withDefaults : GitHubAdapter where
  token := none
  timeout := 30
  timeout_positive := YasinDocsAdapter.withDefaults.timeout_positive

example : (init none).toOption.isSome = true := rfl

end GitHubAdapter

namespace RepositoryOperation

theorem routes_status :
    (getCommitStatus "5f2b7c0").PlainArguments "octocat" "hello-world" ∧
      forall trace rest,
        Program.Emits ((getCommitStatus "5f2b7c0").run plainBuiltins plainUnicode
          GitHubAdapter.withDefaults "octocat" "hello-world") trace rest ->
        forall event, event ∈ trace ->
          (getCommitStatus "5f2b7c0").RoutesTo "octocat" "hello-world" event.1.url := by
  have hplain : (getCommitStatus "5f2b7c0").PlainArguments "octocat" "hello-world" :=
    ⟨by decide, by decide, fun sha h => by cases h; decide⟩
  exact ⟨hplain, (routes_iff plainBuiltins plainUnicode GitHubAdapter.withDefaults
    ⟨_, rfl⟩).mpr hplain⟩

/-- A repository with a query and a fragment of its own turns its issues into itself. -/
theorem other_endpoint_requested :
    (listIssues 20).path "octocat" "hello-world?per_page=100#" =
        .ok "/repos/octocat/hello-world?per_page=100#/issues?state=all&per_page=20" ∧
      ¬ forall trace rest,
        Program.Emits ((listIssues 20).run plainBuiltins plainUnicode
          GitHubAdapter.withDefaults "octocat" "hello-world?per_page=100#") trace rest ->
        forall event, event ∈ trace ->
          (listIssues 20).RoutesTo "octocat" "hello-world?per_page=100#" event.1.url := by
  have hpath : (listIssues 20).path "octocat" "hello-world?per_page=100#" =
      .ok "/repos/octocat/hello-world?per_page=100#/issues?state=all&per_page=20" := by
    decide +kernel
  refine ⟨hpath, ?_⟩
  intro h
  exact absurd (plainArguments_of_routes hpath h).2.1 (by decide)

end RepositoryOperation

end YasinMcp
