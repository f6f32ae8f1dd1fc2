import YasinMcp.Foundation.Outcomes
import YasinMcp.Tools.Answers

/-!
# Labelled answers

An answer is enclosed when every object in it that is not labelled as untrusted has only
numbers and given texts outside of labelled objects.  With the texts of the server and of
the call as the given ones, the answers of all tools that read from outside are enclosed:
no text of an upstream stands where it is not labelled.
-/

namespace YasinMcp

open Foundation Docs GitHub ProjectRegistry

/-!
## Enclosed values
-/

def sourceKinds : List String := ["yasin-docs", "github", "yasin-docs-registry", "yasin-operations"]

/-- An object with the trust block of external data. -/
def Labelled (unicode : UnicodeData) (v : Value) : Prop :=
  exists entries source text, v = .dict entries ∧ source ∈ sourceKinds ∧
    Dict.lookupIn (Key.str "untrusted") entries = some (.bool true) ∧
    Dict.lookupIn (Key.str "trust") entries = some (.dict (trustEnvelope unicode source text))

/-- Outside of labelled objects there are only numbers and given texts. -/
inductive Enclosed (unicode : UnicodeData) (given : String -> Prop) : Value -> Prop
  | labelled {v : Value} (h : Labelled unicode v) : Enclosed unicode given v
  | none : Enclosed unicode given .none
  | int (n : Int) : Enclosed unicode given (.int n)
  | str {s : String} (h : given s) : Enclosed unicode given (.str s)
  | list {items : List Value} (h : forall item, item ∈ items -> Enclosed unicode given item) :
      Enclosed unicode given (.list items)
  | dict {entries : List (Key × Value)}
      (names : forall entry, entry ∈ entries -> exists name, given name ∧ entry.1 = .str name)
      (values : forall entry, entry ∈ entries -> Enclosed unicode given entry.2) :
      Enclosed unicode given (.dict entries)

section

variable {unicode : UnicodeData} {given : String -> Prop}

theorem labelled_attach (payload : Payload) {source : String} (hsource : source ∈ sourceKinds)
    (text : Option String) :
    Labelled unicode (object (attachUntrustedEnvelope unicode payload source text)) := by
  refine ⟨_, source, text, rfl, hsource, ?_, get?_trust_attach unicode payload source text⟩
  exact Dict.get?_set_self _ _ _

theorem labelled_update_githubMeta (base : Payload) (sourceUrl htmlUrl : String) :
    Labelled unicode (object (base.update (githubMeta unicode sourceUrl htmlUrl))) := by
  refine ⟨_, "github", none, rfl, by decide, ?_, ?_⟩
  · exact Dict.get?_update (Dict.get?_set_self _ _ _)
  · exact Dict.get?_update (get?_trust_githubMeta unicode sourceUrl htmlUrl none)

theorem labelled_repository (info : RepositoryInfo) : Labelled unicode (object (info.asDict unicode)) :=
  labelled_update_githubMeta _ _ _

theorem labelled_issue (info : IssueInfo) : Labelled unicode (object (info.asDict unicode)) :=
  labelled_update_githubMeta _ _ _

theorem labelled_pullRequest (info : PullRequestInfo) : Labelled unicode (object (info.asDict unicode)) :=
  labelled_update_githubMeta _ _ _

theorem labelled_commitStatus (info : CommitStatus) : Labelled unicode (object (info.asDict unicode)) :=
  labelled_update_githubMeta _ _ _

theorem labelled_commit (info : CommitInfo) : Labelled unicode (object (info.asDict unicode)) :=
  labelled_update_githubMeta _ _ _

theorem labelled_branch (info : BranchInfo) : Labelled unicode (object (info.asDict unicode)) :=
  labelled_update_githubMeta _ _ _

theorem labelled_release (info : ReleaseInfo) : Labelled unicode (object (info.asDict unicode)) :=
  labelled_update_githubMeta _ _ _

theorem enclosed_labelledList {a : Type} {items : List a} {asDict : a -> Payload}
    (h : forall item, Labelled unicode (object (asDict item))) :
    Enclosed unicode given (.list (items.map fun item => object (asDict item))) := by
  apply Enclosed.list
  intro v hv
  rcases List.mem_map.mp hv with ⟨item, _, heq⟩
  rw [← heq]
  exact .labelled (h item)

theorem enclosed_ofEntries {pairs : List (Key × Value)}
    (h : forall pair, pair ∈ pairs ->
      (exists name, given name ∧ pair.1 = .str name) ∧ Enclosed unicode given pair.2) :
    Enclosed unicode given (object (Dict.ofEntries pairs)) :=
  .dict (fun entry hentry => (h entry (Dict.mem_of_mem_ofEntries hentry)).1)
    (fun entry hentry => (h entry (Dict.mem_of_mem_ofEntries hentry)).2)

theorem enclosed_pair {name : String} {v : Value} (hname : given name)
    (hvalue : Enclosed unicode given v) :
    (exists name', given name' ∧ (Key.str name, v).1 = .str name') ∧
      Enclosed unicode given (Key.str name, v).2 :=
  ⟨⟨name, hname, rfl⟩, hvalue⟩

end

/-!
## The calls
-/

/-- A call of a tool that reads documentation, GitHub or the registry. -/
inductive ReadingCall where
  | listDocuments (toolset : DocsToolset)
  | getDocument (toolset : DocsToolset) (path : Value)
  | search (toolset : DocsToolset) (query pathPrefix : Value)
  | listAdrs (toolset : DocsToolset)
  | getAdr (toolset : DocsToolset) (name : Value)
  | listArchitecture (toolset : DocsToolset)
  | getProjectArchitecture (toolset : DocsToolset) (project : Value)
  | getRepository (toolset : GitHubToolset) (owner repository : Value)
  | listIssues (toolset : GitHubToolset) (owner repository : Value) (limit : Int)
  | getIssue (toolset : GitHubToolset) (owner repository : Value) (number : Int)
  | listPullRequests (toolset : GitHubToolset) (owner repository : Value) (limit : Int)
  | getPullRequest (toolset : GitHubToolset) (owner repository : Value) (number : Int)
  | listCommits (toolset : GitHubToolset) (owner repository : Value) (limit : Int)
  | getCommitStatus (toolset : GitHubToolset) (owner repository sha : Value)
  | listWorkflowRuns (toolset : GitHubToolset) (owner repository : Value) (limit : Int)
  | listBranches (toolset : GitHubToolset) (owner repository : Value) (limit : Int)
  | listReleases (toolset : GitHubToolset) (owner repository : Value) (limit : Int)
  | listProjects (toolset : RegistryToolset)
  | getProject (toolset : RegistryToolset) (name : Value)
  | listDependencies (toolset : RegistryToolset) (name : Value)

inductive GatewayCall where
  | listServices (toolset : OperationsToolset)
  | serviceStatus (toolset : OperationsToolset) (serviceName : Value)
  | health (toolset : OperationsToolset)
  | diagnostics (toolset : OperationsToolset)

namespace ReadingCall

def run (py : Builtins) (yaml : Option YamlLibrary) (unicode : UnicodeData) :
    ReadingCall -> Fetch Payload
  | .listDocuments toolset => toolset.listDocuments py unicode
  | .getDocument toolset path => toolset.getDocument py unicode path
  | .search toolset query pathPrefix => toolset.search py unicode query pathPrefix
  | .listAdrs toolset => toolset.listAdrs py unicode
  | .getAdr toolset name => toolset.getAdr py unicode name
  | .listArchitecture toolset => toolset.listArchitecture py unicode
  | .getProjectArchitecture toolset project => toolset.getProjectArchitecture py unicode project
  | .getRepository toolset owner repository => toolset.getRepository py unicode owner repository
  | .listIssues toolset owner repository limit =>
      toolset.listIssues py unicode owner repository limit
  | .getIssue toolset owner repository number =>
      toolset.getIssue py unicode owner repository number
  | .listPullRequests toolset owner repository limit =>
      toolset.listPullRequests py unicode owner repository limit
  | .getPullRequest toolset owner repository number =>
      toolset.getPullRequest py unicode owner repository number
  | .listCommits toolset owner repository limit =>
      toolset.listCommits py unicode owner repository limit
  | .getCommitStatus toolset owner repository sha =>
      toolset.getCommitStatus py unicode owner repository sha
  | .listWorkflowRuns toolset owner repository limit =>
      toolset.listWorkflowRuns py unicode owner repository limit
  | .listBranches toolset owner repository limit =>
      toolset.listBranches py unicode owner repository limit
  | .listReleases toolset owner repository limit =>
      toolset.listReleases py unicode owner repository limit
  | .listProjects toolset => toolset.listProjects py yaml unicode
  | .getProject toolset name => toolset.getProject py yaml unicode name
  | .listDependencies toolset name => toolset.listDependencies py yaml unicode name

def repeated : ReadingCall -> List Value
  | .search _ query pathPrefix => [query, pathPrefix]
  | .listIssues _ owner repository _ => [owner, repository]
  | .listPullRequests _ owner repository _ => [owner, repository]
  | .listCommits _ owner repository _ => [owner, repository]
  | .listBranches _ owner repository _ => [owner, repository]
  | .listReleases _ owner repository _ => [owner, repository]
  | _ => []

end ReadingCall

def GatewayCall.run (py : Builtins) (interpreter : String) (recursionLimit : Nat)
    (unicode : UnicodeData) : GatewayCall -> Gateway Payload
  | .listServices toolset => toolset.listServices py interpreter recursionLimit unicode
  | .serviceStatus toolset serviceName =>
      toolset.serviceStatus py interpreter recursionLimit unicode serviceName
  | .health toolset => toolset.health py interpreter recursionLimit unicode
  | .diagnostics toolset => toolset.diagnostics py interpreter recursionLimit unicode

/-- The names and texts that the server writes around labelled objects. -/
def wording : List String :=
  ["documents", "adrs", "architecture_docs", "results", "document", "matches", "query",
    "path_prefix", "owner", "repository", "issues", "pull_requests", "commits", "branches",
    "releases", "count", "evidence_status", "note", "confirmed", DocsToolset.repository,
    DocsToolset.documentsNote, DocsToolset.searchNote, DocsToolset.adrsNote,
    DocsToolset.architectureNote]

/-- A text of the server, or one of the arguments that are repeated. -/
def ReadingCall.Given (call : ReadingCall) (s : String) : Prop :=
  s ∈ wording ∨ .str s ∈ call.repeated

/-!
## Their answers
-/

section

variable {py : Builtins} {unicode : UnicodeData} {given : String -> Prop}

theorem enclosed_refsAnswer (hwording : forall s, s ∈ wording -> given s) {name note : String}
    (hname : name ∈ wording) (hnote : note ∈ wording) (refs : List DocumentRef) :
    Enclosed unicode given (object (DocsToolset.refsAnswer unicode name note refs)) := by
  apply enclosed_ofEntries
  simp only [List.forall_mem_cons]
  refine ⟨enclosed_pair (hwording _ hname) (enclosed_labelledList fun ref =>
    labelled_attach _ (by decide) _), ?_⟩
  exact ⟨enclosed_pair (hwording _ (by simp [wording])) (.int _),
    enclosed_pair (hwording _ (by simp [wording])) (.str (hwording _ (by simp [wording]))),
    enclosed_pair (hwording _ (by simp [wording])) (.str (hwording _ (by simp [wording]))),
    enclosed_pair (hwording _ (by simp [wording])) (.str (hwording _ hnote)), nofun⟩

theorem enclosed_itemsAnswer (hwording : forall s, s ∈ wording -> given s)
    {name owner repository : String} (hname : name ∈ wording) (howner : given owner)
    (hrepository : given repository) {a : Type} {items : List a} {asDict : a -> Payload}
    (hitems : forall item, Labelled unicode (object (asDict item))) :
    Enclosed unicode given
      (object (GitHubToolset.itemsAnswer name owner repository (items.map asDict))) := by
  apply enclosed_ofEntries
  simp only [List.forall_mem_cons, List.map_map]
  exact ⟨enclosed_pair (hwording _ (by simp [wording])) (.str howner),
    enclosed_pair (hwording _ (by simp [wording])) (.str hrepository),
    enclosed_pair (hwording _ hname) (enclosed_labelledList hitems),
    enclosed_pair (hwording _ (by simp [wording])) (.int _),
    enclosed_pair (hwording _ (by simp [wording])) (.str (hwording _ (by simp [wording]))), nofun⟩

theorem repositoryArguments_eq_ok {owner repository : Value} {names : String × String}
    (h : GitHubToolset.repositoryArguments owner repository = .ok names) :
    owner = .str names.1 ∧ repository = .str names.2 := by
  unfold GitHubToolset.repositoryArguments at h
  split at h
  · cases h
    exact ⟨rfl, rfl⟩
  · cases h

theorem textArgument_eq_ok {message s : String} {v : Value}
    (h : textArgument message v = .ok s) : v = .str s := by
  cases v with
  | str text =>
      cases h
      rfl
  | _ => cases h

variable (unicode given) in
/-- The program returns enclosed answers only. -/
def Encloses (p : Fetch Payload) : Prop :=
  Program.Returns (fun payload => Enclosed unicode given (object payload)) p

theorem encloses_labelled {payload : Payload} (h : Labelled unicode (object payload)) :
    Encloses unicode given (.pure payload) :=
  Program.returns_pure (.labelled h)

theorem encloses_document (document : Document) :
    Encloses unicode given (.pure (document.asDict unicode)) :=
  encloses_labelled (labelled_attach _ (by decide) _)

theorem encloses_getMethod {a : Type} {get : String -> String -> Fetch a} {asDict : a -> Payload}
    (h : forall info, Labelled unicode (object (asDict info))) (owner repository : Value) :
    Encloses unicode given (GitHubToolset.getMethod get asDict owner repository) :=
  Program.returns_bind fun _ => Program.returns_bind fun info => encloses_labelled (h info)

theorem encloses_listMethod (hwording : forall s, s ∈ wording -> given s) {name : String}
    (hname : name ∈ wording) {a : Type} {list : String -> String -> Fetch (List a)}
    {asDict : a -> Payload} (h : forall item, Labelled unicode (object (asDict item)))
    {owner repository : Value}
    (hgiven : forall s, .str s ∈ [owner, repository] -> given s) :
    Encloses unicode given (GitHubToolset.listMethod name list asDict owner repository) := by
  apply Program.returns_check
  intro names hnames
  rcases repositoryArguments_eq_ok hnames with ⟨howner, hrepository⟩
  apply Program.returns_bind
  intro items
  apply Program.returns_pure
  apply enclosed_itemsAnswer hwording hname _ _ h
  · exact hgiven _ (by simp [howner])
  · exact hgiven _ (by simp [hrepository])

theorem encloses_search (toolset : DocsToolset) (query pathPrefix : Value)
    (hwording : forall s, s ∈ wording -> given s)
    (hgiven : forall s, .str s ∈ [query, pathPrefix] -> given s) :
    Encloses unicode given (toolset.search py unicode query pathPrefix) := by
  apply Program.returns_check
  intro text htext
  have hquery := textArgument_eq_ok htext
  apply Program.returns_check
  intro scope hscope
  apply Program.returns_bind
  intro results
  apply Program.returns_pure
  have hprefix : Enclosed unicode given (.ofOption scope) := by
    unfold DocsToolset.prefixArgument at hscope
    split at hscope
    · cases hscope
      exact .none
    · rename_i s
      cases hscope
      exact .str (hgiven s (by simp))
    · cases hscope
  have hresults : Enclosed unicode given
      (.list (results.map fun result => object (result.asDict unicode))) := by
    apply Enclosed.list
    intro v hv
    rcases List.mem_map.mp hv with ⟨result, _, heq⟩
    rw [← heq]
    apply enclosed_ofEntries
    simp only [List.forall_mem_cons]
    exact ⟨enclosed_pair (hwording _ (by simp [wording]))
        (.labelled (labelled_attach _ (by decide) _)),
      enclosed_pair (hwording _ (by simp [wording])) (.int _), nofun⟩
  apply enclosed_ofEntries
  simp only [List.forall_mem_cons]
  exact ⟨enclosed_pair (hwording _ (by simp [wording])) (.str (hgiven _ (by simp [hquery]))),
    enclosed_pair (hwording _ (by simp [wording])) hprefix,
    enclosed_pair (hwording _ (by simp [wording])) hresults,
    enclosed_pair (hwording _ (by simp [wording])) (.int _),
    enclosed_pair (hwording _ (by simp [wording])) (.str (hwording _ (by simp [wording]))),
    enclosed_pair (hwording _ (by simp [wording])) (.str (hwording _ (by simp [wording]))),
    enclosed_pair (hwording _ (by simp [wording])) (.str (hwording _ (by simp [wording]))), nofun⟩

theorem encloses_listWorkflowRuns (toolset : GitHubToolset) (owner repository : Value)
    (limit : Int) :
    Encloses unicode given (toolset.listWorkflowRuns py unicode owner repository limit) :=
  Program.returns_bind fun _ => Program.returns_bind fun _ => Program.returns_bind fun _ =>
    encloses_labelled (labelled_attach _ (by decide) _)

end

theorem encloses_run (py : Builtins) (yaml : Option YamlLibrary) (unicode : UnicodeData)
    (call : ReadingCall) : Encloses unicode call.Given (call.run py yaml unicode) := by
  have hwording : forall s, s ∈ wording -> call.Given s := fun s hs => Or.inl hs
  have hrepeated : forall s, .str s ∈ call.repeated -> call.Given s := fun s hs => Or.inr hs
  cases call with
  | listDocuments toolset =>
      exact Program.returns_bind fun refs => Program.returns_pure
        (enclosed_refsAnswer hwording (by simp [wording]) (by simp [wording]) refs)
  | getDocument toolset path =>
      exact Program.returns_bind fun _ => Program.returns_bind encloses_document
  | search toolset query pathPrefix =>
      exact encloses_search toolset query pathPrefix hwording hrepeated
  | listAdrs toolset =>
      exact Program.returns_bind fun refs => Program.returns_pure
        (enclosed_refsAnswer hwording (by simp [wording]) (by simp [wording]) refs)
  | getAdr toolset name =>
      exact Program.returns_bind fun _ => Program.returns_bind encloses_document
  | listArchitecture toolset =>
      exact Program.returns_bind fun refs => Program.returns_pure
        (enclosed_refsAnswer hwording (by simp [wording]) (by simp [wording]) refs)
  | getProjectArchitecture toolset project =>
      exact Program.returns_bind fun _ => Program.returns_bind encloses_document
  | getRepository toolset owner repository =>
      exact encloses_getMethod labelled_repository owner repository
  | listIssues toolset owner repository limit =>
      have hname : "issues" ∈ wording := by simp [wording]
      rw [ReadingCall.run, GitHubToolset.listIssues]
      exact encloses_listMethod hwording hname labelled_issue hrepeated
  | getIssue toolset owner repository number =>
      rw [ReadingCall.run, GitHubToolset.getIssue]
      exact encloses_getMethod labelled_issue owner repository
  | listPullRequests toolset owner repository limit =>
      have hname : "pull_requests" ∈ wording := by simp [wording]
      rw [ReadingCall.run, GitHubToolset.listPullRequests]
      exact encloses_listMethod hwording hname labelled_pullRequest hrepeated
  | getPullRequest toolset owner repository number =>
      rw [ReadingCall.run, GitHubToolset.getPullRequest]
      exact encloses_getMethod labelled_pullRequest owner repository
  | listCommits toolset owner repository limit =>
      have hname : "commits" ∈ wording := by simp [wording]
      rw [ReadingCall.run, GitHubToolset.listCommits]
      exact encloses_listMethod hwording hname labelled_commit hrepeated
  | getCommitStatus toolset owner repository sha =>
      exact Program.returns_bind fun _ => Program.returns_bind fun _ =>
        Program.returns_bind fun info => encloses_labelled (labelled_commitStatus info)
  | listWorkflowRuns toolset owner repository limit =>
      exact encloses_listWorkflowRuns toolset owner repository limit
  | listBranches toolset owner repository limit =>
      have hname : "branches" ∈ wording := by simp [wording]
      rw [ReadingCall.run, GitHubToolset.listBranches]
      exact encloses_listMethod hwording hname labelled_branch hrepeated
  | listReleases toolset owner repository limit =>
      have hname : "releases" ∈ wording := by simp [wording]
      rw [ReadingCall.run, GitHubToolset.listReleases]
      exact encloses_listMethod hwording hname labelled_release hrepeated
  | listProjects toolset =>
      exact Program.returns_bind fun _ => encloses_labelled (labelled_attach _ (by decide) _)
  | getProject toolset name =>
      exact Program.returns_bind fun _ => Program.returns_bind fun _ =>
        encloses_labelled (labelled_attach _ (by decide) _)
  | listDependencies toolset name =>
      exact Program.returns_bind fun _ => Program.returns_bind fun _ =>
        encloses_labelled (labelled_attach _ (by decide) _)

theorem labels_resultToDict (py : Builtins) (unicode : UnicodeData)
    (result : Gateway OperationsResult) :
    Program.Returns (fun payload => Labelled unicode (object payload))
      (OperationsToolset.resultToDict py unicode result) := by
  apply Program.returns_bind
  intro answer
  apply Program.returns_ofExcept
  intro payload hpayload
  unfold OperationsResult.asDict at hpayload
  cases htext : answer.markerText py with
  | error e =>
      rw [htext] at hpayload
      cases hpayload
  | ok text =>
      rw [htext] at hpayload
      cases hpayload
      exact labelled_attach _ (by decide) _

theorem labels_gateway (py : Builtins) (interpreter : String) (recursionLimit : Nat)
    (unicode : UnicodeData) (call : GatewayCall) :
    Program.Returns (fun payload => Labelled unicode (object payload))
      (call.run py interpreter recursionLimit unicode) := by
  cases call with
  | listServices toolset => exact labels_resultToDict py unicode _
  | serviceStatus toolset serviceName =>
      exact Program.returns_bind fun _ => labels_resultToDict py unicode _
  | health toolset => exact labels_resultToDict py unicode _
  | diagnostics toolset => exact labels_resultToDict py unicode _

/--
Whatever the upstream and the gateway send, no text of theirs is in the answer of a tool
outside of an object that is labelled as untrusted: the answers of the reading tools are
enclosed, and those of the operations tools are labelled as a whole.
-/
theorem answers_enclosed (py : Builtins) (yaml : Option YamlLibrary) (unicode : UnicodeData)
    (interpreter : String) (recursionLimit : Nat) :
    (forall call : ReadingCall,
      Program.Returns (fun payload => Enclosed unicode call.Given (object payload))
        (call.run py yaml unicode)) ∧
      forall call : GatewayCall,
        Program.Returns (fun payload => Labelled unicode (object payload))
          (call.run py interpreter recursionLimit unicode) :=
  ⟨encloses_run py yaml unicode, labels_gateway py interpreter recursionLimit unicode⟩

end YasinMcp
