import YasinMcp.Adapters.Payload
import YasinMcp.Config
import YasinMcp.Foundation.Utf8

/-!
# GitHub adapter

Each operation checks its arguments, puts them into the path of one request, and reads
a record or a list of records out of the answer.  What the operations share is how they
get there: a path or the exception of a check, then the request, then the reading.

The readings follow the source member by member.  Some of them look at the shape of the
answer before they go into it, and some do not.
-/

namespace YasinMcp

open Foundation

namespace GitHub

def githubApi : String := "https://api.github.com"
def apiVersion : String := "2026-03-10"
def maxSearchResults : Int := 50

structure RepositoryInfo where
  fullName : String
  defaultBranch : String
  description : Value
  isPrivate : Bool
  htmlUrl : String
  sourceUrl : String

structure IssueInfo where
  number : Int
  title : String
  state : String
  htmlUrl : String
  sourceUrl : String

structure PullRequestInfo where
  number : Int
  title : String
  state : String
  draft : Bool
  htmlUrl : String
  sourceUrl : String

structure CommitStatus where
  sha : String
  state : String
  totalCount : Int
  sourceUrl : String

structure WorkflowRun where
  id : Value
  name : Value
  status : Value
  conclusion : Value
  htmlUrl : Value
  sourceUrl : String

structure CommitInfo where
  sha : String
  message : String
  author : String
  date : String
  htmlUrl : String
  sourceUrl : String

structure BranchInfo where
  name : String
  isProtected : Bool
  commitSha : String
  sourceUrl : String

structure ReleaseInfo where
  tagName : String
  name : String
  draft : Bool
  prerelease : Bool
  htmlUrl : String
  publishedAt : Value
  sourceUrl : String

structure SearchResult where
  name : String
  path : String
  repository : String
  htmlUrl : String
  sourceUrl : String

/-!
## Checks of arguments
-/

def validateRepo (owner repository : String) : Except PyException Unit :=
  if owner = "" || repository = "" ||
      ["/", "..", " "].any (fun value => Text.isPartOf value (owner ++ repository)) then
    .error (validationError "invalid GitHub repository identifier")
  else .ok ()

def validateLimit (limit : Int) : Except PyException Unit :=
  if 1 ≤ limit ∧ limit ≤ maxSearchResults then .ok ()
  else
    .error (validationError ("limit must be between 1 and " ++ toString maxSearchResults))

def validateNumber (what : String) (number : Int) : Except PyException Unit :=
  if number < 1 then .error (validationError (what ++ " number must be positive")) else .ok ()

def validateSha (sha : String) : Except PyException Unit :=
  if sha = "" || Text.isPartOf "/" sha || Text.isPartOf " " sha then
    .error (validationError "invalid commit SHA")
  else .ok ()

def upperHex (n : Nat) : Char :=
  if n < 10 then Char.ofNat (48 + n) else Char.ofNat (55 + n)

def quoteQuery (query : String) : String :=
  String.ofList ((encodeUtf8 query).flatMap fun byte =>
    if Uri.isUnreserved (Char.ofNat byte.toNat) then [Char.ofNat byte.toNat]
    else ['%', upperHex (byte.toNat / 16), upperHex (byte.toNat % 16)])

example : quoteQuery "a b+é" = "a%20b%2B%C3%A9" := by decide +kernel

/-!
## Reading answers
-/

def repositoryUrl (owner repository : String) : String :=
  githubApi ++ "/repos/" ++ owner ++ "/" ++ repository

def readRepository (py : Builtins) (owner repository : String) (payload : Value) :
    Except PyException RepositoryInfo := do
  let fullName ← memberText py payload "full_name" (owner ++ "/" ++ repository)
  let defaultBranch ← memberText py payload "default_branch" "main"
  let description ← member payload "description"
  let isPrivate ← memberTrue payload "private"
  let htmlUrl ← memberText py payload "html_url"
  .ok
    { fullName := fullName
      defaultBranch := defaultBranch
      description := description
      isPrivate := isPrivate
      htmlUrl := htmlUrl
      sourceUrl := repositoryUrl owner repository }

def readIssue (py : Builtins) (owner repository : String) (number : Int) (payload : Value) :
    Except PyException IssueInfo := do
  let title ← memberText py payload "title"
  let state ← memberText py payload "state"
  let htmlUrl ← memberText py payload "html_url"
  let text ← intText number
  .ok
    { number := number
      title := title
      state := state
      htmlUrl := htmlUrl
      sourceUrl := repositoryUrl owner repository ++ "/issues/" ++ text }

def readListedIssue (py : Builtins) (unicode : UnicodeData) (owner repository : String)
    (item : Value) : Except PyException IssueInfo := do
  let number ← memberInt py unicode item "number"
  let title ← memberText py item "title"
  let state ← memberText py item "state"
  let htmlUrl ← memberText py item "html_url"
  let shown ← (← member item "number" (.int 0)).toStr py
  .ok
    { number := number
      title := title
      state := state
      htmlUrl := htmlUrl
      sourceUrl := repositoryUrl owner repository ++ "/issues/" ++ shown }

def readIssueItem (py : Builtins) (unicode : UnicodeData) (owner repository : String)
    (item : Value) : Except PyException (Option IssueInfo) := do
  if ← item.hasName "pull_request" then .ok none
  else (readListedIssue py unicode owner repository item).map some

/-- The first items of a list, read one by one; another value has an unexpected shape. -/
def readList {a : Type} (shape : String) (limit : Int) (read : Value -> Except PyException a)
    (payload : Value) : Except PyException (List a) :=
  match payload with
  | .list items => (items.take limit.toNat).mapM read
  | _ => .error (upstreamError ("GitHub returned an unexpected " ++ shape ++ " shape"))

def readIssues (py : Builtins) (unicode : UnicodeData) (owner repository : String) (limit : Int)
    (payload : Value) : Except PyException (List IssueInfo) := do
  let issues ← readList "issue-list" limit (readIssueItem py unicode owner repository) payload
  .ok (issues.filterMap id)

def readPullRequest (py : Builtins) (owner repository : String) (number : Int) (payload : Value) :
    Except PyException PullRequestInfo := do
  let title ← memberText py payload "title"
  let state ← memberText py payload "state"
  let draft ← memberTrue payload "draft"
  let htmlUrl ← memberText py payload "html_url"
  let text ← intText number
  .ok
    { number := number
      title := title
      state := state
      draft := draft
      htmlUrl := htmlUrl
      sourceUrl := repositoryUrl owner repository ++ "/pulls/" ++ text }

def readPullRequestItem (py : Builtins) (unicode : UnicodeData) (owner repository : String)
    (item : Value) : Except PyException PullRequestInfo := do
  let number ← memberInt py unicode item "number"
  let title ← memberText py item "title"
  let state ← memberText py item "state"
  let draft ← memberTrue item "draft"
  let htmlUrl ← memberText py item "html_url"
  let shown ← (← member item "number" (.int 0)).toStr py
  .ok
    { number := number
      title := title
      state := state
      draft := draft
      htmlUrl := htmlUrl
      sourceUrl := repositoryUrl owner repository ++ "/pulls/" ++ shown }

def readPullRequests (py : Builtins) (unicode : UnicodeData) (owner repository : String)
    (limit : Int) (payload : Value) : Except PyException (List PullRequestInfo) :=
  readList "pull-request-list" limit (readPullRequestItem py unicode owner repository) payload

def readCommitStatus (py : Builtins) (unicode : UnicodeData) (owner repository sha : String)
    (payload : Value) : Except PyException CommitStatus := do
  let state ← memberText py payload "state" "unknown"
  let totalCount ← memberInt py unicode payload "total_count"
  .ok
    { sha := sha
      state := state
      totalCount := totalCount
      sourceUrl := repositoryUrl owner repository ++ "/commits/" ++ sha ++ "/status" }

def readWorkflowRun (owner repository : String) (item : Value) :
    Except PyException WorkflowRun := do
  let id ← member item "id"
  let name ← member item "name"
  let status ← member item "status"
  let conclusion ← member item "conclusion"
  let htmlUrl ← member item "html_url"
  .ok
    { id := id
      name := name
      status := status
      conclusion := conclusion
      htmlUrl := htmlUrl
      sourceUrl := repositoryUrl owner repository ++ "/actions/runs" }

def readWorkflowRuns (owner repository : String) (limit : Int) (payload : Value) :
    Except PyException (List WorkflowRun) := do
  let runs ← member payload "workflow_runs" (.list [])
  readList "workflow-run" limit (readWorkflowRun owner repository) runs

def firstLine (s : String) : String :=
  String.ofList (s.toList.takeWhile fun c => c ≠ '\n')

def readCommit (py : Builtins) (owner repository : String) (item : Value) :
    Except PyException CommitInfo := do
  let sha ← memberText py item "sha"
  let commit ← memberOrEmpty item "commit"
  let author ← memberOrEmpty commit "author"
  let message ← memberText py commit "message"
  let name ← ((← member author "name").orElse (.str "")).toStr py
  let date ← ((← member author "date").orElse (.str "")).toStr py
  let htmlUrl ← memberText py item "html_url"
  .ok
    { sha := sha
      message := firstLine message
      author := name
      date := date
      htmlUrl := htmlUrl
      sourceUrl := repositoryUrl owner repository ++ "/commits/" ++ sha }

def readCommits (py : Builtins) (owner repository : String) (limit : Int) (payload : Value) :
    Except PyException (List CommitInfo) :=
  readList "commits" limit (readCommit py owner repository) payload

def readBranch (py : Builtins) (owner repository : String) (item : Value) :
    Except PyException BranchInfo := do
  let name ← memberText py item "name"
  let isProtected ← memberTrue item "protected"
  let commit ← memberOrEmpty item "commit"
  let commitSha ← memberText py commit "sha"
  .ok
    { name := name
      isProtected := isProtected
      commitSha := commitSha
      sourceUrl := repositoryUrl owner repository ++ "/branches" }

def readBranches (py : Builtins) (owner repository : String) (limit : Int) (payload : Value) :
    Except PyException (List BranchInfo) :=
  readList "branches" limit (readBranch py owner repository) payload

def releaseName (py : Builtins) (item : Value) : Except PyException String := do
  let named ← member item "name"
  let tagged ← member item "tag_name"
  ((named.orElse tagged).orElse (.str "")).toStr py

def readRelease (py : Builtins) (owner repository : String) (item : Value) :
    Except PyException ReleaseInfo := do
  let tagName ← memberText py item "tag_name"
  let name ← releaseName py item
  let draft ← memberTrue item "draft"
  let prerelease ← memberTrue item "prerelease"
  let htmlUrl ← memberText py item "html_url"
  let publishedAt ← member item "published_at"
  .ok
    { tagName := tagName
      name := name
      draft := draft
      prerelease := prerelease
      htmlUrl := htmlUrl
      publishedAt := publishedAt
      sourceUrl := repositoryUrl owner repository ++ "/releases" }

def readReleases (py : Builtins) (owner repository : String) (limit : Int) (payload : Value) :
    Except PyException (List ReleaseInfo) :=
  readList "releases" limit (readRelease py owner repository) payload

def readSearchResult (py : Builtins) (item : Value) : Except PyException SearchResult := do
  let name ← memberText py item "name"
  let path ← memberText py item "path"
  let repository ← memberText py (← member item "repository" (.dict [])) "full_name"
  let htmlUrl ← memberText py item "html_url"
  .ok
    { name := name
      path := path
      repository := repository
      htmlUrl := htmlUrl
      sourceUrl := githubApi ++ "/search/code" }

def readSearchResults (py : Builtins) (limit : Int) (payload : Value) :
    Except PyException (List SearchResult) := do
  let items ← member payload "items" (.list [])
  readList "search" limit (readSearchResult py) items

end GitHub

open GitHub

structure GitHubAdapter where
  token : Option SecretStr
  timeout : Int
  timeout_positive : 0 < timeout

namespace GitHubAdapter

def init (token : Option SecretStr) (timeoutSeconds : Int := 30) :
    Except PyException GitHubAdapter :=
  if h : timeoutSeconds ≤ 0 then .error (validationError "timeout_seconds must be positive")
  else .ok { token := token, timeout := timeoutSeconds, timeout_positive := timeout_pos h }

def headers (adapter : GitHubAdapter) : List (String × String) :=
  [("Accept", "application/vnd.github+json"),
    ("X-GitHub-Api-Version", apiVersion),
    ("User-Agent", "Yasin-MCP")] ++
  match adapter.token with
  | none => []
  | some token =>
      if token.getSecretValue = "" then [] else [("Authorization", "Bearer " ++ token.getSecretValue)]

def request (adapter : GitHubAdapter) (path : String) : UpstreamRequest :=
  { url := githubApi ++ path
    headers := adapter.headers
    timeout := adapter.timeout }

def get (adapter : GitHubAdapter) (path : String) : Fetch Value :=
  requester (adapter.request path)

def fetch {a : Type} (adapter : GitHubAdapter) (path : Except PyException String)
    (read : Value -> Except PyException a) : Fetch a := do
  let path ← .ofExcept path
  let payload ← adapter.get path
  .ofExcept (read payload)

def repositoryPath (owner repository endpoint : String) : String :=
  "/repos/" ++ owner ++ "/" ++ repository ++ endpoint

def listPath (owner repository endpoint : String) (limit : Int) : Except PyException String := do
  validateRepo owner repository
  validateLimit limit
  .ok (repositoryPath owner repository (endpoint ++ "per_page=" ++ toString limit))

def numberPath (what owner repository endpoint : String) (number : Int) :
    Except PyException String := do
  validateRepo owner repository
  validateNumber what number
  let text ← intText number
  .ok (repositoryPath owner repository (endpoint ++ text))

section

variable (py : Builtins) (unicode : UnicodeData) (adapter : GitHubAdapter)
  (owner repository : String)

def getRepository : Fetch RepositoryInfo :=
  adapter.fetch
    (do validateRepo owner repository; .ok (repositoryPath owner repository ""))
    (readRepository py owner repository)

def getIssue (number : Int) : Fetch IssueInfo :=
  adapter.fetch (numberPath "issue" owner repository "/issues/" number)
    (readIssue py owner repository number)

def listIssues (limit : Int) : Fetch (List IssueInfo) :=
  adapter.fetch (listPath owner repository "/issues?state=all&" limit)
    (readIssues py unicode owner repository limit)

def getPullRequest (number : Int) : Fetch PullRequestInfo :=
  adapter.fetch (numberPath "pull request" owner repository "/pulls/" number)
    (readPullRequest py owner repository number)

def listPullRequests (limit : Int) : Fetch (List PullRequestInfo) :=
  adapter.fetch (listPath owner repository "/pulls?state=all&" limit)
    (readPullRequests py unicode owner repository limit)

def getCommitStatus (sha : String) : Fetch CommitStatus :=
  adapter.fetch
    (do
      validateRepo owner repository
      validateSha sha
      .ok (repositoryPath owner repository ("/commits/" ++ sha ++ "/status")))
    (readCommitStatus py unicode owner repository sha)

def listWorkflowRuns (limit : Int) : Fetch (List WorkflowRun) :=
  adapter.fetch (listPath owner repository "/actions/runs?" limit)
    (readWorkflowRuns owner repository limit)

def listCommits (limit : Int) : Fetch (List CommitInfo) :=
  adapter.fetch (listPath owner repository "/commits?" limit)
    (readCommits py owner repository limit)

def listBranches (limit : Int) : Fetch (List BranchInfo) :=
  adapter.fetch (listPath owner repository "/branches?" limit)
    (readBranches py owner repository limit)

def listReleases (limit : Int) : Fetch (List ReleaseInfo) :=
  adapter.fetch (listPath owner repository "/releases?" limit)
    (readReleases py owner repository limit)

def searchCode (query : String) (limit : Int) : Fetch (List SearchResult) :=
  adapter.fetch
    (do
      if Text.strip query = "" then .error (validationError "search query must be non-empty")
      else do
        validateLimit limit
        .ok ("/search/code?q=" ++ quoteQuery (Text.strip query) ++ "&per_page=" ++ toString limit))
    (readSearchResults py limit)

end

end GitHubAdapter

end YasinMcp
