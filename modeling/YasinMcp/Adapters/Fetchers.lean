import YasinMcp.Adapters.Docs
import YasinMcp.Reliability.HttpRetry

/-!
# The two fetchers

The documentation adapter and the GitHub adapter each have a default requester.
They differ in their retries, in their status tables and in what they do with a
body that is longer than the limit: one reports it, the other decodes what it
read of it.
-/

namespace YasinMcp

open Foundation

def Docs.requestJson (recursionLimit : Nat) (request : UpstreamRequest) : Http Value := do
  match ← urlopen request with
  | .httpError code =>
      if code = 401 then .raise (unauthenticatedError "GitHub authentication failed" [])
      else if code = 404 then .raise (notFoundError "YASIN-DOCS resource was not found")
      else if code = 403 then
        .raise (.mcp (rateLimitedError "GitHub denied the request or rate limit was reached" []))
      else .raise (upstreamError ("GitHub returned HTTP " ++ toString code))
  | .timeout => .raise (timeoutMcpError "GitHub request timed out")
  | .urlError => .raise (unavailableDependencyError "GitHub is unavailable")
  | .broken className => .raise (.other className true)
  | .body bytes => do
      let value ← .ofExcept (decodeBody recursionLimit (bytes.take (Docs.maxDocumentBytes + 1)))
      match value with
      | .dict entries => .pure (.dict entries)
      | _ => .raise (upstreamError "GitHub returned an unexpected JSON shape")

def Docs.fetched (recursionLimit : Nat) (request : UpstreamRequest) (outcome : HttpOutcome) :
    Except PyException Value :=
  (Program.run (streamHandler fun _ => outcome) (Docs.requestJson recursionLimit request) 0).result

def GitHub.fetched (recursionLimit fuel : Nat) (request : UpstreamRequest) (outcome : HttpOutcome) :
    Except PyException (Option Value) :=
  (runOver (fun _ => outcome)
    (githubGetJson recursionLimit .default request Docs.maxDocumentBytes fuel) 0).result

def PyException.category? : PyException -> Option ErrorCategory
  | .mcp error => some error.category
  | _ => none

/-- Both raise application errors of one category, or both return one object. -/
def EndAlike (docs : Except PyException Value) (github : Except PyException (Option Value)) :
    Prop :=
  (exists e e' category, docs = .error e ∧ github = .error e' ∧
      e.category? = some category ∧ e'.category? = some category) ∨
    exists entries, docs = .ok (.dict entries) ∧ github = .ok (some (.dict entries))

/--
The two end alike.  A rate limit is reported as one by both, and neither takes a
body that is longer than the limit.
-/
structure FetchersAgree (outcome : HttpOutcome) (docs : Except PyException Value)
    (github : Except PyException (Option Value)) : Prop where
  alike : EndAlike docs github
  rate_limited : outcome.RateLimited -> exists message details message' details',
    docs = .error (.mcp (rateLimitedError message details)) ∧
      github = .error (.mcp (rateLimitedError message' details'))
  too_long : forall bytes, outcome = .body bytes -> Docs.maxDocumentBytes < bytes.length ->
    exists e e', docs = .error e ∧ github = .error e'

/-- The body is JSON, but no object. -/
def HttpOutcome.NoObject (recursionLimit : Nat) : HttpOutcome -> Prop
  | .body bytes => exists v, decodeBody recursionLimit bytes = .ok v ∧
      forall entries, v ≠ .dict entries
  | _ => False

/-- The decoder runs into a limit of the interpreter. -/
def BeyondLimits (result : Except PyException Value) : Prop :=
  exists e, result = .error e ∧ e.category? = none

/-- The outcomes on which the two fetchers agree. -/
def HttpOutcome.Agreed (recursionLimit : Nat) : HttpOutcome -> Prop
  | .httpError code => code ≠ 429
  | .broken _ => False
  | .body bytes =>
      let read := decodeBody recursionLimit (bytes.take (Docs.maxDocumentBytes + 1))
      ¬ BeyondLimits read ∧
        (bytes.length ≤ Docs.maxDocumentBytes ∨ forall entries, read ≠ .ok (.dict entries))
  | _ => True

section

variable {recursionLimit : Nat} {request : UpstreamRequest}

/-!
## What each of them gives
-/

theorem GitHub.fetched_eq (recursionLimit : Nat) (request : UpstreamRequest)
    (outcome : HttpOutcome) {fuel : Nat} (hfuel : 2 < fuel) :
    GitHub.fetched recursionLimit fuel request outcome =
      settle recursionLimit Docs.maxDocumentBytes outcome := by
  rcases @runOver_loop .default recursionLimit request Docs.maxDocumentBytes
    (fun _ => outcome) rfl (by decide) 2 0 fuel rfl hfuel with ⟨_, _, _, _, _, _, hresult⟩
  exact hresult

theorem Docs.fetched_body (recursionLimit : Nat) (request : UpstreamRequest)
    (bytes : List UInt8) :
    Docs.fetched recursionLimit request (.body bytes) =
      match decodeBody recursionLimit (bytes.take (Docs.maxDocumentBytes + 1)) with
      | .error e => .error e
      | .ok (.dict entries) => .ok (.dict entries)
      | .ok _ => .error (upstreamError "GitHub returned an unexpected JSON shape") := by
  rw [Docs.fetched, Docs.requestJson, urlopen, Program.perform_bind, Program.run_perform]
  simp only [streamHandler, Program.pure_bind]
  cases decodeBody recursionLimit (bytes.take (Docs.maxDocumentBytes + 1)) with
  | error e => rfl
  | ok v => cases v <;> rfl

theorem Docs.fetched_httpError (recursionLimit : Nat) (request : UpstreamRequest) (code : Int) :
    Docs.fetched recursionLimit request (.httpError code) =
      if code = 401 then .error (unauthenticatedError "GitHub authentication failed" [])
      else if code = 404 then .error (notFoundError "YASIN-DOCS resource was not found")
      else if code = 403 then
        .error (.mcp (rateLimitedError "GitHub denied the request or rate limit was reached" []))
      else .error (upstreamError ("GitHub returned HTTP " ++ toString code)) := by
  rw [Docs.fetched, Docs.requestJson, urlopen, Program.perform_bind, Program.run_perform]
  simp only [streamHandler, Program.pure_bind]
  split
  · rfl
  · split
    · rfl
    · split <;> rfl

theorem category_of_decodeBody {raw : List UInt8} {e : PyException}
    (h : decodeBody recursionLimit raw = .error e) :
    e.category? = some .upstreamError ∨ e.category? = none := by
  unfold decodeBody at h
  split at h
  · cases h
    exact Or.inl rfl
  · split at h
    · cases h
      exact Or.inl rfl
    · cases h
      exact Or.inr rfl
    · cases h
      exact Or.inr rfl
    · cases h

/-!
## Agreement
-/

theorem endAlike_of_errors {e e' : PyException} {category : ErrorCategory}
    (h : e.category? = some category) (h' : e'.category? = some category) :
    EndAlike (.error e) (.error e') :=
  Or.inl ⟨e, e', category, rfl, rfl, h, h'⟩

theorem category_of_endAlike {e e' : PyException} (h : EndAlike (.error e) (.error e')) :
    e.category? = e'.category? ∧ e.category? ≠ none := by
  rcases h with ⟨e₁, e₂, category, he, he', hcategory, hcategory'⟩ | ⟨entries, hdocs, _⟩
  · cases he
    cases he'
    exact ⟨hcategory.trans hcategory'.symm, by rw [hcategory]; exact Option.some_ne_none _⟩
  · cases hdocs

theorem not_beyondLimits_ok (v : Value) : ¬ BeyondLimits (.ok v) := by
  intro hbeyond
  rcases hbeyond with ⟨e, he, _⟩
  cases he

theorem not_beyondLimits_of_endAlike {e e' : PyException}
    (h : EndAlike (.error e) (.error e')) : ¬ BeyondLimits (.error e) := by
  intro hbeyond
  rcases hbeyond with ⟨raised, hraised, hcategory⟩
  cases hraised
  exact (category_of_endAlike h).2 hcategory

theorem fetchersAgree_httpError_iff (code : Int) :
    FetchersAgree (.httpError code) (Docs.fetched recursionLimit request (.httpError code))
        (settle recursionLimit Docs.maxDocumentBytes (.httpError code)) <->
      code ≠ 429 := by
  rw [Docs.fetched_httpError, settle]
  constructor
  · intro h hcode
    subst hcode
    exact absurd (category_of_endAlike h.alike).1 (by decide)
  · intro hcode
    have hlong : forall bytes, HttpOutcome.httpError code ≠ .body bytes := by
      intro bytes h
      cases h
    have hlimited : (HttpOutcome.httpError code).RateLimited -> code = 403 := by
      intro h
      exact h.resolve_right hcode
    by_cases hauth : code = 401
    · rw [if_pos hauth, if_pos hauth]
      exact ⟨endAlike_of_errors rfl rfl, fun h => absurd (hlimited h) (by omega),
        fun bytes h => absurd h (hlong bytes)⟩
    · rw [if_neg hauth, if_neg hauth]
      by_cases hmissing : code = 404
      · rw [if_pos hmissing, if_pos hmissing]
        exact ⟨endAlike_of_errors rfl rfl, fun h => absurd (hlimited h) (by omega),
          fun bytes h => absurd h (hlong bytes)⟩
      · rw [if_neg hmissing, if_neg hmissing]
        by_cases hdenied : code = 403
        · rw [if_pos hdenied, if_pos (Or.inl hdenied)]
          exact ⟨endAlike_of_errors rfl rfl, fun _ => ⟨_, _, _, _, rfl, rfl⟩,
            fun bytes h => absurd h (hlong bytes)⟩
        · rw [if_neg hdenied, if_neg (not_or.mpr ⟨hdenied, hcode⟩)]
          exact ⟨endAlike_of_errors rfl rfl, fun h => absurd (hlimited h) hdenied,
            fun bytes h => absurd h (hlong bytes)⟩

theorem settle_long {limit : Nat} {bytes : List UInt8} (h : limit < bytes.length) :
    settle recursionLimit limit (.body bytes) =
      .error (upstreamError "GitHub response exceeded the configured size limit") := by
  rw [settle, List.length_take, if_pos (by omega)]

theorem settle_short {limit : Nat} {bytes : List UInt8} (h : bytes.length ≤ limit) :
    settle recursionLimit limit (.body bytes) = (decodeBody recursionLimit bytes).map some := by
  rw [settle, List.take_of_length_le (by omega), if_neg (by omega)]

/-- A longer body is an error of the docs requester unless an object is read from its start. -/
theorem fetchersAgree_long_iff {bytes : List UInt8} (hlong : Docs.maxDocumentBytes < bytes.length) :
    FetchersAgree (.body bytes) (Docs.fetched recursionLimit request (.body bytes))
        (settle recursionLimit Docs.maxDocumentBytes (.body bytes)) <->
      (HttpOutcome.body bytes).Agreed recursionLimit := by
  have hlimited : ¬ (HttpOutcome.body bytes).RateLimited := id
  rw [Docs.fetched_body, settle_long hlong, HttpOutcome.Agreed]
  cases hread : decodeBody recursionLimit (bytes.take (Docs.maxDocumentBytes + 1)) with
  | error e =>
      constructor
      · intro h
        refine ⟨not_beyondLimits_of_endAlike h.alike, Or.inr ?_⟩
        intro entries hentries
        cases hentries
      · intro h
        have hcategory := (category_of_decodeBody hread).resolve_right
          fun hnone => h.1 ⟨e, rfl, hnone⟩
        exact ⟨endAlike_of_errors hcategory rfl, fun h => absurd h hlimited,
          fun _ _ _ => ⟨e, _, rfl, rfl⟩⟩
  | ok v =>
      by_cases hobject : exists entries, v = .dict entries
      · rcases hobject with ⟨entries, hentries⟩
        subst hentries
        refine iff_of_false ?_ ?_
        · intro h
          rcases h.too_long bytes rfl hlong with ⟨e, _, he, _⟩
          cases he
        · intro h
          exact (h.2.resolve_left (Nat.not_le.mpr hlong)) entries rfl
      · have hother : forall entries,
            (Except.ok v : Except PyException Value) ≠ .ok (.dict entries) := by
          intro entries hv
          cases hv
          exact hobject ⟨entries, rfl⟩
        refine iff_of_true ?_ ⟨not_beyondLimits_ok v, Or.inr hother⟩
        cases v with
        | dict entries => exact absurd rfl (hother entries)
        | _ =>
            exact ⟨endAlike_of_errors rfl rfl, fun h => absurd h hlimited,
              fun _ _ _ => ⟨_, _, rfl, rfl⟩⟩

/-- A body within the limit is decoded by both, so only a limit of the decoder parts them. -/
theorem fetchersAgree_short_iff {bytes : List UInt8}
    (hshort : bytes.length ≤ Docs.maxDocumentBytes)
    (hobject : ¬ (HttpOutcome.body bytes).NoObject recursionLimit) :
    FetchersAgree (.body bytes) (Docs.fetched recursionLimit request (.body bytes))
        (settle recursionLimit Docs.maxDocumentBytes (.body bytes)) <->
      (HttpOutcome.body bytes).Agreed recursionLimit := by
  have hlimited : ¬ (HttpOutcome.body bytes).RateLimited := id
  have hfits : forall bytes', HttpOutcome.body bytes = .body bytes' ->
      ¬ Docs.maxDocumentBytes < bytes'.length := by
    intro bytes' h
    cases h
    exact Nat.not_lt.mpr hshort
  have htake : bytes.take (Docs.maxDocumentBytes + 1) = bytes :=
    List.take_of_length_le (by omega)
  rw [Docs.fetched_body, settle_short hshort, HttpOutcome.Agreed, htake]
  cases hread : decodeBody recursionLimit bytes with
  | error e =>
      constructor
      · intro h
        exact ⟨not_beyondLimits_of_endAlike h.alike, Or.inl hshort⟩
      · intro h
        have hcategory := (category_of_decodeBody hread).resolve_right
          fun hnone => h.1 ⟨e, rfl, hnone⟩
        exact ⟨endAlike_of_errors hcategory hcategory, fun h => absurd h hlimited,
          fun bytes' h hlong => absurd hlong (hfits bytes' h)⟩
  | ok v =>
      have hentries : exists entries, v = .dict entries := by
        by_contra hnone
        exact hobject ⟨v, hread, fun entries hv => hnone ⟨entries, hv⟩⟩
      rcases hentries with ⟨entries, hentries⟩
      subst hentries
      apply iff_of_true _ ⟨not_beyondLimits_ok _, Or.inl hshort⟩
      exact ⟨Or.inr ⟨entries, rfl, rfl⟩, fun h => absurd h hlimited,
        fun bytes' h hlong => absurd hlong (hfits bytes' h)⟩

/--
Over an outcome repeated at every attempt the two fetchers agree unless it is the
other rate limit, a connection that broke with a raw exception, a body that starts
with an object within the limit and goes on, or a body on which the decoder runs
into a limit of the interpreter.
-/
theorem fetchersAgree_iff (recursionLimit : Nat) (request : UpstreamRequest) {fuel : Nat}
    (hfuel : 2 < fuel) {outcome : HttpOutcome} (hobject : ¬ outcome.NoObject recursionLimit) :
    FetchersAgree outcome (Docs.fetched recursionLimit request outcome)
        (GitHub.fetched recursionLimit fuel request outcome) <->
      outcome.Agreed recursionLimit := by
  rw [GitHub.fetched_eq recursionLimit request outcome hfuel]
  cases outcome with
  | httpError code => exact fetchersAgree_httpError_iff code
  | timeout =>
      exact iff_of_true ⟨endAlike_of_errors rfl rfl, fun h => h.elim,
        fun bytes h => by cases h⟩ trivial
  | urlError =>
      exact iff_of_true ⟨endAlike_of_errors rfl rfl, fun h => h.elim,
        fun bytes h => by cases h⟩ trivial
  | broken className =>
      apply iff_of_false _ id
      intro h
      exact absurd (category_of_endAlike h.alike).2 (not_not.mpr rfl)
  | body bytes =>
      by_cases hlong : Docs.maxDocumentBytes < bytes.length
      · exact fetchersAgree_long_iff hlong
      · exact fetchersAgree_short_iff (Nat.not_lt.mp hlong) hobject

theorem fetchersAgree_missing :
    FetchersAgree (.httpError 404)
      (Docs.fetched 1000 ⟨"https://api.github.com/repos", [], 30⟩ (.httpError 404))
      (GitHub.fetched 1000 3 ⟨"https://api.github.com/repos", [], 30⟩ (.httpError 404)) :=
  (fetchersAgree_iff 1000 ⟨"https://api.github.com/repos", [], 30⟩ (by decide) id).mpr
    (show (404 : Int) ≠ 429 by decide)

/-- The rate limit with its own status is an upstream error for the docs requester. -/
theorem too_many_requests_differ :
    ¬ (HttpOutcome.httpError 429).NoObject 1000 ∧
      ¬ FetchersAgree (.httpError 429)
        (Docs.fetched 1000 ⟨"https://api.github.com/repos", [], 30⟩ (.httpError 429))
        (GitHub.fetched 1000 3 ⟨"https://api.github.com/repos", [], 30⟩ (.httpError 429)) := by
  refine ⟨id, ?_⟩
  rw [GitHub.fetched_eq 1000 _ _ (by decide), fetchersAgree_httpError_iff]
  decide

end

end YasinMcp
