import YasinMcp.Adapters.Requester
import YasinMcp.Reliability.Policy

/-!
# HTTP reads with retries

A read over HTTP that is tried again after a rate limit, within the budget of a
policy.  The loop of the source has no bound of its own; here it runs on fuel,
and more fuel than the budget is never used up.

Over a stream of outcomes the loop passes a prefix of rate limits, sleeps before
each retry, and ends with the first other outcome or with the budget.
-/

namespace YasinMcp

open Foundation

inductive HttpOutcome where
  | httpError (code : Int)
  | timeout
  | urlError
  /-- The connection broke with an exception that the library does not wrap. -/
  | broken (className : String)
  | body (bytes : List UInt8)
deriving DecidableEq

inductive HttpOp where
  | urlopen (request : UpstreamRequest)
  | logRetry (attempt : Int) (delay : PyFloat) (status : Int)
  | sleep (delay : PyFloat)

abbrev HttpRes : HttpOp -> Type
  | .urlopen _ => HttpOutcome
  | .logRetry _ _ _ => Unit
  | .sleep _ => Except PyException Unit

abbrev Http := Program HttpOp HttpRes PyException

abbrev HttpEvent := Program.Event HttpRes

def urlopen (request : UpstreamRequest) : Http HttpOutcome :=
  .perform (.urlopen request) .pure

def logRetry (attempt : Int) (delay : PyFloat) (status : Int) : Http Unit :=
  .perform (.logRetry attempt delay status) .pure

def sleep (delay : PyFloat) : Http Unit :=
  .perform (.sleep delay) .ofExcept

def decodeBody (recursionLimit : Nat) (raw : List UInt8) : Except PyException Value :=
  match String.fromUTF8? raw.toByteArray with
  | none => .error (upstreamError "GitHub returned invalid JSON")
  | some text =>
      match Json.loads recursionLimit text with
      | .error .decode => .error (upstreamError "GitHub returned invalid JSON")
      | .error (.digits count) => .error (.valueError (digitLimitMessage count))
      | .error .recursion => .error .recursionError
      | .ok v => .ok v

/-- The loop; it gives no answer when the fuel runs out. -/
def githubGetJsonLoop (recursionLimit : Nat) (policy : ReliabilityPolicy)
    (request : UpstreamRequest) (maxResponseBytes : Nat) : Nat -> Int -> Http (Option Value)
  | 0, _ => .pure none
  | fuel + 1, attempt => do
      match ← urlopen request with
      | .httpError code =>
          if code = 401 then .raise (unauthenticatedError "GitHub authentication failed" [])
          else if code = 404 then .raise (notFoundError "GitHub resource was not found")
          else if code = 403 ∨ code = 429 then
            if policy.shouldRetry "rate_limit" attempt then do
              let delay ← .ofExcept (policy.delayForAttempt attempt)
              logRetry attempt delay code
              sleep delay
              githubGetJsonLoop recursionLimit policy request maxResponseBytes fuel (attempt + 1)
            else
              .raise (.mcp
                (rateLimitedError "GitHub denied the request or rate limit was reached" []))
          else .raise (upstreamError ("GitHub returned HTTP " ++ toString code))
      | .timeout => .raise (timeoutMcpError "GitHub request timed out")
      | .urlError => .raise (unavailableDependencyError "GitHub is unavailable")
      | .broken className => .raise (.other className true)
      | .body bytes =>
          -- One byte more than the limit is read, to tell a longer body from one that fits.
          let raw := bytes.take (maxResponseBytes + 1)
          if maxResponseBytes < raw.length then
            .raise (upstreamError "GitHub response exceeded the configured size limit")
          else .ofExcept ((decodeBody recursionLimit raw).map some)

/-!
## Streams of outcomes
-/

/-- The delay is a number of seconds, and none of them negative. -/
def Foundation.PyFloat.NonNegative : PyFloat -> Prop
  | .decimal negative digits _ => negative = false ∨ digits = 0
  | .infinity negative => negative = false
  | .nan => False

instance (x : PyFloat) : Decidable x.NonNegative := by
  cases x <;> unfold Foundation.PyFloat.NonNegative <;> infer_instance

def timeSleep (delay : PyFloat) : Except PyException Unit :=
  if delay.NonNegative then .ok ()
  else if delay = .nan then .error (.valueError "Invalid value NaN (not a number)")
  else .error (.valueError "sleep length must be non-negative")

/-- The host whose attempts have these outcomes, from the number of those made on. -/
def streamHandler (outcomes : Nat -> HttpOutcome) (made : Nat) :
    (op : HttpOp) -> HttpRes op × Nat
  | .urlopen _ => (outcomes made, made + 1)
  | .logRetry _ _ _ => ((), made)
  | .sleep delay => (timeSleep delay, made)

def isRequest : HttpEvent -> Bool
  | ⟨.urlopen _, _⟩ => true
  | _ => false

def requests (trace : List HttpEvent) : Nat :=
  trace.countP isRequest

def sleptFor : HttpEvent -> Option PyFloat
  | ⟨.sleep delay, _⟩ => some delay
  | _ => none

def sleeps (trace : List HttpEvent) : List PyFloat :=
  trace.filterMap sleptFor

def HttpOutcome.RateLimited : HttpOutcome -> Prop
  | .httpError code => code = 403 ∨ code = 429
  | _ => False

instance (outcome : HttpOutcome) : Decidable outcome.RateLimited := by
  cases outcome <;> unfold HttpOutcome.RateLimited <;> infer_instance

def runOver (outcomes : Nat -> HttpOutcome) (program : Http (Option Value)) (made : Nat) :
    Program.Run Nat HttpRes PyException (Option Value) :=
  Program.run (streamHandler outcomes) program made

section

variable {recursionLimit : Nat} {policy : ReliabilityPolicy} {request : UpstreamRequest}
  {maxResponseBytes : Nat} {outcomes : Nat -> HttpOutcome}

def settle (recursionLimit maxResponseBytes : Nat) (outcome : HttpOutcome) :
    Except PyException (Option Value) :=
  match outcome with
  | .httpError code =>
      if code = 401 then .error (unauthenticatedError "GitHub authentication failed" [])
      else if code = 404 then .error (notFoundError "GitHub resource was not found")
      else if code = 403 ∨ code = 429 then
        .error (.mcp (rateLimitedError "GitHub denied the request or rate limit was reached" []))
      else .error (upstreamError ("GitHub returned HTTP " ++ toString code))
  | .timeout => .error (timeoutMcpError "GitHub request timed out")
  | .urlError => .error (unavailableDependencyError "GitHub is unavailable")
  | .broken className => .error (.other className true)
  | .body bytes =>
      if maxResponseBytes < (bytes.take (maxResponseBytes + 1)).length then
        .error (upstreamError "GitHub response exceeded the configured size limit")
      else (decodeBody recursionLimit (bytes.take (maxResponseBytes + 1))).map some

theorem runOver_loop_last (attempt : Nat) {made fuel : Nat}
    (h : (outcomes made).RateLimited -> policy.shouldRetry "rate_limit" attempt = false) :
    runOver outcomes (githubGetJsonLoop recursionLimit policy request maxResponseBytes
        (fuel + 1) attempt) made =
      ⟨settle recursionLimit maxResponseBytes (outcomes made),
        [⟨.urlopen request, outcomes made⟩], made + 1⟩ := by
  rw [githubGetJsonLoop, urlopen, Program.perform_bind, runOver, Program.run_perform]
  simp only [streamHandler, Program.pure_bind]
  cases houtcome : outcomes made with
  | timeout => rfl
  | urlError => rfl
  | broken className => rfl
  | body bytes =>
      simp only [settle]
      split
      · rfl
      · rw [Program.run_ofExcept]
  | httpError code =>
      simp only [settle]
      split
      · rfl
      · split
        · rfl
        · split
          · rename_i hlimited
            rw [houtcome] at h
            rw [h hlimited]
            rfl
          · rfl

theorem runOver_loop_retry (recursionLimit : Nat) (request : UpstreamRequest)
    (maxResponseBytes fuel : Nat) {attempt made : Nat} {delay : PyFloat}
    (hlimited : (outcomes made).RateLimited)
    (hretry : policy.shouldRetry "rate_limit" attempt = true)
    (hdelay : policy.delayForAttempt attempt = .ok delay) (hsleep : timeSleep delay = .ok ()) :
    exists code, outcomes made = .httpError code ∧
      runOver outcomes (githubGetJsonLoop recursionLimit policy request maxResponseBytes
          (fuel + 1) attempt) made =
        let rest := runOver outcomes (githubGetJsonLoop recursionLimit policy request
          maxResponseBytes fuel (attempt + 1 : Nat)) (made + 1)
        ⟨rest.result,
          ⟨.urlopen request, .httpError code⟩ :: ⟨.logRetry attempt delay code, ()⟩ ::
            ⟨.sleep delay, .ok ()⟩ :: rest.trace,
          rest.state⟩ := by
  cases houtcome : outcomes made with
  | httpError code =>
      rw [houtcome] at hlimited
      have hcode : code = 403 ∨ code = 429 := hlimited
      have hcodes : code ≠ 401 ∧ code ≠ 404 := by omega
      refine ⟨code, rfl, ?_⟩
      rw [githubGetJsonLoop, urlopen, Program.perform_bind, runOver, Program.run_perform]
      simp only [streamHandler, Program.pure_bind, houtcome]
      rw [if_neg hcodes.1, if_neg hcodes.2, if_pos hcode, if_pos hretry, hdelay]
      simp only [Program.ofExcept_ok, Program.pure_bind, logRetry, sleep, Program.perform_bind,
        Program.run_perform, streamHandler, hsleep]
      rfl
  | timeout =>
      rw [houtcome] at hlimited
      cases hlimited
  | urlError =>
      rw [houtcome] at hlimited
      cases hlimited
  | broken className =>
      rw [houtcome] at hlimited
      cases hlimited
  | body bytes =>
      rw [houtcome] at hlimited
      cases hlimited

theorem timeSleep_of_nonNegative {delay : PyFloat} (h : delay.NonNegative) :
    timeSleep delay = .ok () :=
  if_pos h

theorem settle_of_rateLimited {outcome : HttpOutcome} (h : outcome.RateLimited) :
    settle recursionLimit maxResponseBytes outcome =
      .error (.mcp
        (rateLimitedError "GitHub denied the request or rate limit was reached" [])) := by
  cases outcome with
  | httpError code =>
      have hcode : code = 403 ∨ code = 429 := h
      rw [settle, if_neg (by omega), if_neg (by omega), if_pos hcode]
  | timeout => cases h
  | urlError => cases h
  | broken className => cases h
  | body bytes => cases h

theorem settle_ne_none (outcome : HttpOutcome) :
    settle recursionLimit maxResponseBytes outcome ≠ .ok none := by
  intro h
  cases outcome with
  | timeout => cases h
  | urlError => cases h
  | broken className => cases h
  | httpError code =>
      rw [settle] at h
      split at h
      · cases h
      · split at h
        · cases h
        · split at h <;> cases h
  | body bytes =>
      rw [settle] at h
      split at h
      · cases h
      · cases hdecode : decodeBody recursionLimit (bytes.take (maxResponseBytes + 1)) with
        | error e =>
            rw [hdecode] at h
            cases h
        | ok v =>
            rw [hdecode] at h
            cases h

/-- The loop from some attempt on: rate limits passed, delays slept for, and the last attempt. -/
theorem runOver_loop (recursionLimit : Nat) (request : UpstreamRequest) (maxResponseBytes : Nat)
    (outcomes : Nat -> HttpOutcome) (hretry : policy.retryOnRateLimit = true)
    (hdelays : forall delay, delay ∈ policy.backoffSeconds -> delay.NonNegative)
    (left attempt fuel : Nat) (hleft : ((attempt + left : Nat) : Int) = policy.maxRetries)
    (hfuel : left < fuel) :
    exists retries, retries ≤ left ∧
      (forall i, i < retries -> (outcomes (attempt + i)).RateLimited) ∧
      ((outcomes (attempt + retries)).RateLimited -> retries = left) ∧
      let r := runOver outcomes (githubGetJsonLoop recursionLimit policy request maxResponseBytes
        fuel attempt) attempt
      requests r.trace = retries + 1 ∧
        sleeps r.trace = (policy.backoffSeconds.drop attempt).take retries ∧
        r.result = settle recursionLimit maxResponseBytes (outcomes (attempt + retries)) := by
  induction left generalizing attempt fuel with
  | zero =>
      rcases Nat.exists_eq_succ_of_ne_zero (Nat.ne_of_gt hfuel) with ⟨fuel', hfuel'⟩
      subst hfuel'
      have hspent : policy.shouldRetry "rate_limit" attempt = false := by
        rw [Bool.eq_false_iff, ne_eq, policy.shouldRetry_rateLimit_iff hretry]
        omega
      refine ⟨0, Nat.le_refl 0, fun i hi => absurd hi (Nat.not_lt_zero i), fun _ => rfl, ?_⟩
      rw [runOver_loop_last attempt fun _ => hspent]
      exact ⟨rfl, rfl, rfl⟩
  | succ left ih =>
      rcases Nat.exists_eq_succ_of_ne_zero (Nat.ne_of_gt (Nat.zero_lt_of_lt hfuel)) with
        ⟨fuel', hfuel'⟩
      subst hfuel'
      have hbudget : (attempt : Int) < policy.maxRetries := by omega
      by_cases hlimited : (outcomes attempt).RateLimited
      · rcases policy.delayForAttempt_of_lt hbudget with ⟨delay, hindex, hdelay⟩
        have hsleep := timeSleep_of_nonNegative (hdelays delay (List.mem_of_getElem? hindex))
        rcases runOver_loop_retry recursionLimit request maxResponseBytes fuel' hlimited
          ((policy.shouldRetry_rateLimit_iff hretry attempt).mpr hbudget) hdelay hsleep with
          ⟨code, _, hrun⟩
        rcases ih (attempt + 1) fuel' (by omega) (by omega) with
          ⟨retries, hle, hpassed, hlast, hrequests, hsleeps, hresult⟩
        have hshift : attempt + 1 + retries = attempt + (retries + 1) := by omega
        refine ⟨retries + 1, Nat.succ_le_succ hle, ?_, ?_, ?_⟩
        · intro i hi
          cases i with
          | zero => exact hlimited
          | succ i =>
              rw [show attempt + (i + 1) = attempt + 1 + i by omega]
              exact hpassed i (Nat.lt_of_succ_lt_succ hi)
        · intro h
          rw [← hshift] at h
          rw [hlast h]
        · have hdrop : (policy.backoffSeconds.drop attempt).take (retries + 1) =
              delay :: (policy.backoffSeconds.drop (attempt + 1)).take retries := by
            rcases List.getElem?_eq_some_iff.mp hindex with ⟨hlt, hget⟩
            rw [List.drop_eq_getElem_cons hlt, List.take_succ_cons, hget]
          rw [hrun, hdrop, ← hshift]
          refine ⟨?_, ?_, hresult⟩
          · exact (List.countP_cons_of_pos rfl).trans (congrArg (· + 1) hrequests)
          · exact congrArg (delay :: ·) hsleeps
      · refine ⟨0, Nat.zero_le _, fun i hi => absurd hi (Nat.not_lt_zero i),
          fun h => absurd h hlimited, ?_⟩
        rw [runOver_loop_last attempt fun h => absurd h hlimited]
        exact ⟨rfl, rfl, rfl⟩

end

/-- The loop of the source with a budget of fuel. -/
def githubGetJson (recursionLimit : Nat) (policy : ReliabilityPolicy) (request : UpstreamRequest)
    (maxResponseBytes fuel : Nat) : Http (Option Value) :=
  githubGetJsonLoop recursionLimit policy request maxResponseBytes fuel 0

/--
Bounded retries, over any stream of outcomes and with any fuel beyond the budget.
The loop ends after a retry for each rate limit it passed, with what the next
outcome gives alone, or with the rate limit once the budget is spent.
-/
theorem bounded_retries (recursionLimit : Nat) (policy : ReliabilityPolicy)
    (hretry : policy.retryOnRateLimit = true)
    (hdelays : forall delay, delay ∈ policy.backoffSeconds -> delay.NonNegative)
    (request : UpstreamRequest) (maxResponseBytes : Nat) (outcomes : Nat -> HttpOutcome)
    {fuel : Nat} (hfuel : policy.maxRetries < fuel) :
    let run := fun stream =>
      runOver stream (githubGetJson recursionLimit policy request maxResponseBytes fuel) 0
    let r := run outcomes
    exists retries : Nat, (retries : Int) ≤ policy.maxRetries ∧
      requests r.trace = retries + 1 ∧
      (forall i, i < retries -> (outcomes i).RateLimited ∧
        exists delay : PyFloat, policy.delayForAttempt i = .ok delay) ∧
      sleeps r.trace = policy.backoffSeconds.take retries ∧
      r.result ≠ .ok none ∧
      ((¬ (outcomes retries).RateLimited ∧
          r.result = (run fun _ => outcomes retries).result) ∨
        ((outcomes retries).RateLimited ∧ (retries : Int) = policy.maxRetries ∧
          exists message, r.result = .error (.mcp (rateLimitedError message [])))) := by
  intro run r
  have hbounds := policy.retries_bounds
  rcases runOver_loop recursionLimit request maxResponseBytes outcomes hretry hdelays
    policy.maxRetries.toNat 0 fuel (by omega) (by omega) with
    ⟨retries, hle, hpassed, hlast, hrequests, hsleeps, hresult⟩
  simp only [Nat.zero_add] at hpassed hlast hresult
  have hsettled : r.result = settle recursionLimit maxResponseBytes (outcomes retries) := hresult
  refine ⟨retries, by omega, hrequests, ?_, hsleeps, ?_, ?_⟩
  · intro i hi
    rcases policy.delayForAttempt_of_lt (show (i : Int) < policy.maxRetries by omega) with
      ⟨delay, _, hdelay⟩
    exact ⟨hpassed i hi, delay, hdelay⟩
  · rw [hsettled]
    exact settle_ne_none _
  · by_cases hlimited : (outcomes retries).RateLimited
    · right
      have hspent := hlast hlimited
      exact ⟨hlimited, by omega, _, hsettled.trans (settle_of_rateLimited hlimited)⟩
    · left
      rcases Nat.exists_eq_succ_of_ne_zero (show fuel ≠ 0 by omega) with ⟨fuel', hfuel'⟩
      have halone : run (fun _ => outcomes retries) =
          ⟨settle recursionLimit maxResponseBytes (outcomes retries),
            [⟨.urlopen request, outcomes retries⟩], 1⟩ := by
        subst hfuel'
        exact runOver_loop_last 0 fun h => absurd h hlimited
      exact ⟨hlimited, by rw [hsettled, halone]⟩

/-- One rate limit, then a timeout: one retry after the first delay, and the timeout is raised. -/
theorem bounded_retries_timeout :
    let r := runOver (fun i => if i = 0 then .httpError 429 else .timeout)
      (githubGetJson 9 ReliabilityPolicy.default ⟨"https://api.github.com/repos", [], 30⟩ 10 3) 0
    requests r.trace = 2 ∧ sleeps r.trace = [.decimal false 5 (-2)] ∧ r.result ≠ .ok none := by
  intro r
  have hrequests : requests r.trace = 2 := rfl
  rcases bounded_retries 9 ReliabilityPolicy.default rfl (by decide)
    ⟨"https://api.github.com/repos", [], 30⟩ 10 (fun i => if i = 0 then .httpError 429 else .timeout)
    (show ReliabilityPolicy.default.maxRetries < (3 : Nat) by decide) with
    ⟨retries, _, hmade, _, hsleeps, hended, _⟩
  have hone : retries = 1 := by
    have htwo := hmade.symm.trans hrequests
    omega
  subst hone
  exact ⟨hrequests, hsleeps, hended⟩

end YasinMcp
