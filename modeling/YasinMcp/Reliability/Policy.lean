import YasinMcp.Errors

/-!
# Reliability policy

How often an outbound read is tried again, and after what delays.  A policy
covers every retry it permits with a delay.
-/

namespace YasinMcp

open Foundation

def maxSafeRetries : Int := 2

def retryBackoffSeconds : List PyFloat := [.decimal false 5 (-2), .decimal false 15 (-2)]

structure ReliabilityPolicyArgs where
  maxRetries : Int := maxSafeRetries
  backoffSeconds : List PyFloat := retryBackoffSeconds
  retryOnRateLimit : Bool := true
  retryOnTimeout : Bool := false

structure ReliabilityPolicy extends ReliabilityPolicyArgs where
  retries_bounds : 0 ≤ maxRetries ∧ maxRetries ≤ maxSafeRetries
  backoff_covers : maxRetries ≤ backoffSeconds.length

namespace ReliabilityPolicy

def postInit (args : ReliabilityPolicyArgs) : Except PyException ReliabilityPolicy :=
  if hretries : args.maxRetries < 0 ∨ maxSafeRetries < args.maxRetries then
    .error (.valueError "max_retries must be between 0 and 2")
  else if hbackoff : (args.backoffSeconds.length : Int) < args.maxRetries then
    .error (.valueError "backoff_seconds must cover max_retries entries")
  else
    .ok
      { toReliabilityPolicyArgs := args
        retries_bounds := by omega
        backoff_covers := by omega }

def delayForAttempt (policy : ReliabilityPolicy) (attempt : Int) : Except PyException PyFloat :=
  if h : attempt < 0 ∨ policy.maxRetries ≤ attempt then
    .error (.valueError "attempt out of retry range")
  else
    .ok (policy.backoffSeconds.get ⟨attempt.toNat, by have := policy.backoff_covers; omega⟩)

def shouldRetry (policy : ReliabilityPolicy) (errorKind : String) (attempt : Int) : Bool :=
  if policy.maxRetries ≤ attempt then false
  else if errorKind = "rate_limit" ∧ policy.retryOnRateLimit = true then true
  else if errorKind = "timeout" ∧ policy.retryOnTimeout = true then true
  else false

def default : ReliabilityPolicy where
  toReliabilityPolicyArgs := {}
  retries_bounds := by decide
  backoff_covers := by decide

theorem shouldRetry_rateLimit_iff (policy : ReliabilityPolicy)
    (hretry : policy.retryOnRateLimit = true) (attempt : Int) :
    policy.shouldRetry "rate_limit" attempt = true <-> attempt < policy.maxRetries := by
  unfold shouldRetry
  split
  · rename_i hspent
    exact iff_of_false (by decide) (Int.not_lt.mpr hspent)
  · rename_i hleft
    rw [if_pos ⟨rfl, hretry⟩]
    exact iff_of_true rfl (Int.not_le.mp hleft)

theorem delayForAttempt_of_lt (policy : ReliabilityPolicy) {attempt : Nat}
    (h : (attempt : Int) < policy.maxRetries) :
    exists delay, policy.backoffSeconds[attempt]? = some delay ∧
      policy.delayForAttempt attempt = .ok delay := by
  have hcovers := policy.backoff_covers
  have hindex : attempt < policy.backoffSeconds.length := by omega
  refine ⟨policy.backoffSeconds[attempt], List.getElem?_eq_getElem hindex, ?_⟩
  unfold delayForAttempt
  rw [dif_neg (by omega)]
  rfl

example : postInit {} = .ok default := rfl

end ReliabilityPolicy

end YasinMcp
