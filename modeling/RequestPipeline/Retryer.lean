import RequestPipeline.Failure.Retryable
import RequestPipeline.RetryPolicy

/-!
# Retryers

After a failed attempt the driver asks `Retryer.accepts` whether to try again, and `Retryer.delay`
how long to wait before that.  One retryer never agrees.  The other one agrees to failures that are
retryable, up to a number of retries and an elapsed time, and waits by a backoff policy.
-/

namespace RequestPipeline

/-- What decides about another attempt: nobody agrees to any, or a backoff policy does. -/
inductive Retryer where
  | never
  | backoff (progress : Backoff.Progress Float)

namespace Retryer

/-- Random numbers from a list, over and over; of an empty list all are one half. -/
def sourceOf (draws : List Float) (n : Nat) : Float :=
  if draws.isEmpty then 0.5 else draws.getD (n % draws.length) 0.5

/-- A policy with random numbers from a list. -/
def ofPolicy (policy : Backoff Float) (draws : List Float) : Retryer :=
  .backoff (.start policy (sourceOf draws))

/-- The number of random numbers drawn so far. -/
def drawn? : Retryer → Option Nat
  | .never => none
  | .backoff progress => some progress.drawn

/-- The retryer after a number of random numbers, which others may have drawn. -/
def resume (drawn : Nat) : Retryer → Retryer
  | .never => .never
  | .backoff progress => .backoff { progress with drawn }

/-- The time since the first attempt and the delay of the moment exceed the elapsed time that
retries may take. -/
def isTooLate (budget : RetryBudget) (progress : Backoff.Progress Float)
    (firstAttempt : Option Float) (now : Float) : Bool :=
  match firstAttempt with
  | none => false
  | some start =>
    decide (0 < budget.maxElapsed) && decide (budget.maxElapsed < now - start + progress.current)

/-- Whether a request that ended in `error` may be attempted again.  A budget without retries left
decides first, then the time, then the mark of the request, then the failure. -/
def accepts (retryer : Retryer) (budget : RetryBudget) (firstAttempt : Option Float) (now : Float)
    (failures : Failures) (error : Option FailureId) : Bool :=
  match retryer with
  | .never => false
  | .backoff progress =>
    if budget.limit = 0 then false
    else if budget.limit ≤ budget.used then false
    else if isTooLate budget progress firstAttempt now then false
    else if budget.marked then true
    else failures.isRetryable budget.codes error

/-- The length of the next wait, and the retryer after it. -/
def delay (retryer : Retryer) : Float × Retryer :=
  match retryer with
  | .never => (0, .never)
  | .backoff progress =>
    let (seconds, after) := progress.next
    (seconds, .backoff after)

end Retryer

end RequestPipeline
