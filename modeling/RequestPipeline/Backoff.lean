/-!
# Exponential backoff with jitter

`Backoff` is the policy: the delay starts at `initial`, is multiplied after every wait and stays
below a cap once it has passed it.  `Backoff.spread` draws the wait itself uniformly from the
interval around the delay, and `Backoff.Progress` carries the delay of one request from wait to
wait.  The policy is generic in its numbers: requests use floats, and the schedule is proved over
ordered fields.
-/

namespace RequestPipeline

/-- A backoff policy: the first delay, its growth, its cap, and the share drawn around it. -/
structure Backoff (α : Type) where
  initial : α
  multiplier : α
  cap : α
  jitter : α

namespace Backoff

variable {α : Type} [Add α] [Sub α] [Mul α] [Zero α] [LE α] [DecidableLE α] [LT α] [DecidableLT α]

/-- A length between `delay - delay * jitter` and `delay + delay * jitter`, as far along as `draw`
says.  Without jitter it is the delay itself. -/
def spread (delay jitter draw : α) : α :=
  if jitter ≤ 0 then delay
  else
    let delta := delay * jitter
    let low := delay - delta
    let high := delay + delta
    low + draw * (high - low)

/-- The delay after `current`. -/
def grow (policy : Backoff α) (current : α) : α :=
  let grown := current * policy.multiplier
  if policy.cap < grown then policy.cap else grown

/-- A policy at work: the delay reached so far and the random numbers still to come. -/
structure Progress (α : Type) where
  policy : Backoff α
  reached : Option α
  source : Nat → α
  /-- The number of random numbers drawn. -/
  drawn : Nat

namespace Progress

def start (policy : Backoff α) (source : Nat → α) : Progress α := ⟨policy, none, source, 0⟩

/-- The delay that the next wait is drawn around. -/
def current (p : Progress α) : α := p.reached.getD p.policy.initial

/-- The length of the next wait, and the progress after it; only jitter takes a random number. -/
def next (p : Progress α) : α × Progress α :=
  (spread p.current p.policy.jitter (p.source p.drawn),
    { p with
      reached := some (p.policy.grow p.current)
      drawn := if p.policy.jitter ≤ 0 then p.drawn else p.drawn + 1 })

end Progress

end Backoff

end RequestPipeline
