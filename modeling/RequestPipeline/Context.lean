import RequestPipeline.Failure

/-!
# Contexts

A context ends when `Context.cancel` is called on it or when the clock reaches its deadline;
`Context.ending?` says which of the two has happened, and the first cancellation wins.  A
cancellation may also be scheduled for a later time, as another thread would make it.  It then
takes effect inside `Context.sleep` or `Context.wait`, which it cuts short, and nowhere else.
-/

namespace RequestPipeline

/-- A cancellation at a time, perhaps for a cause. -/
structure Cancellation where
  time : Float
  cause : Option FailureId

/-- A deadline, the cancellation that took place, and those that may. -/
structure Context where
  deadline : Option Float
  /-- The cause of the first cancellation, once there was one. -/
  cancelled : Option (Option FailureId)
  scheduled : List Cancellation

namespace Context

/-- Why a context has ended. -/
inductive Ending where
  | cancelled (cause : Option FailureId)
  | expired
  deriving DecidableEq, Repr

/-- A context that ends by cancellation only. -/
def background : Context := ⟨none, none, []⟩

/-- Cancels a context; the cause of the first cancellation stays. -/
def cancel (c : Context) (cause : Option FailureId) : Context :=
  match c.cancelled with
  | some _ => c
  | none => { c with cancelled := some cause }

/-- The deadline has been reached. -/
def isExpired (c : Context) (now : Float) : Bool :=
  match c.deadline with
  | some d => d ≤ now
  | none => false

/-- Why the context has ended, if it has. -/
def ending? (c : Context) (now : Float) : Option Ending :=
  match c.cancelled with
  | some cause => some (.cancelled cause)
  | none => if c.isExpired now then some .expired else none

def isDone (c : Context) (now : Float) : Bool := c.cancelled.isSome || c.isExpired now

/-- The larger of zero and a number; what is no number counts as zero. -/
def positivePart (x : Float) : Float := if 0 < x then x else 0

/-- The time up to the deadline. -/
def remaining? (c : Context) (now : Float) : Option Float :=
  c.deadline.map fun d => positivePart (d - now)

/-- The earliest of some cancellations, of equal ones the first. -/
def earliest? : List Cancellation → Option Cancellation
  | [] => none
  | c :: rest => match earliest? rest with
    | none => some c
    | some d => if d.time < c.time then some d else some c

/-- Lets `seconds` pass.  A cancelled context does not sleep; a cancellation due meanwhile ends the
sleep at its time. -/
def sleep (c : Context) (now seconds : Float) : Float × Context :=
  match c.cancelled with
  | some _ => (now, c)
  | none =>
    match earliest? (c.scheduled.filter fun s => s.time ≤ now + seconds) with
    | some s => (if now < s.time then s.time else now, c.cancel s.cause)
    | none => (now + seconds, c)

/-- The result of a wait: the context and the clock after it, and what the caller is told. -/
structure Waited where
  /-- The context has ended. -/
  done : Bool
  /-- The time asked of the sleep. -/
  slept : Float
  now : Float
  context : Context

/-- Waits for `seconds`, or up to the deadline if that is sooner. -/
def wait (c : Context) (now seconds : Float) : Waited :=
  let timeout := positivePart seconds
  match c.remaining? now with
  | some left =>
    if left < timeout then
      let (later, after) := c.sleep now left
      ⟨true, left, later, after⟩
    else
      let (later, after) := c.sleep now timeout
      ⟨after.isDone later, timeout, later, after⟩
  | none =>
    let (later, after) := c.sleep now timeout
    ⟨after.isDone later, timeout, later, after⟩

end Context

end RequestPipeline
