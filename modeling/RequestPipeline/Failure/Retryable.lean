import RequestPipeline.Failure

/-!
# Failures worth another attempt

A failure is followed along its causes until one of them decides: by its code, if that is one of
those asked for, by its own word, or by its kind.
-/

namespace RequestPipeline

/-- Whether the failure by itself is retryable, or nothing if its causes have to be asked.  `codes`
are the error codes that are retried. -/
def Failure.decides? (codes : List String) (f : Failure) : Option Bool :=
  let listed := match f.code with
    | none | some .null => false
    | some code => codes.any fun listed => Text.Str.ofString listed == code.text
  if listed then some true
  else match f.verdict with
    | .answers v => some v.truthy
    | _ => if f.kind.isTransient then some true else none

namespace Failures

/-- The failures from `id` on, none of which is in `seen`; `fuel` bounds their number. -/
def pathFrom (fs : Failures) : (fuel : Nat) → (seen : List FailureId) → Option FailureId →
    List FailureId
  | 0, _, _ => []
  | _, _, none => []
  | fuel + 1, seen, some id =>
    if seen.contains id then []
    else id :: pathFrom fs fuel (id :: seen) ((fs.get? id).bind (·.cause))

/-- A failure, its cause, the cause of that, and so on, each once.  A failure outside the heap
stands alone. -/
def causePath (fs : Failures) (id : Option FailureId) : List FailureId :=
  fs.pathFrom (fs.all.size + 1) [] id

/-- Whether a failure is retryable: what the first failure on its path of causes says that decides.
-/
def isRetryable (fs : Failures) (codes : List String) (id : Option FailureId) : Bool :=
  ((fs.causePath id).findSome? fun id => (fs.get? id).bind (Failure.decides? codes)).getD false

end Failures

end RequestPipeline
