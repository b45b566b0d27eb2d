import RequestPipeline.Drive

/-!
# The pipeline

A request runs through its phases: validate and build once, then attempts of send and unmarshal with
the retry phase between them, and complete at the end whatever happened.
-/

namespace RequestPipeline

namespace Request

open Step

variable {κ μ : Type} (perform : κ → Step κ μ Unit)

/-- Runs callbacks in order. -/
def runAll : List κ → Step κ μ Unit
  | [] => pure ()
  | callback :: rest => do
    perform callback
    runAll rest

/-- Runs the hooks that a phase has when it begins. -/
def runPhase (p : Phase) : Step κ μ Unit := do
  record (.phase p)
  let r ← getRequest
  runAll perform (r.hooks.get p).callbacks

/-- Sets the stage of the request. -/
def setStage (stage : Stage) : Step κ μ Unit := modifyRequest fun r => { r with stage }

def clearError : Step κ μ Unit := modifyRequest fun r => { r with error := none }

def markBuilt : Step κ μ Unit := modifyRequest fun r => { r with stage := .built, built := true }

/-- Sets the time of the first attempt to the time on the clock. -/
def startClock : Step κ μ Unit := do
  let time ← now
  modifyRequest fun r => { r with firstAttempt := some time }

/-- Puts the request into the failed stage and logs its error with the name of the phase it failed
in. -/
def markFailed (place : String) : Step κ μ Unit := do
  setStage .failed
  let r ← getRequest
  if r.config.logLevel.atLeast LogLevel.error then
    let text ← match r.error with
      | some id => messageOf id
      | none => pure "None"
    log (.ofString s!"ERROR: {place} {r.operation.name} failed, error " ++ text)

/-- Stops with the error of the request if there is one, marked as failed in the phase of that name.
-/
def stopIfFailed (place : String) : Step κ μ Unit := do
  let r ← getRequest
  match r.error with
  | some id => do
    markFailed place
    raise id
  | none => pure ()

/-- The error that a phase of an attempt has left, with the request marked as failed in it. -/
def failureAt (place : String) : Step κ μ (Option FailureId) := do
  let r ← getRequest
  match r.error with
  | some id => do
    markFailed place
    pure (some id)
  | none => pure none

/-- Ends an attempt whose context has ended before. -/
def failCancelled (id : FailureId) : Step κ μ (Option FailureId) := do
  setError id
  markFailed "Send"
  pure (some id)

/-- Whether the retryer agrees to another attempt after a failure. -/
def mayRetry : Step κ μ Bool := do
  let w ← getWorld
  let r ← getRequest
  pure (r.retryer.accepts r.budget r.firstAttempt w.clock w.failures r.error)

/-- Stops unless the retry phase left no error or the failure it began with. -/
def stopIfReplaced (failure : FailureId) : Step κ μ Unit := do
  let r ← getRequest
  match r.error with
  | some id =>
    if id = failure then pure ()
    else do
      markFailed "Retry"
      raise id
  | none => pure ()

/-- Counts a retry; the answer is how long to wait for it. -/
def countRetry : Step κ μ Float := do
  modifyRequest fun r => { r with budget.used := r.budget.used + 1 }
  let r ← getRequest
  let (seconds, retryer) := r.retryer.delay
  modifyRequest fun r => { r with retryer }
  pure seconds

/-- Stops with the failure for the end of the context, and names the failure of the attempt as its
cause.  A context that has not ended has no failure to raise, which is a failure of its own. -/
def stopEnded (failure : FailureId) : Step κ μ Unit := do
  match ← cancellation? with
  | some id => do
    setError id
    markFailed "Retry"
    setCause id failure
    raise id
  | none => do
    clearError
    markFailed "Retry"
    fail (.told (.outside .type) "exceptions must derive from BaseException")

/-- Logs the retry and drops the response of the attempt before it. -/
def prepareRetry : Step κ μ Unit := do
  let r ← getRequest
  if r.config.logLevel.covers LogLevel.debugRetries then
    log s!"DEBUG: Retrying Request {r.operation.name}, attempt {r.budget.used}"
  modifyRequest fun r => { r with response := none, transmission := none, stage := .built }

/-- Gives a request without a response the placeholder response. -/
def fillResponse : Step κ μ Unit :=
  modifyRequest fun r => { r with response := r.response.or (some Response.missing) }

/-- Puts a request without an error into the completed stage. -/
def markCompleted : Step κ μ Unit :=
  modifyRequest fun r => if r.error.isNone then { r with stage := .completed } else r

end Request

namespace Drive

open Step Request

variable {κ μ : Type} (perform : κ → Step κ μ Unit)

/-- Runs a phase. -/
def phase (p : Phase) : Drive κ μ Unit := noting p (runPhase perform p)

/-- Runs the validate and build phases, unless they have been run or an error is there. -/
def build : Drive κ μ Unit := do
  let r ← take getRequest
  match r.error with
  | some id => take (raise id)
  | none =>
    if r.built then pure ()
    else do
      phase perform .validate
      take (stopIfFailed "Validate")
      take (setStage .validated)
      phase perform .build
      take (stopIfFailed "Build")
      take markBuilt

/-- One attempt: the send and unmarshal phases, unless the context has ended before.  The answer is
the failure it ended in. -/
def attempt : Drive κ μ (Option FailureId) := do
  note (.attempt (← session))
  match ← take cancellation? with
  | some id => take (failCancelled id)
  | none => do
    phase perform .send
    match ← take (failureAt "Send") with
    | some id => pure (some id)
    | none => do
      take (setStage .sent)
      phase perform .unmarshal
      take (failureAt "Unmarshal")

/-- Asks the retryer about another attempt. -/
def decision : Drive κ μ Bool := do
  let s ← session
  let accepted ← take mayRetry
  note (.decision s accepted)
  pure accepted

/-- Waits on the context; the answer says whether it has ended. -/
def pause (seconds : Float) : Drive κ μ Bool := do
  let before ← session
  let ended ← take (wait seconds)
  note (.wait before seconds ended (← session))
  pure ended

/-- What comes between a failed attempt and the next one: the retry phase, which may end the request
by another failure, and a wait, which the end of the context ends. -/
def interval (failure : FailureId) : Drive κ μ Unit := do
  phase perform .retry
  take (stopIfReplaced failure)
  let seconds ← take countRetry
  if ← pause seconds then take (stopEnded failure)
  else take prepareRetry

/-- One attempt and what follows it: the decoded answer, or nothing if another one is to come. -/
def round : Drive κ μ (Option Value) := do
  take clearError
  match ← attempt perform with
  | none => do
    take (setStage .unmarshalled)
    let r ← take getRequest
    pure (some r.data)
  | some failure => do
    if ← decision then do
      interval perform failure
      pure none
    else take (raise failure)

/-- Attempts until one succeeds or no other is allowed, at most `limit` times. -/
def attempts : (limit : Nat) → Drive κ μ Value
  | 0 => take (throw .unfinished)
  | limit + 1 => do
    match ← round perform with
    | some v => pure v
    | none => attempts limit

/-- The pipeline up to its outcome. -/
def deliver (limit : Nat) : Drive κ μ Value := do
  build perform
  take startClock
  attempts perform limit

/-- The end of a request: its complete phase. -/
def finish : Drive κ μ Unit := do
  take fillResponse
  phase perform .complete
  take markCompleted

/-- Sends the request: the pipeline to its outcome, then the end.  The outcome is the decoded answer
or the failure; a failure of the end replaces it. -/
def send (limit : Nat) : Drive κ μ Value := (deliver perform limit).closedBy (finish perform)

end Drive

namespace Request

variable {κ μ : Type} (perform : κ → Step κ μ Unit)

/-- Runs the validate and build phases, unless they have been run or an error is there. -/
def build : Step κ μ Unit := (Drive.build perform).toStep

/-- Sends the request. -/
def send (limit : Nat) : Step κ μ Value := (Drive.send perform limit).toStep

end Request

end RequestPipeline
