import RequestPipeline.Pipeline

/-!
# What the steps of the pipeline do

The driver works on its request between the phases: it marks failures, counts retries and looks at
the context.  Each of these steps has an equation for the session it leaves, and no step of the
driver but those that say so touches the budget or the error of the request.
-/

namespace RequestPipeline

open Text (Str)

variable {κ μ : Type}

section MapError

variable {ε ε' α : Type} (f : ε → ε')

@[simp] theorem mapError_ok (a : α) : (.ok a : Except ε α).mapError f = .ok a := rfl

@[simp] theorem mapError_error (e : ε) :
    (.error e : Except ε α).mapError f = .error (f e) := rfl

variable {f}

theorem mapError_eq_error {x : Except ε α} {e' : ε'} (h : x.mapError f = .error e') :
    ∃ e, x = .error e ∧ f e = e' := by
  cases x with
  | error e => exact ⟨e, rfl, Except.error.inj h⟩
  | ok a => cases h

end MapError

/-! ## Contexts -/

theorem Context.isDone_eq_isSome (c : Context) (now : Float) :
    c.isDone now = (c.ending? now).isSome := by
  rw [Context.isDone, Context.ending?]
  cases c.cancelled with
  | some cause => simp
  | none => cases c.isExpired now <;> simp

/-- The failure that the end of a context stands for, among the others; a cancellation for the cause
of another cancellation keeps that one. -/
def Failures.ofEnding (fs : Failures) : Context.Ending → FailureId × Failures
  | .expired => fs.add (.ofReason .deadlineExceeded)
  | .cancelled none => fs.add (.ofReason (.cancelled none))
  | .cancelled (some cause) =>
    match fs.get? cause with
    | some f =>
      if f.kind = .cancelled then (cause, fs)
      else fs.add (.ofReason (.cancelled (some f.message)))
    | none => fs.add (.ofReason (.cancelled none))

namespace Session

/-- The context of the request has ended. -/
def isEnded (s : Session κ μ) : Bool := s.request.context.isDone s.world.clock

/-- The retryer agrees to another attempt. -/
def acceptsRetry (s : Session κ μ) : Bool :=
  s.request.retryer.accepts s.request.budget s.request.firstAttempt s.world.clock s.world.failures
    s.request.error

/-- The session after a line has gone to the logger, if there is one. -/
def logged (line : Str) (s : Session κ μ) : Session κ μ :=
  match s.request.config.logger with
  | some logger => { s with world := { s.world with events := .log logger line :: s.world.events } }
  | none => s

section Logged

variable (line : Str) (s : Session κ μ)

@[simp] theorem request_logged : (s.logged line).request = s.request := by
  rw [logged]; split <;> rfl

@[simp] theorem clock_logged : (s.logged line).world.clock = s.world.clock := by
  rw [logged]; split <;> rfl

@[simp] theorem failures_logged : (s.logged line).world.failures = s.world.failures := by
  rw [logged]; split <;> rfl

end Logged

/-- The session with other failures. -/
def withFailures (failures : Failures) (s : Session κ μ) : Session κ μ :=
  { s with world := { s.world with failures } }

/-- The session with another error of its request. -/
def withError (error : Option FailureId) (s : Session κ μ) : Session κ μ :=
  { s with request := { s.request with error } }

/-- The session with its request at another stage. -/
def atStage (stage : Stage) (s : Session κ μ) : Session κ μ :=
  { s with request := { s.request with stage } }

section

variable (s : Session κ μ)

@[simp] theorem request_withFailures (failures : Failures) :
    (s.withFailures failures).request = s.request := rfl

@[simp] theorem clock_withFailures (failures : Failures) :
    (s.withFailures failures).world.clock = s.world.clock := rfl

@[simp] theorem failures_withFailures (failures : Failures) :
    (s.withFailures failures).world.failures = failures := rfl

@[simp] theorem request_withError (error : Option FailureId) :
    (s.withError error).request = { s.request with error } := rfl

@[simp] theorem world_withError (error : Option FailureId) :
    (s.withError error).world = s.world := rfl

@[simp] theorem request_atStage (stage : Stage) :
    (s.atStage stage).request = { s.request with stage } := rfl

@[simp] theorem world_atStage (stage : Stage) : (s.atStage stage).world = s.world := rfl

end

/-- The session with its request built. -/
def asBuilt (s : Session κ μ) : Session κ μ :=
  { s with request := { s.request with stage := .built, built := true } }

/-- The session with the time of its first attempt. -/
def begun (s : Session κ μ) : Session κ μ :=
  { s with request := { s.request with firstAttempt := some s.world.clock } }

@[simp] theorem request_asBuilt (s : Session κ μ) :
    s.asBuilt.request = { s.request with stage := .built, built := true } := rfl

@[simp] theorem request_begun (s : Session κ μ) :
    s.begun.request = { s.request with firstAttempt := some s.world.clock } := rfl

/-- The words for the error of the request. -/
def errorText (s : Session κ μ) : Str :=
  match s.request.error with
  | some id => s.world.failures.messageOf id
  | none => "None"

/-- The session after its request has been marked as failed at a place. -/
def failed (place : String) (s : Session κ μ) : Session κ μ :=
  if s.request.config.logLevel.atLeast LogLevel.error then
    (s.atStage .failed).logged
      (.ofString s!"ERROR: {place} {s.request.operation.name} failed, error " ++ s.errorText)
  else s.atStage .failed

section Failed

variable (place : String) (s : Session κ μ)

@[simp] theorem request_failed :
    (s.failed place).request = { s.request with stage := .failed } := by
  rw [failed]; split <;> simp

@[simp] theorem clock_failed : (s.failed place).world.clock = s.world.clock := by
  rw [failed]; split <;> simp

@[simp] theorem failures_failed : (s.failed place).world.failures = s.world.failures := by
  rw [failed]; split <;> simp

end Failed

/-- The session after a retry has been counted and the length of its wait drawn. -/
def counted (s : Session κ μ) : Session κ μ :=
  { s with request := { s.request with
      budget := { s.request.budget with used := s.request.budget.used + 1 }
      retryer := s.request.retryer.delay.2 } }

/-- The session after a wait. -/
def waited (seconds : Float) (s : Session κ μ) : Session κ μ :=
  let w := s.request.context.wait s.world.clock seconds
  { world := { s.world with clock := w.now, events := .wait w.slept :: s.world.events }
    request := { s.request with context := w.context } }

/-- A wait of the session tells that the context has ended. -/
def waitEnds (seconds : Float) (s : Session κ μ) : Bool :=
  (s.request.context.wait s.world.clock seconds).done

/-- The line about another attempt, if the request logs those. -/
def announced (s : Session κ μ) : Session κ μ :=
  if s.request.config.logLevel.covers LogLevel.debugRetries then
    s.logged s!"DEBUG: Retrying Request {s.request.operation.name}, attempt {s.request.budget.used}"
  else s

/-- The session ready for another attempt. -/
def prepared (s : Session κ μ) : Session κ μ :=
  { s.announced with request := { s.request with
      response := none, transmission := none, stage := .built } }

@[simp] theorem request_announced (s : Session κ μ) : s.announced.request = s.request := by
  rw [announced]; split <;> simp

@[simp] theorem clock_announced (s : Session κ μ) : s.announced.world.clock = s.world.clock := by
  rw [announced]; split <;> simp

@[simp] theorem failures_announced (s : Session κ μ) :
    s.announced.world.failures = s.world.failures := by
  rw [announced]; split <;> simp

/-- The session with a response, if only one that stands for none. -/
def filled (s : Session κ μ) : Session κ μ :=
  { s with request := { s.request with
      response := s.request.response.or (some Response.missing) } }

@[simp] theorem request_filled (s : Session κ μ) :
    s.filled.request =
      { s.request with response := s.request.response.or (some Response.missing) } := rfl

/-- The session after its end: a request without error has been completed. -/
def closed (s : Session κ μ) : Session κ μ :=
  if s.request.error.isNone then s.atStage .completed else s

@[simp] theorem error_closed (s : Session κ μ) : s.closed.request.error = s.request.error := by
  rw [closed]; split <;> rfl

@[simp] theorem failures_closed (s : Session κ μ) :
    s.closed.world.failures = s.world.failures := by
  rw [closed]; split <;> rfl

end Session

/-! ## Steps -/

namespace Request

open Step

variable (s : Session κ μ) (place : String)

@[simp] theorem run_setStage (stage : Stage) :
    (setStage stage : Step κ μ Unit).run s = (.ok (), s.atStage stage) := rfl

@[simp] theorem run_clearError :
    (clearError : Step κ μ Unit).run s = (.ok (), s.withError none) := rfl

@[simp] theorem run_markBuilt : (markBuilt : Step κ μ Unit).run s = (.ok (), s.asBuilt) := rfl

@[simp] theorem run_startClock : (startClock : Step κ μ Unit).run s = (.ok (), s.begun) := rfl

@[simp] theorem run_log (line : Str) :
    (log line : Step κ μ Unit).run s = (.ok (), s.logged line) := by
  rw [log, Session.logged]
  cases h : s.request.config.logger <;> simp [h]

@[simp] theorem run_markFailed :
    (markFailed place : Step κ μ Unit).run s = (.ok (), s.failed place) := by
  rw [markFailed, Session.failed, Session.errorText]
  by_cases hl : s.request.config.logLevel.atLeast LogLevel.error = true <;>
    cases h : s.request.error <;> simp [h, hl, Session.atStage]

theorem run_stopIfFailed :
    (stopIfFailed place : Step κ μ Unit).run s =
      match s.request.error with
      | some id => (.error (.raised id), s.failed place)
      | none => (.ok (), s) := by
  rw [stopIfFailed]
  cases h : s.request.error <;> simp [h]

theorem run_failureAt :
    (failureAt place : Step κ μ _).run s =
      match s.request.error with
      | some id => (.ok (some id), s.failed place)
      | none => (.ok none, s) := by
  rw [failureAt]
  cases h : s.request.error <;> simp [h]

@[simp] theorem run_failCancelled (id : FailureId) :
    (failCancelled id : Step κ μ _).run s =
      (.ok (some id), (s.withError (some id)).failed "Send") := by
  simp [failCancelled, Session.withError]

@[simp] theorem run_mayRetry : (mayRetry : Step κ μ Bool).run s = (.ok s.acceptsRetry, s) := rfl

theorem run_stopIfReplaced (failure : FailureId) :
    (stopIfReplaced failure : Step κ μ Unit).run s =
      match s.request.error with
      | some id =>
        if id = failure then (.ok (), s) else (.error (.raised id), s.failed "Retry")
      | none => (.ok (), s) := by
  rw [stopIfReplaced]
  cases h : s.request.error <;> simp [h]

@[simp] theorem run_countRetry :
    (countRetry : Step κ μ Float).run s = (.ok s.request.retryer.delay.1, s.counted) := rfl

@[simp] theorem run_prepareRetry :
    (prepareRetry : Step κ μ Unit).run s = (.ok (), s.prepared) := by
  rw [prepareRetry, Session.prepared, Session.announced]
  by_cases h : s.request.config.logLevel.covers LogLevel.debugRetries = true <;> simp [h]

@[simp] theorem run_fillResponse : (fillResponse : Step κ μ Unit).run s = (.ok (), s.filled) := rfl

@[simp] theorem run_markCompleted :
    (markCompleted : Step κ μ Unit).run s = (.ok (), s.closed) := by
  rw [markCompleted, Session.closed]
  cases h : s.request.error <;> simp [h, Session.atStage]

theorem run_wait_eq (seconds : Float) :
    (wait seconds : Step κ μ Bool).run s = (.ok (s.waitEnds seconds), s.waited seconds) := rfl

/-! ## The end of the context -/

theorem run_cancellation :
    (cancellation? : Step κ μ _).run s =
      match s.request.context.ending? s.world.clock with
      | none => (.ok none, s)
      | some e => (.ok (some (s.world.failures.ofEnding e).1),
          s.withFailures (s.world.failures.ofEnding e).2) := by
  simp only [Session.withFailures]
  cases h : s.request.context.ending? s.world.clock with
  | none => simp [cancellation?, h]
  | some e =>
    cases e with
    | expired => simp [cancellation?, h, Failures.ofEnding]
    | cancelled cause =>
      cases cause with
      | none => simp [cancellation?, h, Failures.ofEnding]
      | some cause =>
        cases hf : s.world.failures.get? cause with
        | none => simp [cancellation?, h, hf, Failures.ofEnding]
        | some f =>
          by_cases hk : f.kind = .cancelled <;> simp [cancellation?, h, hf, hk, Failures.ofEnding]

/-- A context that has not ended stands for no failure. -/
theorem run_cancellation_of_live (h : s.isEnded = false) :
    (cancellation? : Step κ μ _).run s = (.ok none, s) := by
  have hnone : s.request.context.ending? s.world.clock = none := by
    simpa [Session.isEnded, Context.isDone_eq_isSome] using h
  simp [run_cancellation, hnone]

/-- A context that has ended stands for a failure, which may be new. -/
theorem run_cancellation_of_ended (h : s.isEnded = true) :
    ∃ id failures, (cancellation? : Step κ μ _).run s =
      (.ok (some id), s.withFailures failures) := by
  obtain ⟨e, he⟩ : ∃ e, s.request.context.ending? s.world.clock = some e := by
    simpa [Session.isEnded, Context.isDone_eq_isSome, Option.isSome_iff_exists] using h
  exact ⟨_, _, by rw [run_cancellation, he]⟩

/-- What the end of a wait comes to if the context has ended. -/
theorem run_stopEnded_of_ended (failure : FailureId) (h : s.isEnded = true) :
    ∃ id after, (stopEnded failure : Step κ μ Unit).run s = (.error (.raised id), after) ∧
      after.request = { s.request with error := some id, stage := .failed } := by
  obtain ⟨id, failures, hc⟩ := run_cancellation_of_ended s h
  refine ⟨id, _, by simp [stopEnded, hc]; rfl, ?_⟩
  simp

/-- What the end of a wait comes to if the context has not ended after all. -/
theorem run_stopEnded_of_live (failure : FailureId) (h : s.isEnded = false) :
    ∃ id after, (stopEnded failure : Step κ μ Unit).run s = (.error (.raised id), after) ∧
      after.request = { s.request with error := none, stage := .failed } := by
  refine ⟨_, _, by simp [stopEnded, run_cancellation_of_live s h, fail]; exact ⟨rfl, rfl⟩, ?_⟩
  simp

end Request

end RequestPipeline
