import RequestPipeline.Request

/-!
# Sessions

A session is a request together with the world around it: the clock, the answers still to come from
the network, the cookies that came with earlier ones, the failures so far, and a record of what
happened.  A step changes the session and may stop with a failure; what it changed before that
stays.
-/

namespace RequestPipeline

open Text (Str)

/-- A snapshot of a request, as an observer takes it. -/
structure Sight where
  stage : Stage
  error : Option FailureId
  /-- The failures as they are at the moment. -/
  failures : Failures
  used : Int
  status : Option Int
  hasTransmission : Bool
  clock : Float

/-- What the world records of a run: phases, calls, waits and lines of the log. -/
inductive Event where
  /-- A phase begins. -/
  | phase (p : Phase)
  | hook (p : Phase) (name : String)
  | log (logger : Logger) (line : Str)
  | wait (seconds : Float)
  | transmit (t : Transmission)
  | opened (verify : Bool) (timeout : Option Float)
  | closed
  | seen (sight : Sight)

/-- The response or the failure that the network answers a call with. -/
inductive Answer where
  | response (r : Response)
  | failure (spec : FailureSpec)

/-- An answer, the time it takes, and the cancellation that happens meanwhile. -/
structure Outcome where
  elapsed : Float
  /-- The cause of a cancellation of the request's context, if there is one. -/
  cancels : Option (Option FailureSpec)
  answer : Answer

/-- An answer that set cookies: where it came from, when, and its header fields. -/
structure Cookies where
  url : Url
  headers : Headers
  time : Float

/-- What the HTTP library adds to every message: its default header fields, and the cookie for a URL
at a time, as a function of the answers in the jar.  An empty jar gives no cookie. -/
structure Network where
  defaults : Headers
  cookie : List Cookies → Url → Float → Option (List Char)
  fresh : ∀ url now, cookie [] url now = none

/-- A network library that adds nothing to a message. -/
def Network.bare : Network := ⟨.empty, fun _ _ _ => none, fun _ _ => rfl⟩

/-- The world around a request; `μ` is what its observers remember. -/
structure World (μ : Type) where
  clock : Float
  /-- The outcomes still to come; the last one repeats. -/
  tape : List Outcome
  network : Network
  /-- The answers that set cookies, the latest first, with the connections that they came over; an
  attempt over connections of its own forgets about the earlier ones of this kind. -/
  cookies : List (Option ConnectionId × Cookies)
  failures : Failures
  /-- Whether each connection pool is open. -/
  connections : Array Bool
  /-- What happened, the latest first. -/
  events : List Event
  memory : μ

namespace World

variable {μ : Type}

/-- The jar of some connections. -/
def jar (w : World μ) (client : Option ConnectionId) : List Cookies :=
  (w.cookies.filter fun (other, _) => other = client).map (·.2)

/-- The cookie for a target over some connections. -/
def cookie? (w : World μ) (client : Option ConnectionId) (url : Url) : Option (List Char) :=
  w.network.cookie (w.jar client) url w.clock

/-- Keeps the cookies that an answer sets. -/
def keepCookies (w : World μ) (client : Option ConnectionId) (url : Url) (r : Response) : World μ :=
  if r.headers.contains "set-cookie" then
    { w with cookies := (client, ⟨url, r.headers, w.clock⟩) :: w.cookies }
  else w

/-- Empties a jar. -/
def emptyJar (w : World μ) (client : Option ConnectionId) : World μ :=
  { w with cookies := w.cookies.filter fun (other, _) => other ≠ client }

/-! Cookies are kept without a change to the rest of the world. -/

section KeepCookies

variable (w : World μ) (client : Option ConnectionId) (url : Url) (r : Response)

@[simp] theorem clock_keepCookies : (w.keepCookies client url r).clock = w.clock := by
  rw [keepCookies]; split <;> rfl

@[simp] theorem tape_keepCookies : (w.keepCookies client url r).tape = w.tape := by
  rw [keepCookies]; split <;> rfl

@[simp] theorem failures_keepCookies : (w.keepCookies client url r).failures = w.failures := by
  rw [keepCookies]; split <;> rfl

@[simp] theorem connections_keepCookies :
    (w.keepCookies client url r).connections = w.connections := by
  rw [keepCookies]; split <;> rfl

@[simp] theorem events_keepCookies : (w.keepCookies client url r).events = w.events := by
  rw [keepCookies]; split <;> rfl

@[simp] theorem memory_keepCookies : (w.keepCookies client url r).memory = w.memory := by
  rw [keepCookies]; split <;> rfl

end KeepCookies

end World

/-- A request in its world. -/
structure Session (κ μ : Type) where
  world : World μ
  request : Request κ

/-- A new request in a world where nothing has happened yet. -/
def Session.opening {κ μ : Type} (created : Request κ × Failures) (clock : Float)
    (tape : List Outcome) (memory : μ) : Session κ μ where
  world :=
    { clock, tape, failures := created.2, memory
      network := .bare
      cookies := []
      connections := #[]
      events := [] }
  request := created.1

/-- A new request without input to an endpoint, over given hooks and retries. -/
def Session.plain {κ μ : Type} (endpoint : String) (hooks : Hooks κ) (retryer : Retryer)
    (budget : RetryBudget) (tape : List Outcome) (memory : μ) : Session κ μ :=
  let created := Request.create (.plain endpoint) hooks .anonymous .null .null none retryer .empty
  let s := Session.opening created 1000 tape memory
  { s with request := { s.request with budget } }

/-- How a step may stop before its end. -/
inductive Stop where
  | raised (id : FailureId)
  /-- The bound on the number of attempts was reached. -/
  | unfinished
  deriving DecidableEq, Repr

/-- A step of a session. -/
abbrev Step (κ μ α : Type) := ExceptT Stop (StateM (Session κ μ)) α

namespace Step

variable {κ μ α : Type}

/-- Runs a step. -/
def run (step : Step κ μ α) (s : Session κ μ) : Except Stop α × Session κ μ :=
  (ExceptT.run step).run s

def getRequest : Step κ μ (Request κ) := do
  let s ← get
  pure s.request

def getWorld : Step κ μ (World μ) := do
  let s ← get
  pure s.world

def modifyRequest (f : Request κ → Request κ) : Step κ μ Unit :=
  modify fun s => { s with request := f s.request }

def modifyWorld (f : World μ → World μ) : Step κ μ Unit :=
  modify fun s => { s with world := f s.world }

def now : Step κ μ Float := do
  let w ← getWorld
  pure w.clock

/-- Records an event. -/
def record (e : Event) : Step κ μ Unit := modifyWorld fun w => { w with events := e :: w.events }

/-- Makes a failure. -/
def makeFailure (f : Failure) : Step κ μ FailureId := do
  let w ← getWorld
  let (id, failures) := w.failures.add f
  modifyWorld fun w => { w with failures }
  pure id

/-- Makes a failure from its description. -/
def buildFailure (spec : FailureSpec) : Step κ μ FailureId := do
  let w ← getWorld
  let (id, failures) := w.failures.build spec
  modifyWorld fun w => { w with failures }
  pure id

/-- Stops with a failure. -/
def raise (id : FailureId) : Step κ μ α := throw (.raised id)

/-- Makes a failure for a reason. -/
def explain (reason : Failure.Reason) : Step κ μ FailureId := do
  let w ← getWorld
  let (id, failures) := w.failures.addReason reason
  modifyWorld fun w => { w with failures }
  pure id

/-- Makes a failure for a reason and stops with it. -/
def fail (reason : Failure.Reason) : Step κ μ α := do
  let id ← explain reason
  raise id

/-- The value, or a failure for the reason that there is none. -/
def orFail : Except Failure.Reason α → Step κ μ α
  | .ok a => pure a
  | .error reason => fail reason

/-- The text of a failure. -/
def messageOf (id : FailureId) : Step κ μ Str := do
  let w ← getWorld
  pure (w.failures.messageOf id)

/-- Names the cause of a failure. -/
def setCause (id cause : FailureId) : Step κ μ Unit :=
  modifyWorld fun w => { w with failures := w.failures.setCause id (some cause) }

/-- Sends a line to the request's logger, if it has one. -/
def log (line : Str) : Step κ μ Unit := do
  let r ← getRequest
  match r.config.logger with
  | some logger => record (.log logger line)
  | none => pure ()

/-- Records a failure as the outcome of the request. -/
def setError (id : FailureId) : Step κ μ Unit := modifyRequest fun r => { r with error := some id }

/-- The failure to raise for a context that has ended: a deadline error, the cause of the
cancellation if that is a cancellation error itself, and otherwise a cancellation error with the
text of the cause. -/
def cancellation? : Step κ μ (Option FailureId) := do
  let w ← getWorld
  let r ← getRequest
  match r.context.ending? w.clock with
  | none => pure none
  | some .expired => do
    let id ← makeFailure (.ofReason .deadlineExceeded)
    pure (some id)
  | some (.cancelled none) => do
    let id ← makeFailure (.ofReason (.cancelled none))
    pure (some id)
  | some (.cancelled (some cause)) =>
    match w.failures.get? cause with
    | some f =>
      if f.kind = .cancelled then pure (some cause)
      else do
        let id ← makeFailure (.ofReason (.cancelled (some f.message)))
        pure (some id)
    | none => do
      let id ← makeFailure (.ofReason (.cancelled none))
      pure (some id)

/-- Applies options to the request, up to one that cannot be applied. -/
def applyOptions : List RequestOption → Step κ μ Unit
  | [] => pure ()
  | option :: rest => do
    let r ← getRequest
    let changed ← orFail ((r.withOption option).mapError .header)
    modifyRequest fun _ => changed
    applyOptions rest

/-- Cancels the context of the request. -/
def cancel (cause : Option FailureSpec) : Step κ μ Unit := do
  let id ← match cause with
    | none => pure none
    | some spec => do
      let id ← buildFailure spec
      pure (some id)
  modifyRequest fun r => { r with context := r.context.cancel id }

/-- Moves the clock forward. -/
def advance (seconds : Float) : Step κ μ Unit :=
  modifyWorld fun w => { w with clock := w.clock + seconds }

/-- Waits on the context of the request; the answer says whether it has ended. -/
def wait (seconds : Float) : Step κ μ Bool := do
  let w ← getWorld
  let r ← getRequest
  let waited := r.context.wait w.clock seconds
  modifyRequest fun r => { r with context := waited.context }
  modifyWorld fun w => { w with clock := waited.now }
  record (.wait waited.slept)
  pure waited.done

/-! ## What steps do -/

section Run

variable {β : Type} (s : Session κ μ)

@[simp] theorem run_pure (a : α) : (pure a : Step κ μ α).run s = (.ok a, s) := rfl

@[simp] theorem run_bind (step : Step κ μ α) (next : α → Step κ μ β) :
    (step >>= next).run s =
      match step.run s with
      | (.ok a, after) => (next a).run after
      | (.error stop, after) => (.error stop, after) := by
  change (ExceptT.bindCont next (step.run s).1 : StateM (Session κ μ) _) (step.run s).2 = _
  rcases step.run s with ⟨outcome, after⟩
  cases outcome <;> rfl

@[simp] theorem run_map (f : α → β) (step : Step κ μ α) :
    (f <$> step).run s =
      match step.run s with
      | (.ok a, after) => (.ok (f a), after)
      | (.error stop, after) => (.error stop, after) := by
  rw [map_eq_pure_bind, run_bind]
  rcases step.run s with ⟨outcome, after⟩
  cases outcome <;> rfl

@[simp] theorem run_get : (get : Step κ μ (Session κ μ)).run s = (.ok s, s) := rfl

@[simp] theorem run_getRequest : (getRequest : Step κ μ _).run s = (.ok s.request, s) := rfl

@[simp] theorem run_getWorld : (getWorld : Step κ μ _).run s = (.ok s.world, s) := rfl

@[simp] theorem run_now : (now : Step κ μ _).run s = (.ok s.world.clock, s) := rfl

@[simp] theorem run_modifyRequest (f : Request κ → Request κ) :
    (modifyRequest f : Step κ μ Unit).run s = (.ok (), { s with request := f s.request }) := rfl

@[simp] theorem run_modifyWorld (f : World μ → World μ) :
    (modifyWorld f : Step κ μ Unit).run s = (.ok (), { s with world := f s.world }) := rfl

@[simp] theorem run_record (e : Event) :
    (record e : Step κ μ Unit).run s =
      (.ok (), { s with world := { s.world with events := e :: s.world.events } }) := rfl

@[simp] theorem run_throw (stop : Stop) : (throw stop : Step κ μ α).run s = (.error stop, s) := rfl

@[simp] theorem run_raise (id : FailureId) :
    (raise id : Step κ μ α).run s = (.error (.raised id), s) := rfl

@[simp] theorem run_makeFailure (f : Failure) :
    (makeFailure f : Step κ μ _).run s =
      (.ok (s.world.failures.add f).1,
        { s with world := { s.world with failures := (s.world.failures.add f).2 } }) := rfl

@[simp] theorem run_buildFailure (spec : FailureSpec) :
    (buildFailure spec : Step κ μ _).run s =
      (.ok (s.world.failures.build spec).1,
        { s with world := { s.world with failures := (s.world.failures.build spec).2 } }) := rfl

@[simp] theorem run_explain (reason : Failure.Reason) :
    (explain reason : Step κ μ _).run s =
      (.ok (s.world.failures.addReason reason).1,
        { s with world := { s.world with
          failures := (s.world.failures.addReason reason).2 } }) := rfl

@[simp] theorem run_fail (reason : Failure.Reason) :
    (fail reason : Step κ μ α).run s =
      (.error (.raised (s.world.failures.addReason reason).1),
        { s with world := { s.world with
          failures := (s.world.failures.addReason reason).2 } }) := by
  rw [fail, run_bind, run_explain]
  rfl

@[simp] theorem run_orFail_ok (a : α) : (orFail (.ok a) : Step κ μ α).run s = (.ok a, s) := rfl

@[simp] theorem run_orFail_error (reason : Failure.Reason) :
    (orFail (.error reason) : Step κ μ α).run s = (fail reason : Step κ μ α).run s := rfl

@[simp] theorem run_messageOf (id : FailureId) :
    (messageOf id : Step κ μ _).run s = (.ok (s.world.failures.messageOf id), s) := rfl

@[simp] theorem run_setError (id : FailureId) :
    (setError id : Step κ μ Unit).run s =
      (.ok (), { s with request := { s.request with error := some id } }) := rfl

@[simp] theorem run_setCause (id cause : FailureId) :
    (setCause id cause : Step κ μ Unit).run s =
      (.ok (), { s with world := { s.world with
        failures := s.world.failures.setCause id (some cause) } }) := rfl

@[simp] theorem run_advance (seconds : Float) :
    (advance seconds : Step κ μ Unit).run s =
      (.ok (), { s with world := { s.world with clock := s.world.clock + seconds } }) := rfl

@[simp] theorem run_ite (p : Prop) [Decidable p] (a b : Step κ μ α) :
    (if p then a else b).run s = if p then a.run s else b.run s := by
  split <;> rfl

/-- The handler runs where the step has stopped, in the session that it leaves. -/
@[simp] theorem run_tryCatch (step : Step κ μ α) (handle : Stop → Step κ μ α) :
    (tryCatch step handle).run s =
      match step.run s with
      | (.ok a, after) => (.ok a, after)
      | (.error stop, after) => (handle stop).run after := by
  unfold run ExceptT.run StateT.run
  simp only [tryCatch, tryCatchThe, MonadExceptOf.tryCatch, ExceptT.tryCatch, ExceptT.mk, bind,
    StateT.bind]
  rcases step s with ⟨outcome, after⟩
  cases outcome <;> rfl

theorem run_wait (seconds : Float) :
    (wait seconds : Step κ μ Bool).run s =
      let waited := s.request.context.wait s.world.clock seconds
      (.ok waited.done,
        { world := { s.world with
            clock := waited.now, events := .wait waited.slept :: s.world.events }
          request := { s.request with context := waited.context } }) := rfl

end Run

end Step

end RequestPipeline
