import RequestPipeline.CoreHook
import RequestPipeline.Proofs.Budget
import RequestPipeline.Proofs.Heap

/-!
# Calls

An attempt of a request over the core hooks makes one call, to which the tape of the world has the
answer.  What it leaves alone of the request and of the world is said once, for any number of calls.
A call may bring cookies, so whether the message of the next attempt can be made is a question of
its own.
-/

namespace RequestPipeline

open Text (Str)

variable {κ μ : Type}

/-! ## Tapes -/

namespace Transport

/-- The outcome of a call, counted from zero. -/
def outcomeAt : List Outcome → Nat → Outcome
  | [], _ => silence
  | [last], _ => last
  | outcome :: _ :: _, 0 => outcome
  | _ :: next :: rest, n + 1 => outcomeAt (next :: rest) n

/-- The tape after a call. -/
def afterCall : List Outcome → List Outcome
  | [] => []
  | [last] => [last]
  | _ :: next :: rest => next :: rest

theorem outcomeAt_afterCall (tape : List Outcome) (n : Nat) :
    outcomeAt (afterCall tape) n = outcomeAt tape (n + 1) := by
  match tape with
  | [] => rfl
  | [_] => rfl
  | _ :: _ :: _ => rfl

theorem run_nextOutcome (s : Session κ μ) :
    (nextOutcome : Step κ μ Outcome).run s = (.ok (outcomeAt s.world.tape 0),
      { s with world := { s.world with tape := afterCall s.world.tape } }) := by
  rw [nextOutcome]
  rcases htape : s.world.tape with _ | ⟨first, _ | ⟨next, rest⟩⟩ <;>
    simp [htape, outcomeAt, afterCall]
  · rw [← htape]
  · rw [← htape]

end Transport

/-- The calls among what happened. -/
def Event.isCall : Event → Bool
  | .transmit _ => true
  | _ => false

namespace Session

/-- The number of calls so far. -/
def calls (s : Session κ μ) : Nat := s.world.events.countP Event.isCall

@[simp] theorem calls_logged (line : Str) (s : Session κ μ) :
    (s.logged line).calls = s.calls := by
  rw [logged]
  split
  · simp [calls, Event.isCall]
  · rfl

section Calls

variable (s : Session κ μ) (place : String) (stage : Stage) (error : Option FailureId)
  (failures : Failures) (seconds : Float)

@[simp] theorem calls_atStage : (s.atStage stage).calls = s.calls := rfl

@[simp] theorem calls_withError : (s.withError error).calls = s.calls := rfl

@[simp] theorem calls_withFailures : (s.withFailures failures).calls = s.calls := rfl

@[simp] theorem calls_failed : (s.failed place).calls = s.calls := by
  rw [failed]; split <;> simp

@[simp] theorem calls_counted : s.counted.calls = s.calls := rfl

@[simp] theorem calls_waited : (s.waited seconds).calls = s.calls := by
  simp [calls, waited, Event.isCall]

@[simp] theorem calls_filled : s.filled.calls = s.calls := rfl

@[simp] theorem calls_closed : s.closed.calls = s.calls := by
  rw [closed]; split <;> rfl

end Calls

@[simp] theorem tape_logged (line : Str) (s : Session κ μ) :
    (s.logged line).world.tape = s.world.tape := by
  rw [logged]; split <;> rfl

@[simp] theorem connections_logged (line : Str) (s : Session κ μ) :
    (s.logged line).world.connections = s.world.connections := by
  rw [logged]; split <;> rfl

end Session

/-! ## What stays -/

/-- The parts of a request that attempts do not change. -/
def Request.terms (r : Request κ) : Request κ :=
  { r with
    data := .null, error := none, stage := .created, headers := .empty, transmission := none
    response := none, firstAttempt := none, retryer := .never, budget.used := 0 }

namespace Headers

@[simp] theorem fields_read (h : Headers) : h.read.fields = h.fields := by
  rw [read]
  split <;> rfl

/-- Only fields are put into others. -/
theorem update?_congr (base : Headers) {h h' : Headers} (hfields : h'.fields = h.fields) :
    base.update? h' = base.update? h := by
  simp only [update?, hfields]

end Headers

namespace Transport

section OfParts

variable (defaults : Headers) (cookie? : Url → Option (List Char)) (method : String)
  {target : String} (headers : Headers) (body : Option Text.Bytes)

/-- Whether a message can be made does not depend on the time that it is given. -/
theorem isOk_ofParts (timeout other : Float) :
    (Transmission.ofParts defaults cookie? method target headers body timeout).isOk =
      (Transmission.ofParts defaults cookie? method target headers body other).isOk := by
  simp only [Transmission.ofParts, bind, Except.bind]
  split
  · rfl
  · split
    · rfl
    · split <;> rfl

/-- Only the fields of the headers become part of a message. -/
theorem ofParts_congr {headers' : Headers} (hfields : headers'.fields = headers.fields)
    (timeout : Float) :
    Transmission.ofParts defaults cookie? method target headers' body timeout =
      Transmission.ofParts defaults cookie? method target headers body timeout := by
  rw [Transmission.ofParts, Headers.update?_congr defaults hfields]
  rfl

/-- A message cannot be made for a target that is no URL, or for a header field. -/
theorem ofParts_eq_error {timeout : Float} {reason : Failure.Reason}
    (h : Transmission.ofParts defaults cookie? method target headers body timeout =
      .error reason) :
    (∃ fault, Url.read target.toList = .error fault ∧ reason = .url fault) ∨
      ∃ fault, reason = .header fault := by
  simp only [Transmission.ofParts, bind, Except.bind] at h
  split at h
  · rename_i fault hurl
    obtain ⟨fault, hfault, rfl⟩ := mapError_eq_error hurl
    exact .inl ⟨fault, hfault, (Except.error.inj h).symm⟩
  · split at h
    · rename_i fault hupdate
      obtain ⟨fault, -, rfl⟩ := mapError_eq_error hupdate
      exact .inr ⟨fault, (Except.error.inj h).symm⟩
    · split at h
      · rename_i fault hcookie
        obtain ⟨fault, -, rfl⟩ := mapError_eq_error hcookie
        exact .inr ⟨fault, (Except.error.inj h).symm⟩
      · cases h

end OfParts

end Transport

namespace Session

/-- The cookie that a message of the request brings along to a target; over connections of its own
there is none. -/
def cookie? (s : Session κ μ) (url : Url) : Option (List Char) :=
  s.request.config.connection.bind fun id => s.world.cookie? (some id) url

/-- The message of the request, or the reason why it cannot be made. -/
def message (s : Session κ μ) (timeout : Float) : Except Failure.Reason Transmission :=
  Transmission.ofParts s.world.network.defaults s.cookie? s.request.method s.request.url
    s.request.headers s.request.body timeout

/-- The message of the request can be made now: its header fields and the cookie for its URL can be
encoded. -/
def IsSendable (s : Session κ μ) : Prop := (s.message 0).isOk = true

instance (s : Session κ μ) : Decidable s.IsSendable := inferInstanceAs (Decidable (_ = true))

@[simp] theorem message_logged (line : Str) (s : Session κ μ) :
    (s.logged line).message = s.message := by
  rw [logged]; split <;> rfl

end Session

/-- `s'` comes `n` calls after `s`, and nothing but the attempts around them has happened.  Only a
call can change whether the message of the request can be made. -/
structure Along (words : String → Failure.Reason) (n : Nat) (s s' : Session κ μ) : Prop where
  terms : s'.request.terms = s.request.terms
  used : s'.used = s.used
  retryer : s'.request.retryer = s.request.retryer
  message : n = 0 → ∀ timeout, s'.message timeout = s.message timeout
  tape : ∀ i, Transport.outcomeAt s'.world.tape i = Transport.outcomeAt s.world.tape (i + n)
  calls : s'.calls = s.calls + n
  connections : s'.world.connections = s.world.connections
  fits : s.world.failures.Fits words → s'.world.failures.Fits words

namespace Along

variable {words : String → Failure.Reason} {m n : Nat} {s s' s'' : Session κ μ}

theorem config (h : Along words n s s') : s'.request.config = s.request.config :=
  (congrArg Request.config h.terms :)

theorem hooks (h : Along words n s s') : s'.request.hooks = s.request.hooks :=
  (congrArg Request.hooks h.terms :)

theorem operation (h : Along words n s s') : s'.request.operation = s.request.operation :=
  (congrArg Request.operation h.terms :)

theorem output (h : Along words n s s') : s'.request.output = s.request.output :=
  (congrArg Request.output h.terms :)

theorem method (h : Along words n s s') : s'.request.method = s.request.method :=
  (congrArg Request.method h.terms :)

theorem url (h : Along words n s s') : s'.request.url = s.request.url :=
  (congrArg Request.url h.terms :)

theorem context (h : Along words n s s') : s'.request.context = s.request.context :=
  (congrArg Request.context h.terms :)

theorem refl (s : Session κ μ) : Along words 0 s s :=
  ⟨rfl, rfl, rfl, fun _ _ => rfl, fun _ => rfl, rfl, rfl, id⟩

theorem trans (h : Along words m s s') (h' : Along words n s' s'') :
    Along words (m + n) s s'' where
  terms := h'.terms.trans h.terms
  used := h'.used.trans h.used
  retryer := h'.retryer.trans h.retryer
  message hnone timeout := by
    obtain ⟨rfl, rfl⟩ := Nat.add_eq_zero_iff.1 hnone
    rw [h'.message rfl, h.message rfl]
  tape i := by rw [h'.tape, h.tape, Nat.add_assoc, Nat.add_comm n m]
  calls := by rw [h'.calls, h.calls, Nat.add_assoc]
  connections := h'.connections.trans h.connections
  fits hfs := h'.fits (h.fits hfs)

end Along

/-! ## The transport -/

namespace Session

/-- The session after an event. -/
def recorded (e : Event) (s : Session κ μ) : Session κ μ :=
  { s with world := { s.world with events := e :: s.world.events } }

@[simp] theorem request_recorded (e : Event) (s : Session κ μ) :
    (s.recorded e).request = s.request := rfl

/-- The session after a message has gone out and the outcome of its call has come. -/
def called (t : Transmission) (s : Session κ μ) : Session κ μ :=
  { s with world := { s.world with
      events := .transmit t :: s.world.events
      tape := Transport.afterCall s.world.tape
      clock := s.world.clock + (Transport.outcomeAt s.world.tape 0).elapsed } }

/-- The session with the cookies that an answer sets. -/
def keeping (client : Option ConnectionId) (url : Url) (a : Response) (s : Session κ μ) :
    Session κ μ :=
  { s with world := s.world.keepCookies client url a }

/-- The session with an empty jar for connections of its own. -/
def unpacked (s : Session κ μ) : Session κ μ := { s with world := s.world.emptyJar none }

/-- The session with a message on its way. -/
def addressed (t : Transmission) (s : Session κ μ) : Session κ μ :=
  { s with request := { s.request with transmission := some t } }

/-- The session after the header fields of its request have been read. -/
def headersRead (s : Session κ μ) : Session κ μ :=
  { s with request := { s.request with headers := s.request.headers.read } }

@[simp] theorem message_headersRead (s : Session κ μ) : s.headersRead.message = s.message := by
  funext timeout
  exact Transport.ofParts_congr _ _ _ _ _ (Headers.fields_read _) timeout

/-- The session with an answer. -/
def answered (a : Response) (s : Session κ μ) : Session κ μ :=
  { s with request := { s.request with response := some a } }

/-- The connections of the request have not been closed. -/
def IsOpen (s : Session κ μ) : Prop :=
  (s.request.config.connection.all fun id => s.world.connections.getD id true) = true

instance (s : Session κ μ) : Decidable s.IsOpen := inferInstanceAs (Decidable (_ = true))

end Session

namespace Along

variable {words : String → Failure.Reason} {n : Nat} {s s' : Session κ μ}

theorem isSendable (h : Along words 0 s s') : s'.IsSendable ↔ s.IsSendable := by
  rw [Session.IsSendable, Session.IsSendable, h.message rfl]

theorem isOpen (h : Along words n s s') : s'.IsOpen ↔ s.IsOpen := by
  rw [Session.IsOpen, Session.IsOpen, h.config, h.connections]

theorem recorded (h : Along words n s s') {e : Event} (he : e.isCall = false) :
    Along words n s (s'.recorded e) :=
  ⟨h.terms, h.used, h.retryer, h.message, h.tape, by
    simpa [Session.calls, Session.recorded, he] using h.calls, h.connections, h.fits⟩

theorem addressed (h : Along words n s s') (t : Transmission) :
    Along words n s (s'.addressed t) :=
  ⟨h.terms, h.used, h.retryer, h.message, h.tape, h.calls, h.connections, h.fits⟩

theorem unpacked (h : Along words n s s') (hconnection : s'.request.config.connection = none) :
    Along words n s s'.unpacked where
  terms := h.terms
  used := h.used
  retryer := h.retryer
  message hnone timeout := by
    have hcookie : s'.unpacked.cookie? = s'.cookie? := by
      funext url
      simp [Session.cookie?, Session.unpacked, hconnection]
    rw [← h.message hnone, Session.message, hcookie]
    rfl
  tape := h.tape
  calls := h.calls
  connections := h.connections
  fits := h.fits

theorem withFailures (h : Along words n s s') {failures : Failures}
    (hfits : s'.world.failures.Fits words → failures.Fits words) :
    Along words n s (s'.withFailures failures) :=
  ⟨h.terms, h.used, h.retryer, h.message, h.tape, h.calls, h.connections, fun hfs =>
    hfits (h.fits hfs)⟩

/-- A stop for a reason. -/
theorem run_fail (h : Along words n s s') (α : Type) (reason : Failure.Reason) :
    ∃ e s'', (Step.fail reason : Step κ μ α).run s' = (.error (.raised e), s'') ∧
      Along words n s s'' ∧ s''.request = s'.request ∧
      s''.world.failures.reasonAt? e = some reason :=
  ⟨_, s'.withFailures (s'.world.failures.addReason reason).2, Step.run_fail s' reason,
    h.withFailures fun hfs => hfs.grow (Failures.grows_addReason _ reason)
      (Failures.labels_addReason _ reason), rfl, Failures.reasonAt?_addReason_self _ reason⟩

theorem called (h : Along words n s s') (t : Transmission) :
    Along words (n + 1) s (s'.called t) where
  terms := h.terms
  used := h.used
  retryer := h.retryer
  message hnone := absurd hnone (Nat.succ_ne_zero n)
  tape i := by
    rw [Session.called, Transport.outcomeAt_afterCall, h.tape, Nat.add_assoc, Nat.add_comm 1 n]
  calls := by
    have := h.calls
    simp only [Session.calls, Session.called, List.countP_cons, Event.isCall] at this ⊢
    simp [this, Nat.add_assoc]
  connections := h.connections
  fits := h.fits

/-- After a call the answer may have set cookies. -/
theorem keeping (h : Along words (n + 1) s s') (client : Option ConnectionId) (url : Url)
    (a : Response) : Along words (n + 1) s (s'.keeping client url a) where
  terms := h.terms
  used := h.used
  retryer := h.retryer
  message hnone := absurd hnone (Nat.succ_ne_zero n)
  tape := by rw [Session.keeping, World.tape_keepCookies]; exact h.tape
  calls := by rw [Session.calls, Session.keeping, World.events_keepCookies]; exact h.calls
  connections := by rw [Session.keeping, World.connections_keepCookies]; exact h.connections
  fits := by rw [Session.keeping, World.failures_keepCookies]; exact h.fits

theorem logged (h : Along words n s s') (line : Str) : Along words n s (s'.logged line) where
  terms := by rw [Session.request_logged]; exact h.terms
  used := by rw [Session.used, Session.request_logged]; exact h.used
  retryer := by rw [Session.request_logged]; exact h.retryer
  message hnone timeout := by rw [Session.message_logged]; exact h.message hnone timeout
  tape := by rw [Session.tape_logged]; exact h.tape
  calls := by rw [Session.calls_logged]; exact h.calls
  connections := by rw [Session.connections_logged]; exact h.connections
  fits := by rw [Session.failures_logged]; exact h.fits

theorem headersRead (h : Along words n s s') : Along words n s s'.headersRead :=
  ⟨h.terms, h.used, h.retryer, fun hnone timeout => by
    rw [Session.message_headersRead]; exact h.message hnone timeout, h.tape, h.calls,
    h.connections, h.fits⟩

theorem atStage (h : Along words n s s') (stage : Stage) : Along words n s (s'.atStage stage) :=
  ⟨h.terms, h.used, h.retryer, h.message, h.tape, h.calls, h.connections, h.fits⟩

theorem failed (h : Along words n s s') (place : String) : Along words n s (s'.failed place) := by
  rw [Session.failed]
  split
  · exact (h.atStage .failed).logged _
  · exact h.atStage .failed

theorem answered (h : Along words n s s') (a : Response) : Along words n s (s'.answered a) :=
  ⟨h.terms, h.used, h.retryer, h.message, h.tape, h.calls, h.connections, h.fits⟩

theorem withError (h : Along words n s s') (error : Option FailureId) :
    Along words n s (s'.withError error) :=
  ⟨h.terms, h.used, h.retryer, h.message, h.tape, h.calls, h.connections, h.fits⟩

end Along

namespace Transport

open Step

theorem run_withOwnConnection {α : Type} (verify : Bool) (step : Step κ μ α) (s : Session κ μ) :
    (withOwnConnection verify step).run s =
      ((step.run (s.recorded (.opened verify none)).unpacked).1,
        (step.run (s.recorded (.opened verify none)).unpacked).2.recorded .closed) := by
  simp only [withOwnConnection, run_bind, run_record, run_modifyWorld, run_tryCatch]
  rcases hstep : step.run (s.recorded (.opened verify none)).unpacked with ⟨stop | a, after⟩ <;>
    simp only [Session.recorded, Session.unpacked] at hstep ⊢ <;> simp [hstep]

variable (client : Option ConnectionId)

/-- One call. -/
theorem run_exchange (t : Transmission) (s : Session κ μ)
    (hcancels : (outcomeAt s.world.tape 0).cancels = none) :
    (exchange client t).run s =
      match (outcomeAt s.world.tape 0).answer with
      | .response a => (.ok a, (s.called t).keeping client t.url a)
      | .failure spec => (.error (.raised (s.world.failures.build spec).1),
          (s.called t).withFailures (s.world.failures.build spec).2) := by
  simp only [exchange, run_bind, run_record, run_nextOutcome, run_advance, hcancels]
  cases (outcomeAt s.world.tape 0).answer <;>
    simp [Session.called, Session.keeping, Session.withFailures]

/-- An answer that stays ends the calls of a message. -/
theorem run_deliver (t : Transmission) (follows : Bool) (s : Session κ μ)
    (hcancels : (outcomeAt s.world.tape 0).cancels = none)
    (hstays : ∀ a, (outcomeAt s.world.tape 0).answer = .response a → a.location? = none) :
    (deliver client t follows).run s =
      match (outcomeAt s.world.tape 0).answer with
      | .response a => (.ok a, (s.called t.authorized).keeping client t.url a)
      | .failure spec => (.error (.raised (s.world.failures.build spec).1),
          (s.called t.authorized).withFailures (s.world.failures.build spec).2) := by
  have hurl : t.authorized.url = t.url := by rw [Transmission.authorized]; split <;> rfl
  simp only [deliver, follow, run_bind, run_exchange client _ s hcancels, hurl]
  cases hanswer : (outcomeAt s.world.tape 0).answer with
  | response a => simp [hstays a hanswer]
  | failure spec => rfl

end Transport

namespace Session

open Transport

theorem isSendable_iff (s : Session κ μ) (timeout : Float) :
    s.IsSendable ↔ ∃ t, s.message timeout = .ok t := by
  rw [IsSendable, message, isOk_ofParts _ _ _ _ _ 0 timeout]
  change (s.message timeout).isOk = true ↔ _
  cases s.message timeout <;> simp [Except.isOk, Except.toBool]

/-- The message of a request with a readable URL fails for a header field, if it fails. -/
theorem not_isSendable_iff {s : Session κ μ} {url : Url} (timeout : Float)
    (hurl : Url.read s.request.url.toList = .ok url) :
    ¬ s.IsSendable ↔ ∃ fault, s.message timeout = .error (.header fault) := by
  rw [s.isSendable_iff timeout]
  cases hmessage : s.message timeout with
  | ok t => simp
  | error reason =>
    rcases ofParts_eq_error _ _ _ _ _ hmessage with ⟨fault, hfault, -⟩ | ⟨fault, rfl⟩
    · cases hfault.symm.trans hurl
    · simp

end Session

/-! ## The hook that sends -/

namespace Session

/-- The session with the connections of a call, which are new unless the request has some. -/
def dialled (s : Session κ μ) : Session κ μ :=
  match s.request.config.connection with
  | none => (s.recorded (.opened s.request.config.verifySsl none)).unpacked
  | some _ => s

/-- The session after a call, without the connections that were new. -/
def hungUp (connection : Option ConnectionId) (s : Session κ μ) : Session κ μ :=
  match connection with
  | none => s.recorded .closed
  | some _ => s

section Dialled

variable (s : Session κ μ) (connection : Option ConnectionId)

@[simp] theorem request_dialled : s.dialled.request = s.request := by
  rw [dialled]; split <;> rfl

@[simp] theorem tape_dialled : s.dialled.world.tape = s.world.tape := by
  rw [dialled]; split <;> rfl

@[simp] theorem failures_dialled : s.dialled.world.failures = s.world.failures := by
  rw [dialled]; split <;> rfl

@[simp] theorem isOpen_dialled : s.dialled.IsOpen ↔ s.IsOpen := by
  rw [dialled]; split <;> rfl

/-- Once the connections are there, the cookies at hand are those that the message brings along. -/
theorem cookie?_dialled :
    s.dialled.world.cookie? s.dialled.request.config.connection = s.dialled.cookie? := by
  funext url
  rw [cookie?]
  cases hconnection : s.request.config.connection with
  | none =>
    have hempty : (s.dialled.world.jar none) = [] := by
      simp [dialled, hconnection, World.jar, unpacked, recorded, World.emptyJar]
    rw [request_dialled, hconnection, World.cookie?, hempty]
    exact s.dialled.world.network.fresh _ _
  | some id => simp [hconnection]

@[simp] theorem request_hungUp : (s.hungUp connection).request = s.request := by
  cases connection <;> rfl

@[simp] theorem failures_hungUp : (s.hungUp connection).world.failures = s.world.failures := by
  cases connection <;> rfl

end Dialled

end Session

namespace Along

variable {words : String → Failure.Reason} {n : Nat} {s s' : Session κ μ}

theorem dialled (s : Session κ μ) : Along words 0 s s.dialled := by
  rw [Session.dialled]
  split
  · next hconnection => exact ((Along.refl s).recorded rfl).unpacked hconnection
  · exact .refl s

theorem hungUp (h : Along words n s s') (connection : Option ConnectionId) :
    Along words n s (s'.hungUp connection) := by
  cases connection with
  | none => exact h.recorded rfl
  | some _ => exact h

end Along

/-- An outcome that neither redirects nor cancels: a response without a location, or a fault of the
network. -/
structure Outcome.Plain (words : String → Failure.Reason) (o : Outcome) : Prop where
  uncancelled : o.cancels = none
  stays : ∀ a, o.answer = .response a → a.location? = none
  fits : ∀ spec, o.answer = .failure spec → spec.Fits words
  network : ∀ spec, o.answer = .failure spec →
    ∃ fault, spec.failure.kind = .outside (.network fault)

namespace CoreHook

open Step Transport

variable {words : String → Failure.Reason} {s : Session κ μ} {url : Url}

theorem run_call (timeout : Float) (s : Session κ μ) :
    (call timeout : Step κ μ Response).run s =
      (((Transport.send s.request.config.connection timeout).run s.dialled).1,
        ((Transport.send s.request.config.connection timeout).run s.dialled).2.hungUp
          s.request.config.connection) := by
  cases hconnection : s.request.config.connection with
  | none =>
    simp [call, hconnection, run_withOwnConnection, Session.dialled, Session.hungUp]
  | some id => simp [call, hconnection, Session.dialled, Session.hungUp]

/-- The message of the request is made, and goes out if the connections are open. -/
theorem run_send (timeout : Float) {s : Session κ μ}
    (hcookie : s.world.cookie? s.request.config.connection = s.cookie?) :
    (Transport.send s.request.config.connection timeout).run s =
      match s.message timeout with
      | .error reason => (fail reason : Step κ μ Response).run s
      | .ok t =>
        if s.IsOpen then
          (deliver s.request.config.connection t
            (!s.request.config.disableFollowRedirects)).run (s.addressed t)
        else (fail .closedConnection : Step κ μ Response).run (s.addressed t) := by
  cases hmessage : s.message timeout with
  | error reason =>
    rw [Session.message, ← hcookie] at hmessage
    simp only [Transport.send, run_bind, run_getRequest, run_getWorld, hmessage, run_orFail_error]
    rw [run_fail, run_fail]
  | ok t =>
    rw [Session.message, ← hcookie] at hmessage
    simp only [Transport.send, run_bind, run_getRequest, run_getWorld, hmessage, run_orFail_ok,
      run_modifyRequest, run_ite]
    rfl

theorem run_send_dialled (timeout : Float) (s : Session κ μ) :
    (Transport.send s.request.config.connection timeout).run s.dialled =
      match s.message timeout with
      | .error reason => (fail reason : Step κ μ Response).run s.dialled
      | .ok t =>
        if s.IsOpen then
          (deliver s.request.config.connection t
            (!s.request.config.disableFollowRedirects)).run (s.dialled.addressed t)
        else (fail .closedConnection : Step κ μ Response).run (s.dialled.addressed t) := by
  have halong : Along (fun _ => .deadlineExceeded) 0 s s.dialled := .dialled s
  have hmessage := halong.message rfl
  have hsend := run_send timeout s.cookie?_dialled
  simpa only [hmessage, s.request_dialled, s.isOpen_dialled] using hsend

/-- The call of a request that can be sent, over an open connection. -/
theorem run_call_of_open (timeout : Float) (hsendable : s.IsSendable) (hopen : s.IsOpen)
    (hplain : (outcomeAt s.world.tape 0).Plain words) :
    ∃ s', (call timeout : Step κ μ Response).run s =
        (match (outcomeAt s.world.tape 0).answer with
          | .response a => .ok a
          | .failure spec => .error (.raised (s.world.failures.build spec).1), s') ∧
      Along words 1 s s' ∧ (∃ t, s'.request = (s.addressed t).request) ∧
      s'.world.failures = match (outcomeAt s.world.tape 0).answer with
        | .response _ => s.world.failures
        | .failure spec => (s.world.failures.build spec).2 := by
  obtain ⟨t, ht⟩ := (s.isSendable_iff timeout).1 hsendable
  have htape : (s.dialled.addressed t).world.tape = s.world.tape := s.tape_dialled
  have hfailures : (s.dialled.addressed t).world.failures = s.world.failures :=
    s.failures_dialled
  have hdeliver := run_deliver s.request.config.connection t
    (!s.request.config.disableFollowRedirects) (s.dialled.addressed t)
    (htape ▸ hplain.uncancelled) (htape ▸ hplain.stays)
  rw [htape, hfailures] at hdeliver
  have hbefore : Along words 0 s (s.dialled.addressed t) := (Along.dialled s).addressed t
  rw [run_call, run_send_dialled, ht]
  simp only [if_pos hopen, hdeliver]
  cases hanswer : (outcomeAt s.world.tape 0).answer with
  | response a =>
    refine ⟨_, rfl, ((hbefore.called t.authorized).keeping _ t.url a).hungUp _, ⟨t, ?_⟩, ?_⟩
    · simp [Session.keeping, Session.called, Session.addressed]
    · simpa [Session.keeping, Session.called] using hfailures
  | failure spec =>
    refine ⟨_, rfl, ((hbefore.called t.authorized).withFailures ?_).hungUp _, ⟨t, ?_⟩, ?_⟩
    · intro hfs
      have hfs : s.world.failures.Fits words := hfailures ▸ hfs
      exact (Failures.build_fits words spec _ (hplain.fits spec hanswer) hfs).2.2
    · simp [Session.called, Session.addressed, Session.withFailures]
    · simp [Session.withFailures]

/-- A message that cannot be made, or a closed connection, ends the call before anything is sent. -/
theorem run_call_of_refused (words : String → Failure.Reason) (timeout : Float)
    (hurl : Url.read s.request.url.toList = .ok url)
    (hrefused : ¬ (s.IsSendable ∧ s.IsOpen)) :
    ∃ e s' reason, (call timeout : Step κ μ Response).run s = (.error (.raised e), s') ∧
      Along words 0 s s' ∧ s'.request.error = s.request.error ∧
      s'.world.failures.reasonAt? e = some reason ∧
      ((∃ fault, reason = .header fault) ∨ reason = .closedConnection) := by
  have hdialled : Along words 0 s s.dialled := .dialled s
  obtain ⟨s₁, reason, hsend, halong, herror, hkind⟩ : ∃ s₁ reason,
      (Transport.send s.request.config.connection timeout).run s.dialled =
        (fail reason : Step κ μ Response).run s₁ ∧ Along words 0 s s₁ ∧
      s₁.request.error = s.request.error ∧
      ((∃ fault, reason = .header fault) ∨ reason = .closedConnection) := by
    rw [run_send_dialled]
    by_cases hsendable : s.IsSendable
    · obtain ⟨t, ht⟩ := (s.isSendable_iff timeout).1 hsendable
      have hclosed : ¬ s.IsOpen := fun hopen => hrefused ⟨hsendable, hopen⟩
      refine ⟨s.dialled.addressed t, .closedConnection, ?_, hdialled.addressed t, ?_, .inr rfl⟩
      · simp only [ht, if_neg hclosed]
      · exact (congrArg Request.error s.request_dialled :)
    · obtain ⟨fault, ht⟩ := (Session.not_isSendable_iff timeout hurl).1 hsendable
      exact ⟨s.dialled, .header fault, by rw [ht], hdialled, by rw [s.request_dialled],
        .inl ⟨fault, rfl⟩⟩
  obtain ⟨e, s', hfail, halong', hrequest, hreason⟩ := halong.run_fail Response reason
  refine ⟨e, s'.hungUp s.request.config.connection, reason, ?_, halong'.hungUp _, ?_,
    by simpa using hreason, hkind⟩
  · rw [run_call, hsend, hfail]
  · rw [Session.request_hungUp, hrequest, herror]

/-- The network fault that a failure is, by its reason. -/
theorem faultOf?_of_reasonAt? {fs : Failures} {id : FailureId} {reason : Failure.Reason}
    (h : fs.reasonAt? id = some reason) :
    faultOf? fs id = match reason.kind with
      | .outside (.network fault) => some fault
      | _ => none := by
  obtain ⟨f, hf, rfl⟩ := Option.map_eq_some_iff.1 h
  simp only [faultOf?, hf, Option.map_some, Failure.kind]
  rcases f.reason.kind with _ | _ | _ | _ | _ | _ | _ | _ | _ | kind <;> try rfl
  cases kind <;> rfl

theorem transmit_answered {a : Response} (hsendable : s.IsSendable) (hopen : s.IsOpen)
    (hplain : (outcomeAt s.world.tape 0).Plain words)
    (hanswer : (outcomeAt s.world.tape 0).answer = .response a) :
    ∃ s', (transmit : Step κ μ Unit).run s = (.ok (), s') ∧ Along words 1 s s' ∧
      s'.request.response = some a ∧ s'.request.error = s.request.error ∧
      s'.request.data = s.request.data := by
  obtain ⟨s₁, hcall, halong, ⟨t, hrequest⟩, -⟩ :=
    run_call_of_open (timeLeft s.request s.world.clock) hsendable hopen hplain
  simp only [hanswer] at hcall
  refine ⟨s₁.answered a, ?_, halong.answered a, rfl, ?_, ?_⟩
  · simp [transmit, hcall, Session.answered]
  · simp [Session.answered, hrequest, Session.addressed]
  · simp [Session.answered, hrequest, Session.addressed]

/-- Unless the context has ended, a fault of the network is recorded as a failure to send. -/
theorem run_handleFault_of_live (id : FailureId) (fault : Failure.NetworkFault)
    (hlive : s.isEnded = false) :
    (handleFault id fault : Step κ μ Unit).run s = (.ok (),
      (s.withFailures (s.world.failures.add (.ofSend s.request.method s.request.url
        (s.world.failures.messageOf id) fault.isTemporary id)).2).withError
          (some (s.world.failures.add (.ofSend s.request.method s.request.url
            (s.world.failures.messageOf id) fault.isTemporary id)).1)) := by
  simp [handleFault, Request.run_cancellation_of_live s hlive, Session.withFailures,
    Session.withError]

theorem transmit_failed {spec : FailureSpec} {fault : Failure.NetworkFault}
    (hsendable : s.IsSendable) (hopen : s.IsOpen)
    (hplain : (outcomeAt s.world.tape 0).Plain words)
    (hanswer : (outcomeAt s.world.tape 0).answer = .failure spec)
    (hkind : spec.failure.kind = .outside (.network fault))
    (hcontext : s.request.context = .background) (hfits : s.world.failures.Fits words) :
    ∃ s' e cause, (transmit : Step κ μ Unit).run s = (.ok (), s') ∧ Along words 1 s s' ∧
      s'.request.error = some e ∧ s'.request.data = s.request.data ∧
      s'.world.failures.get? e = some (.ofSend s.request.method s.request.url spec.failure.message
        fault.isTemporary cause) ∧
      s'.world.failures.reasonAt? cause = some spec.failure.reason := by
  obtain ⟨s₁, hcall, halong, ⟨t, hrequest⟩, hfailures⟩ :=
    run_call_of_open (timeLeft s.request s.world.clock) hsendable hopen hplain
  simp only [hanswer] at hcall hfailures
  obtain ⟨hreason, -, -⟩ := Failures.build_fits words spec _ (hplain.fits spec hanswer) hfits
  rw [← hfailures] at hreason
  have hfault : faultOf? s₁.world.failures (s.world.failures.build spec).1 = some fault := by
    have hkind : spec.failure.reason.kind = .outside (.network fault) := hkind
    rw [faultOf?_of_reasonAt? hreason, hkind]
  have hlive : s₁.isEnded = false := by
    simp [Session.isEnded, hrequest, Session.addressed, hcontext, Context.isDone,
      Context.background, Context.isExpired]
  have hmessage : s₁.world.failures.messageOf (s.world.failures.build spec).1 =
      spec.failure.message := by
    obtain ⟨f, hf, hfreason⟩ := Option.map_eq_some_iff.1 hreason
    simp [Failures.messageOf, hf, Failure.message, hfreason]
  have hmethod : s₁.request.method = s.request.method := by rw [hrequest]; rfl
  have htarget : s₁.request.url = s.request.url := by rw [hrequest]; rfl
  have hhandle := run_handleFault_of_live (s.world.failures.build spec).1 fault hlive
  rw [hmessage, hmethod, htarget] at hhandle
  have hdata : s₁.request.data = s.request.data := by rw [hrequest]; rfl
  refine ⟨_, (s₁.world.failures.add _).1, (s.world.failures.build spec).1, ?_,
    (halong.withFailures fun hfs => hfs.grow (Failures.grows_add _ _) rfl).withError _, rfl, hdata,
    Failures.get?_add_self _ _, Failures.grows_add _ _ _ _ hreason⟩
  simp only [transmit, run_bind, run_getRequest, run_now, run_tryCatch, hcall, run_getWorld, hfault]
  exact hhandle

theorem transmit_refused (words : String → Failure.Reason)
    (hurl : Url.read s.request.url.toList = .ok url)
    (hrefused : ¬ (s.IsSendable ∧ s.IsOpen)) :
    ∃ e s' reason, (transmit : Step κ μ Unit).run s = (.error (.raised e), s') ∧
      Along words 0 s s' ∧ s'.request.error = s.request.error ∧
      s'.world.failures.reasonAt? e = some reason ∧
      ((∃ fault, reason = .header fault) ∨ reason = .closedConnection) := by
  obtain ⟨e, s', reason, hcall, halong, herror, hreason, hkind⟩ :=
    run_call_of_refused words (timeLeft s.request s.world.clock) hurl hrefused
  have hfault : faultOf? s'.world.failures e = none := by
    rw [faultOf?_of_reasonAt? hreason]
    rcases hkind with ⟨fault, rfl⟩ | rfl <;> rfl
  exact ⟨e, s', reason, by simp [transmit, hcall, hfault], halong, herror, hreason, hkind⟩

end CoreHook

end RequestPipeline
