import RequestPipeline.Proofs.Rounds

/-!
# The default pipeline

A request over the core hooks and nothing else is built, attempted up to its last attempt, and
closed.  It ends with what the last answer tells if and only if nothing is in the way of its
attempts: each of them can make its message, the connections are open, the codec of an answer gives
its text where the text is needed, and the adapter of the request does not fail.
-/

namespace RequestPipeline

variable {κ μ : Type}

/-! ## Header fields -/

namespace Headers

theorem set?_of_ascii (h : Headers) {name value : String} (hname : notAscii? name.toList = none)
    (hvalue : notAscii? value.toList = none) :
    h.set? name.toList value.toList = .ok (h.set name value) := by
  simp [set?, refusal?, hname, hvalue, set]

end Headers

/-! ## Validate and build -/

namespace Request

/-- Where a request is sent to, with a scheme in front if it had none when it was built. -/
def destination (r : Request κ) : String :=
  if r.built then r.url
  else target (String.ofList (Url.withScheme r.config.endpoint.toList r.config.disableSsl))
    r.operation.path

/-- The encode hook writes a body for the input, or leaves it as it is. -/
def CanEncode (r : Request κ) : Prop :=
  match r.params with
  | .null | .bytes _ => True
  | params => ∃ body, Json.body params = .ok body

theorem canEncode_iff {r : Request κ} (hvalue : r.params ≠ .null)
    (hdata : ∀ bytes, r.params ≠ .bytes bytes) :
    r.CanEncode ↔ ∃ body, Json.body r.params = .ok body := by
  rw [CanEncode]
  split
  case h_1 hnull => exact absurd hnull hvalue
  case h_2 bytes hbytes => exact absurd hbytes (hdata bytes)
  case h_3 => rfl

end Request

namespace Session

/-- The session of a request with its destination as the target. -/
def directed (s : Session κ μ) : Session κ μ :=
  { s with request := { s.request with url := s.request.destination } }

/-- The session after a scheme has been put in front of the endpoint, if it had none. -/
def resolved (s : Session κ μ) : Session κ μ :=
  let endpoint := String.ofList
    (Url.withScheme s.request.config.endpoint.toList s.request.config.disableSsl)
  { s with request := { s.request with
      config.endpoint := endpoint, url := Request.target endpoint s.request.operation.path } }

/-- The session with the body and the header fields of its message. -/
def encoded (body : Option Text.Bytes) (headers : Headers) (s : Session κ μ) : Session κ μ :=
  { s with request := { s.request with body, headers } }

end Session

/-- `s'` comes after `s`, and its request has been built without any call. -/
structure Builds (s s' : Session κ μ) : Prop where
  request : s'.request = { s.request with
    config.endpoint := s'.request.config.endpoint, url := s.request.destination
    headers := s'.request.headers, body := s'.request.body, stage := s'.request.stage
    built := true, firstAttempt := s'.request.firstAttempt }
  world : s'.world = { s.world with events := s'.world.events }
  calls : s'.calls = s.calls

namespace CoreHook

open Step

variable {s : Session κ μ}

theorem run_setHeader {name value : String} (hname : notAscii? name.toList = none)
    (hvalue : notAscii? value.toList = none) :
    (setHeader name.toList value.toList : Step κ μ Unit).run s = (.ok (),
      { s with request := { s.request with headers := s.request.headers.set name value } }) := by
  simp [setHeader, Headers.set?_of_ascii _ hname hvalue]

/-- Input that is neither null nor binary data is written whole, or refused for its value or its
type, or else stops the hook. -/
theorem run_encodeWith (bodyOf : Value → Except Failure.EncodingFault Text.Bytes)
    (hvalue : s.request.params ≠ .null) (hdata : ∀ bytes, s.request.params ≠ .bytes bytes) :
    (encodeWith bodyOf : Step κ μ Unit).run s = match bodyOf s.request.params with
      | .error fault =>
        if fault.kind.isBadArgument then
          (.ok (), s.rejecting (.cannotEncode s.request.operation.name fault))
        else (fail (.encoding fault) : Step κ μ Unit).run s
      | .ok body => (.ok (), s.encoded (some body)
          (s.request.headers.set "Content-Type" "application/json")) := by
  have hname : notAscii? "Content-Type".toList = none := by decide
  have hascii : notAscii? "application/json".toList = none := by decide
  rw [encodeWith, run_bind, run_getRequest]
  dsimp only
  split
  case h_1 hnull => exact absurd hnull hvalue
  case h_2 body hbytes => exact absurd hbytes (hdata body)
  case h_3 =>
    cases bodyOf s.request.params with
    | error fault =>
      dsimp only
      split
      · exact run_reject _ s
      · rfl
    | ok body =>
      simp only [run_bind, run_modifyRequest, run_setHeader hname hascii]
      rfl

theorem run_encode (h : s.request.CanEncode) :
    ∃ body headers, (encode : Step κ μ Unit).run s = (.ok (), s.encoded body headers) := by
  by_cases hnull : s.request.params = .null
  · refine ⟨s.request.body, s.request.headers, ?_⟩
    simp only [encode, encodeWith, run_bind, run_getRequest, hnull]
    rfl
  by_cases hdata : ∃ bytes, s.request.params = .bytes bytes
  · obtain ⟨bytes, hbytes⟩ := hdata
    refine ⟨some bytes, s.request.headers, ?_⟩
    simp only [encode, encodeWith, run_bind, run_getRequest, hbytes]
    rfl
  · obtain ⟨body, hbody⟩ := (Request.canEncode_iff hnull (not_exists.1 hdata)).1 h
    refine ⟨some body, s.request.headers.set "Content-Type" "application/json", ?_⟩
    rw [encode, run_encodeWith Json.body hnull (not_exists.1 hdata), hbody]

theorem run_validatePhase {s : Session CoreHook μ} (hhooks : s.request.hooks = template id)
    (hendpoint : s.request.config.endpoint ≠ "") :
    (Request.runPhase perform .validate).run s = (.ok (), s.recorded (.phase .validate)) := by
  have hvalidate : (s.request.hooks.get .validate).callbacks = [.validateEndpoint] := by
    rw [hhooks]
    rfl
  rw [run_single hvalidate]
  simp [perform, checkEndpoint, hendpoint]

theorem run_buildPhase {s : Session CoreHook μ} (hhooks : s.request.hooks = template id)
    (hparams : s.request.CanEncode) :
    ∃ body headers, (Request.runPhase perform .build).run s =
      (.ok (), (s.recorded (.phase .build)).resolved.encoded body headers) := by
  have hbuild : (s.request.hooks.get .build).callbacks = [.resolveEndpoint, .encodeBody] := by
    rw [hhooks]
    rfl
  have hresolve : (perform .resolveEndpoint).run (s.recorded (.phase .build)) =
      (.ok (), (s.recorded (.phase .build)).resolved) := rfl
  obtain ⟨body, headers, hencode⟩ :=
    run_encode (s := (s.recorded (.phase .build)).resolved) hparams
  exact ⟨body, headers, (run_pair hbuild hresolve).trans hencode⟩

end CoreHook

/-- A new request over the default hooks with an endpoint and an input that can be encoded.  Its
retryer agrees to every retryable failure, its context is not cancelled and has no deadline, and no
outcome on the tape redirects or cancels. -/
structure DefaultRequest (words : String → Failure.Reason) (s : Session CoreHook μ) : Prop where
  hooks : s.request.hooks = CoreHook.template id
  context : s.request.context = .background
  clean : s.request.error = none
  endpoint : s.request.config.endpoint ≠ ""
  url : ∃ url, Url.read s.request.destination.toList = .ok url
  params : s.request.CanEncode
  willing : Willing s
  fits : s.world.failures.Fits words
  tape : ∀ i, (Transport.outcomeAt s.world.tape i).Plain words

namespace Drive

open Request CoreHook

variable {words : String → Failure.Reason} {s s' : Session CoreHook μ}

theorem build_builds (h : DefaultRequest words s) :
    ∃ s' ms, (build perform).run s = ⟨.ok (), s', ms⟩ ∧ Builds s s' ∧ Mark.attempts ms = [] ∧
      Mark.waits ms = [] := by
  cases hbuilt : s.request.built with
  | true =>
    refine ⟨s, [], by simp [build, run_bind, h.clean, hbuilt], ⟨?_, rfl, rfl⟩, rfl, rfl⟩
    rw [destination, hbuilt, if_pos rfl, ← hbuilt]
  | false =>
    have hvalidate := run_validatePhase h.hooks h.endpoint
    let s₁ := (s.recorded (.phase .validate)).atStage .validated
    obtain ⟨body, headers, hbuild⟩ := run_buildPhase (s := s₁) h.hooks h.params
    let s₂ := (s₁.recorded (.phase .build)).resolved.encoded body headers
    have hclean : s₂.request.error = none := h.clean
    refine ⟨s₂.asBuilt, [.phase .validate s (.ok ()) (s.recorded (.phase .validate)),
      .phase .build s₁ (.ok ()) s₂], ?_, ⟨?_, rfl, ?_⟩, rfl, rfl⟩
    · simp [build, run_bind, h.clean, hbuilt, hvalidate, run_stopIfFailed, hclean, hbuild, s₁, s₂]
    · rw [destination, hbuilt]
      rfl
    · have hevents : s₂.asBuilt.world.events =
          .phase .build :: .phase .validate :: s.world.events := rfl
      simp [Session.calls, hevents, Event.isCall]

end Drive

namespace Builds

variable {words : String → Failure.Reason} {s s' : Session CoreHook μ}

theorem begun (h : Builds s s') : Builds s s'.begun := by
  refine ⟨?_, h.world, h.calls⟩
  rw [Session.request_begun, h.request]

theorem tape (h : Builds s s') : s'.world.tape = s.world.tape := (congrArg World.tape h.world :)

theorem budget (h : Builds s s') : s'.request.budget = s.request.budget :=
  (congrArg Request.budget h.request :)

theorem ready (h : Builds s s') (hdefault : DefaultRequest words s) : Ready words s' where
  hooks := (congrArg Request.hooks h.request :).trans hdefault.hooks
  context := (congrArg Request.context h.request :).trans hdefault.context
  url := by
    have hurl : s'.request.url = s.request.destination := (congrArg Request.url h.request :)
    rw [hurl]
    exact hdefault.url
  fits := by
    have hfailures : s'.world.failures = s.world.failures := (congrArg World.failures h.world :)
    rw [hfailures]
    exact hdefault.fits
  tape i := by rw [h.tape]; exact hdefault.tape i

theorem willing (h : Builds s s') (hwilling : Willing s) : Willing s' where
  backoff := by
    have hretryer : s'.request.retryer = s.request.retryer := (congrArg Request.retryer h.request :)
    rw [hretryer]
    exact hwilling.backoff
  used := by rw [Session.used, h.budget]; exact hwilling.used
  patient := by rw [h.budget]; exact hwilling.patient
  unmarked := by rw [h.budget]; exact hwilling.unmarked

theorem isOpen_iff (h : Builds s s') : s'.IsOpen ↔ s.IsOpen := by
  have hconnection : s'.request.config.connection = s.request.config.connection :=
    (congrArg (fun r => r.config.connection) h.request :)
  have hconnections : s'.world.connections = s.world.connections :=
    (congrArg World.connections h.world :)
  rw [Session.IsOpen, Session.IsOpen, hconnection, hconnections]

theorem canRead_iff (h : Builds s s') (answer : Answer) :
    CoreHook.CanRead s'.request answer ↔ CoreHook.CanRead s.request answer := by
  have hlevel : s'.request.config.logLevel = s.request.config.logLevel :=
    (congrArg (fun r => r.config.logLevel) h.request :)
  have hlogger : s'.request.config.logger = s.request.config.logger :=
    (congrArg (fun r => r.config.logger) h.request :)
  have houtput : s'.request.output = s.request.output := (congrArg Request.output h.request :)
  cases answer <;> simp only [CoreHook.CanRead, CoreHook.logsBody, CoreHook.logsTraffic,
    CoreHook.adapterFails, hlevel, hlogger, houtput]

theorem unhindered_iff (h : Builds s s') (ms : List (Mark CoreHook μ)) (last : Nat) :
    Drive.Unhindered s' ms last ↔ Drive.Unhindered s ms last := by
  constructor
  · rintro ⟨hsendable, hopen, hread⟩
    refine ⟨hsendable, h.isOpen_iff.1 hopen, fun i hi => ?_⟩
    rw [← h.canRead_iff, ← h.tape]
    exact hread i hi
  · rintro ⟨hsendable, hopen, hread⟩
    refine ⟨hsendable, h.isOpen_iff.2 hopen, fun i hi => ?_⟩
    rw [h.canRead_iff, h.tape]
    exact hread i hi

theorem lastAttempt_iff (h : Builds s s') (last : Nat) :
    Drive.LastAttempt s' last ↔ Drive.LastAttempt s last := by
  simp only [Drive.LastAttempt, h.tape, h.budget, Session.left, Session.limit, Session.used]

theorem tells_iff (h : Builds s s') (fs : Failures) (answer : Answer)
    (outcome : Except Stop Value) :
    answer.Tells s'.request fs outcome ↔ answer.Tells s.directed.request fs outcome := by
  rw [h.request]
  rcases outcome with (_ | _) | _ <;> cases answer <;> exact .rfl

theorem follows_iff (h : Builds s s') (c : Course CoreHook μ Value) (last : Nat) :
    Drive.Follows s' c last ↔ Drive.Follows s.directed c last := by
  have hretryer : s'.request.retryer = s.request.retryer := (congrArg Request.retryer h.request :)
  have hused : s'.used = s.used := by rw [Session.used, h.budget, Session.used]
  constructor
  · rintro ⟨hcalls, hwaits, hretries, htells⟩
    rw [h.calls] at hcalls
    rw [hretryer] at hwaits
    rw [hused] at hretries
    rw [h.tape, h.tells_iff] at htells
    exact ⟨hcalls, hwaits, hretries, htells⟩
  · rintro ⟨hcalls, hwaits, hretries, htells⟩
    refine ⟨?_, ?_, ?_, ?_⟩
    · rw [h.calls]
      exact hcalls
    · rw [hretryer]
      exact hwaits
    · rw [hused]
      exact hretries
    · rw [h.tape, h.tells_iff]
      exact htells

end Builds

namespace Drive

open Request CoreHook

variable {words : String → Failure.Reason} {s s' : Session CoreHook μ}

/-! ## The whole run -/

/-- The session after the end of a run over the core hooks. -/
def ended (s : Session CoreHook μ) : Session CoreHook μ :=
  (s.filled.recorded (.phase .complete)).closed

theorem run_completePhase (hhooks : s.request.hooks = template id) :
    (runPhase perform .complete).run s = (.ok (), s.recorded (.phase .complete)) := by
  have hclose : (s.request.hooks.get .complete).callbacks = [.closeResponse] := by
    rw [hhooks]
    rfl
  rw [run_single hclose]
  rfl

theorem run_finish (hhooks : s.request.hooks = template id) :
    (finish perform).run s = ⟨.ok (), ended s,
      [.phase .complete s.filled (.ok ()) (s.filled.recorded (.phase .complete))]⟩ := by
  have hcomplete : (runPhase perform .complete).run s.filled =
      (.ok (), s.filled.recorded (.phase .complete)) := run_completePhase hhooks
  simp [finish, run_bind, hcomplete, ended]

theorem calls_ended (s : Session CoreHook μ) : (ended s).calls = s.calls := by
  have hevents : (ended s).world.events = .phase .complete :: s.world.events := by
    rw [ended, Session.closed]
    split <;> rfl
  simp [Session.calls, hevents, Event.isCall]

theorem failures_ended (s : Session CoreHook μ) :
    (ended s).world.failures = s.world.failures := by
  rw [ended, Session.closed]
  split <;> rfl

/-- The end of a run adds nothing to its calls, waits, retries and outcome. -/
theorem Follows.ended {outcome : Except Stop Value} {last : Nat} {ms ns : List (Mark CoreHook μ)}
    (h : Follows s ⟨outcome, s', ms⟩ last) (hwaits : Mark.waits ns = Mark.waits ms) :
    Follows s ⟨outcome, Drive.ended s', ns⟩ last := by
  refine ⟨?_, ?_, ?_, ?_⟩
  · exact (calls_ended s').trans h.calls
  · exact hwaits.trans h.waits
  · have hused : (Drive.ended s').used = s'.used := Session.used_closed _
    exact hused.trans h.used
  · rw [failures_ended]
    exact h.outcome

theorem Follows.outcome_ne_unfinished {outcome : Except Stop Value} {last : Nat}
    {ms : List (Mark CoreHook μ)} (h : Follows s ⟨outcome, s', ms⟩ last) :
    outcome ≠ .error .unfinished := by
  rintro rfl
  exact h.outcome

/-- The run ends with a failure that a core hook raised without recording it: the request has no
error and is in the completed stage. -/
def EscapesUntold (c : Course CoreHook μ Value) : Prop :=
  ∃ e reason, c.outcome = .error (.raised e) ∧
    c.after.world.failures.reasonAt? e = some reason ∧ reason.Escapes ∧
    c.after.request.error = none ∧ c.after.request.stage = .completed

/-- A failure that escapes is none that an answer tells. -/
theorem EscapesUntold.not_follows {c : Course CoreHook μ Value} (h : EscapesUntold c) (last : Nat) :
    ¬ Follows s c last := by
  intro hfollows
  obtain ⟨e, reason, hraised, hreason, hescapes, -⟩ := h
  have htells := hfollows.outcome
  rw [hraised] at htells
  exact Answer.IsFailure.not_escapes htells hreason hescapes

/-- What escapes from the attempts escapes from the run. -/
theorem escapesUntold_ended {e : FailureId} {reason : Failure.Reason} (ms : List (Mark CoreHook μ))
    (hclean : s.request.error = none) (hreason : s.world.failures.reasonAt? e = some reason)
    (hescapes : reason.Escapes) : EscapesUntold ⟨.error (.raised e), ended s, ms⟩ := by
  refine ⟨e, reason, rfl, ?_, hescapes, ?_, ?_⟩
  · rw [failures_ended]
    exact hreason
  · rw [ended, Session.error_closed]
    exact hclean
  · simp [ended, Session.closed, Session.recorded, Session.filled, hclean]

/-- Nothing waits before the attempts or after them, and no other attempts are made. -/
theorem run_send {fuel : Nat} {s₁ s₂ : Session CoreHook μ} {outcome : Except Stop Value}
    {ms ns : List (Mark CoreHook μ)} (hbuild : (build perform).run s = ⟨.ok (), s₁, ms⟩)
    (hnone : Mark.attempts ms = []) (hwaits : Mark.waits ms = [])
    (hattempts : (attempts perform fuel).run s₁.begun = ⟨outcome, s₂, ns⟩)
    (hfinished : outcome ≠ .error .unfinished) (hhooks : s₂.request.hooks = template id) :
    ∃ ks, (send perform fuel).run s = ⟨outcome, ended s₂, ks⟩ ∧
      Mark.attempts ks = Mark.attempts ns ∧ Mark.waits ks = Mark.waits ns := by
  have hdeliver : (deliver perform fuel).run s = ⟨outcome, s₂, ms ++ ns⟩ := by
    simp [deliver, run_bind, hbuild, hattempts]
  have hends : ((deliver perform fuel).run s).outcome ≠ .error .unfinished := by
    rw [hdeliver]
    exact hfinished
  refine ⟨(ms ++ ns) ++ [.phase .complete s₂.filled (.ok ())
    (s₂.filled.recorded (.phase .complete))], ?_, ?_, ?_⟩
  · rw [send, run_closedBy_of_finished s (finish perform) hends, hdeliver]
    simp only [run_finish hhooks]
  · simp [hnone]
  · simp [hwaits]

/-! ## Two answers -/

/-- A request that may be tried again once, when answers are to come. -/
def retrying (answers : List Response) : Session CoreHook Unit :=
  Session.plain "https://api.io" (template id) (.ofPolicy .steady []) ⟨0, 1, 0, [], false⟩
    (answers.map fun a => ⟨0, none, .response a⟩) ()

/-- An answer without a body. -/
def bodiless (status : Int) : Response := .received status .empty []

/-- An answer of two bytes for one character, which does not say in which order they are. -/
def unordered (status : Int) : Response :=
  .received status (.ofPairs [("content-type".toList, "text/plain; charset=utf-16".toList)])
    [110, 111]

end Drive

end RequestPipeline
