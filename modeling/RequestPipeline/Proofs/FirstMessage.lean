import RequestPipeline.Proofs.DefaultPipeline
import RequestPipeline.Proofs.Interruption

/-!
# The first message of a run

Whether a run over the core hooks sends anything is settled before its first attempt: the message
has to be made, which takes a target that is a URL and header fields that can go out, the
connections have to be open, and the context must not have ended.  If one of these is missing no
other attempt follows either.  If not, the message of the first attempt goes out as the request
makes it.
-/

namespace RequestPipeline

variable {κ μ : Type}

/-! ## Messages -/

/-- The message that the event is about. -/
def Event.message? : Event → Option Transmission
  | .transmit t => some t
  | _ => none

namespace World

/-- The messages that went out, in their order. -/
def messages (w : World μ) : List Transmission := w.events.reverse.filterMap Event.message?

theorem filterMap_eq_nil_iff (events : List Event) :
    events.filterMap Event.message? = [] ↔ events.countP Event.isCall = 0 := by
  rw [List.filterMap_eq_nil_iff, List.countP_eq_zero]
  refine forall₂_congr fun e _ => ?_
  cases e <;> simp [Event.message?, Event.isCall]

theorem messages_eq_nil_iff (w : World μ) : w.messages = [] ↔ w.events.countP Event.isCall = 0 := by
  rw [messages, filterMap_eq_nil_iff, List.countP_reverse]

theorem messages_of_events {w w' : World μ} {e : Event} (hevents : w'.events = e :: w.events)
    (he : e.message? = none) : w'.messages = w.messages := by
  simp [messages, hevents, he]

@[simp] theorem messages_keepCookies (w : World μ) (client : Option ConnectionId) (url : Url)
    (r : Response) : (w.keepCookies client url r).messages = w.messages := by
  rw [messages, events_keepCookies, ← messages]

/-- What went out first stays first. -/
theorem head?_messages_of_later {w w' : World μ} {t : Transmission}
    (h : w.events <:+ w'.events) (ht : w.messages.head? = some t) : w'.messages.head? = some t := by
  have hprefix : w.messages <+: w'.messages := (List.reverse_prefix.2 h).filterMap Event.message?
  obtain ⟨later, hlater⟩ := hprefix
  rw [← hlater, List.head?_append, ht]
  rfl

theorem head?_messages_of_suffix {w : World μ} {before : List Event} {t : Transmission}
    (hsilent : before.countP Event.isCall = 0) (h : .transmit t :: before <:+ w.events) :
    w.messages.head? = some t := by
  have hnone : before.reverse.filterMap Event.message? = [] := by
    rw [filterMap_eq_nil_iff, List.countP_reverse]
    exact hsilent
  refine head?_messages_of_later (w := { w with events := .transmit t :: before }) h ?_
  simp [messages, hnone, Event.message?]

end World

/-! ## The message of a request -/

namespace Session

/-- The message that the request makes, if its connections take it. -/
def message? (s : Session κ μ) : Option Transmission :=
  match s.message (CoreHook.timeLeft s.request s.world.clock) with
  | .ok t => if s.IsOpen then some t.authorized else none
  | .error _ => none

@[simp] theorem calls_dialled (s : Session κ μ) : s.dialled.calls = s.calls := by
  rw [dialled]
  split
  · simp [calls, recorded, unpacked, World.emptyJar, Event.isCall]
  · rfl

@[simp] theorem clock_dialled (s : Session κ μ) : s.dialled.world.clock = s.world.clock := by
  rw [dialled]
  split <;> rfl

@[simp] theorem calls_hungUp (connection : Option ConnectionId) (s : Session κ μ) :
    (s.hungUp connection).calls = s.calls := by
  cases connection with
  | none => simp [hungUp, calls, recorded, Event.isCall]
  | some _ => rfl

@[simp] theorem clock_hungUp (connection : Option ConnectionId) (s : Session κ μ) :
    (s.hungUp connection).world.clock = s.world.clock := by
  cases connection <;> rfl

@[simp] theorem calls_addressed (t : Transmission) (s : Session κ μ) :
    (s.addressed t).calls = s.calls := rfl

/-- The message that an attempt of the request begins with. -/
def firstMessage? (s : Session κ μ) : Option Transmission :=
  if s.isEnded = true then none else s.message?

end Session

namespace Transport

open Step

/-- Whatever else it does, the step sends the message first. -/
def BeginsWith (t : Transmission) {α : Type} (step : Step κ μ α) : Prop :=
  ∀ s, .transmit t :: s.world.events <:+ (step.run s).2.world.events

theorem beginsWith_exchange (client : Option ConnectionId) (t : Transmission) :
    BeginsWith t (exchange client t : Step κ μ Response) := by
  intro s
  obtain ⟨s₁, hcalled, hrun⟩ := run_exchange_accept client t s
  have hevents : (s.called t).world.events = .transmit t :: s.world.events := rfl
  rw [hrun, ← hevents]
  exact hcalled.later.events.trans (isTame_accept client t _ s₁).later.events

theorem BeginsWith.bind {α β : Type} {t : Transmission} {step : Step κ μ α}
    {next : α → Step κ μ β} (h : BeginsWith t step) (hnext : ∀ a, (next a).IsTame) :
    BeginsWith t (step >>= next) := by
  intro s
  have hfirst := h s
  rw [run_bind]
  rcases hrun : step.run s with ⟨stop | a, s₁⟩ <;> rw [hrun] at hfirst
  · exact hfirst
  · exact hfirst.trans (hnext a s₁).later.events

theorem beginsWith_deliver (client : Option ConnectionId) (t : Transmission) (follows : Bool) :
    BeginsWith t.authorized (deliver client t follows : Step κ μ Response) := by
  refine (beginsWith_exchange client t.authorized).bind fun response => ?_
  cases response.location? with
  | none => exact isTame_pure response
  | some location =>
    refine isTame_bind isTame_getWorld fun w => isTame_bind (isTame_orFail _) fun next => ?_
    cases follows with
    | true => exact isTame_follow _ _ _ next
    | false => exact isTame_pure response

end Transport

namespace CoreHook

open Step Transport Request

variable {s : Session κ μ}

/-! ## The send phase -/

/-- The log of a request leaves alone what it sends. -/
theorem run_logRequestLines (s : Session κ μ) :
    ∃ s₁, (logRequestLines : Step κ μ Unit).run s = (.ok (), s₁) ∧ s₁.message? = s.message? ∧
      s₁.calls = s.calls ∧ s₁.isEnded = s.isEnded ∧ s₁.request.budget = s.request.budget := by
  cases hlogs : logsTraffic s.request with
  | false => exact ⟨s, by simp [logRequestLines, hlogs], rfl, rfl, rfl, rfl⟩
  | true =>
    have hlogged : ∀ line, (s.headersRead.logged line).message? = s.message? ∧
        (s.headersRead.logged line).calls = s.calls ∧
        (s.headersRead.logged line).isEnded = s.isEnded ∧
        (s.headersRead.logged line).request.budget = s.request.budget := by
      intro line
      refine ⟨?_, Session.calls_logged _ _, ?_, ?_⟩
      · have hread : (s.headersRead.logged line).message = s.message := by simp
        rw [Session.message?, hread]
        simp [Session.message?, Session.IsOpen, timeLeft, Session.headersRead]
      · simp [Session.isEnded, Session.headersRead]
      · simp [Session.headersRead]
    simp only [logRequestLines, run_bind, run_getRequest, hlogs, if_true, run_modifyRequest,
      run_log]
    exact ⟨s.headersRead.logged _, rfl, hlogged _⟩

/-- Whatever an attempt does after the call, the events of the call stay. -/
theorem events_transmit (s : Session κ μ) :
    ((call (timeLeft s.request s.world.clock) : Step κ μ Response).run s).2.world.events <:+
      ((transmit : Step κ μ Unit).run s).2.world.events := by
  simp only [transmit, run_bind, run_getRequest, run_now, run_tryCatch]
  rcases (call (timeLeft s.request s.world.clock) : Step κ μ Response).run s with ⟨stop | a, s₁⟩
  · cases stop with
    | unfinished => exact List.suffix_rfl
    | raised id =>
      simp only [run_bind, run_getWorld]
      cases faultOf? s₁.world.failures id with
      | none => exact List.suffix_rfl
      | some fault => exact (isTame_handleFault fault).later.events
  · exact List.suffix_rfl

theorem events_hungUp (connection : Option ConnectionId) (s : Session κ μ) :
    s.world.events <:+ (s.hungUp connection).world.events := by
  cases connection with
  | none => exact List.suffix_cons _ _
  | some _ => exact List.suffix_rfl

/-- The message goes out if it can be made and the connections are open. -/
theorem transmit_sends {t : Transmission} (ht : s.message? = some t) (hsilent : s.calls = 0) :
    ∃ before, before.countP Event.isCall = 0 ∧
      .transmit t :: before <:+ ((transmit : Step κ μ Unit).run s).2.world.events := by
  refine ⟨s.dialled.world.events, ?_, .trans ?_ (events_transmit s)⟩
  · exact s.calls_dialled.trans hsilent
  · rw [Session.message?] at ht
    split at ht
    · rename_i made hmade
      split at ht
      · rename_i hopen
        obtain rfl := Option.some.inj ht
        rw [run_call, run_send_dialled, hmade]
        simp only [if_pos hopen]
        exact (beginsWith_deliver _ made (!s.request.config.disableFollowRedirects)
          (s.dialled.addressed made)).trans (events_hungUp _ _)
      · cases ht
    · cases ht

/-- The send hook stops, or leaves a failure that is not retryable. -/
inductive GivesUp (s : Session κ μ) : Except Stop Unit → Session κ μ → Prop where
  | stopped {e s'} (hcalls : s'.calls = s.calls) : GivesUp s (.error (.raised e)) s'
  | failed {e s'} (hcalls : s'.calls = s.calls) (herror : s'.request.error = some e)
      (hbudget : s'.request.budget = s.request.budget)
      (hlasting : ∀ codes, s'.world.failures.isRetryable codes (some e) = false) :
    GivesUp s (.ok ()) s'

theorem GivesUp.of_eq {s s₁ s' : Session κ μ} {outcome : Except Stop Unit}
    (h : GivesUp s₁ outcome s') (hcalls : s₁.calls = s.calls)
    (hbudget : s₁.request.budget = s.request.budget) : GivesUp s outcome s' := by
  cases h with
  | stopped hcalls' => exact .stopped (hcalls'.trans hcalls)
  | failed hcalls' herror hbudget' hlasting =>
    exact .failed (hcalls'.trans hcalls) herror (hbudget'.trans hbudget) hlasting

theorem GivesUp.error_ne_none {s s' : Session κ μ} (h : GivesUp s (.ok ()) s') :
    s'.request.error ≠ none := by
  cases h with
  | failed _ herror => rw [herror]; simp

/-- What comes of sending that fails before any message is out. -/
theorem run_transmit_of_fail {reason : Failure.Reason} {s' : Session κ μ}
    (hsend : (Transport.send s.request.config.connection (timeLeft s.request s.world.clock)).run
      s.dialled = (fail reason : Step κ μ Response).run s') :
    let id := (s'.world.failures.addReason reason).1
    let s₁ := (s'.withFailures (s'.world.failures.addReason reason).2).hungUp
      s.request.config.connection
    (transmit : Step κ μ Unit).run s =
      match reason.kind with
      | .outside (.network fault) => (handleFault id fault : Step κ μ Unit).run s₁
      | _ => (.error (.raised id), s₁) := by
  intro id s₁
  have hcall : (call (timeLeft s.request s.world.clock) : Step κ μ Response).run s =
      (.error (.raised id), s₁) := by
    rw [run_call, hsend, Step.run_fail]
    rfl
  have hreason : s₁.world.failures.reasonAt? id = some reason := by
    rw [Session.failures_hungUp]
    exact Failures.reasonAt?_addReason_self _ reason
  simp only [transmit, run_bind, run_getRequest, run_now, run_tryCatch, hcall, run_getWorld,
    faultOf?_of_reasonAt? hreason]
  rcases reason.kind with _ | _ | _ | _ | _ | _ | _ | _ | _ | kind <;> try rfl
  cases kind <;> rfl

theorem transmit_givesUp (hnone : s.message? = none) (hlive : s.isEnded = false) :
    GivesUp s ((transmit : Step κ μ Unit).run s).1 ((transmit : Step κ μ Unit).run s).2 := by
  have hsend := run_send_dialled (timeLeft s.request s.world.clock) s
  rw [Session.message?] at hnone
  cases hmessage : s.message (timeLeft s.request s.world.clock) with
  | ok made =>
    have hclosed : ¬ s.IsOpen := by
      intro hopen
      simp [hmessage, hopen] at hnone
    rw [hmessage] at hsend
    simp only [if_neg hclosed] at hsend
    have hrun := run_transmit_of_fail hsend
    simp only [Failure.Reason.kind] at hrun
    rw [hrun]
    exact .stopped (by simp)
  | error reason =>
    rw [hmessage] at hsend
    simp only at hsend
    have hrun := run_transmit_of_fail hsend
    rcases ofParts_eq_error _ _ _ _ _ hmessage with ⟨fault, -, rfl⟩ | ⟨fault, rfl⟩ <;>
      simp only [Failure.Reason.kind] at hrun <;> rw [hrun]
    · rw [run_handleFault_of_live _ _ (by simpa [Session.isEnded] using hlive)]
      refine .failed (by simp) rfl (by simp) fun codes => ?_
      exact Failures.isRetryable_of_decides (Failures.get?_add_self _ _) rfl
    · exact .stopped (by simp)

end CoreHook

/-! ## Attempts -/

namespace Drive

open Request CoreHook

variable {s : Session CoreHook μ}

/-- A request over the core hooks before its first attempt: no message has gone out, its context is
not cancelled, and it is not marked as retryable. -/
structure IsUnsent (s : Session CoreHook μ) : Prop where
  hooks : s.request.hooks = template id
  context : s.request.context.cancelled = none
  unmarked : s.request.budget.marked = false
  silent : s.calls = 0

theorem sendPhase_eq (hhooks : s.request.hooks = template id) :
    ∃ s₁, (runPhase perform .send).run s = (transmit : Step CoreHook μ Unit).run s₁ ∧
      s₁.message? = s.message? ∧ s₁.calls = s.calls ∧ s₁.isEnded = s.isEnded ∧
      s₁.request.budget = s.request.budget := by
  have hsend : (s.request.hooks.get .send).callbacks = [.logRequest, .send] := by
    rw [hhooks]
    rfl
  obtain ⟨s₁, hlog, hmessage, hcalls, hended, hbudget⟩ :=
    run_logRequestLines (s.recorded (.phase .send))
  refine ⟨s₁, run_pair hsend hlog, hmessage, hcalls.trans ?_, hended, hbudget⟩
  simp [Session.calls, Session.recorded, Event.isCall]

/-- Without a word for it no other attempt follows. -/
theorem acceptsRetry_eq_false (hmarked : s.request.budget.marked = false)
    (hlasting : s.world.failures.isRetryable s.request.budget.codes s.request.error = false) :
    s.acceptsRetry = false := by
  unfold Session.acceptsRetry Retryer.accepts
  split
  · rfl
  · simp [hmarked, hlasting]

/-! ### With a message -/

theorem sendPhase_sends {t : Transmission} (hhooks : s.request.hooks = template id)
    (hsilent : s.calls = 0) (ht : s.message? = some t) :
    ((runPhase perform .send).run s).2.world.messages.head? = some t := by
  obtain ⟨s₁, hrun, hmessage, hcalls, -⟩ := sendPhase_eq hhooks
  obtain ⟨before, hbefore, hsuffix⟩ := transmit_sends (hmessage.trans ht) (hcalls.trans hsilent)
  rw [hrun]
  exact World.head?_messages_of_suffix hbefore hsuffix

theorem isAttempt_sends {c : Course CoreHook μ (Option FailureId)} {t : Transmission}
    (h : IsAttempt perform s c) (hhooks : s.request.hooks = template id) (hsilent : s.calls = 0)
    (ht : s.firstMessage? = some t) : c.after.world.messages.head? = some t := by
  rw [Session.firstMessage?] at ht
  split at ht
  · cases ht
  · rename_i hlive
    have hsent := sendPhase_sends hhooks hsilent ht
    cases h with
    | cancelled hended => exact absurd hended hlive
    | sendStopped _ hsend =>
      rw [hsend] at hsent
      exact hsent
    | sendFailed _ hsend =>
      rw [hsend] at hsent
      exact World.head?_messages_of_later (Later.failed _ () _).events hsent
    | unmarshalStopped _ hsend _ hunmarshal =>
      rw [hsend] at hsent
      exact World.head?_messages_of_later (later_runPhase hunmarshal).events hsent
    | unmarshalFailed _ hsend _ hunmarshal =>
      rw [hsend] at hsent
      exact World.head?_messages_of_later
        ((later_runPhase hunmarshal).trans (.failed _ () _)).events hsent
    | succeeded _ hsend _ hunmarshal =>
      rw [hsend] at hsent
      exact World.head?_messages_of_later (later_runPhase hunmarshal).events hsent

theorem isRound_sends {c : Course CoreHook μ (Option Value)} {t : Transmission}
    (h : IsRound perform s c) (hhooks : s.request.hooks = template id) (hsilent : s.calls = 0)
    (ht : s.firstMessage? = some t) : c.after.world.messages.head? = some t := by
  have hattempted : ∀ {outcome s₁ ms}, IsAttempt perform (s.withError none) ⟨outcome, s₁, ms⟩ →
      s₁.world.messages.head? = some t := fun hattempt => isAttempt_sends hattempt hhooks hsilent ht
  cases h with
  | attemptStopped hattempt => exact hattempted hattempt
  | succeeded hattempt =>
    have hsent := hattempted hattempt
    exact hsent
  | declined hattempt => exact hattempted hattempt
  | intervalStopped hattempt _ hinterval =>
    exact World.head?_messages_of_later (later_isInterval hinterval).events (hattempted hattempt)
  | again hattempt _ hinterval =>
    exact World.head?_messages_of_later (later_isInterval hinterval).events (hattempted hattempt)

/-! ### Without a message -/

theorem sendPhase_givesUp (hhooks : s.request.hooks = template id) (hlive : s.isEnded = false)
    (hnone : s.message? = none) :
    GivesUp s ((runPhase perform .send).run s).1 ((runPhase perform .send).run s).2 := by
  obtain ⟨s₁, hrun, hmessage, hcalls, hended, hbudget⟩ := sendPhase_eq hhooks
  rw [hrun]
  exact (transmit_givesUp (hmessage.trans hnone) (hended.trans hlive)).of_eq hcalls hbudget

/-- Nothing speaks for another attempt after a failure that decides nothing and has no cause. -/
theorem isRetryable_of_undecided {fs : Failures} {codes : List String} {id : FailureId}
    {f : Failure} (hget : fs.get? id = some f) (hcause : f.cause = none)
    (hdecides : f.decides? codes = none) :
    fs.isRetryable codes (some id) = false := by
  cases hsize : fs.all.size <;>
    simp [Failures.isRetryable, Failures.causePath, Failures.pathFrom, hsize, hget, hcause,
      hdecides]

/-- A context that nobody has cancelled ends by its deadline. -/
theorem cancellation_of_deadline {id : FailureId} {failures : Failures}
    (hcontext : s.request.context.cancelled = none)
    (hcancel : (Step.cancellation? : Step CoreHook μ _).run s =
      (.ok (some id), s.withFailures failures)) :
    id = (s.world.failures.ofEnding .expired).1 ∧
      failures = (s.world.failures.ofEnding .expired).2 := by
  rw [run_cancellation] at hcancel
  have hending : s.request.context.ending? s.world.clock = none ∨
      s.request.context.ending? s.world.clock = some .expired := by
    rw [Context.ending?, hcontext]
    simp only
    split <;> simp
  rcases hending with hending | hending
  · simp [hending] at hcancel
  · simp only [hending, Prod.mk.injEq, Except.ok.injEq, Option.some.injEq] at hcancel
    obtain ⟨hid, hsession⟩ := hcancel
    exact ⟨hid.symm, (congrArg (fun t => t.world.failures) hsession).symm⟩

/-- An attempt without a message makes no call, and no other one follows it. -/
theorem isAttempt_givesUp {c : Course CoreHook μ (Option FailureId)} (h : IsAttempt perform s c)
    (hunsent : IsUnsent s) (hnone : s.firstMessage? = none) :
    c.after.calls = s.calls ∧ c.outcome ≠ .ok none ∧
      ∀ failure, c.outcome = .ok (some failure) → c.after.acceptsRetry = false := by
  have hgives : s.isEnded = false → GivesUp s ((runPhase perform .send).run s).1
      ((runPhase perform .send).run s).2 := by
    intro hlive
    refine sendPhase_givesUp hunsent.hooks hlive ?_
    simpa [Session.firstMessage?, hlive] using hnone
  have hfailed : ∀ s₁, s.isEnded = false → (runPhase perform .send).run s = (.ok (), s₁) →
      GivesUp s (.ok ()) s₁ := by
    intro s₁ hlive hsend
    have h := hgives hlive
    rwa [hsend] at h
  cases h with
  | @cancelled id failures hended hcancel =>
    refine ⟨by simp, nofun, fun _ _ => acceptsRetry_eq_false ?_ ?_⟩
    · simpa using hunsent.unmarked
    · obtain ⟨hid, hfailures⟩ := cancellation_of_deadline hunsent.context hcancel
      simp only [Session.request_failed, Session.failures_failed, Session.request_withError,
        Session.request_withFailures, Session.world_withError, Session.failures_withFailures, hid,
        hfailures]
      exact isRetryable_of_undecided (Failures.get?_add_self _ _) rfl
        (Failures.decides?_of_silent rfl rfl rfl)
  | sendStopped hlive hsend =>
    have h := hgives hlive
    rw [hsend] at h
    cases h with
    | stopped hcalls => exact ⟨hcalls, nofun, nofun⟩
  | sendFailed hlive hsend herror =>
    cases hfailed _ hlive hsend with
    | failed hcalls herror' hbudget hlasting =>
      refine ⟨by simpa using hcalls, nofun, fun _ _ => acceptsRetry_eq_false ?_ ?_⟩
      · rw [Session.request_failed]
        exact (congrArg RetryBudget.marked hbudget).trans hunsent.unmarked
      · rw [Session.request_failed, Session.failures_failed]
        simp only [herror']
        exact hlasting _
  | unmarshalStopped hlive hsend hsent => exact absurd hsent (hfailed _ hlive hsend).error_ne_none
  | unmarshalFailed hlive hsend hsent => exact absurd hsent (hfailed _ hlive hsend).error_ne_none
  | succeeded hlive hsend hsent => exact absurd hsent (hfailed _ hlive hsend).error_ne_none

/-- A round without a message is the last one. -/
theorem isRound_givesUp {c : Course CoreHook μ (Option Value)} (h : IsRound perform s c)
    (hunsent : IsUnsent s) (hnone : s.firstMessage? = none) :
    c.after.calls = s.calls ∧ ∃ stop, c.outcome = .error stop := by
  have hclear : IsUnsent (s.withError none) :=
    ⟨hunsent.hooks, hunsent.context, hunsent.unmarked, hunsent.silent⟩
  have hattempted : ∀ {c}, IsAttempt perform (s.withError none) c →
      c.after.calls = s.calls ∧ c.outcome ≠ .ok none ∧
        ∀ failure, c.outcome = .ok (some failure) → c.after.acceptsRetry = false :=
    fun hattempt => isAttempt_givesUp (s := s.withError none) hattempt hclear hnone
  cases h with
  | attemptStopped hattempt => exact ⟨(hattempted hattempt).1, _, rfl⟩
  | succeeded hattempt => exact absurd rfl (hattempted hattempt).2.1
  | declined hattempt => exact ⟨(hattempted hattempt).1, _, rfl⟩
  | intervalStopped hattempt haccepted =>
    have hdeclined := (hattempted hattempt).2.2 _ rfl
    cases haccepted.symm.trans hdeclined
  | again hattempt haccepted =>
    have hdeclined := (hattempted hattempt).2.2 _ rfl
    cases haccepted.symm.trans hdeclined

/-! ### All attempts -/

/-- The first message of a run is that of its first attempt; without one nothing goes out. -/
theorem head?_messages_attempts (hunsent : IsUnsent s) (limit : Nat) :
    ((attempts perform (limit + 1)).run s).after.world.messages.head? = s.firstMessage? := by
  have hround := isRound_run perform s
  simp only [attempts, run_bind]
  cases ht : s.firstMessage? with
  | some t =>
    have hsent := isRound_sends hround hunsent.hooks hunsent.silent ht
    rcases hr : (round perform).run s with ⟨stop | _ | v, s₁, ms⟩ <;> rw [hr] at hsent
    · exact hsent
    · exact World.head?_messages_of_later
        (later_areRounds (areRounds_run perform s₁ limit)).events hsent
    · exact hsent
  | none =>
    obtain ⟨hcalls, stop, hstop⟩ := isRound_givesUp hround hunsent ht
    rw [hstop]
    have hnothing := (World.messages_eq_nil_iff _).2 (hcalls.trans hunsent.silent)
    simp [hnothing]

end Drive

end RequestPipeline
