import RequestPipeline.Proofs.Attempts

/-!
# Rounds over the core hooks

A request over the core hooks with a backoff policy attempts again as long as the answer may be
another one next time and retries are left.  It ends with what the last answer tells, if each of its
attempts can make its message and can read the answer.  Cookies come with the answers, so whether a
message can be made is asked of each attempt in turn.
-/

namespace RequestPipeline

variable {κ μ : Type}

/-! ## The last attempt -/

/-- The lengths of the first waits that a retryer asks for. -/
def Retryer.delays : Retryer → Nat → List Float
  | _, 0 => []
  | r, n + 1 => r.delay.1 :: delays r.delay.2 n

/-- `last` is the least number of an attempt that is not retried, or that no retry is left for. -/
structure IsLast (isRetryable : Nat → Bool) (limit last : Nat) : Prop where
  le : last ≤ limit
  before : ∀ i < last, isRetryable i = true
  stops : last = limit ∨ isRetryable last = false

namespace IsLast

variable {isRetryable : Nat → Bool} {limit last : Nat}

theorem zero (h : IsLast isRetryable limit 0) : limit = 0 ∨ isRetryable 0 = false :=
  h.stops.imp_left Eq.symm

theorem succ (h : IsLast isRetryable limit (last + 1)) :
    ∃ limit', limit = limit' + 1 ∧ isRetryable 0 = true ∧
      IsLast (fun i => isRetryable (i + 1)) limit' last := by
  obtain ⟨limit', rfl⟩ : ∃ limit', limit = limit' + 1 := Nat.exists_eq_add_one.2 (by
    have := h.le
    omega)
  refine ⟨limit', rfl, h.before 0 (Nat.succ_pos last), ?_, ?_, ?_⟩
  · exact Nat.le_of_succ_le_succ h.le
  · exact fun i hi => h.before (i + 1) (Nat.succ_lt_succ hi)
  · exact h.stops.imp_left Nat.succ.inj

theorem exists_isLast (isRetryable : Nat → Bool) (limit : Nat) :
    ∃ last, IsLast isRetryable limit last := by
  induction limit generalizing isRetryable with
  | zero => exact ⟨0, Nat.le_refl 0, nofun, .inl rfl⟩
  | succ limit ih =>
    cases h : isRetryable 0 with
    | false => exact ⟨0, Nat.zero_le _, nofun, .inr h⟩
    | true =>
      obtain ⟨last, hle, hbefore, hstops⟩ := ih fun i => isRetryable (i + 1)
      refine ⟨last + 1, Nat.succ_le_succ hle, ?_, hstops.imp_left (congrArg (· + 1))⟩
      rintro (_ | i) hi
      · exact h
      · exact hbefore i (Nat.lt_of_succ_lt_succ hi)

theorem unique {last' : Nat} (h : IsLast isRetryable limit last)
    (h' : IsLast isRetryable limit last') : last = last' := by
  rcases Nat.lt_trichotomy last last' with hlt | heq | hgt
  · have hbefore := h'.before last hlt
    rcases h.stops with hlimit | hlasting
    · have := h'.le
      omega
    · exact absurd hbefore (by simp [hlasting])
  · exact heq
  · have hbefore := h.before last' hgt
    rcases h'.stops with hlimit | hlasting
    · have := h.le
      omega
    · exact absurd hbefore (by simp [hlasting])

end IsLast

/-! ## Decisions -/

/-- A request whose retryer agrees to every retryable failure as long as retries are left. -/
structure Willing (s : Session κ μ) : Prop where
  backoff : ∃ progress, s.request.retryer = .backoff progress
  used : 0 ≤ s.used
  patient : s.request.budget.maxElapsed = 0
  unmarked : s.request.budget.marked = false

theorem acceptsRetry_of_willing {s : Session κ μ} (h : Willing s) :
    s.acceptsRetry = (decide (s.left ≠ 0) &&
      s.world.failures.isRetryable s.request.budget.codes s.request.error) := by
  obtain ⟨progress, hprogress⟩ := h.backoff
  have hzero : ¬ (0 : Float) < 0 := by decide
  have hlate : Retryer.isTooLate s.request.budget progress s.request.firstAttempt s.world.clock =
      false := by
    cases hfirst : s.request.firstAttempt <;> simp [Retryer.isTooLate, h.patient, hzero]
  have hused : 0 ≤ s.request.budget.used := h.used
  simp only [Session.acceptsRetry, Retryer.accepts, hprogress, hlate, h.unmarked, Session.left,
    Session.limit, Session.used]
  by_cases hleft : s.request.budget.used < s.request.budget.limit
  · have hlimit : s.request.budget.limit ≠ 0 := by omega
    have hspent : ¬ s.request.budget.limit ≤ s.request.budget.used := by omega
    have hnone : (s.request.budget.limit - s.request.budget.used).toNat ≠ 0 := by omega
    simp [hlimit, hspent, hnone]
  · have hspent : s.request.budget.limit ≤ s.request.budget.used := by omega
    have hnone : (s.request.budget.limit - s.request.budget.used).toNat = 0 := by omega
    simp [hspent, hnone]

namespace Along

variable {words : String → Failure.Reason} {n : Nat} {s s' : Session κ μ}

theorem budget (h : Along words n s s') : s'.request.budget = s.request.budget := by
  have hterms : ({ s'.request.budget with used := 0 } : RetryBudget) =
      { s.request.budget with used := 0 } := (congrArg Request.budget h.terms :)
  have hused : s'.request.budget.used = s.request.budget.used := h.used
  calc s'.request.budget
    _ = { ({ s'.request.budget with used := 0 } : RetryBudget) with
          used := s'.request.budget.used } := rfl
    _ = s.request.budget := by rw [hterms, hused]

theorem willing (h : Along words n s s') (hwilling : Willing s) : Willing s' where
  backoff := by rw [h.retryer]; exact hwilling.backoff
  used := by rw [h.used]; exact hwilling.used
  patient := by rw [h.budget]; exact hwilling.patient
  unmarked := by rw [h.budget]; exact hwilling.unmarked

end Along

/-! ## Rounds -/

namespace Session

/-- The session with other retries. -/
def withRetries (used : Int) (retryer : Retryer) (s : Session κ μ) : Session κ μ :=
  { s with request := { s.request with retryer, budget.used := used } }

/-- The session of a failed attempt when the next one begins, without hooks of the retry phase. -/
def resumed (s : Session κ μ) : Session κ μ :=
  ((s.recorded (.phase .retry)).counted.waited s.request.retryer.delay.1).prepared

variable (s : Session κ μ)

@[simp] theorem calls_announced : s.announced.calls = s.calls := by
  rw [announced]
  split
  · rw [calls_logged]
  · rfl

@[simp] theorem tape_announced : s.announced.world.tape = s.world.tape := by
  rw [announced]
  split
  · rw [tape_logged]
  · rfl

@[simp] theorem connections_announced : s.announced.world.connections = s.world.connections := by
  rw [announced]
  split
  · rw [connections_logged]
  · rfl

end Session

theorem Context.wait_background (now seconds : Float) :
    Context.background.wait now seconds =
      ⟨false, positivePart seconds, now + positivePart seconds, .background⟩ := rfl

namespace Session

variable (s : Session κ μ)

theorem request_resumed (hcontext : s.request.context = .background) :
    s.resumed.request = { s.request with
      budget.used := s.request.budget.used + 1, retryer := s.request.retryer.delay.2
      response := none, transmission := none, stage := .built } := by
  simp only [resumed, prepared, waited, counted, request_recorded, hcontext,
    Context.wait_background]

theorem calls_resumed : s.resumed.calls = s.calls := by
  have hprepared : s.resumed.calls =
      ((s.recorded (.phase .retry)).counted.waited s.request.retryer.delay.1).announced.calls := rfl
  rw [hprepared, calls_announced]
  simp [calls, waited, counted, recorded, Event.isCall]

theorem tape_resumed : s.resumed.world.tape = s.world.tape := by
  simp [resumed, prepared, waited, counted, recorded]

theorem connections_resumed : s.resumed.world.connections = s.world.connections := by
  simp [resumed, prepared, waited, counted, recorded]

theorem failures_resumed : s.resumed.world.failures = s.world.failures := by
  simp [resumed, prepared, waited, counted, recorded]

end Session

/-- `s'` comes one call and one wait after `s`, and nothing but a round has happened. -/
structure Onward (words : String → Failure.Reason) (s s' : Session κ μ) : Prop where
  along : Along words 1 s (s'.withRetries s.used s.request.retryer)
  used : s'.used = s.used + 1
  retryer : s'.request.retryer = s.request.retryer.delay.2
  data : s'.request.data = s.request.data

namespace Onward

variable {words : String → Failure.Reason} {s s' : Session κ μ}

/-- An attempt with what follows it. -/
theorem of_along (h : Along words 1 s s') (hcontext : s.request.context = .background)
    (hdata : s'.request.data = s.request.data) : Onward words s s'.resumed := by
  have hrequest := s'.request_resumed (h.context.trans hcontext)
  refine ⟨⟨?_, rfl, rfl, nofun, ?_, ?_, ?_, ?_⟩, ?_, ?_, ?_⟩
  · rw [← h.terms]
    simp [Session.withRetries, Request.terms, hrequest]
  · exact fun i => s'.tape_resumed ▸ h.tape i
  · exact s'.calls_resumed ▸ h.calls
  · exact s'.connections_resumed ▸ h.connections
  · exact s'.failures_resumed ▸ h.fits
  · have hused : s'.resumed.used = s'.used + 1 := rfl
    rw [hused, h.used]
  · rw [hrequest, h.retryer]
  · rw [hrequest, hdata]

/-! ### What a round leaves alone -/

theorem calls (h : Onward words s s') : s'.calls = s.calls + 1 := h.along.calls

theorem tape (h : Onward words s s') (i : Nat) :
    Transport.outcomeAt s'.world.tape i = Transport.outcomeAt s.world.tape (i + 1) := h.along.tape i

theorem budget (h : Onward words s s') :
    s'.request.budget = { s.request.budget with used := s.request.budget.used + 1 } := by
  have hkept : ({ s'.request.budget with used := s.request.budget.used } : RetryBudget) =
      s.request.budget := h.along.budget
  have hused : s'.request.budget.used = s.request.budget.used + 1 := h.used
  rw [← hkept, ← hused]

theorem codes (h : Onward words s s') : s'.request.budget.codes = s.request.budget.codes := by
  rw [h.budget]

theorem left (h : Onward words s s') : s'.left = s.left - 1 := by
  have hlimit : s'.limit = s.limit := by rw [Session.limit, h.budget, Session.limit]
  rw [Session.left, Session.left, hlimit, h.used]
  omega

theorem willing (h : Onward words s s') (hwilling : Willing s) : Willing s' where
  backoff := by
    obtain ⟨progress, hprogress⟩ := hwilling.backoff
    exact ⟨progress.next.2, by rw [h.retryer, hprogress]; rfl⟩
  used := by
    have := hwilling.used
    rw [h.used]
    omega
  patient := by rw [h.budget]; exact hwilling.patient
  unmarked := by rw [h.budget]; exact hwilling.unmarked

end Onward

theorem Ready.onward {words : String → Failure.Reason} {s s' : Session CoreHook μ}
    (hready : Ready words s) (h : Onward words s s') : Ready words s' :=
  have hready' := hready.along h.along
  ⟨hready'.hooks, hready'.context, hready'.url, hready'.fits, hready'.tape⟩

/-- The outcome is what an answer tells. -/
def Answer.Tells {κ : Type} (r : Request κ) (fs : Failures) (answer : Answer) :
    Except Stop Value → Prop
  | .ok data => answer.IsData r data
  | .error (.raised e) => answer.IsFailure r fs e
  | .error .unfinished => False

theorem Answer.IsData.not_isRetryable {κ : Type} {r : Request κ} {data : Value} {answer : Answer}
    (h : answer.IsData r data) (codes : List String) : answer.isRetryable codes = false := by
  cases answer with
  | response a => simp [Answer.isRetryable, h.1]
  | failure spec => exact h.elim

theorem Along.tells_iff {κ : Type} {words : String → Failure.Reason} {n : Nat}
    {s s' : Session κ μ} (h : Along words n s s') (hdata : s'.request.data = s.request.data)
    (fs : Failures) (answer : Answer) (outcome : Except Stop Value) :
    answer.Tells s'.request fs outcome ↔ answer.Tells s.request fs outcome := by
  rcases outcome with (e | _) | data
  · exact h.isFailure_iff hdata fs e answer
  · exact .rfl
  · exact h.isData_iff hdata data answer

namespace Drive

open Request CoreHook

variable {words : String → Failure.Reason} {s s₁ : Session CoreHook μ}

/-- What follows a failed attempt that is retried, without hooks of the retry phase. -/
theorem run_interval {failure : FailureId} (hhooks : s.request.hooks = template id)
    (hcontext : s.request.context = .background) (herror : s.request.error = some failure) :
    ∃ ms, (interval perform failure).run s = ⟨.ok (), s.resumed, ms⟩ ∧
      Mark.attempts ms = [] ∧ Mark.waits ms = [s.request.retryer.delay.1] := by
  have hretry : (runPhase perform .retry).run s = (.ok (), s.recorded (.phase .retry)) := by
    have hnone : (s.request.hooks.get .retry).callbacks = [] := by rw [hhooks]; rfl
    simp only [runPhase, Step.run_bind, Step.run_record, Step.run_getRequest, hnone, runAll,
      Step.run_pure, Session.recorded]
  have hkept : (stopIfReplaced failure : Step CoreHook μ Unit).run (s.recorded (.phase .retry)) =
      (.ok (), s.recorded (.phase .retry)) := by
    simp [run_stopIfReplaced, herror]
  have hwait : (s.recorded (.phase .retry)).counted.waitEnds s.request.retryer.delay.1 = false := by
    have hbackground : (s.recorded (.phase .retry)).counted.request.context = .background :=
      hcontext
    rw [Session.waitEnds, hbackground, Context.wait_background]
  refine ⟨[.phase .retry s (.ok ()) (s.recorded (.phase .retry)),
    .wait (s.recorded (.phase .retry)).counted s.request.retryer.delay.1 false
      ((s.recorded (.phase .retry)).counted.waited s.request.retryer.delay.1)], ?_, rfl, rfl⟩
  simp [interval, run_bind, hretry, hkept, hwait, Session.resumed]

/-- A round whose answer is not retried ends with what the answer tells. -/
theorem round_last (hready : Ready words s) (hwilling : Willing s)
    (hsendable : s.IsSendable) (hopen : s.IsOpen)
    (hread : CanRead s.request (Transport.outcomeAt s.world.tape 0).answer)
    (hlast : s.left = 0 ∨
      (Transport.outcomeAt s.world.tape 0).answer.isRetryable s.request.budget.codes = false) :
    ∃ outcome s' ms, (round perform).run s = ⟨outcome.map some, s', ms⟩ ∧ Along words 1 s s' ∧
      Mark.attempts ms = [s.withError none] ∧ Mark.waits ms = [] ∧
      (Transport.outcomeAt s.world.tape 0).answer.Tells s.request s'.world.failures outcome := by
  have hcleared : Along words 0 s (s.withError none) := (Along.refl s).withError none
  obtain ⟨s', ms, halong, hattempts, hwaits, hattempt⟩ :=
    attempt_read (hready.along hcleared) rfl hsendable hopen hread
  rcases hattempt with ⟨hrun, hdata⟩ | ⟨e, hrun, herror, hdata, hfailure, hretry⟩
  · refine ⟨.ok s'.request.data, s'.atStage .unmarshalled, ms, ?_,
      (hcleared.trans halong).atStage _, hattempts, hwaits, hdata⟩
    simp [round, run_bind, hrun, Except.map]
  · have hdeclined : s'.acceptsRetry = false := by
      have hsame := hcleared.trans halong
      have hleft : s'.left = s.left := by
        rw [Session.left, Session.left, hsame.used, Session.limit, hsame.budget, Session.limit]
      rw [acceptsRetry_of_willing (hsame.willing hwilling), hleft, herror, hsame.budget, hretry]
      rcases hlast with hzero | hlasting
      · simp [hzero]
      · simp [hlasting]
    refine ⟨.error (.raised e), s', ms ++ [.decision s' false], ?_, hcleared.trans halong, ?_,
      ?_, hfailure⟩
    · simp [round, run_bind, hrun, hdeclined, Except.map]
    · simp [hattempts]
    · simp [hwaits]

/-- A round whose answer is retried comes before another one. -/
theorem round_again (hready : Ready words s) (hwilling : Willing s)
    (hsendable : s.IsSendable) (hopen : s.IsOpen)
    (hread : CanRead s.request (Transport.outcomeAt s.world.tape 0).answer) (hleft : s.left ≠ 0)
    (hretryable :
      (Transport.outcomeAt s.world.tape 0).answer.isRetryable s.request.budget.codes = true) :
    ∃ s' ms, (round perform).run s = ⟨.ok none, s', ms⟩ ∧ Onward words s s' ∧
      Mark.attempts ms = [s.withError none] ∧ Mark.waits ms = [s.request.retryer.delay.1] := by
  have hcleared : Along words 0 s (s.withError none) := (Along.refl s).withError none
  obtain ⟨s', ms, halong, hattempts, hwaits, hattempt⟩ :=
    attempt_read (hready.along hcleared) rfl hsendable hopen hread
  have hsame := hcleared.trans halong
  rcases hattempt with ⟨-, hdata⟩ | ⟨e, hrun, herror, hdata, -, hretry⟩
  · have hlasting := hdata.not_isRetryable s.request.budget.codes
    exact absurd (hretryable.symm.trans hlasting) (by simp)
  · have hready' := hready.along hsame
    have haccepted : s'.acceptsRetry = true := by
      have hkept : s'.left = s.left := by
        rw [Session.left, Session.left, hsame.used, Session.limit, hsame.budget, Session.limit]
      rw [acceptsRetry_of_willing (hsame.willing hwilling), hkept, herror, hsame.budget, hretry]
      simpa [hleft] using hretryable
    obtain ⟨ns, hinterval, hattempts', hwaits'⟩ := run_interval hready'.hooks hready'.context herror
    refine ⟨s'.resumed, ms ++ (.decision s' true :: ns), ?_,
      .of_along hsame hready.context hdata, ?_, ?_⟩
    · simp [round, run_bind, hrun, haccepted, hinterval]
    · simp [hattempts, hattempts']
    · simp [hwaits, hwaits', hsame.retryer]

/-- A round of a request that cannot go out, or whose answer cannot be read, ends with a failure
that escapes. -/
theorem round_escapes (hready : Ready words s)
    (hhindered : ¬ (s.IsSendable ∧ s.IsOpen ∧
      CanRead s.request (Transport.outcomeAt s.world.tape 0).answer)) :
    ∃ e s' ms reason, (round perform).run s = ⟨.error (.raised e), s', ms⟩ ∧
      Mark.attempts ms = [s.withError none] ∧ s'.request.hooks = template id ∧
        s'.request.error = none ∧ s'.world.failures.reasonAt? e = some reason ∧ reason.Escapes := by
  have hcleared : Along words 0 s (s.withError none) := (Along.refl s).withError none
  obtain ⟨e, s', ms, reason, hrun, hend⟩ :=
    attempt_escapes (hready.along hcleared) rfl hhindered
  refine ⟨e, s', ms, reason, ?_, hend⟩
  simp [round, run_bind, hrun]

/-! ## All rounds -/

/-- The last attempt of a request. -/
abbrev LastAttempt (s : Session CoreHook μ) (last : Nat) : Prop :=
  IsLast (fun i =>
    (Transport.outcomeAt s.world.tape i).answer.isRetryable s.request.budget.codes) s.left last

/-- The attempts up to the last one are made, with a wait between two of them, and the outcome is
what the answer to the last one tells. -/
structure Follows (s : Session CoreHook μ) (c : Course CoreHook μ Value) (last : Nat) : Prop where
  calls : c.after.calls = s.calls + (last + 1)
  waits : Mark.waits c.marks = s.request.retryer.delays last
  used : c.after.used = s.used + last
  outcome : (Transport.outcomeAt s.world.tape last).answer.Tells s.request c.after.world.failures
    c.outcome

/-- Each attempt up to the last one can make its message, the connections are open, and each answer
can be processed. -/
structure Unhindered (s : Session CoreHook μ) (ms : List (Mark CoreHook μ)) (last : Nat) :
    Prop where
  sendable : ∀ t ∈ Mark.attempts ms, t.IsSendable
  isOpen : s.IsOpen
  canRead : ∀ i ≤ last, CanRead s.request (Transport.outcomeAt s.world.tape i).answer

theorem unhindered_zero_iff {ms : List (Mark CoreHook μ)}
    (h : Mark.attempts ms = [s.withError none]) :
    Unhindered s ms 0 ↔ s.IsSendable ∧ s.IsOpen ∧
      CanRead s.request (Transport.outcomeAt s.world.tape 0).answer := by
  have hsame : (∀ t ∈ Mark.attempts ms, t.IsSendable) ↔ s.IsSendable := by
    rw [h, List.forall_mem_singleton]
    rfl
  constructor
  · rintro ⟨hsendable, hopen, hread⟩
    exact ⟨hsame.1 hsendable, hopen, hread 0 (Nat.le_refl 0)⟩
  · rintro ⟨hsendable, hopen, hread⟩
    refine ⟨hsame.2 hsendable, hopen, fun i hi => ?_⟩
    rw [Nat.le_zero.1 hi]
    exact hread

theorem unhindered_succ_iff (h : Onward words s s₁) {ms ns : List (Mark CoreHook μ)}
    {last : Nat} :
    Unhindered s (ms ++ ns) (last + 1) ↔ Unhindered s ms 0 ∧ Unhindered s₁ ns last := by
  have hlater (i : Nat) : CanRead s₁.request (Transport.outcomeAt s₁.world.tape i).answer ↔
      CanRead s.request (Transport.outcomeAt s.world.tape (i + 1)).answer := by
    rw [h.tape]
    exact h.along.canRead_iff _
  constructor
  · rintro ⟨hsendable, hopen, hread⟩
    rw [Mark.attempts_append, List.forall_mem_append] at hsendable
    refine ⟨⟨hsendable.1, hopen, fun i hi => hread i (by omega)⟩, hsendable.2,
      h.along.isOpen.2 hopen, fun i hi => ?_⟩
    exact (hlater i).2 (hread (i + 1) (Nat.succ_le_succ hi))
  · rintro ⟨⟨hsendable, hopen, hfirst⟩, hrest⟩
    refine ⟨?_, hopen, fun i hi => ?_⟩
    · rw [Mark.attempts_append, List.forall_mem_append]
      exact ⟨hsendable, hrest.sendable⟩
    · cases i with
      | zero => exact hfirst 0 (Nat.le_refl 0)
      | succ i => exact (hlater i).1 (hrest.canRead i (Nat.le_of_succ_le_succ hi))

theorem Unhindered.of_attempts {ms ns : List (Mark CoreHook μ)} {last : Nat}
    (h : Unhindered s ms last) (hsame : Mark.attempts ns = Mark.attempts ms) :
    Unhindered s ns last :=
  ⟨hsame ▸ h.sendable, h.isOpen, h.canRead⟩

/-- An attempt comes first, and what is in its way is in the way of all attempts. -/
theorem Unhindered.first {ms ns : List (Mark CoreHook μ)} {last : Nat}
    (h : Unhindered s (ms ++ ns) last) : Unhindered s ms 0 where
  sendable t ht := h.sendable t (by
    rw [Mark.attempts_append]
    exact List.mem_append_left _ ht)
  isOpen := h.isOpen
  canRead i hi := h.canRead i (by omega)

theorem run_attempts_of_done {fuel : Nat} {s' : Session CoreHook μ} (outcome : Except Stop Value)
    {ms : List (Mark CoreHook μ)} (h : (round perform).run s = ⟨outcome.map some, s', ms⟩) :
    (attempts perform (fuel + 1)).run s = ⟨outcome, s', ms⟩ := by
  cases outcome <;> simp [attempts, run_bind, h, Except.map]

theorem run_attempts_of_again {fuel : Nat} {s' : Session CoreHook μ}
    {ms : List (Mark CoreHook μ)} (h : (round perform).run s = ⟨.ok none, s', ms⟩) :
    (attempts perform (fuel + 1)).run s =
      ⟨((attempts perform fuel).run s').outcome, ((attempts perform fuel).run s').after,
        ms ++ ((attempts perform fuel).run s').marks⟩ := by
  simp [attempts, run_bind, h]

/-- After a round, the last attempt comes one attempt sooner. -/
theorem LastAttempt.onward {last : Nat} (h : LastAttempt s (last + 1))
    (honward : Onward words s s₁) : LastAttempt s₁ last := by
  obtain ⟨limit, hleft, -, hlast⟩ := h.succ
  have hleft' : s₁.left = limit := by rw [honward.left, hleft]; rfl
  simpa only [LastAttempt, honward.tape, honward.codes, hleft'] using hlast

/-- The attempts end with a failure that a core hook raised without recording it. -/
def StopsShort (c : Course CoreHook μ Value) : Prop :=
  ∃ e reason, c.outcome = .error (.raised e) ∧ c.after.request.error = none ∧
    c.after.world.failures.reasonAt? e = some reason ∧ reason.Escapes

/-- A run goes on up to the last attempt if nothing is in the way of its attempts, and otherwise
stops short. -/
structure Settles (s : Session CoreHook μ) (c : Course CoreHook μ Value) (last : Nat) : Prop where
  hooks : c.after.request.hooks = template id
  follows : Unhindered s c.marks last → Follows s c last
  stops : ¬ Unhindered s c.marks last → StopsShort c

/-- Something is in the way of the first attempt. -/
theorem settles_of_hindered (hready : Ready words s)
    (hhindered : ¬ (s.IsSendable ∧ s.IsOpen ∧
      CanRead s.request (Transport.outcomeAt s.world.tape 0).answer)) (fuel last : Nat) :
    Settles s ((attempts perform (fuel + 1)).run s) last := by
  obtain ⟨e, s', ms, reason, hround, hattempts, hhooks, hclean, hreason, hescapes⟩ :=
    round_escapes hready hhindered
  rw [run_attempts_of_done (.error (.raised e)) hround]
  refine ⟨hhooks, fun h => ?_, fun _ => ⟨e, reason, rfl, hclean, hreason, hescapes⟩⟩
  have hfirst : Unhindered s (ms ++ []) last := by rwa [List.append_nil]
  exact absurd ((unhindered_zero_iff hattempts).1 hfirst.first) hhindered

/-- The attempts that follow a round carry on what it began. -/
theorem Settles.onward {c : Course CoreHook μ Value} {last : Nat} {ms : List (Mark CoreHook μ)}
    (h : Settles s₁ c last) (honward : Onward words s s₁) (hfirst : Unhindered s ms 0)
    (hwaits : Mark.waits ms = [s.request.retryer.delay.1]) :
    Settles s ⟨c.outcome, c.after, ms ++ c.marks⟩ (last + 1) := by
  refine ⟨h.hooks, fun hfree => ?_, fun hhindered => ?_⟩
  · have hrest := h.follows ((unhindered_succ_iff honward).1 hfree).2
    refine ⟨?_, ?_, ?_, ?_⟩
    · rw [hrest.calls, honward.calls, Nat.add_assoc, Nat.add_comm 1]
    · rw [Mark.waits_append, hwaits, hrest.waits, honward.retryer]
      rfl
    · rw [hrest.used, honward.used]
      omega
    · have htells := hrest.outcome
      rw [honward.tape] at htells
      exact (honward.along.tells_iff honward.data _ _ _).1 htells
  · have hlater : ¬ Unhindered s₁ c.marks last := fun hrest =>
      hhindered ((unhindered_succ_iff honward).2 ⟨hfirst, hrest⟩)
    exact h.stops hlater

theorem attempts_settle {last fuel : Nat} (hready : Ready words s) (hwilling : Willing s)
    (hlast : LastAttempt s last) (hfuel : last < fuel) :
    Settles s ((attempts perform fuel).run s) last := by
  obtain ⟨fuel, rfl⟩ : ∃ n, fuel = n + 1 := Nat.exists_eq_add_one.2 (Nat.zero_lt_of_lt hfuel)
  induction last generalizing s fuel with
  | zero =>
    by_cases hfree : s.IsSendable ∧ s.IsOpen ∧
        CanRead s.request (Transport.outcomeAt s.world.tape 0).answer
    · obtain ⟨outcome, s', ms, hround, halong, hattempts, hwaits, htells⟩ :=
        round_last hready hwilling hfree.1 hfree.2.1 hfree.2.2 hlast.zero
      rw [run_attempts_of_done outcome hround]
      exact ⟨(hready.along halong).hooks,
        fun _ => ⟨halong.calls, hwaits, by simpa using halong.used, htells⟩,
        absurd ((unhindered_zero_iff hattempts).2 hfree)⟩
    · exact settles_of_hindered hready hfree fuel 0
  | succ last ih =>
    by_cases hfree : s.IsSendable ∧ s.IsOpen ∧
        CanRead s.request (Transport.outcomeAt s.world.tape 0).answer
    · obtain ⟨limit, hleft, hretryable, -⟩ := hlast.succ
      obtain ⟨s', ms, hround, honward, hattempts, hwaits⟩ :=
        round_again hready hwilling hfree.1 hfree.2.1 hfree.2.2 (by omega) hretryable
      obtain ⟨fuel, rfl⟩ : ∃ n, fuel = n + 1 := Nat.exists_eq_add_one.2 (by omega)
      have hrest := ih (hready.onward honward) (honward.willing hwilling) (hlast.onward honward)
        fuel (by omega)
      rw [run_attempts_of_again hround]
      exact hrest.onward honward ((unhindered_zero_iff hattempts).2 hfree) hwaits
    · exact settles_of_hindered hready hfree fuel (last + 1)

end Drive

end RequestPipeline
