import RequestPipeline.Proofs.Cancellation

/-!
# Elapsed time

The retryer checks the elapsed time when it agrees to a retry: the time that has gone by and the
delay of the moment must stay within the limit.  The wait is drawn around that delay only
afterwards, and the retry begins at its end.  `retries_begin_as_granted` proves that every attempt
after the first one has been agreed to in this way, and `Grants.begins_in_time_iff` that it begins
in time exactly if the wait is not longer than the limit leaves, which jitter may make it.  Both
speak of sums that are not rounded (`Unrounded`).
-/

namespace RequestPipeline

open Context (positivePart)

variable {κ μ : Type}

/-! ## Waits -/

/-- A wait that does not tell the end of its context takes its time. -/
theorem Context.wait_of_live {c : Context} {now seconds : Float}
    (hlive : (c.wait now seconds).done = false) :
    (c.wait now seconds).now = now + positivePart seconds := by
  have hsleep (h : (c.sleep now (positivePart seconds)).2.isDone
      (c.sleep now (positivePart seconds)).1 = false) :
      (c.sleep now (positivePart seconds)).1 = now + positivePart seconds := by
    rw [sleep] at h ⊢
    cases hcancelled : c.cancelled with
    | some cause => simp [hcancelled, isDone] at h
    | none =>
      cases hearliest : earliest? (c.scheduled.filter
          fun s => decide (s.time ≤ now + positivePart seconds)) with
      | some s => simp [hcancelled, hearliest, cancel, isDone] at h
      | none => rfl
  simp only [wait] at hlive ⊢
  cases hleft : c.remaining? now with
  | none =>
    simp only [hleft] at hlive ⊢
    exact hsleep hlive
  | some left =>
    simp only [hleft] at hlive ⊢
    split at hlive
    · cases hlive
    · rename_i hlater
      rw [if_neg hlater]
      exact hsleep hlive

/-- Without jitter no wait is longer than its delay. -/
theorem Backoff.Progress.wait_le_of_no_jitter {p : Backoff.Progress Float}
    (hjitter : p.policy.jitter ≤ 0) (hdelay : 0 ≤ p.current) :
    positivePart p.next.1 ≤ p.current := by
  have hspread : p.next.1 = p.current := by simp [next, spread, hjitter]
  rw [hspread, positivePart]
  split
  · obtain ⟨-, q, -, hq, -⟩ := Reading.le_iff.1 hdelay
    exact Reading.le_iff.2 ⟨q, q, hq, hq, le_rfl⟩
  · exact hdelay

/-! ## Times -/

namespace Session

/-- The time of the first attempt, and the time that retries may take. -/
def times (s : Session κ μ) : Option Float × Float :=
  (s.request.firstAttempt, s.request.budget.maxElapsed)

section Times

variable (s : Session κ μ) (stage : Stage) (place : String) (error : Option FailureId)
  (failures : Failures) (seconds : Float)

@[simp] theorem times_atStage : (s.atStage stage).times = s.times := rfl

@[simp] theorem times_withError : (s.withError error).times = s.times := rfl

@[simp] theorem times_withFailures : (s.withFailures failures).times = s.times := rfl

@[simp] theorem times_failed : (s.failed place).times = s.times := by simp [times]

@[simp] theorem times_asBuilt : s.asBuilt.times = s.times := rfl

@[simp] theorem times_begun : s.begun.times = (some s.world.clock, s.times.2) := rfl

@[simp] theorem times_counted : s.counted.times = s.times := rfl

@[simp] theorem times_waited : (s.waited seconds).times = s.times := rfl

@[simp] theorem times_prepared : s.prepared.times = s.times := rfl

end Times

/-- What the retryer has agreed to it has checked against the time that retries may take. -/
theorem checked_of_acceptsRetry {s : Session κ μ} {start cap : Float}
    (h : s.acceptsRetry = true) (htimes : s.times = (some start, cap)) (hcap : 0 < cap) :
    ∃ progress, s.request.retryer = .backoff progress ∧
      ¬ cap < s.world.clock - start + progress.current := by
  obtain ⟨hstart, rfl⟩ := Prod.mk.inj htimes
  simp only [acceptsRetry, Retryer.accepts, Retryer.isTooLate, hstart, hcap] at h
  split at h
  · cases h
  · rename_i progress hretryer
    refine ⟨progress, hretryer, fun hlate => ?_⟩
    simp [hlate] at h

end Session

/-! ## Marks -/

namespace Mark

/-- The session in which the retryer agreed, if the mark is about that. -/
def agreement? : Mark κ μ → Option (Session κ μ)
  | .decision s true => some s
  | _ => none

/-- Where the retryer agreed to another attempt. -/
def agreements (ms : List (Mark κ μ)) : List (Session κ μ) := ms.filterMap agreement?

/-- A phase, if the mark is about one, leaves the times alone; the retry phase takes no time, and
the wait after it is the one that the retryer had in mind. -/
def KeepsTimes : Mark κ μ → Prop
  | .phase p before _ after => after.times = before.times ∧
    (p = .retry → after.world.clock = before.world.clock ∧
      after.request.retryer.delay.1 = before.request.retryer.delay.1)
  | _ => True

instance : DecidablePred (KeepsTimes : Mark κ μ → Prop) := fun m =>
  match m with
  | .phase p before _ after => inferInstanceAs (Decidable (after.times = before.times ∧
    (p = .retry → after.world.clock = before.world.clock ∧
      after.request.retryer.delay.1 = before.request.retryer.delay.1)))
  | .attempt _ | .decision _ _ | .wait _ _ _ _ => .isTrue trivial

@[simp] theorem agreements_append (ms ns : List (Mark κ μ)) :
    agreements (ms ++ ns) = agreements ms ++ agreements ns := List.filterMap_append

@[simp] theorem agreements_nil : agreements ([] : List (Mark κ μ)) = [] := rfl

@[simp] theorem agreements_phase (p : Phase) (before after : Session κ μ)
    (ending : Except Stop Unit) (ms : List (Mark κ μ)) :
    agreements (.phase p before ending after :: ms) = agreements ms := rfl

@[simp] theorem agreements_accepted (s : Session κ μ) (ms : List (Mark κ μ)) :
    agreements (.decision s true :: ms) = s :: agreements ms := rfl

end Mark

/-! ## What the retryer agrees to -/

/-- The attempt that begins in `t` has been agreed to in `d`: the time since `start` and the delay
of the moment were not beyond `cap`.  It begins after the wait drawn around that delay. -/
structure Grants (start cap : Float) (d t : Session κ μ) (progress : Backoff.Progress Float) :
    Prop where
  retryer : d.request.retryer = .backoff progress
  checked : ¬ cap < d.world.clock - start + progress.current
  begins : t.world.clock = d.world.clock + positivePart progress.next.1

/-- The sums of the time since `start`, of the delay and of the wait are not rounded. -/
structure Unrounded (start now delay wait : Float) : Prop where
  elapsed : Reading.Sums start (now - start) now
  planned : Reading.Sums (now - start) delay (now - start + delay)
  taken : Reading.Sums (now - start) wait (now - start + wait)
  begins : Reading.Sums now wait (now + wait)
  late : Reading.Sums start (now + wait - start) (now + wait)

/-- The time up to the end of the wait is made up of the time before the wait and the wait. -/
theorem Unrounded.late_le_iff {start now delay wait cap : Float}
    (h : Unrounded start now delay wait) :
    now + wait - start ≤ cap ↔ now - start + wait ≤ cap := by
  obtain ⟨m, n, hstart, helapsed, hnow⟩ := h.elapsed
  obtain ⟨n', w, helapsed', hwait, htaken⟩ := h.taken
  obtain ⟨k, w', hnow', hwait', hbegins⟩ := h.begins
  obtain ⟨m', l, hstart', hlate, hbegins'⟩ := h.late
  obtain rfl := helapsed.unique helapsed'
  obtain rfl := hwait.unique hwait'
  obtain rfl := hstart.unique hstart'
  obtain rfl := hnow.unique hnow'
  have hsame : l = n + w := by
    have := hbegins.unique hbegins'
    omega
  exact hlate.le_congr (hsame ▸ htaken)

namespace Grants

variable {start cap : Float} {d t : Session κ μ} {progress : Backoff.Progress Float}

/-- An attempt begins in time if and only if the wait was no longer than the time left. -/
theorem begins_in_time_iff (h : Grants start cap d t progress)
    (hexact : Unrounded start d.world.clock progress.current (positivePart progress.next.1)) :
    t.world.clock - start ≤ cap ↔
      d.world.clock - start + positivePart progress.next.1 ≤ cap := by
  rw [h.begins]
  exact hexact.late_le_iff

/-- It does so if the wait was no longer than the delay. -/
theorem begins_in_time_of_wait_le (h : Grants start cap d t progress) (hcap : 0 < cap)
    (hexact : Unrounded start d.world.clock progress.current (positivePart progress.next.1))
    (hwait : positivePart progress.next.1 ≤ progress.current) : t.world.clock - start ≤ cap := by
  have hplanned : d.world.clock - start + progress.current ≤ cap := by
    obtain ⟨-, q, -, hq, -⟩ := Reading.lt_iff.1 hcap
    obtain ⟨_, _, -, -, hsum⟩ := hexact.planned
    exact Reading.le_of_not_lt hsum.ne_none (by simp [hq]) h.checked
  have htaken := hexact.taken.le hexact.planned hwait
  exact (h.begins_in_time_iff hexact).2 (Reading.le_trans htaken hplanned)

end Grants

namespace Drive

open Request

variable {perform : κ → Step κ μ Unit} {s : Session κ μ} {start cap : Float}

/-! ## One round -/

theorem times_isBuild {c : Course κ μ Unit} (h : IsBuild perform s c)
    (hkeeps : ∀ m ∈ c.marks, m.KeepsTimes) : c.after.times = s.times := by
  cases h with
  | failedBefore | builtBefore => rfl
  | validateStopped | validateFailed =>
    have hvalidate := hkeeps _ List.mem_cons_self
    simpa using hvalidate.1
  | buildStopped | buildFailed | built =>
    obtain ⟨hvalidate, hbuilds⟩ := List.forall_mem_cons.1 hkeeps
    have hbuild := hbuilds _ List.mem_cons_self
    simpa using hbuild.1.trans hvalidate.1

theorem times_isAttempt {c : Course κ μ (Option FailureId)} (h : IsAttempt perform s c)
    (hkeeps : ∀ m ∈ c.marks, m.KeepsTimes) : c.after.times = s.times := by
  cases h with
  | cancelled => simp
  | sendStopped | sendFailed =>
    have hsend := (List.forall_mem_cons.1 hkeeps).2 _ List.mem_cons_self
    simpa using hsend.1
  | unmarshalStopped | unmarshalFailed | succeeded =>
    obtain ⟨hsend, hunmarshals⟩ := List.forall_mem_cons.1 (List.forall_mem_cons.1 hkeeps).2
    have hunmarshal := hunmarshals _ List.mem_cons_self
    simpa using hunmarshal.1.trans hsend.1

theorem agreements_isAttempt {c : Course κ μ (Option FailureId)} (h : IsAttempt perform s c) :
    Mark.agreements c.marks = [] := by
  cases h <;> rfl

theorem agreements_isBuild {c : Course κ μ Unit} (h : IsBuild perform s c) :
    Mark.agreements c.marks = [] := by
  cases h <;> rfl

/-- The wait for another attempt takes the time that the retryer had in mind. -/
theorem clock_isInterval {failure : FailureId} {progress : Backoff.Progress Float}
    {s₁ : Session κ μ} {ms : List (Mark κ μ)} (h : IsInterval perform failure s ⟨.ok (), s₁, ms⟩)
    (hkeeps : ∀ m ∈ ms, m.KeepsTimes) (hretryer : s.request.retryer = .backoff progress) :
    s₁.times = s.times ∧ s₁.world.clock = s.world.clock + positivePart progress.next.1 ∧
      Mark.agreements ms = [] := by
  cases h with
  | @elapsed s₁ hretry _ hwait =>
    obtain ⟨htimes, hretries⟩ := hkeeps _ List.mem_cons_self
    obtain ⟨hclock, hdelay⟩ := hretries rfl
    have hseconds : s₁.request.retryer.delay.1 = progress.next.1 := by
      rw [hdelay, hretryer]
      rfl
    refine ⟨by simpa using htimes, ?_, rfl⟩
    calc (s₁.counted.waited s₁.request.retryer.delay.1).prepared.world.clock
      _ = (s₁.counted.waited s₁.request.retryer.delay.1).world.clock := Session.clock_announced _
      _ = s₁.world.clock + positivePart s₁.request.retryer.delay.1 := Context.wait_of_live hwait
      _ = s.world.clock + positivePart progress.next.1 := by rw [hclock, hseconds]

/-- A round before another one leaves the times alone, and the retryer has agreed to the attempt
that comes next. -/
theorem grants_isRound {s₁ : Session κ μ} {ms : List (Mark κ μ)}
    (h : IsRound perform s ⟨.ok none, s₁, ms⟩) (hkeeps : ∀ m ∈ ms, m.KeepsTimes)
    (htimes : s.times = (some start, cap)) (hcap : 0 < cap) :
    s₁.times = (some start, cap) ∧ ∃ d progress, Mark.agreements ms = [d] ∧
      Grants start cap d s₁ progress := by
  cases h with
  | @again failure d ms _ ns hattempt haccepted hinterval =>
    obtain ⟨hkeeps₁, hkeeps₂⟩ := List.forall_mem_append.1 hkeeps
    have hfirst : d.times = (some start, cap) := (times_isAttempt hattempt hkeeps₁).trans htimes
    obtain ⟨progress, hretryer, hchecked⟩ := Session.checked_of_acceptsRetry haccepted hfirst hcap
    obtain ⟨hkept, hclock, hnone⟩ :=
      clock_isInterval hinterval (List.forall_mem_cons.1 hkeeps₂).2 hretryer
    refine ⟨hkept.trans hfirst, d, progress, ?_, hretryer, hchecked, hclock⟩
    rw [Mark.agreements_append, agreements_isAttempt hattempt, Mark.agreements_accepted, hnone]
    rfl

theorem attempts_isRound {c : Course κ μ (Option Value)} (h : IsRound perform s c) :
    Mark.attempts c.marks = [s.withError none] := by
  have hone {c' : Course κ μ (Option FailureId)} (h' : IsAttempt perform (s.withError none) c') :
      Mark.attempts c'.marks = [s.withError none] := by
    obtain ⟨tail, hmarks, htail, -, -⟩ := marks_isAttempt h'
    simp [hmarks, htail]
  cases h with
  | attemptStopped hattempt | succeeded hattempt => exact hone hattempt
  | declined hattempt => simpa using hone hattempt
  | intervalStopped hattempt _ hinterval | again hattempt _ hinterval =>
    have hnone := attempts_isInterval hinterval
    simpa [hnone] using hone hattempt

/-! ## The whole run -/

/-- Each of the attempts after the first one, with the agreement to it. -/
structure BeginsAsGranted (start cap : Float) (ms : List (Mark κ μ)) (rest : List (Session κ μ)) :
    Prop where
  enough : rest.length ≤ (Mark.agreements ms).length
  granted : ∀ d t, (d, t) ∈ (Mark.agreements ms).zip rest →
    ∃ progress, Grants start cap d t progress

theorem BeginsAsGranted.of_same {ms ns : List (Mark κ μ)} {rest : List (Session κ μ)}
    (h : BeginsAsGranted start cap ms rest) (hsame : Mark.agreements ns = Mark.agreements ms) :
    BeginsAsGranted start cap ns rest :=
  ⟨hsame ▸ h.enough, hsame ▸ h.granted⟩

theorem beginsAsGranted_areRounds {c : Course κ μ Value} (h : AreRounds perform s c)
    (hkeeps : ∀ m ∈ c.marks, m.KeepsTimes) (htimes : s.times = (some start, cap)) (hcap : 0 < cap) :
    Mark.attempts c.marks = [] ∨ ∃ rest, Mark.attempts c.marks = s.withError none :: rest ∧
      BeginsAsGranted start cap c.marks rest := by
  induction h with
  | givenUp => exact .inl rfl
  | succeeded hround =>
    exact .inr ⟨[], attempts_isRound hround, by simp, by simp⟩
  | stopped hround =>
    exact .inr ⟨[], attempts_isRound hround, by simp, by simp⟩
  | @again s s₁ ms c hround hrest ih =>
    obtain ⟨hkeeps₁, hkeeps₂⟩ := List.forall_mem_append.1 hkeeps
    obtain ⟨htimes₁, d, progress, hagreed, hgrants⟩ := grants_isRound hround hkeeps₁ htimes hcap
    refine .inr ⟨Mark.attempts c.marks, ?_, ?_⟩
    · rw [Mark.attempts_append, attempts_isRound hround]
      rfl
    -- The next attempt has been agreed to in this round, the others in the rounds after it.
    rcases ih hkeeps₂ htimes₁ with hnone | ⟨rest, hlater, henough, hgranted⟩
    · rw [hnone]
      exact ⟨by simp, by simp⟩
    · rw [hlater]
      refine ⟨?_, fun d' t' hmem => ?_⟩
      · simpa [hagreed] using henough
      · simp only [Mark.agreements_append, hagreed, List.singleton_append, List.zip_cons_cons,
          List.mem_cons, Prod.mk.injEq] at hmem
        rcases hmem with ⟨rfl, rfl⟩ | hmem
        · exact ⟨progress, hgrants.retryer, hgrants.checked, hgrants.begins⟩
        · exact hgranted d' t' hmem

theorem beginsAsGranted_isDelivery {c : Course κ μ Value} (h : IsDelivery perform s c)
    (hkeeps : ∀ m ∈ c.marks, m.KeepsTimes) (hcap : 0 < s.times.2) {first : Session κ μ}
    {rest : List (Session κ μ)} (hattempts : Mark.attempts c.marks = first :: rest) :
    BeginsAsGranted first.world.clock s.times.2 c.marks rest := by
  cases h with
  | unbuilt hbuild => simp [attempts_isBuild hbuild] at hattempts
  | @built s₁ ms c hbuild hrounds =>
    obtain ⟨hkeeps₁, hkeeps₂⟩ := List.forall_mem_append.1 hkeeps
    have hsame : s₁.times = s.times := times_isBuild hbuild hkeeps₁
    have htimes : s₁.begun.times = (some s₁.world.clock, s.times.2) := by
      rw [Session.times_begun, hsame]
    rw [Mark.attempts_append, attempts_isBuild hbuild, List.nil_append] at hattempts
    rcases beginsAsGranted_areRounds hrounds hkeeps₂ htimes hcap with hnone | ⟨rest', hsome, hlater⟩
    · simp [hnone] at hattempts
    · obtain ⟨rfl, rfl⟩ := List.cons.inj (hsome.symm.trans hattempts)
      have hagreed : Mark.agreements (ms ++ c.marks) = Mark.agreements c.marks := by
        rw [Mark.agreements_append, agreements_isBuild hbuild, List.nil_append]
      exact hlater.of_same hagreed

theorem beginsAsGranted_isSending {c : Course κ μ Value} (h : IsSending perform s c)
    (hkeeps : ∀ m ∈ c.marks, m.KeepsTimes) (hcap : 0 < s.times.2) {first : Session κ μ}
    {rest : List (Session κ μ)} (hattempts : Mark.attempts c.marks = first :: rest) :
    BeginsAsGranted first.world.clock s.times.2 c.marks rest := by
  cases h with
  | givenUp hdelivery => exact beginsAsGranted_isDelivery hdelivery hkeeps hcap hattempts
  | completeStopped hdelivery | completed hdelivery =>
    have hbefore := beginsAsGranted_isDelivery hdelivery (List.forall_mem_append.1 hkeeps).1 hcap
      (by simpa using hattempts)
    exact hbefore.of_same (by simp)

/-- In a run whose phases leave the times alone, the retryer has agreed to every attempt after the
first one, when the time since the first one and the delay of the moment were not beyond the time
that retries may take.  The attempt begins after the wait drawn around that delay: without rounding
it begins in time if and only if this wait was no longer than the time left, and so it does if the
wait was no longer than the delay. -/
theorem retries_begin_as_granted (perform : κ → Step κ μ Unit) (limit : Nat) (s : Session κ μ)
    (hcap : 0 < s.request.budget.maxElapsed)
    (hkeeps : ∀ m ∈ ((send perform limit).run s).marks, m.KeepsTimes)
    (first : Session κ μ) (rest : List (Session κ μ))
    (hattempts : Mark.attempts ((send perform limit).run s).marks = first :: rest) :
    let granted := Mark.agreements ((send perform limit).run s).marks
    rest.length ≤ granted.length ∧
    ∀ d t, (d, t) ∈ granted.zip rest → ∃ progress,
      Grants first.world.clock s.request.budget.maxElapsed d t progress ∧
      let elapsed := d.world.clock - first.world.clock
      let wait := positivePart progress.next.1
      (Unrounded first.world.clock d.world.clock progress.current wait →
        (t.world.clock - first.world.clock ≤ s.request.budget.maxElapsed ↔
          elapsed + wait ≤ s.request.budget.maxElapsed) ∧
        (wait ≤ progress.current →
          t.world.clock - first.world.clock ≤ s.request.budget.maxElapsed)) := by
  intro granted
  obtain ⟨henough, hgranted⟩ :=
    beginsAsGranted_isSending (isSending_run perform s limit) hkeeps hcap hattempts
  refine ⟨henough, fun d t hmem => ?_⟩
  obtain ⟨progress, hgrants⟩ := hgranted d t hmem
  exact ⟨progress, hgrants, fun hexact => ⟨hgrants.begins_in_time_iff hexact,
    hgrants.begins_in_time_of_wait_le hcap hexact⟩⟩

/-- A request whose send phase always fails, which is worth another attempt.  There may be one, up
to ten seconds after the first one. -/
def failing (policy : Backoff Float) (draws : List Float) : Session ScriptedHook RunCounts :=
  let down : Failure := .ofReason (.told .validation "down")
  Session.plain "https://api.io" { Hooks.empty with
    send := ⟨[.bare (.scripted 0 .send none
      [.mark true, .setError (some (.make down none none))] [])]⟩ }
    (.ofPolicy policy draws) ⟨0, 1, 10, [], false⟩ [] #[0]

/-- The retry after a steady delay. -/
theorem steady_retry_begins_in_time :
    let c := (send ScriptedHook.perform 2).run (failing .steady [])
    (0 : Float) < 10 ∧ (∀ m ∈ c.marks, m.KeepsTimes) ∧ ∃ first t,
      Mark.attempts c.marks = [first, t] ∧ t.world.clock = 1001 ∧
      t.world.clock - first.world.clock ≤ 10 := by
  intro c
  have hcap : (0 : Float) < 10 := by decide +kernel
  have hkeeps : ∀ m ∈ c.marks, m.KeepsTimes := by decide +kernel
  obtain ⟨d, hagreed, hnow, hretryer⟩ : ∃ d, Mark.agreements c.marks = [d] ∧ d.world.clock = 1000 ∧
      d.request.retryer = .ofPolicy .steady [] := ⟨_, rfl, by decide +kernel, rfl⟩
  obtain ⟨first, t, hattempts, hstart⟩ : ∃ first t, Mark.attempts c.marks = [first, t] ∧
      first.world.clock = 1000 := ⟨_, _, rfl, by decide +kernel⟩
  obtain ⟨-, hgranted⟩ :=
    retries_begin_as_granted _ 2 (failing .steady []) hcap hkeeps first [t] hattempts
  obtain ⟨progress, hgrants, hin⟩ := hgranted d t (by rw [hagreed]; exact List.mem_cons_self)
  obtain rfl := Retryer.backoff.inj (hretryer.symm.trans hgrants.retryer)
  have hexact : Unrounded 1000 1000 1 1 :=
    have hnone : Reading.Sums 1000 (1000 - 1000) 1000 :=
      ⟨1000 * 2 ^ 1074, 0, by decide +kernel⟩
    have hone : Reading.Sums (1000 - 1000) 1 (1000 - 1000 + 1) :=
      ⟨0, 2 ^ 1074, by decide +kernel⟩
    have hbegins : Reading.Sums 1000 1 (1000 + 1) :=
      ⟨1000 * 2 ^ 1074, 2 ^ 1074, by decide +kernel⟩
    have hlate : Reading.Sums 1000 (1000 + 1 - 1000) (1000 + 1) :=
      ⟨1000 * 2 ^ 1074, 2 ^ 1074, by decide +kernel⟩
    ⟨hnone, hone, hone, hbegins, hlate⟩
  have hshort := Backoff.Progress.wait_le_of_no_jitter (p := .start .steady (Retryer.sourceOf []))
    (by decide +kernel) (by decide +kernel)
  refine ⟨hcap, hkeeps, first, t, hattempts, ?_, ?_⟩
  · rw [hgrants.begins, hnow]
    decide +kernel
  · rw [hstart, hnow] at hin
    rw [hstart]
    exact (hin hexact).2 hshort

/-- A delay of ten seconds is within the time.  The wait, which jitter makes longer, is not. -/
theorem jittered_retry_begins_late :
    let c := (send ScriptedHook.perform 2).run (failing ⟨10, 1, 10, 0.5⟩ [0.9])
    (0 : Float) < 10 ∧ (∀ m ∈ c.marks, m.KeepsTimes) ∧ ∃ first t,
      Mark.attempts c.marks = [first, t] ∧ t.world.clock = 1014 ∧
      ¬ t.world.clock - first.world.clock ≤ 10 := by
  intro c
  obtain ⟨first, t, hattempts, hstart, hclock⟩ : ∃ first t, Mark.attempts c.marks = [first, t] ∧
      first.world.clock = 1000 ∧ t.world.clock = 1014 :=
    ⟨_, _, rfl, by decide +kernel, by decide +kernel⟩
  refine ⟨by decide +kernel, by decide +kernel, first, t, hattempts, hclock, ?_⟩
  rw [hstart, hclock]
  decide +kernel

end Drive

end RequestPipeline
