import RequestPipeline.Proofs.Steps

/-!
# The courses of the driver

What an attempt, a round and the whole pipeline may come to, one constructor for each way out, with
the marks they leave.  `isBuild_run`, `isAttempt_run` and their like show that runs of the driver
are such courses.  Every statement about runs of the pipeline is a case analysis or an induction on
these relations; no other proof unfolds the driver.
-/

namespace RequestPipeline.Drive

open Request

variable {κ μ : Type} (perform : κ → Step κ μ Unit)

/-- The validate and build phases from `s`. -/
inductive IsBuild (s : Session κ μ) : Course κ μ Unit → Prop where
  | failedBefore {id} (herror : s.request.error = some id) :
    IsBuild s ⟨.error (.raised id), s, []⟩
  | builtBefore (hclean : s.request.error = none) (hbuilt : s.request.built = true) :
    IsBuild s ⟨.ok (), s, []⟩
  | validateStopped {stop s₁} (hclean : s.request.error = none) (hbuilt : s.request.built = false)
      (hvalidate : (runPhase perform .validate).run s = (.error stop, s₁)) :
    IsBuild s ⟨.error stop, s₁, [.phase .validate s (.error stop) s₁]⟩
  | validateFailed {id s₁} (hclean : s.request.error = none) (hbuilt : s.request.built = false)
      (hvalidate : (runPhase perform .validate).run s = (.ok (), s₁))
      (herror : s₁.request.error = some id) :
    IsBuild s ⟨.error (.raised id), s₁.failed "Validate", [.phase .validate s (.ok ()) s₁]⟩
  | buildStopped {s₁ stop s₂} (hclean : s.request.error = none) (hbuilt : s.request.built = false)
      (hvalidate : (runPhase perform .validate).run s = (.ok (), s₁))
      (hvalid : s₁.request.error = none)
      (hbuild : (runPhase perform .build).run (s₁.atStage .validated) = (.error stop, s₂)) :
    IsBuild s ⟨.error stop, s₂, [.phase .validate s (.ok ()) s₁,
      .phase .build (s₁.atStage .validated) (.error stop) s₂]⟩
  | buildFailed {s₁ id s₂} (hclean : s.request.error = none) (hbuilt : s.request.built = false)
      (hvalidate : (runPhase perform .validate).run s = (.ok (), s₁))
      (hvalid : s₁.request.error = none)
      (hbuild : (runPhase perform .build).run (s₁.atStage .validated) = (.ok (), s₂))
      (herror : s₂.request.error = some id) :
    IsBuild s ⟨.error (.raised id), s₂.failed "Build", [.phase .validate s (.ok ()) s₁,
      .phase .build (s₁.atStage .validated) (.ok ()) s₂]⟩
  | built {s₁ s₂} (hclean : s.request.error = none) (hbuilt : s.request.built = false)
      (hvalidate : (runPhase perform .validate).run s = (.ok (), s₁))
      (hvalid : s₁.request.error = none)
      (hbuild : (runPhase perform .build).run (s₁.atStage .validated) = (.ok (), s₂))
      (hdone : s₂.request.error = none) :
    IsBuild s ⟨.ok (), s₂.asBuilt, [.phase .validate s (.ok ()) s₁,
      .phase .build (s₁.atStage .validated) (.ok ()) s₂]⟩

/-- An attempt from `s`; its answer is the failure it ended in. -/
inductive IsAttempt (s : Session κ μ) : Course κ μ (Option FailureId) → Prop where
  /-- The context had ended before. -/
  | cancelled {id failures} (hended : s.isEnded = true)
      (hcancel : (Step.cancellation? : Step κ μ _).run s =
        (.ok (some id), s.withFailures failures)) :
    IsAttempt s ⟨.ok (some id), ((s.withFailures failures).withError (some id)).failed "Send",
      [.attempt s]⟩
  | sendStopped {stop s₁} (hlive : s.isEnded = false)
      (hsend : (runPhase perform .send).run s = (.error stop, s₁)) :
    IsAttempt s ⟨.error stop, s₁, [.attempt s, .phase .send s (.error stop) s₁]⟩
  | sendFailed {id s₁} (hlive : s.isEnded = false)
      (hsend : (runPhase perform .send).run s = (.ok (), s₁))
      (herror : s₁.request.error = some id) :
    IsAttempt s ⟨.ok (some id), s₁.failed "Send", [.attempt s, .phase .send s (.ok ()) s₁]⟩
  | unmarshalStopped {s₁ stop s₂} (hlive : s.isEnded = false)
      (hsend : (runPhase perform .send).run s = (.ok (), s₁)) (hsent : s₁.request.error = none)
      (hunmarshal : (runPhase perform .unmarshal).run (s₁.atStage .sent) = (.error stop, s₂)) :
    IsAttempt s ⟨.error stop, s₂, [.attempt s, .phase .send s (.ok ()) s₁,
      .phase .unmarshal (s₁.atStage .sent) (.error stop) s₂]⟩
  | unmarshalFailed {s₁ id s₂} (hlive : s.isEnded = false)
      (hsend : (runPhase perform .send).run s = (.ok (), s₁)) (hsent : s₁.request.error = none)
      (hunmarshal : (runPhase perform .unmarshal).run (s₁.atStage .sent) = (.ok (), s₂))
      (herror : s₂.request.error = some id) :
    IsAttempt s ⟨.ok (some id), s₂.failed "Unmarshal", [.attempt s, .phase .send s (.ok ()) s₁,
      .phase .unmarshal (s₁.atStage .sent) (.ok ()) s₂]⟩
  | succeeded {s₁ s₂} (hlive : s.isEnded = false)
      (hsend : (runPhase perform .send).run s = (.ok (), s₁)) (hsent : s₁.request.error = none)
      (hunmarshal : (runPhase perform .unmarshal).run (s₁.atStage .sent) = (.ok (), s₂))
      (hdone : s₂.request.error = none) :
    IsAttempt s ⟨.ok none, s₂, [.attempt s, .phase .send s (.ok ()) s₁,
      .phase .unmarshal (s₁.atStage .sent) (.ok ()) s₂]⟩

/-- What follows an attempt that ended in `failure`, if the retryer agrees. -/
inductive IsInterval (failure : FailureId) (s : Session κ μ) : Course κ μ Unit → Prop where
  | retryStopped {stop s₁} (hretry : (runPhase perform .retry).run s = (.error stop, s₁)) :
    IsInterval failure s ⟨.error stop, s₁, [.phase .retry s (.error stop) s₁]⟩
  /-- The retry phase left another failure. -/
  | replaced {id s₁} (hretry : (runPhase perform .retry).run s = (.ok (), s₁))
      (herror : s₁.request.error = some id) (hother : id ≠ failure) :
    IsInterval failure s ⟨.error (.raised id), s₁.failed "Retry", [.phase .retry s (.ok ()) s₁]⟩
  /-- The wait told that the context had ended. -/
  | ended {s₁ id s₂} (hretry : (runPhase perform .retry).run s = (.ok (), s₁))
      (hkept : s₁.request.error = none ∨ s₁.request.error = some failure)
      (hwait : s₁.counted.waitEnds s₁.request.retryer.delay.1 = true)
      (hstop : (stopEnded failure).run (s₁.counted.waited s₁.request.retryer.delay.1) =
        (.error (.raised id), s₂)) :
    IsInterval failure s ⟨.error (.raised id), s₂, [.phase .retry s (.ok ()) s₁,
      .wait s₁.counted s₁.request.retryer.delay.1 true
        (s₁.counted.waited s₁.request.retryer.delay.1)]⟩
  | elapsed {s₁} (hretry : (runPhase perform .retry).run s = (.ok (), s₁))
      (hkept : s₁.request.error = none ∨ s₁.request.error = some failure)
      (hwait : s₁.counted.waitEnds s₁.request.retryer.delay.1 = false) :
    IsInterval failure s ⟨.ok (), (s₁.counted.waited s₁.request.retryer.delay.1).prepared,
      [.phase .retry s (.ok ()) s₁,
        .wait s₁.counted s₁.request.retryer.delay.1 false
          (s₁.counted.waited s₁.request.retryer.delay.1)]⟩

/-- An attempt from `s` with what follows it. -/
inductive IsRound (s : Session κ μ) : Course κ μ (Option Value) → Prop where
  | attemptStopped {stop s₁ ms}
      (hattempt : IsAttempt perform (s.withError none) ⟨.error stop, s₁, ms⟩) :
    IsRound s ⟨.error stop, s₁, ms⟩
  | succeeded {s₁ ms} (hattempt : IsAttempt perform (s.withError none) ⟨.ok none, s₁, ms⟩) :
    IsRound s ⟨.ok (some s₁.request.data), s₁.atStage .unmarshalled, ms⟩
  | declined {failure s₁ ms}
      (hattempt : IsAttempt perform (s.withError none) ⟨.ok (some failure), s₁, ms⟩)
      (hdeclined : s₁.acceptsRetry = false) :
    IsRound s ⟨.error (.raised failure), s₁, ms ++ [.decision s₁ false]⟩
  | intervalStopped {failure s₁ ms stop s₂ ns}
      (hattempt : IsAttempt perform (s.withError none) ⟨.ok (some failure), s₁, ms⟩)
      (haccepted : s₁.acceptsRetry = true)
      (hinterval : IsInterval perform failure s₁ ⟨.error stop, s₂, ns⟩) :
    IsRound s ⟨.error stop, s₂, ms ++ .decision s₁ true :: ns⟩
  | again {failure s₁ ms s₂ ns}
      (hattempt : IsAttempt perform (s.withError none) ⟨.ok (some failure), s₁, ms⟩)
      (haccepted : s₁.acceptsRetry = true)
      (hinterval : IsInterval perform failure s₁ ⟨.ok (), s₂, ns⟩) :
    IsRound s ⟨.ok none, s₂, ms ++ .decision s₁ true :: ns⟩

/-- Rounds from a session up to an outcome, or up to where they were given up. -/
inductive AreRounds : Session κ μ → Course κ μ Value → Prop where
  | givenUp {s} : AreRounds s ⟨.error .unfinished, s, []⟩
  | succeeded {s v s₁ ms} (hround : IsRound perform s ⟨.ok (some v), s₁, ms⟩) :
    AreRounds s ⟨.ok v, s₁, ms⟩
  | stopped {s stop s₁ ms} (hround : IsRound perform s ⟨.error stop, s₁, ms⟩) :
    AreRounds s ⟨.error stop, s₁, ms⟩
  | again {s s₁ ms c} (hround : IsRound perform s ⟨.ok none, s₁, ms⟩) (hrest : AreRounds s₁ c) :
    AreRounds s ⟨c.outcome, c.after, ms ++ c.marks⟩

/-- The pipeline from `s` up to its outcome. -/
inductive IsDelivery (s : Session κ μ) : Course κ μ Value → Prop where
  | unbuilt {stop s₁ ms} (hbuild : IsBuild perform s ⟨.error stop, s₁, ms⟩) :
    IsDelivery s ⟨.error stop, s₁, ms⟩
  | built {s₁ ms c} (hbuild : IsBuild perform s ⟨.ok (), s₁, ms⟩)
      (hrounds : AreRounds perform s₁.begun c) :
    IsDelivery s ⟨c.outcome, c.after, ms ++ c.marks⟩

/-- The pipeline from `s` with its end. -/
inductive IsSending (s : Session κ μ) : Course κ μ Value → Prop where
  | givenUp {s₁ ms} (hdelivery : IsDelivery perform s ⟨.error .unfinished, s₁, ms⟩) :
    IsSending s ⟨.error .unfinished, s₁, ms⟩
  | completeStopped {outcome s₁ ms stop s₂} (hdelivery : IsDelivery perform s ⟨outcome, s₁, ms⟩)
      (hfinished : outcome ≠ .error .unfinished)
      (hcomplete : (runPhase perform .complete).run s₁.filled = (.error stop, s₂)) :
    IsSending s ⟨.error stop, s₂, ms ++ [.phase .complete s₁.filled (.error stop) s₂]⟩
  | completed {outcome s₁ ms s₂} (hdelivery : IsDelivery perform s ⟨outcome, s₁, ms⟩)
      (hfinished : outcome ≠ .error .unfinished)
      (hcomplete : (runPhase perform .complete).run s₁.filled = (.ok (), s₂)) :
    IsSending s ⟨outcome, s₂.closed, ms ++ [.phase .complete s₁.filled (.ok ()) s₂]⟩

/-- With an error from before, nothing is done and that error is the outcome. -/
theorem IsDelivery.of_error {perform : κ → Step κ μ Unit} {s : Session κ μ} {c : Course κ μ Value}
    (h : IsDelivery perform s c) {id : FailureId} (herror : s.request.error = some id) :
    c = ⟨.error (.raised id), s, []⟩ := by
  cases h with
  | unbuilt hbuild => cases hbuild <;> simp_all
  | built hbuild => cases hbuild <;> simp_all

/-! ## Every run is one of these -/

section Spec

variable (s : Session κ μ)

@[simp] theorem run_phase (p : Phase) :
    (phase perform p).run s =
      ⟨((runPhase perform p).run s).1, ((runPhase perform p).run s).2,
        [.phase p s ((runPhase perform p).run s).1 ((runPhase perform p).run s).2]⟩ := rfl

@[simp] theorem run_decision :
    (decision : Drive κ μ Bool).run s = ⟨.ok s.acceptsRetry, s, [.decision s s.acceptsRetry]⟩ := rfl

@[simp] theorem run_pause (seconds : Float) :
    (pause seconds : Drive κ μ Bool).run s =
      ⟨.ok (s.waitEnds seconds), s.waited seconds,
        [.wait s seconds (s.waitEnds seconds) (s.waited seconds)]⟩ := rfl

theorem isBuild_run : IsBuild perform s ((build perform).run s) := by
  cases herror : s.request.error with
  | some id => simpa [build, run_bind, herror] using IsBuild.failedBefore herror
  | none =>
    cases hbuilt : s.request.built with
    | true => simpa [build, run_bind, herror, hbuilt] using IsBuild.builtBefore herror hbuilt
    | false =>
      rcases hvalidate : (runPhase perform .validate).run s with ⟨stop | _, s₁⟩
      · simpa [build, run_bind, herror, hbuilt, hvalidate] using
          IsBuild.validateStopped herror hbuilt hvalidate
      · cases hvalid : s₁.request.error with
        | some id =>
          simpa [build, run_bind, herror, hbuilt, hvalidate, run_stopIfFailed, hvalid] using
            IsBuild.validateFailed herror hbuilt hvalidate hvalid
        | none =>
          rcases hbuild : (runPhase perform .build).run (s₁.atStage .validated) with ⟨stop | _, s₂⟩
          · simpa [build, run_bind, herror, hbuilt, hvalidate, run_stopIfFailed, hvalid, hbuild]
              using IsBuild.buildStopped herror hbuilt hvalidate hvalid hbuild
          · cases hdone : s₂.request.error with
            | some id =>
              simpa [build, run_bind, herror, hbuilt, hvalidate, run_stopIfFailed, hvalid, hbuild,
                hdone] using IsBuild.buildFailed herror hbuilt hvalidate hvalid hbuild hdone
            | none =>
              simpa [build, run_bind, herror, hbuilt, hvalidate, run_stopIfFailed, hvalid, hbuild,
                hdone] using IsBuild.built herror hbuilt hvalidate hvalid hbuild hdone

theorem isAttempt_run : IsAttempt perform s ((attempt perform).run s) := by
  cases hlive : s.isEnded with
  | true =>
    obtain ⟨id, failures, hcancel⟩ := run_cancellation_of_ended s hlive
    simpa [attempt, run_bind, hcancel] using IsAttempt.cancelled hlive hcancel
  | false =>
    have hcancel := run_cancellation_of_live s hlive
    rcases hsend : (runPhase perform .send).run s with ⟨stop | _, s₁⟩
    · simpa [attempt, run_bind, hcancel, hsend] using IsAttempt.sendStopped hlive hsend
    · cases hsent : s₁.request.error with
      | some id =>
        simpa [attempt, run_bind, hcancel, hsend, run_failureAt, hsent] using
          IsAttempt.sendFailed hlive hsend hsent
      | none =>
        rcases hunmarshal : (runPhase perform .unmarshal).run (s₁.atStage .sent)
          with ⟨stop | _, s₂⟩
        · simpa [attempt, run_bind, hcancel, hsend, run_failureAt, hsent, hunmarshal] using
            IsAttempt.unmarshalStopped hlive hsend hsent hunmarshal
        · cases hdone : s₂.request.error with
          | some id =>
            simpa [attempt, run_bind, hcancel, hsend, run_failureAt, hsent, hunmarshal, hdone]
              using IsAttempt.unmarshalFailed hlive hsend hsent hunmarshal hdone
          | none =>
            simpa [attempt, run_bind, hcancel, hsend, run_failureAt, hsent, hunmarshal, hdone]
              using IsAttempt.succeeded hlive hsend hsent hunmarshal hdone

theorem isInterval_run (failure : FailureId) :
    IsInterval perform failure s ((interval perform failure).run s) := by
  rcases hretry : (runPhase perform .retry).run s with ⟨stop | _, s₁⟩
  · simpa [interval, run_bind, hretry] using IsInterval.retryStopped hretry
  · by_cases hkept : s₁.request.error = none ∨ s₁.request.error = some failure
    · have hgo : (stopIfReplaced failure : Step κ μ Unit).run s₁ = (.ok (), s₁) := by
        rcases hkept with h | h <;> simp [run_stopIfReplaced, h]
      cases hwait : s₁.counted.waitEnds s₁.request.retryer.delay.1 with
      | false => simpa [interval, run_bind, hretry, hgo, hwait] using
          IsInterval.elapsed hretry hkept hwait
      | true =>
        obtain ⟨id, s₂, hstop⟩ : ∃ id s₂, (stopEnded failure : Step κ μ Unit).run
            (s₁.counted.waited s₁.request.retryer.delay.1) = (.error (.raised id), s₂) := by
          cases hend : (s₁.counted.waited s₁.request.retryer.delay.1).isEnded with
          | true =>
            obtain ⟨id, s₂, h, -⟩ := run_stopEnded_of_ended _ failure hend
            exact ⟨id, s₂, h⟩
          | false =>
            obtain ⟨id, s₂, h, -⟩ := run_stopEnded_of_live _ failure hend
            exact ⟨id, s₂, h⟩
        simpa [interval, run_bind, hretry, hgo, hwait, hstop] using
          IsInterval.ended hretry hkept hwait hstop
    · obtain ⟨id, herror, hother⟩ : ∃ id, s₁.request.error = some id ∧ id ≠ failure := by
        cases h : s₁.request.error <;> simp_all
      simpa [interval, run_bind, hretry, run_stopIfReplaced, herror, hother] using
        IsInterval.replaced hretry herror hother

theorem isRound_run : IsRound perform s ((round perform).run s) := by
  have hattempt := isAttempt_run perform (s.withError none)
  rcases ha : (attempt perform).run (s.withError none) with ⟨stop | _ | failure, s₁, ms⟩ <;>
    rw [ha] at hattempt
  · simpa [round, run_bind, ha] using IsRound.attemptStopped hattempt
  · simpa [round, run_bind, ha] using IsRound.succeeded hattempt
  · cases hanswer : s₁.acceptsRetry with
    | false => simpa [round, run_bind, ha, hanswer] using IsRound.declined hattempt hanswer
    | true =>
      have hinterval := isInterval_run perform s₁ failure
      rcases hi : (interval perform failure).run s₁ with ⟨stop | _, s₂, ns⟩ <;> rw [hi] at hinterval
      · simpa [round, run_bind, ha, hanswer, hi] using
          IsRound.intervalStopped hattempt hanswer hinterval
      · simpa [round, run_bind, ha, hanswer, hi] using IsRound.again hattempt hanswer hinterval

theorem areRounds_run (limit : Nat) : AreRounds perform s ((attempts perform limit).run s) := by
  induction limit generalizing s with
  | zero => exact .givenUp
  | succ limit ih =>
    have hround := isRound_run perform s
    rcases hr : (round perform).run s with ⟨stop | _ | v, s₁, ms⟩ <;> rw [hr] at hround
    · simpa [attempts, run_bind, hr] using AreRounds.stopped hround
    · simpa [attempts, run_bind, hr] using AreRounds.again hround (ih s₁)
    · simpa [attempts, run_bind, hr] using AreRounds.succeeded hround

theorem isDelivery_run (limit : Nat) : IsDelivery perform s ((deliver perform limit).run s) := by
  have hbuild := isBuild_run perform s
  rcases hb : (build perform).run s with ⟨stop | _, s₁, ms⟩ <;> rw [hb] at hbuild
  · simpa [deliver, run_bind, hb] using IsDelivery.unbuilt hbuild
  · simpa [deliver, run_bind, hb] using
      IsDelivery.built hbuild (areRounds_run perform s₁.begun limit)

/-- A run of the pipeline with its end is one of the ways that `IsSending` lists. -/
theorem isSending_run (limit : Nat) : IsSending perform s ((send perform limit).run s) := by
  have hdelivery := isDelivery_run perform s limit
  rw [send]
  by_cases hfinished : ((deliver perform limit).run s).outcome = .error .unfinished
  · rw [run_closedBy_of_unfinished s _ hfinished]
    rcases hd : (deliver perform limit).run s with ⟨outcome, s₁, ms⟩
    rw [hd] at hdelivery hfinished
    obtain rfl : outcome = .error .unfinished := hfinished
    exact .givenUp hdelivery
  · rw [run_closedBy_of_finished s _ hfinished]
    rcases hd : (deliver perform limit).run s with ⟨outcome, s₁, ms⟩
    rw [hd] at hdelivery hfinished
    rcases hc : (runPhase perform .complete).run s₁.filled with ⟨stop | _, s₂⟩
    · simpa [finish, run_bind, hc] using IsSending.completeStopped hdelivery hfinished hc
    · simpa [finish, run_bind, hc] using IsSending.completed hdelivery hfinished hc

end Spec

end RequestPipeline.Drive
