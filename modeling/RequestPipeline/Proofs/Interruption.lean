import RequestPipeline.Proofs.TameHooks

/-!
# Interruptions

A run over the core hooks stops as soon as a call is interrupted from outside, by a signal or from
the keyboard, and the interruption is what it ends with: no other attempt follows, and the end of
the run does not take its place.  `Drive.later_isSending` carries this through a whole run, and
`Drive.finished_send` adds that the run comes to an end within its attempts.
-/

namespace RequestPipeline

open Session

variable {κ μ α β : Type}

/-! ## The driver -/

namespace Later

variable (s : Session κ μ) (a : α)

theorem givenUp : Later s (.error .unfinished : Except Stop α) s :=
  ⟨rfl, .refl _, fun h => ⟨h, nofun⟩, fun _ h => .inl h, List.suffix_rfl⟩

/-- A stop with the error of the request. -/
theorem raisedError {s s₁ : Session κ μ} {a : α} {id : FailureId}
    (h : Later s (.ok a : Except Stop α) s₁) (herror : s₁.request.error = some id) :
    Later s (.error (.raised id) : Except Stop β) s₁ :=
  h.raised fun hs => (h.sound hs).1.error id herror

theorem atStage (stage : Stage) : Later s (.ok a) (s.atStage stage) := .ofRequest _ a rfl rfl

theorem begun : Later s (.ok a) s.begun := .ofRequest _ a rfl rfl

theorem counted : Later s (.ok a) s.counted := .ofRequest _ a rfl rfl

theorem filled : Later s (.ok a) s.filled := .ofRequest _ a rfl rfl

theorem failed (place : String) : Later s (.ok a) (s.failed place) := by
  have hstage : Later s (.ok a) (s.atStage .failed) := .atStage s a .failed
  rw [Session.failed]
  split
  · exact hstage.trans (.logged _ _ a)
  · exact hstage

theorem waited (seconds : Float) : Later s (.ok a) (s.waited seconds) :=
  (ofRequest { s.request with context := (s.request.context.wait s.world.clock seconds).context }
    a rfl rfl).trans (ofWorld _ a rfl rfl (List.suffix_cons _ _)
      (List.countP_cons_of_neg (by simp [Event.isCall])))

theorem prepared : Later s (.ok a) s.prepared := by
  have hannounced : Later s (.ok a) s.announced := by
    rw [Session.announced]
    split
    · exact .logged _ _ a
    · exact .refl s a
  exact hannounced.trans (.ofRequest _ a (by rw [request_announced]) (by rw [request_announced]))

theorem closed : Later s (.ok a) s.closed := by
  rw [Session.closed]
  split
  · exact .ofRequest _ a rfl rfl
  · exact .refl s a

end Later

namespace Drive

open Request CoreHook

variable {s : Session CoreHook μ}

/-- What a phase comes to. -/
theorem later_runPhase {p : Phase} {outcome : Except Stop Unit} {s₁ : Session CoreHook μ}
    (h : (runPhase perform p).run s = (outcome, s₁)) : Later s outcome s₁ := by
  have htame := isTame_runPhase p s
  rw [h] at htame
  exact htame.later

theorem later_cancellation {id : FailureId} {failures : Failures}
    (h : (Step.cancellation? : Step CoreHook μ _).run s =
      (.ok (some id), s.withFailures failures)) (a : α) :
    Later s (.ok a) (s.withFailures failures) ∧ failures.Knows id := by
  rw [run_cancellation] at h
  split at h
  · simp at h
  · rename_i e _
    obtain ⟨hgrows, hlabels, hknows⟩ := Failures.knows_ofEnding s.world.failures e
    simp only [Prod.mk.injEq, Except.ok.injEq, Option.some.injEq] at h
    obtain ⟨rfl, hsession⟩ := h
    obtain rfl : (s.world.failures.ofEnding e).2 = failures :=
      congrArg (fun t => t.world.failures) hsession
    exact ⟨.withFailures s a hgrows fun h => h.grow hgrows hlabels, hknows⟩

theorem later_stopEnded {failure : FailureId} {outcome : Except Stop Unit}
    {s₁ : Session CoreHook μ} (h : (stopEnded failure).run s = (outcome, s₁)) :
    Later s outcome s₁ := by
  simp only [stopEnded, Step.run_bind] at h
  cases hended : s.isEnded with
  | false =>
    rw [run_cancellation_of_live s hended] at h
    simp only [Step.run_bind, run_clearError, run_markFailed, Step.run_fail] at h
    obtain ⟨rfl, rfl⟩ := Prod.mk.inj h.symm
    have hfailed : Later s (.ok ()) ((s.withError none).failed "Retry") :=
      (Later.withoutError s ()).trans (.failed _ () _)
    exact (hfailed.trans (Tame.explained _ _ ()).later).raised fun _ =>
      Failures.knows_addReason_self _
  | true =>
    obtain ⟨id, failures, hcancel⟩ := run_cancellation_of_ended s hended
    obtain ⟨hlater, hknows⟩ := later_cancellation hcancel ()
    rw [hcancel] at h
    simp only [Step.run_bind, Step.run_setError, run_markFailed, Step.run_setCause,
      Step.run_raise] at h
    obtain ⟨rfl, rfl⟩ := Prod.mk.inj h.symm
    have hset : Later s (.ok ()) ((s.withFailures failures).withError (some id)) :=
      hlater.trans (.withKnown _ () fun _ => hknows)
    have hfailed := hset.trans (Later.failed _ () "Retry")
    have hcaused := hfailed.trans (Later.withFailures _ ()
      (Failures.grows_setCause _ id (some failure)) fun h =>
        h.grow (Failures.grows_setCause _ _ _) rfl)
    refine hcaused.raised fun _ => (Failures.grows_setCause _ _ _).knows ?_
    rw [failures_failed]
    exact hknows

theorem later_isBuild {c : Course CoreHook μ Unit} (h : IsBuild perform s c) :
    Later s c.outcome c.after := by
  cases h with
  | failedBefore herror => exact (Later.refl s ()).raisedError herror
  | builtBefore => exact .refl s ()
  | validateStopped _ _ hvalidate => exact later_runPhase hvalidate
  | validateFailed _ _ hvalidate herror =>
    exact ((later_runPhase hvalidate).trans (.failed _ () _)).raisedError (by simpa using herror)
  | buildStopped _ _ hvalidate _ hbuild =>
    exact ((later_runPhase hvalidate).trans (.atStage _ () _)).trans (later_runPhase hbuild)
  | buildFailed _ _ hvalidate _ hbuild herror =>
    have hbuilt := ((later_runPhase hvalidate).trans (.atStage _ () _)).trans
        (later_runPhase hbuild)
    exact (hbuilt.trans (.failed _ () _)).raisedError (by simpa using herror)
  | built _ _ hvalidate _ hbuild =>
    have hbuilt := ((later_runPhase hvalidate).trans (.atStage _ () _)).trans
        (later_runPhase hbuild)
    exact hbuilt.trans (.ofRequest _ () rfl rfl)

theorem later_isAttempt {c : Course CoreHook μ (Option FailureId)} (h : IsAttempt perform s c) :
    Later s c.outcome c.after := by
  cases h with
  | cancelled _ hcancel =>
    obtain ⟨hlater, hknows⟩ := later_cancellation hcancel ()
    exact (hlater.trans (.withKnown _ () fun _ => hknows)).trans (.failed _ _ _)
  | sendStopped _ hsend => exact (later_runPhase hsend).recast
  | sendFailed _ hsend => exact (later_runPhase hsend).trans (.failed _ _ _)
  | unmarshalStopped _ hsend _ hunmarshal =>
    exact (((later_runPhase hsend).trans (.atStage _ () _)).trans
      (later_runPhase hunmarshal)).recast
  | unmarshalFailed _ hsend _ hunmarshal =>
    exact (((later_runPhase hsend).trans (.atStage _ () _)).trans (later_runPhase hunmarshal)).trans
      (.failed _ _ _)
  | succeeded _ hsend _ hunmarshal =>
    exact (((later_runPhase hsend).trans (.atStage _ () _)).trans (later_runPhase hunmarshal)).trans
      (.refl _ _)

theorem later_isInterval {failure : FailureId} {c : Course CoreHook μ Unit}
    (h : IsInterval perform failure s c) : Later s c.outcome c.after := by
  cases h with
  | retryStopped hretry => exact later_runPhase hretry
  | replaced hretry herror =>
    exact ((later_runPhase hretry).trans (.failed _ () _)).raisedError (by simpa using herror)
  | ended hretry _ _ hstop =>
    have hcounted := (later_runPhase hretry).trans (Later.counted _ ())
    exact (hcounted.trans (.waited _ () _)).trans (later_stopEnded hstop)
  | elapsed hretry =>
    have hcounted := (later_runPhase hretry).trans (Later.counted _ ())
    exact (hcounted.trans (.waited _ () _)).trans (.prepared _ ())

theorem later_isRound {c : Course CoreHook μ (Option Value)} (h : IsRound perform s c) :
    Later s c.outcome c.after := by
  have hclear : Later s (.ok ()) (s.withError none) := .withoutError s ()
  cases h with
  | attemptStopped hattempt => exact hclear.trans (later_isAttempt hattempt).recast
  | succeeded hattempt => exact (hclear.trans (later_isAttempt hattempt)).trans (.atStage _ _ _)
  | declined hattempt =>
    exact (hclear.trans (later_isAttempt hattempt)).raisedError (error_isAttempt hattempt)
  | intervalStopped hattempt _ hinterval =>
    exact ((hclear.trans (later_isAttempt hattempt)).trans (later_isInterval hinterval)).recast
  | again hattempt _ hinterval =>
    exact ((hclear.trans (later_isAttempt hattempt)).trans (later_isInterval hinterval)).trans
      (.refl _ _)

theorem later_areRounds {c : Course CoreHook μ Value} (h : AreRounds perform s c) :
    Later s c.outcome c.after := by
  induction h with
  | givenUp => exact .givenUp _
  | succeeded hround => exact (later_isRound hround).trans (.refl _ _)
  | stopped hround => exact (later_isRound hround).recast
  | again hround _ ih => exact (later_isRound hround).trans ih

theorem later_isDelivery {c : Course CoreHook μ Value} (h : IsDelivery perform s c) :
    Later s c.outcome c.after := by
  cases h with
  | unbuilt hbuild => exact (later_isBuild hbuild).recast
  | built hbuild hrounds =>
    have hlater := later_areRounds hrounds
    exact ((later_isBuild hbuild).trans (.begun _ ())).trans hlater

/-- A whole run over the core hooks keeps what its steps keep: its end takes nothing back. -/
theorem later_isSending {c : Course CoreHook μ Value} (h : IsSending perform s c)
    (hhooks : s.request.hooks = template id) : Later s c.outcome c.after := by
  cases h with
  | givenUp hdelivery => exact later_isDelivery hdelivery
  | @completeStopped outcome s₁ ms stop s₂ hdelivery _ hcomplete =>
    have hkept : s₁.request.hooks = template id := (later_isDelivery hdelivery).hooks.trans hhooks
    have hsingle : (s₁.filled.request.hooks.get .complete).callbacks = [.closeResponse] := by
      rw [request_filled, hkept]
      rfl
    rw [run_single hsingle] at hcomplete
    cases hcomplete
  | completed hdelivery _ hcomplete =>
    have hfilled := (later_isDelivery hdelivery).andThen (Later.filled _ ())
    exact (hfilled.andThen (later_runPhase hcomplete)).andThen (.closed _ ())

/-- The core hooks leave the retries alone, so a run over them comes to an end. -/
theorem hooksKeepBudget_perform : HooksKeepBudget (perform : CoreHook → Step CoreHook μ Unit) := by
  intro hook s
  have htame := isTame_perform hook s
  exact ⟨htame.finished, by rw [Session.used, htame.budget]; rfl,
    by rw [Session.limit, htame.budget]; rfl⟩

theorem finished_send {limit : Nat} (hlimit : s.left < limit) :
    ((send perform limit).run s).outcome ≠ .error .unfinished :=
  (withinBudget_send limit s hlimit (send_keepsBudget hooksKeepBudget_perform limit s)).finished

end Drive

end RequestPipeline
