import RequestPipeline.Proofs.ElapsedTime

/-!
# What a wait tells

Whether the deadline comes before the end of a wait is decided by the time left up to it, and
whether it has been reached by the time on the clock.  Both are rounded: a wait for the time left
may be over on the clock before the deadline, and still tells the end of its context.
`Context.isDone_wait_iff` says that these are the only ends told that have not come
(`Context.FallsShort`), and `Drive.waits_tell_the_truth` that a run which is told so ends there and
has no failure to end with but that its context has ended.
-/

namespace RequestPipeline

open Context (positivePart)

variable {κ μ : Type}

/-! ## Waits -/

namespace Context

/-- The wait is cut down to the time left up to the deadline, no cancellation comes before its end,
and by rounding the clock is still before the deadline then. -/
def FallsShort (c : Context) (now seconds : Float) : Prop :=
  c.cancelled = none ∧ (∃ d ∈ c.deadline, positivePart (d - now) < positivePart seconds ∧
    (∀ s ∈ c.scheduled, ¬ s.time ≤ now + positivePart (d - now)) ∧
    ¬ d ≤ now + positivePart (d - now))

instance (c : Context) (now seconds : Float) : Decidable (c.FallsShort now seconds) :=
  inferInstanceAs (Decidable (_ ∧ _))

theorem earliest?_eq_none_iff {cs : List Cancellation} : earliest? cs = none ↔ cs = [] := by
  cases cs with
  | nil => simp [earliest?]
  | cons c rest =>
    cases hrest : earliest? rest with
    | none => simp [earliest?, hrest]
    | some d => by_cases hlater : d.time < c.time <;> simp [earliest?, hrest, hlater]

/-- A sleep leaves the context ended that was cancelled before or is by then, or whose deadline has
been reached by then. -/
theorem isDone_sleep_iff {c : Context} {now seconds : Float} :
    (c.sleep now seconds).2.isDone (c.sleep now seconds).1 = true ↔
      c.cancelled ≠ none ∨ (∃ s ∈ c.scheduled, s.time ≤ now + seconds) ∨
        ∃ d ∈ c.deadline, d ≤ now + seconds := by
  cases hcancelled : c.cancelled with
  | some cause => simp [sleep, hcancelled, isDone]
  | none =>
    cases hearliest : earliest? (c.scheduled.filter fun s => decide (s.time ≤ now + seconds)) with
    | some s =>
      have hdue : ∃ s ∈ c.scheduled, s.time ≤ now + seconds := by
        by_contra hnone
        have hempty : c.scheduled.filter (fun s => decide (s.time ≤ now + seconds)) = [] := by
          simpa using hnone
        rw [earliest?_eq_none_iff.2 hempty] at hearliest
        cases hearliest
      simp [sleep, hcancelled, hearliest, cancel, isDone, hdue]
    | none =>
      have hnone : ¬ ∃ s ∈ c.scheduled, s.time ≤ now + seconds := by
        simpa using earliest?_eq_none_iff.1 hearliest
      simp [sleep, hcancelled, hearliest, isDone_iff, hnone]

/-- A wait that tells the end of its context leaves the context ended, unless it falls short. -/
theorem isDone_wait_iff {c : Context} {now seconds : Float}
    (htold : (c.wait now seconds).done = true) :
    (c.wait now seconds).context.isDone (c.wait now seconds).now = true ↔
      ¬ c.FallsShort now seconds := by
  cases hdeadline : c.deadline with
  | none =>
    simp only [wait, remaining?, hdeadline, Option.map_none] at htold ⊢
    simp [htold, FallsShort, hdeadline]
  | some d =>
    by_cases hsooner : positivePart (d - now) < positivePart seconds
    · simp only [wait, remaining?, hdeadline, Option.map_some, hsooner, if_true]
      rw [isDone_sleep_iff]
      simp only [FallsShort, hdeadline, Option.mem_some_iff, exists_eq_left', hsooner, true_and,
        not_and_or, not_forall, not_not, exists_prop, ne_eq]
    · simp only [wait, remaining?, hdeadline, Option.map_some, hsooner, if_false] at htold ⊢
      simp [htold, FallsShort, hdeadline, hsooner]

/-- A wait that does not tell the end of its context leaves it live. -/
theorem not_isDone_wait {c : Context} {now seconds : Float}
    (hlive : (c.wait now seconds).done = false) :
    (c.wait now seconds).context.isDone (c.wait now seconds).now = false := by
  simp only [wait] at hlive ⊢
  cases hleft : c.remaining? now with
  | none => simpa only [hleft] using hlive
  | some left =>
    simp only [hleft] at hlive ⊢
    by_cases hsooner : left < positivePart seconds
    · simp [hsooner] at hlive
    · simpa only [hsooner, if_false] using hlive

end Context

/-! ## Runs -/

namespace Mark

/-- A wait that told the end of its context, and whether it fell short. -/
def IsTold (short : Bool) : Mark κ μ → Prop
  | .wait before seconds ended _ =>
    ended = true ∧ decide (before.request.context.FallsShort before.world.clock seconds) = short
  | _ => False

instance (short : Bool) : DecidablePred (IsTold short : Mark κ μ → Prop) := fun m =>
  match m with
  | .wait _ _ _ _ => inferInstanceAs (Decidable (_ ∧ _))
  | .phase _ _ _ _ | .attempt _ | .decision _ _ => .isFalse id

end Mark

namespace Request

variable {s after : Session κ μ} {failure id : FailureId}

/-- What the end of a wait comes to if the context has ended is recorded, and tells that end. -/
theorem stopEnded_of_ended (hended : s.isEnded = true)
    (h : (stopEnded failure : Step κ μ Unit).run s = (.error (.raised id), after)) :
    after.request.error = some id ∧ after.world.failures.TellsEnd id := by
  obtain ⟨id', after', hrun, hrequest⟩ := run_stopEnded_of_ended s failure hended
  obtain ⟨hid, rfl⟩ := Prod.mk.inj (hrun.symm.trans h)
  obtain rfl : id' = id := by simpa using hid
  exact ⟨by rw [hrequest], (stopEnded_tellsEnd hended h).1⟩

/-- If it has not ended there is no failure to stop with, which is another failure. -/
theorem stopEnded_of_live (hlive : s.isEnded = false)
    (h : (stopEnded failure : Step κ μ Unit).run s = (.error (.raised id), after)) :
    after.request.error = none ∧ after.world.failures.reasonAt? id =
      some (.told (.outside .type) "exceptions must derive from BaseException") := by
  simp only [stopEnded, Step.run_bind, run_cancellation_of_live s hlive, run_clearError,
    run_markFailed, Step.run_fail, Prod.mk.injEq, Except.error.injEq, Stop.raised.injEq] at h
  obtain ⟨rfl, rfl⟩ := h
  constructor
  · simp
  · simp

end Request

namespace Drive

open Request

variable {α β : Type} {perform : κ → Step κ μ Unit} {s before waited : Session κ μ}
  {seconds : Float}

/-- A wait that told the end of its context, and left `waited`, was the last thing of the course: it
ended with what that comes to after the failure of the last attempt. -/
def EndsAsTold (waited : Session κ μ) (c : Course κ μ α) : Prop :=
  ∃ t failure id, (Mark.agreements c.marks).getLast? = some t ∧ t.request.error = some failure ∧
    c.outcome = .error (.raised id) ∧
    (stopEnded failure : Step κ μ Unit).run waited = (.error (.raised id), c.after)

theorem EndsAsTold.stops {stop : Stop} {after : Session κ μ} {ms : List (Mark κ μ)}
    (h : EndsAsTold waited (⟨.error stop, after, ms⟩ : Course κ μ α)) :
    EndsAsTold waited (⟨.error stop, after, ms⟩ : Course κ μ β) := by
  obtain ⟨t, failure, id, hlast, herror, hstop, hrun⟩ := h
  obtain rfl : stop = .raised id := Except.error.inj hstop
  exact ⟨t, failure, id, hlast, herror, rfl, hrun⟩

theorem not_endsAsTold_ok {a : α} {after : Session κ μ} {ms : List (Mark κ μ)} :
    ¬ EndsAsTold waited (⟨.ok a, after, ms⟩ : Course κ μ α) := by
  rintro ⟨t, failure, id, -, -, hstop, -⟩
  cases hstop

/-- Marks before those of the course make no difference. -/
theorem EndsAsTold.behind {c : Course κ μ α} (h : EndsAsTold waited c) (ms : List (Mark κ μ)) :
    EndsAsTold waited (⟨c.outcome, c.after, ms ++ c.marks⟩ : Course κ μ α) := by
  obtain ⟨t, failure, id, hlast, hrest⟩ := h
  exact ⟨t, failure, id, by simp [hlast], hrest⟩

theorem not_wait_isBuild {c : Course κ μ Unit} (h : IsBuild perform s c) :
    Mark.wait before seconds true waited ∉ c.marks := by
  cases h <;> simp

theorem not_wait_isAttempt {c : Course κ μ (Option FailureId)} (h : IsAttempt perform s c) :
    Mark.wait before seconds true waited ∉ c.marks := by
  cases h <;> simp

theorem told_isInterval {failure : FailureId} {c : Course κ μ Unit}
    (h : IsInterval perform failure s c) (htold : Mark.wait before seconds true waited ∈ c.marks) :
    ∃ id, c.outcome = .error (.raised id) ∧
      (stopEnded failure : Step κ μ Unit).run waited = (.error (.raised id), c.after) ∧
      Mark.agreements c.marks = [] := by
  cases h with
  | retryStopped | replaced | elapsed => simp at htold
  | @ended s₁ id s₂ _ _ _ hstop =>
    have hsame : waited = s₁.counted.waited s₁.request.retryer.delay.1 := by
      simp only [List.mem_cons, List.not_mem_nil, or_false, reduceCtorEq, false_or,
        Mark.wait.injEq] at htold
      exact htold.2.2.2
    exact ⟨id, rfl, hsame ▸ hstop, rfl⟩

theorem told_isRound {c : Course κ μ (Option Value)} (h : IsRound perform s c)
    (htold : Mark.wait before seconds true waited ∈ c.marks) : EndsAsTold waited c := by
  cases h with
  | attemptStopped hattempt | succeeded hattempt =>
    exact absurd htold (not_wait_isAttempt hattempt)
  | declined hattempt =>
    have hlater := (List.mem_append.1 htold).resolve_left (not_wait_isAttempt hattempt)
    simp at hlater
  | @intervalStopped failure s₁ ms stop s₂ ns hattempt _ hinterval =>
    have hlater := (List.mem_append.1 htold).resolve_left (not_wait_isAttempt hattempt)
    obtain ⟨id, hstop, hrun, hnone⟩ := told_isInterval hinterval (by simpa using hlater)
    obtain rfl : stop = .raised id := Except.error.inj hstop
    refine ⟨s₁, failure, id, ?_, error_isAttempt hattempt, rfl, hrun⟩
    simp [agreements_isAttempt hattempt, show Mark.agreements ns = [] from hnone]
  | again hattempt _ hinterval =>
    have hlater := (List.mem_append.1 htold).resolve_left (not_wait_isAttempt hattempt)
    obtain ⟨id, hstop, -⟩ := told_isInterval hinterval (by simpa using hlater)
    cases hstop

theorem told_areRounds {c : Course κ μ Value} (h : AreRounds perform s c)
    (htold : Mark.wait before seconds true waited ∈ c.marks) : EndsAsTold waited c := by
  induction h with
  | givenUp => cases htold
  | succeeded hround => exact absurd (told_isRound hround htold) not_endsAsTold_ok
  | stopped hround => exact (told_isRound hround htold).stops
  | @again s s₁ ms c hround _ ih =>
    have hlater : Mark.wait before seconds true waited ∈ c.marks := by
      refine (List.mem_append.1 htold).resolve_left fun hfirst => ?_
      exact not_endsAsTold_ok (told_isRound hround hfirst)
    exact (ih hlater).behind ms

/-- A wait that tells the end of its context is the last thing of its run. -/
theorem told_isDelivery {c : Course κ μ Value} (h : IsDelivery perform s c)
    (htold : Mark.wait before seconds true waited ∈ c.marks) : EndsAsTold waited c := by
  cases h with
  | unbuilt hbuild => exact absurd htold (not_wait_isBuild hbuild)
  | @built s₁ ms c hbuild hrounds =>
    have hlater : Mark.wait before seconds true waited ∈ c.marks :=
      (List.mem_append.1 htold).resolve_left (not_wait_isBuild hbuild)
    exact (told_areRounds hrounds hlater).behind ms

/-- The end of a run is its complete phase, unless the run was given up. -/
theorem send_eq_or (perform : κ → Step κ μ Unit) (limit : Nat) (s : Session κ μ) :
    let d := (deliver perform limit).run s
    let c := (send perform limit).run s
    c = d ∨ ∃ ending s₁, (runPhase perform .complete).run d.after.filled = (ending, s₁) ∧
      c.marks = d.marks ++ [.phase .complete d.after.filled ending s₁] ∧
      (c.after = s₁ ∨ c.after = s₁.closed) := by
  intro d c
  by_cases hfinished : d.outcome = .error .unfinished
  · exact .inl (run_closedBy_of_unfinished s _ hfinished)
  · have hclosed : c = _ := run_closedBy_of_finished s _ hfinished
    right
    rcases hc : (runPhase perform .complete).run d.after.filled with ⟨stop | _, s₁⟩
    · exact ⟨.error stop, s₁, rfl, by simp [hclosed, finish, run_bind, d, hc],
        .inl (by simp [hclosed, finish, run_bind, d, hc])⟩
    · exact ⟨.ok (), s₁, rfl, by simp [hclosed, finish, run_bind, d, hc],
        .inr (by simp [hclosed, finish, run_bind, d, hc])⟩

/-- It waits for nothing. -/
theorem wait_mem_deliver {limit : Nat} {ended : Bool}
    (h : Mark.wait before seconds ended waited ∈ ((send perform limit).run s).marks) :
    Mark.wait before seconds ended waited ∈ ((deliver perform limit).run s).marks := by
  rcases send_eq_or perform limit s with hsame | ⟨_, _, -, hmarks, -⟩
  · rwa [hsame] at h
  · rw [hmarks] at h
    exact (List.mem_append.1 h).resolve_right (by simp)

/-- A wait that tells nothing has left its context live and has taken its time.  One that tells the
end of its context has left the context ended unless it fell short of the deadline.  So a run that
is told so ends with a failure that tells this end, and has recorded it, unless the wait fell short:
then it has recorded nothing, and ends with the failure that there is none to end with. -/
theorem waits_tell_the_truth (perform : κ → Step κ μ Unit) (limit : Nat) (s : Session κ μ) :
    (∀ (c : Context) (now seconds : Float), let w := c.wait now seconds
      (w.done = false → w.context.isDone w.now = false ∧ w.context.ending? w.now = none ∧
        w.now = now + positivePart seconds) ∧
      (w.done = true → (w.context.isDone w.now = true ↔ ¬ c.FallsShort now seconds) ∧
        ((w.context.ending? w.now).isSome = true ↔ ¬ c.FallsShort now seconds))) ∧
    ∀ before seconds ended waited,
      Mark.wait before seconds ended waited ∈ ((send perform limit).run s).marks →
      let fallsShort := before.request.context.FallsShort before.world.clock seconds
      let c := (deliver perform limit).run s
      ended = (before.request.context.wait before.world.clock seconds).done ∧
      (ended = true → ∃ id, c.outcome = .error (.raised id) ∧
        (¬ fallsShort → c.after.request.error = some id ∧ c.after.world.failures.TellsEnd id) ∧
        (fallsShort → c.after.request.error = none ∧ c.after.world.failures.reasonAt? id =
          some (.told (.outside .type) "exceptions must derive from BaseException"))) := by
  refine ⟨fun c now seconds => ⟨fun hlive => ?_, fun htold => ?_⟩, ?_⟩
  · have hnot := Context.not_isDone_wait hlive
    have hnone : (c.wait now seconds).context.ending? (c.wait now seconds).now = none := by
      simpa [Context.isDone_eq_isSome] using hnot
    exact ⟨hnot, hnone, Context.wait_of_live hlive⟩
  · have hdone := Context.isDone_wait_iff htold
    exact ⟨hdone, by rwa [← Context.isDone_eq_isSome]⟩
  · intro before seconds ended waited hmem fallsShort c
    have hdelivered := wait_mem_deliver hmem
    have hdelivery := isDelivery_run perform s limit
    have hwaited : (ended = before.waitEnds seconds) ∧ waited = before.waited seconds := by
      simpa [Mark.Genuine, run_wait_eq, eq_comm] using genuine_isDelivery hdelivery _ hdelivered
    obtain ⟨rfl, rfl⟩ := hwaited
    refine ⟨rfl, fun htold => ?_⟩
    have hends : (before.waited seconds).isEnded = true ↔ ¬ fallsShort :=
      Context.isDone_wait_iff htold
    rw [htold] at hdelivered
    obtain ⟨-, failure, id, -, -, hid, hstop⟩ := told_isDelivery hdelivery hdelivered
    refine ⟨id, hid, fun htrue => ?_, fun hshort => ?_⟩
    · exact stopEnded_of_ended (hends.2 htrue) hstop
    · have hlive : (before.waited seconds).isEnded = false := by
        simpa [hshort] using hends
      exact stopEnded_of_live hlive hstop

/-- A request whose first attempt fails.  The retry would come after more than an hour. -/
def expiring (clock deadline : Float) : Session ScriptedHook RunCounts :=
  let down : FailureSpec := .make (.ofReason (.told .transport "down")) none none
  let s := Session.plain "https://api.io" { Hooks.empty with
    send := ⟨[.bare (.scripted 0 .send none [.mark true, .setError (some down)] [])]⟩ }
    (.ofPolicy ⟨5000, 1, 5000, 0⟩ []) ⟨0, 1, 0, [], false⟩ [] #[0]
  { world := { s.world with clock }
    request := { s.request with context := ⟨some deadline, none, []⟩ } }

/-- The deadline comes before that, and the run ends with a failure that says so. -/
theorem deadline_ends_wait :
    let s := expiring 1000 3500
    let d := (deliver ScriptedHook.perform 2).run s
    (∃ m ∈ ((send ScriptedHook.perform 2).run s).marks, m.IsTold false) ∧
      ∃ id, d.outcome = .error (.raised id) ∧ d.after.request.error = some id ∧
        d.after.world.failures.TellsEnd id := by
  intro s d
  have htold : ∃ m ∈ ((send ScriptedHook.perform 2).run s).marks, m.IsTold false := by
    decide +kernel
  refine ⟨htold, ?_⟩
  obtain ⟨m, hm, hm'⟩ := htold
  cases m with
  | phase | attempt | decision => cases hm'
  | wait before seconds ended waited =>
    obtain ⟨hended, hshort⟩ := hm'
    obtain ⟨id, hraised, htrue, -⟩ :=
      ((waits_tell_the_truth ScriptedHook.perform 2 s).2 before seconds ended waited hm).2 hended
    have hrecorded := htrue (of_decide_eq_false hshort)
    simpa only [d] using ⟨id, hraised, hrecorded⟩

/-- The deadline comes after a time that no float is.  The wait is over before it, tells that it has
been reached, and there is no failure to end with. -/
theorem wait_falls_short :
    let s := expiring 1000.0000000000002 3500.0000000000005
    let w := s.request.context.wait s.world.clock 5000
    let d := (deliver ScriptedHook.perform 2).run s
    w.done = true ∧ w.context.isDone w.now = false ∧ w.context.ending? w.now = none ∧
      (∃ m ∈ ((send ScriptedHook.perform 2).run s).marks, m.IsTold true) ∧
      d.outcome = .error (.raised 1) ∧ d.after.request.error = none ∧
      d.after.world.failures.kindAt? 1 = some (.outside .type) := by
  refine ⟨by decide +kernel, by decide +kernel, by decide +kernel, by decide +kernel, ?_,
    by decide +kernel, by decide +kernel⟩
  rfl

end Drive

end RequestPipeline
