import RequestPipeline.Proofs.Courses
import RequestPipeline.Script

/-!
# The order of the phases

What a driver may do next depends on nothing but what it did last: on the phase that ran, on
whether a hook raised and on the error the phase left, on the answer of the retryer, on the end of
a wait.  `Turn.next?` is that automaton, and `send_follows_turns` proves that the marks of a run,
of any length and with any hooks, follow its turns from the first one to the last.
-/

namespace RequestPipeline

variable {κ μ : Type}

/-- What a driver may do next. -/
inductive Turn where
  | validate
  | build
  | attempt
  | send
  | unmarshal
  | decision
  /-- The retry phase after an attempt that ended in a failure. -/
  | retry (failure : Option FailureId)
  | wait
  | complete
  | closed
  deriving DecidableEq, Repr

namespace Turn

/-- The turn after a phase: the end if a hook raised, else by whether the phase left an error. -/
def afterPhase (ending : Except Stop Unit) (after : Session κ μ) (clean failed : Turn) : Turn :=
  match ending with
  | .error _ => .complete
  | .ok () => if after.request.error = none then clean else failed

/-- The turn after the retry phase: a wait unless a hook raised or left another failure. -/
def afterRetry (ending : Except Stop Unit) (failure : Option FailureId) (after : Session κ μ) :
    Turn :=
  match ending with
  | .error _ => .complete
  | .ok () =>
    if after.request.error = none ∨ after.request.error = failure then .wait else .complete

/-- The turn that a mark leads to, if it may be made in this turn. -/
def next? : Turn → Mark κ μ → Option Turn
  | .validate, .phase .validate _ ending after => some (afterPhase ending after .build .complete)
  | .build, .phase .build _ ending after => some (afterPhase ending after .attempt .complete)
  | .attempt, .attempt s => some (if s.isEnded then .decision else .send)
  | .send, .phase .send _ ending after => some (afterPhase ending after .unmarshal .decision)
  | .unmarshal, .phase .unmarshal _ ending after =>
    some (afterPhase ending after .complete .decision)
  | .decision, .decision s accepted =>
    some (if accepted then .retry s.request.error else .complete)
  | .retry failure, .phase .retry _ ending after => some (afterRetry ending failure after)
  | .wait, .wait _ _ ended _ => some (if ended then .complete else .attempt)
  | .complete, .phase .complete _ _ _ => some .closed
  | _, _ => none

/-- The turn that marks lead to one by one. -/
def follow (t : Turn) (ms : List (Mark κ μ)) : Option Turn := ms.foldlM next? t

theorem follow_append (t : Turn) (ms ns : List (Mark κ μ)) :
    follow t (ms ++ ns) = (follow t ms).bind fun u => follow u ns := List.foldlM_append

/-- The turn that a run begins with. -/
def first (r : Request κ) : Turn :=
  if r.error.isSome then .complete else if r.built then .attempt else .validate

end Turn

namespace Mark

/-- The phase of a mark that is about one. -/
def phase? : Mark κ μ → Option Phase
  | .phase p _ _ _ => some p
  | _ => none

/-- The mark says what happened: the phase ran that way, the attempt began without an error, the
retryer was asked about a failure and answered that, the wait went that way. -/
def Genuine (perform : κ → Step κ μ Unit) : Mark κ μ → Prop
  | .phase p before ending after => (Request.runPhase perform p).run before = (ending, after)
  | .attempt s => s.request.error = none
  | .decision s accepted => s.request.error.isSome ∧ accepted = s.acceptsRetry
  | .wait before seconds ended after => (Step.wait seconds).run before = (.ok ended, after)

/-- The phases that ran, by their marks. -/
def phases (ms : List (Mark κ μ)) : List Phase := ms.filterMap phase?

@[simp] theorem phases_append (ms ns : List (Mark κ μ)) :
    phases (ms ++ ns) = phases ms ++ phases ns := List.filterMap_append

@[simp] theorem phases_nil : phases ([] : List (Mark κ μ)) = [] := rfl

@[simp] theorem phases_phase (p : Phase) (before : Session κ μ) (ending : Except Stop Unit)
    (after : Session κ μ) (ms : List (Mark κ μ)) :
    phases (.phase p before ending after :: ms) = p :: phases ms := rfl

@[simp] theorem phases_attempt (s : Session κ μ) (ms : List (Mark κ μ)) :
    phases (.attempt s :: ms) = phases ms := rfl

@[simp] theorem phases_decision (s : Session κ μ) (accepted : Bool) (ms : List (Mark κ μ)) :
    phases (.decision s accepted :: ms) = phases ms := rfl

@[simp] theorem phases_wait (before : Session κ μ) (seconds : Float) (ended : Bool)
    (after : Session κ μ) (ms : List (Mark κ μ)) :
    phases (.wait before seconds ended after :: ms) = phases ms := rfl

end Mark

/-- The phases that an attempt may run: none if the context has ended before. -/
def attemptPhases : List (List Phase) := [[], [.send], [.send, .unmarshal]]

/-- The phases of a run from its first attempt on. -/
inductive RoundOrder : List Phase → Prop where
  | last {a} (h : a ∈ attemptPhases) : RoundOrder (a ++ [.complete])
  | retried {a} (h : a ∈ attemptPhases) : RoundOrder (a ++ [.retry, .complete])
  | again {a rest} (h : a ∈ attemptPhases) (hrest : RoundOrder rest) :
    RoundOrder (a ++ .retry :: rest)

/-- The phases of a whole run. -/
inductive PhaseOrder : List Phase → Prop where
  | invalid : PhaseOrder [.validate, .complete]
  | unbuilt : PhaseOrder [.validate, .build, .complete]
  | attempted {rest} (h : RoundOrder rest) : PhaseOrder (.validate :: .build :: rest)

namespace Drive

open Request

variable {perform : κ → Step κ μ Unit}

/-! ## Turns -/

theorem follow_isBuild {s : Session κ μ} {c : Course κ μ Unit} (h : IsBuild perform s c) :
    Turn.follow (Turn.first s.request) c.marks =
      some (match c.outcome with | .ok () => .attempt | .error _ => .complete) := by
  cases h <;> simp_all [Turn.follow, Turn.first, Turn.next?, Turn.afterPhase]

theorem follow_isAttempt {s : Session κ μ} {c : Course κ μ (Option FailureId)}
    (h : IsAttempt perform s c) :
    Turn.follow .attempt c.marks =
      some (match c.outcome with | .ok (some _) => .decision | _ => .complete) := by
  cases h <;> simp_all [Turn.follow, Turn.next?, Turn.afterPhase]

/-- An attempt leaves the failure it ends in as the error of the request. -/
theorem error_isAttempt {s s₁ : Session κ μ} {failure ms}
    (h : IsAttempt perform s ⟨.ok (some failure), s₁, ms⟩) :
    s₁.request.error = some failure := by
  cases h <;> simp_all

theorem follow_isInterval {failure : FailureId} {s : Session κ μ} {c : Course κ μ Unit}
    (h : IsInterval perform failure s c) :
    Turn.follow (.retry (some failure)) c.marks =
      some (match c.outcome with | .ok () => .attempt | .error _ => .complete) := by
  cases h with
  | retryStopped hretry => simp [Turn.follow, Turn.next?, Turn.afterRetry]
  | replaced hretry herror hother =>
    simp [Turn.follow, Turn.next?, Turn.afterRetry, herror, hother]
  | ended hretry hkept hwait hstop => simp [Turn.follow, Turn.next?, Turn.afterRetry, hkept]
  | elapsed hretry hkept hwait => simp [Turn.follow, Turn.next?, Turn.afterRetry, hkept]

theorem follow_isRound {s : Session κ μ} {c : Course κ μ (Option Value)}
    (h : IsRound perform s c) :
    Turn.follow .attempt c.marks =
      some (match c.outcome with | .ok none => .attempt | _ => .complete) := by
  cases h with
  | attemptStopped hattempt => simpa using follow_isAttempt hattempt
  | succeeded hattempt => simpa using follow_isAttempt hattempt
  | declined hattempt hdeclined =>
    rw [Turn.follow_append, follow_isAttempt hattempt]
    simp [Turn.follow, Turn.next?]
  | intervalStopped hattempt haccepted hinterval =>
    rw [Turn.follow_append, follow_isAttempt hattempt]
    simpa [Turn.follow, Turn.next?, error_isAttempt hattempt] using follow_isInterval hinterval
  | again hattempt haccepted hinterval =>
    rw [Turn.follow_append, follow_isAttempt hattempt]
    simpa [Turn.follow, Turn.next?, error_isAttempt hattempt] using follow_isInterval hinterval

theorem follow_areRounds {s : Session κ μ} {c : Course κ μ Value} (h : AreRounds perform s c) :
    ∃ t, Turn.follow .attempt c.marks = some t ∧
      (c.IsFinished → t = .complete) := by
  induction h with
  | givenUp => exact ⟨.attempt, rfl, fun h => absurd rfl h⟩
  | succeeded hround => exact ⟨_, follow_isRound hround, fun _ => rfl⟩
  | stopped hround => exact ⟨_, follow_isRound hround, fun _ => rfl⟩
  | again hround hrest ih =>
    rw [Turn.follow_append, follow_isRound hround]
    exact ih

theorem follow_isDelivery {s : Session κ μ} {c : Course κ μ Value} (h : IsDelivery perform s c) :
    ∃ t, Turn.follow (Turn.first s.request) c.marks = some t ∧
      (c.IsFinished → t = .complete) := by
  cases h with
  | unbuilt hbuild => exact ⟨_, follow_isBuild hbuild, fun _ => rfl⟩
  | built hbuild hrounds =>
    rw [Turn.follow_append, follow_isBuild hbuild]
    exact follow_areRounds hrounds

theorem follow_isSending {s : Session κ μ} {c : Course κ μ Value} (h : IsSending perform s c) :
    ∃ t, Turn.follow (Turn.first s.request) c.marks = some t ∧
      (c.IsFinished → t = .closed) := by
  cases h with
  | givenUp hdelivery =>
    obtain ⟨t, ht, -⟩ := follow_isDelivery hdelivery
    exact ⟨t, ht, fun h => absurd rfl h⟩
  | completeStopped hdelivery hfinished hcomplete =>
    obtain ⟨t, ht, hlast⟩ := follow_isDelivery hdelivery
    refine ⟨.closed, ?_, fun _ => rfl⟩
    rw [Turn.follow_append, ht, hlast hfinished]
    rfl
  | completed hdelivery hfinished hcomplete =>
    obtain ⟨t, ht, hlast⟩ := follow_isDelivery hdelivery
    refine ⟨.closed, ?_, fun _ => rfl⟩
    rw [Turn.follow_append, ht, hlast hfinished]
    rfl

/-! ## What the marks say -/

theorem genuine_isBuild {s : Session κ μ} {c : Course κ μ Unit} (h : IsBuild perform s c) :
    ∀ m ∈ c.marks, m.Genuine perform := by
  cases h <;> simp_all [Mark.Genuine]

theorem genuine_isAttempt {s : Session κ μ} {c : Course κ μ (Option FailureId)}
    (h : IsAttempt perform s c) (hclean : s.request.error = none) :
    ∀ m ∈ c.marks, m.Genuine perform := by
  cases h <;> simp_all [Mark.Genuine]

theorem genuine_isInterval {failure : FailureId} {s : Session κ μ} {c : Course κ μ Unit}
    (h : IsInterval perform failure s c) : ∀ m ∈ c.marks, m.Genuine perform := by
  cases h <;> simp_all [Mark.Genuine, run_wait_eq]

theorem genuine_isRound {s : Session κ μ} {c : Course κ μ (Option Value)}
    (h : IsRound perform s c) : ∀ m ∈ c.marks, m.Genuine perform := by
  have hdecision {failure s₁ ms} {accepted : Bool}
      (hattempt : IsAttempt perform (s.withError none) ⟨.ok (some failure), s₁, ms⟩)
      (hanswer : s₁.acceptsRetry = accepted) :
      (Mark.decision s₁ accepted).Genuine perform :=
    ⟨by simp [error_isAttempt hattempt], hanswer.symm⟩
  cases h with
  | attemptStopped hattempt => exact genuine_isAttempt hattempt rfl
  | succeeded hattempt => exact genuine_isAttempt hattempt rfl
  | declined hattempt hdeclined =>
    exact List.forall_mem_append.2 ⟨genuine_isAttempt hattempt rfl,
      List.forall_mem_singleton.2 (hdecision hattempt hdeclined)⟩
  | intervalStopped hattempt haccepted hinterval =>
    exact List.forall_mem_append.2 ⟨genuine_isAttempt hattempt rfl,
      List.forall_mem_cons.2 ⟨hdecision hattempt haccepted, genuine_isInterval hinterval⟩⟩
  | again hattempt haccepted hinterval =>
    exact List.forall_mem_append.2 ⟨genuine_isAttempt hattempt rfl,
      List.forall_mem_cons.2 ⟨hdecision hattempt haccepted, genuine_isInterval hinterval⟩⟩

theorem genuine_areRounds {s : Session κ μ} {c : Course κ μ Value} (h : AreRounds perform s c) :
    ∀ m ∈ c.marks, m.Genuine perform := by
  induction h with
  | givenUp => simp
  | succeeded hround => exact genuine_isRound hround
  | stopped hround => exact genuine_isRound hround
  | again hround hrest ih => exact List.forall_mem_append.2 ⟨genuine_isRound hround, ih⟩

theorem genuine_isDelivery {s : Session κ μ} {c : Course κ μ Value} (h : IsDelivery perform s c) :
    ∀ m ∈ c.marks, m.Genuine perform := by
  cases h with
  | unbuilt hbuild => exact genuine_isBuild hbuild
  | built hbuild hrounds =>
    exact List.forall_mem_append.2 ⟨genuine_isBuild hbuild, genuine_areRounds hrounds⟩

theorem genuine_isSending {s : Session κ μ} {c : Course κ μ Value} (h : IsSending perform s c) :
    ∀ m ∈ c.marks, m.Genuine perform := by
  cases h with
  | givenUp hdelivery => exact genuine_isDelivery hdelivery
  | completeStopped hdelivery hfinished hcomplete =>
    refine List.forall_mem_append.2 ⟨genuine_isDelivery hdelivery, ?_⟩
    simpa [Mark.Genuine] using hcomplete
  | completed hdelivery hfinished hcomplete =>
    refine List.forall_mem_append.2 ⟨genuine_isDelivery hdelivery, ?_⟩
    simpa [Mark.Genuine] using hcomplete

/-! ## Phases -/

theorem phases_isBuild {s : Session κ μ} {c : Course κ μ Unit} (h : IsBuild perform s c)
    (hclean : s.request.error = none) (hunbuilt : s.request.built = false) :
    match c.outcome with
    | .ok () => Mark.phases c.marks = [.validate, .build]
    | .error _ => PhaseOrder (Mark.phases c.marks ++ [.complete]) := by
  cases h with
  | failedBefore herror => simp_all
  | builtBefore _ hbuilt => simp_all
  | validateStopped => exact .invalid
  | validateFailed => exact .invalid
  | buildStopped => exact .unbuilt
  | buildFailed => exact .unbuilt
  | built => rfl

theorem phases_isAttempt {s : Session κ μ} {c : Course κ μ (Option FailureId)}
    (h : IsAttempt perform s c) : Mark.phases c.marks ∈ attemptPhases := by
  cases h <;> simp [attemptPhases]

theorem phases_isInterval {failure : FailureId} {s : Session κ μ} {c : Course κ μ Unit}
    (h : IsInterval perform failure s c) : Mark.phases c.marks = [.retry] := by
  cases h <;> rfl

theorem phases_isRound {s : Session κ μ} {c : Course κ μ (Option Value)}
    (h : IsRound perform s c) :
    match c.outcome with
    | .ok none => ∃ a ∈ attemptPhases, Mark.phases c.marks = a ++ [.retry]
    | _ => RoundOrder (Mark.phases c.marks ++ [.complete]) := by
  cases h with
  | attemptStopped hattempt => exact .last (phases_isAttempt hattempt)
  | succeeded hattempt => exact .last (phases_isAttempt hattempt)
  | declined hattempt => simpa using RoundOrder.last (phases_isAttempt hattempt)
  | @intervalStopped _ _ _ _ _ ns hattempt _ hinterval =>
    have hretry : Mark.phases ns = [.retry] := phases_isInterval hinterval
    simpa [hretry] using RoundOrder.retried (phases_isAttempt hattempt)
  | @again _ _ _ _ ns hattempt _ hinterval =>
    have hretry : Mark.phases ns = [.retry] := phases_isInterval hinterval
    exact ⟨_, phases_isAttempt hattempt, by simp [hretry]⟩

theorem phases_areRounds {s : Session κ μ} {c : Course κ μ Value} (h : AreRounds perform s c)
    (hfinished : c.IsFinished) :
    RoundOrder (Mark.phases c.marks ++ [.complete]) := by
  induction h with
  | givenUp => exact absurd rfl hfinished
  | succeeded hround => exact phases_isRound hround
  | stopped hround => exact phases_isRound hround
  | again hround hrest ih =>
    obtain ⟨a, ha, hphases⟩ := phases_isRound hround
    have hlater := RoundOrder.again ha (ih hfinished)
    simpa [show Mark.phases _ = _ from hphases] using hlater

theorem phases_isDelivery {s : Session κ μ} {c : Course κ μ Value} (h : IsDelivery perform s c)
    (hclean : s.request.error = none) (hunbuilt : s.request.built = false)
    (hfinished : c.IsFinished) :
    PhaseOrder (Mark.phases c.marks ++ [.complete]) := by
  cases h with
  | unbuilt hbuild => exact phases_isBuild hbuild hclean hunbuilt
  | built hbuild hrounds =>
    have hphases := phases_isBuild hbuild hclean hunbuilt
    simpa [show Mark.phases _ = _ from hphases] using
      PhaseOrder.attempted (phases_areRounds hrounds hfinished)

theorem phases_isSending {s : Session κ μ} {c : Course κ μ Value} (h : IsSending perform s c)
    (hclean : s.request.error = none) (hunbuilt : s.request.built = false)
    (hfinished : c.IsFinished) : PhaseOrder (Mark.phases c.marks) := by
  cases h with
  | givenUp => exact absurd rfl hfinished
  | completeStopped hdelivery hends hcomplete =>
    simpa using phases_isDelivery hdelivery hclean hunbuilt hends
  | completed hdelivery hends hcomplete =>
    simpa using phases_isDelivery hdelivery hclean hunbuilt hends

/-- With an error from before, there is nothing to run but the end. -/
theorem phases_isSending_of_error {s : Session κ μ} {c : Course κ μ Value}
    (h : IsSending perform s c) {id : FailureId} (herror : s.request.error = some id) :
    Mark.phases c.marks = [.complete] := by
  cases h with
  | givenUp hdelivery => cases hdelivery.of_error herror
  | completeStopped hdelivery => cases hdelivery.of_error herror; rfl
  | completed hdelivery => cases hdelivery.of_error herror; rfl

/-! ## The whole run -/

/-- The marks of a run are genuine and follow the turns one by one, up to the last turn if the run
is not given up.  The phases of a request that is new come in their order; a request that has failed
before runs its end only. -/
theorem send_follows_turns (perform : κ → Step κ μ Unit) (limit : Nat) (s : Session κ μ)
    (hunbuilt : s.request.built = false) :
    (∀ m ∈ ((send perform limit).run s).marks, m.Genuine perform) ∧
    (∃ t, Turn.follow (Turn.first s.request) ((send perform limit).run s).marks = some t ∧
      (((send perform limit).run s).IsFinished → t = .closed)) ∧
    (((send perform limit).run s).IsFinished →
      match s.request.error with
      | none => PhaseOrder (Mark.phases ((send perform limit).run s).marks)
      | some _ => Mark.phases ((send perform limit).run s).marks = [.complete]) := by
  have hrun := isSending_run perform s limit
  refine ⟨genuine_isSending hrun, follow_isSending hrun, fun hfinished => ?_⟩
  split
  case h_1 hclean => exact phases_isSending hrun hclean hunbuilt hfinished
  case h_2 herror => exact phases_isSending_of_error hrun herror

/-- A hook of the send phase fails twice, and the retryer agrees to one other attempt. -/
theorem send_follows_turns_of_failing_hook :
    let down : Failure := ⟨.told .transport "down", none, none, .answers (.bool true), none⟩
    let hooks : Hooks ScriptedHook := { Hooks.empty with
      send := ⟨[.bare (.scripted 0 .send none [.setError (some (.make down none none))] [])]⟩ }
    let s :=
      Session.plain "https://api.io" hooks (.ofPolicy .steady []) ⟨0, 1, 0, [], false⟩ [] #[0]
    let c := (send ScriptedHook.perform 2).run s
    s.request.built = false ∧ c.IsFinished ∧
      Mark.phases c.marks = [.validate, .build, .send, .retry, .send, .complete] ∧
      PhaseOrder (Mark.phases c.marks) := by
  refine ⟨rfl, by decide, by decide, ?_⟩
  exact (send_follows_turns ScriptedHook.perform 2 (Session.plain "https://api.io" _
    (.ofPolicy .steady []) ⟨0, 1, 0, [], false⟩ [] #[0]) rfl).2.2 (by decide)

/-- A request whose endpoint is no URL has failed when it is made, and runs only its complete phase.
-/
theorem invalid_endpoint_runs_no_validate :
    let s : Session ScriptedHook RunCounts :=
      Session.plain "https://a\nb.io" .empty .never .none [] #[]
    let c := (send ScriptedHook.perform 1).run s
    s.request.built = false ∧ c.IsFinished ∧ ¬ PhaseOrder (Mark.phases c.marks) := by
  have hphases : Mark.phases ((send ScriptedHook.perform 1).run
      (Session.plain "https://a\nb.io" .empty .never .none [] #[])).marks = [.complete] := by
    decide
  refine ⟨by decide, by decide, ?_⟩
  rw [hphases]
  nofun

end Drive

end RequestPipeline
