import RequestPipeline.Proofs.Courses
import RequestPipeline.Script

/-!
# Outcome, error and stage

The driver records each failure that it raises itself in the error of the request, and puts the
request into the failed stage.  A failure that a hook raises goes past the driver.  So
`agrees_iff_recorded`: error and stage of the request tell the outcome of the run if and only if
each hook that raised a failure had recorded it.
-/

namespace RequestPipeline

variable {κ μ α : Type}

/-- Any stage. -/
def Stage.Any : Stage → Prop := fun _ => True

/-- The stage of a request that has failed. -/
def Stage.IsFailed : Stage → Prop := fun stage => stage = .failed

instance : DecidablePred Stage.Any := fun _ => .isTrue trivial

instance : DecidablePred Stage.IsFailed := fun stage =>
  inferInstanceAs (Decidable (stage = .failed))

/-- The error of the request is `e`, at one of some stages. -/
def Session.Tells (P : Stage → Prop) (s : Session κ μ) (e : FailureId) : Prop :=
  s.request.error = some e ∧ P s.request.stage

/-- The request tells the outcome of the run: that it is completed, or how it has failed. -/
def Course.Agrees (c : Course κ μ α) : Prop :=
  match c.outcome with
  | .ok _ => c.after.request.error = none ∧ c.after.request.stage = .completed
  | .error (.raised e) => c.after.Tells Stage.IsFailed e
  | .error .unfinished => True

/-- Up to its end a request tells how it has failed, or that it has not. -/
def Course.Settled (P : Stage → Prop) (c : Course κ μ α) : Prop :=
  match c.outcome with
  | .ok _ => c.after.request.error = none
  | .error (.raised e) => c.after.Tells P e
  | .error .unfinished => True

namespace Mark

/-- A phase that raised a failure has left it on the request, at one of some stages, and a context
that told its end had ended. -/
def Recorded (P : Stage → Prop) : Mark κ μ → Prop
  | .phase _ _ (.error (.raised e)) after => after.Tells P e
  | .wait _ _ true after => after.isEnded = true
  | _ => True

/-- A complete phase came to its end and left the error of the request. -/
def Quiet : Mark κ μ → Prop
  | .phase .complete before (.ok ()) after => after.request.error = before.request.error
  | .phase .complete _ (.error _) _ => False
  | _ => True

/-- A complete phase left the stage of the request. -/
def KeepsStage : Mark κ μ → Prop
  | .phase .complete before (.ok ()) after => after.request.stage = before.request.stage
  | _ => True

instance (P : Stage → Prop) [DecidablePred P] (s : Session κ μ) (e : FailureId) :
    Decidable (s.Tells P e) :=
  inferInstanceAs (Decidable (_ ∧ _))

instance (P : Stage → Prop) [DecidablePred P] :
    DecidablePred (Recorded P : Mark κ μ → Prop) := fun m =>
  match m with
  | .phase _ _ (.error (.raised e)) after => inferInstanceAs (Decidable (after.Tells P e))
  | .wait _ _ true after => inferInstanceAs (Decidable (after.isEnded = true))
  | .phase _ _ (.error .unfinished) _ | .phase _ _ (.ok ()) _ | .wait _ _ false _
  | .attempt _ | .decision _ _ => .isTrue trivial

instance : DecidablePred (Quiet : Mark κ μ → Prop) := fun m =>
  match m with
  | .phase .complete before (.ok ()) after =>
    inferInstanceAs (Decidable (after.request.error = before.request.error))
  | .phase .complete _ (.error _) _ => .isFalse id
  | .phase .validate _ _ _ | .phase .build _ _ _ | .phase .send _ _ _ | .phase .unmarshal _ _ _
  | .phase .retry _ _ _ | .attempt _ | .decision _ _ | .wait _ _ _ _ => .isTrue trivial

/-- Every mark is recorded. -/
def AllRecorded (P : Stage → Prop) (ms : List (Mark κ μ)) : Prop := ∀ m ∈ ms, m.Recorded P

section Recorded

variable (p : Phase) (before after s : Session κ μ) (accepted : Bool) (seconds : Float)
  (ms ns : List (Mark κ μ)) (P : Stage → Prop)

@[simp] theorem allRecorded_append :
    AllRecorded P (ms ++ ns) ↔ AllRecorded P ms ∧ AllRecorded P ns :=
  List.forall_mem_append

@[simp] theorem allRecorded_nil : AllRecorded P ([] : List (Mark κ μ)) :=
  List.forall_mem_nil _

@[simp] theorem allRecorded_ran :
    AllRecorded P (.phase p before (.ok ()) after :: ms) ↔ AllRecorded P ms := by
  simp [AllRecorded, Recorded]

@[simp] theorem allRecorded_raised (e : FailureId) :
    AllRecorded P (.phase p before (.error (.raised e)) after :: ms) ↔
      after.Tells P e ∧ AllRecorded P ms := by
  simp [AllRecorded, Recorded]

@[simp] theorem allRecorded_unfinished :
    AllRecorded P (.phase p before (.error .unfinished) after :: ms) ↔ AllRecorded P ms := by
  simp [AllRecorded, Recorded]

@[simp] theorem allRecorded_attempt : AllRecorded P (.attempt s :: ms) ↔ AllRecorded P ms := by
  simp [AllRecorded, Recorded]

@[simp] theorem allRecorded_decision :
    AllRecorded P (.decision s accepted :: ms) ↔ AllRecorded P ms := by
  simp [AllRecorded, Recorded]

@[simp] theorem allRecorded_elapsed :
    AllRecorded P (.wait before seconds false after :: ms) ↔ AllRecorded P ms := by
  simp [AllRecorded, Recorded]

@[simp] theorem allRecorded_ended :
    AllRecorded P (.wait before seconds true after :: ms) ↔
      after.isEnded = true ∧ AllRecorded P ms := by
  simp [AllRecorded, Recorded]

end Recorded

end Mark

namespace Session

variable (s : Session κ μ) (e : FailureId) {P : Stage → Prop}

theorem tells_failed (hP : P .failed) (place : String) :
    (s.failed place).Tells P e ↔ s.request.error = some e := by
  simp [Tells, hP]

/-- The end of a wait is told if and only if the context has ended. -/
theorem tells_stopEnded (hP : P .failed) {s s₁ : Session κ μ} {failure e : FailureId}
    (h : (Request.stopEnded failure : Step κ μ Unit).run s = (.error (.raised e), s₁)) :
    s₁.Tells P e ↔ s.isEnded = true := by
  cases hend : s.isEnded with
  | true =>
    obtain ⟨id, after, hrun, hrequest⟩ := Request.run_stopEnded_of_ended s failure hend
    obtain ⟨rfl, rfl⟩ : id = e ∧ after = s₁ := by simpa [hrun] using h
    simp [Tells, hrequest, hP]
  | false =>
    obtain ⟨id, after, hrun, hrequest⟩ := Request.run_stopEnded_of_live s failure hend
    obtain ⟨rfl, rfl⟩ : id = e ∧ after = s₁ := by simpa [hrun] using h
    simp [Tells, hrequest]

end Session

namespace Drive

open Request

variable {perform : κ → Step κ μ Unit} {P : Stage → Prop}

/-! ## Up to the outcome -/

/-- A request that has been built has no error. -/
theorem error_isBuild {s s₁ : Session κ μ} {ms} (h : IsBuild perform s ⟨.ok (), s₁, ms⟩) :
    s₁.request.error = none := by
  cases h <;> simp_all

theorem settled_isBuild (hP : P .failed) {s : Session κ μ} {c : Course κ μ Unit}
    (h : IsBuild perform s c)
    (hbefore : ∀ id, s.request.error = some id → P s.request.stage) :
    c.Settled P ↔ Mark.AllRecorded P c.marks := by
  cases h with
  | failedBefore herror => simp [Course.Settled, Session.Tells, herror, hbefore _ herror]
  | builtBefore hclean => simp [Course.Settled, hclean]
  | @validateStopped stop => cases stop <;> simp [Course.Settled]
  | validateFailed _ _ _ herror => simp [Course.Settled, Session.tells_failed _ _ hP, herror]
  | @buildStopped s₁ stop => cases stop <;> simp [Course.Settled]
  | buildFailed _ _ _ _ _ herror => simp [Course.Settled, Session.tells_failed _ _ hP, herror]
  | built _ _ _ _ _ hdone => simp [Course.Settled, hdone]

theorem settled_isAttempt (hP : P .failed) {s : Session κ μ} {c : Course κ μ (Option FailureId)}
    (h : IsAttempt perform s c) :
    match c.outcome with
    | .ok none => c.after.request.error = none ∧ Mark.AllRecorded P c.marks
    | .ok (some e) => c.after.Tells P e ∧ Mark.AllRecorded P c.marks
    | .error (.raised e) => c.after.Tells P e ↔ Mark.AllRecorded P c.marks
    | .error .unfinished => Mark.AllRecorded P c.marks := by
  cases h with
  | cancelled => simp [Session.tells_failed _ _ hP]
  | @sendStopped stop => cases stop <;> simp
  | sendFailed _ _ herror => simp [Session.tells_failed _ _ hP, herror]
  | @unmarshalStopped _ stop => cases stop <;> simp
  | unmarshalFailed _ _ _ _ herror => simp [Session.tells_failed _ _ hP, herror]
  | succeeded _ _ _ _ hdone => simp [hdone]

theorem settled_isInterval (hP : P .failed) {failure : FailureId} {s : Session κ μ}
    {c : Course κ μ Unit} (h : IsInterval perform failure s c) :
    match c.outcome with
    | .error (.raised e) => c.after.Tells P e ↔ Mark.AllRecorded P c.marks
    | _ => Mark.AllRecorded P c.marks := by
  cases h with
  | @retryStopped stop => cases stop <;> simp
  | replaced _ herror => simp [Session.tells_failed _ _ hP, herror]
  | ended _ _ _ hstop => simp [Session.tells_stopEnded hP hstop]
  | elapsed => simp

theorem settled_isRound (hP : P .failed) {s : Session κ μ} {c : Course κ μ (Option Value)}
    (h : IsRound perform s c) :
    match c.outcome with
    | .ok none => Mark.AllRecorded P c.marks
    | _ => c.Settled P ↔ Mark.AllRecorded P c.marks := by
  cases h with
  | @attemptStopped stop _ _ hattempt =>
    have hms := settled_isAttempt hP hattempt
    cases stop with
    | raised e => exact hms
    | unfinished => exact iff_of_true trivial hms
  | succeeded hattempt =>
    obtain ⟨hclean, hms⟩ := settled_isAttempt hP hattempt
    exact iff_of_true hclean hms
  | declined hattempt =>
    obtain ⟨htells, hms⟩ := settled_isAttempt hP hattempt
    exact iff_of_true htells (by simpa using hms)
  | @intervalStopped _ _ ms stop _ ns hattempt _ hinterval =>
    have hns := settled_isInterval hP hinterval
    have hms : Mark.AllRecorded P ms := (settled_isAttempt hP hattempt).2
    cases stop with
    | raised e => simpa [Course.Settled, hms] using hns
    | unfinished =>
      have hns : Mark.AllRecorded P ns := hns
      exact iff_of_true trivial (by simp [hms, hns])
  | @again _ _ ms _ ns hattempt _ hinterval =>
    have hns : Mark.AllRecorded P ns := settled_isInterval hP hinterval
    have hms : Mark.AllRecorded P ms := (settled_isAttempt hP hattempt).2
    simpa using ⟨hms, hns⟩

theorem settled_areRounds (hP : P .failed) {s : Session κ μ} {c : Course κ μ Value}
    (h : AreRounds perform s c) :
    c.Settled P ↔ Mark.AllRecorded P c.marks := by
  induction h with
  | givenUp => simp [Course.Settled]
  | succeeded hround => exact settled_isRound hP hround
  | @stopped _ stop _ _ hround =>
    have hms := settled_isRound hP hround
    cases stop <;> exact hms
  | @again _ _ ms c hround hrest ih =>
    have hms : Mark.AllRecorded P ms := settled_isRound hP hround
    change c.Settled P ↔ _
    simpa [hms] using ih

theorem settled_isDelivery (hP : P .failed) {s : Session κ μ} {c : Course κ μ Value}
    (h : IsDelivery perform s c)
    (hbefore : ∀ id, s.request.error = some id → P s.request.stage) :
    c.Settled P ↔ Mark.AllRecorded P c.marks := by
  cases h with
  | @unbuilt stop _ _ hbuild =>
    have hms := settled_isBuild hP hbuild hbefore
    cases stop <;> exact hms
  | @built _ ms c hbuild hrounds =>
    have hms : Mark.AllRecorded P ms := (settled_isBuild hP hbuild hbefore).1 (error_isBuild hbuild)
    change c.Settled P ↔ _
    simpa [hms] using settled_areRounds hP hrounds

/-! ## With the end -/

/-- A quiet end tells what was told before it, if a request with an error has failed then. -/
theorem agrees_closed {outcome : Except Stop α} {s₁ s₂ : Session κ μ} (ms ns : List (Mark κ μ))
    (herror : s₂.request.error = s₁.filled.request.error) (hends : outcome ≠ .error .unfinished) :
    (⟨outcome, s₂.closed, ns⟩ : Course κ μ α).Agrees ↔
      (⟨outcome, s₁, ms⟩ : Course κ μ α).Settled Stage.Any ∧
        (s₂.closed.request.error ≠ none → s₂.closed.request.stage = .failed) := by
  rw [Session.request_filled] at herror
  cases hnone : s₁.request.error <;> rcases outcome with (id | _) | v <;>
    simp_all [Course.Agrees, Course.Settled, Session.Tells, Session.closed, Stage.Any,
      Stage.IsFailed]

/-- A quiet end that leaves the stage tells what was told before it. -/
theorem agrees_closed_of_keepsStage {outcome : Except Stop α} {s₁ s₂ : Session κ μ}
    (ms ns : List (Mark κ μ)) (herror : s₂.request.error = s₁.filled.request.error)
    (hstage : s₂.request.stage = s₁.filled.request.stage) :
    (⟨outcome, s₂.closed, ns⟩ : Course κ μ α).Agrees ↔
      (⟨outcome, s₁, ms⟩ : Course κ μ α).Settled Stage.IsFailed := by
  rw [Session.request_filled] at herror hstage
  cases hnone : s₁.request.error <;> rcases outcome with (id | _) | v <;>
    simp_all [Course.Agrees, Course.Settled, Session.Tells, Session.closed]

/-- The request tells the outcome of a run with a quiet complete phase if and only if every failure
that ended it was recorded where it was raised, and the request, if it has an error, has failed in
the end.  Where the complete phase leaves the stage too, this means that the request had failed
wherever a failure was raised. -/
theorem agrees_iff_recorded (perform : κ → Step κ μ Unit) (limit : Nat) (s : Session κ μ)
    (hfinished : ((send perform limit).run s).IsFinished)
    (hquiet : ∀ m ∈ ((send perform limit).run s).marks, m.Quiet) :
    (((send perform limit).run s).Agrees ↔
      (∀ m ∈ ((send perform limit).run s).marks, m.Recorded Stage.Any) ∧
        (((send perform limit).run s).after.request.error ≠ none →
          ((send perform limit).run s).after.request.stage = .failed)) ∧
    ((∀ m ∈ ((send perform limit).run s).marks, m.KeepsStage) →
      (((send perform limit).run s).Agrees ↔
        (∀ id, s.request.error = some id → s.request.stage = .failed) ∧
          ∀ m ∈ ((send perform limit).run s).marks, m.Recorded Stage.IsFailed)) := by
  generalize hc : (send perform limit).run s = c at *
  have hrun : IsSending perform s c := hc ▸ isSending_run perform s limit
  cases hrun with
  | givenUp => exact absurd rfl hfinished
  | completeStopped => exact absurd (hquiet _ (List.mem_append_right _ List.mem_cons_self)) id
  | @completed outcome s₁ ms s₂ hdelivery hends hcomplete =>
    have herror : s₂.request.error = s₁.filled.request.error :=
      hquiet _ (List.mem_append_right _ List.mem_cons_self)
    constructor
    · change _ ↔ Mark.AllRecorded _ _ ∧ _
      rw [agrees_closed ms _ herror hends, settled_isDelivery trivial hdelivery fun _ _ => trivial]
      simp
    · intro hkept
      have hstage : s₂.request.stage = s₁.filled.request.stage :=
        hkept _ (List.mem_append_right _ List.mem_cons_self)
      change _ ↔ _ ∧ Mark.AllRecorded _ _
      rw [agrees_closed_of_keepsStage ms _ herror hstage]
      by_cases hbefore : ∀ id, s.request.error = some id → s.request.stage = .failed
      · rw [and_iff_right hbefore, settled_isDelivery (P := Stage.IsFailed) rfl
          hdelivery hbefore]
        simp
      · obtain ⟨id, hid, hother⟩ : ∃ id, s.request.error = some id ∧ s.request.stage ≠ .failed := by
          simpa using hbefore
        cases hdelivery.of_error hid
        simp [Course.Settled, Session.Tells, Stage.IsFailed, hid, hother]

/-- A request whose send phase does one thing, and which is never tried again. -/
def acting (action : Action) : Session ScriptedHook RunCounts :=
  Session.plain "https://api.io"
    { Hooks.empty with send := ⟨[.bare (.scripted 0 .send none [action] [])]⟩ } .never .none [] #[0]

/-- A transport error with the text `broken`. -/
def broken : FailureSpec := .make (.ofReason (.told .transport "broken")) none none

theorem recorded_failure_agrees :
    let c := (send ScriptedHook.perform 1).run (acting (.setError (some broken)))
    c.IsFinished ∧ (∀ m ∈ c.marks, m.Quiet) ∧ c.Agrees := by
  intro c
  have hfinished : c.IsFinished := by decide
  have hquiet : ∀ m ∈ c.marks, m.Quiet := by decide
  have hrecorded : ∀ m ∈ c.marks, m.Recorded Stage.Any := by decide
  have hfailed : c.after.request.stage = .failed := by decide
  refine ⟨hfinished, hquiet, ?_⟩
  exact (agrees_iff_recorded ScriptedHook.perform 1 _ hfinished hquiet).1.2
    ⟨hrecorded, fun _ => hfailed⟩

/-- A hook that raises its failure leaves a request that says it is completed. -/
theorem raised_failure_leaves_completed :
    let c := (send ScriptedHook.perform 1).run (acting (.raise broken))
    (∀ m ∈ c.marks, m.Quiet) ∧ c.outcome = .error (.raised 0) ∧
      c.after.request.error = none ∧ c.after.request.stage = .completed ∧ ¬ c.Agrees := by
  refine ⟨by decide, rfl, by decide, by decide, ?_⟩
  rintro ⟨herror, -⟩
  cases herror

end Drive

end RequestPipeline
