import RequestPipeline.Proofs.UntangledHooks
import RequestPipeline.Proofs.Waits

/-!
# Causes of what a run ends with

A wait that tells the end of its context links the failure of the last attempt behind the failure
that the end stands for.  That may be the very failure that the context was cancelled by, and the
attempt may have ended with it too, if the retryer asks for another attempt all the same.  Then the
failure becomes its own cause (`Session.TurnsBack`).  `Drive.causes_end_iff` says that this is the
only circle: whatever else the core hooks and hooks from outside do (`Mark.Supplies`), chains of
causes stay finite.
-/

namespace RequestPipeline

variable {κ μ : Type}

/-! ## Hooks -/

/-- The hooks run in order, each of them a core hook or one of the caller.  A hook of the caller
leaves the heap untangled: the failures that it supplies have causes of their own. -/
def EachSupplies (perform : κ → Step κ μ Unit) : List κ → Session κ μ → Prop
  | [], _ => True
  | callback :: rest, s =>
    ((∃ hook, perform callback = CoreHook.perform hook) ∨
      s.StaysUntangled ((perform callback).run s).2) ∧
    match (perform callback).run s with
    | (.ok (), after) => EachSupplies perform rest after
    | (.error _, _) => True

/-- A phase, if the mark is about one, with core hooks and hooks from outside that make no circle.
-/
def Mark.Supplies (perform : κ → Step κ μ Unit) : Mark κ μ → Prop
  | .phase p before _ _ =>
    EachSupplies perform (before.request.hooks.get p).callbacks (before.recorded (.phase p))
  | _ => True

theorem staysUntangled_runAll {perform : κ → Step κ μ Unit} {callbacks : List κ} {s : Session κ μ}
    (h : EachSupplies perform callbacks s) :
    s.StaysUntangled ((Request.runAll perform callbacks).run s).2 := by
  induction callbacks generalizing s with
  | nil => exact .refl s
  | cons callback rest ih =>
    obtain ⟨hfirst, hrest⟩ := h
    have hkeeps : s.StaysUntangled ((perform callback).run s).2 := by
      rcases hfirst with ⟨hook, hcore⟩ | houtside
      · rw [hcore]
        exact CoreHook.staysUntangled_perform hook s
      · exact houtside
    rw [Request.runAll, Step.run_bind]
    rcases hrun : (perform callback).run s with ⟨stop | _, after⟩ <;>
      simp only [hrun] at hkeeps hrest ⊢
    · exact hkeeps
    · exact hkeeps.trans (ih hrest)

theorem staysUntangled_runPhase {perform : κ → Step κ μ Unit} {p : Phase} {s s₁ : Session κ μ}
    {ending : Except Stop Unit} (h : (Request.runPhase perform p).run s = (ending, s₁))
    (hsupplies : (Mark.phase p s ending s₁).Supplies perform) : s.StaysUntangled s₁ := by
  have hrecorded : s.StaysUntangled (s.recorded (.phase p)) := .ofWorld _ rfl rfl
  have hall := hrecorded.trans (staysUntangled_runAll hsupplies)
  simp only [Request.runPhase, Step.run_bind, Step.run_record, Step.run_getRequest] at h
  rwa [show (Request.runAll perform (s.request.hooks.get p).callbacks).run
    (s.recorded (.phase p)) = (ending, s₁) from h] at hall

theorem eachSupplies_of_forall {perform : κ → Step κ μ Unit} {callbacks : List κ}
    (h : ∀ callback ∈ callbacks, (∃ hook, perform callback = CoreHook.perform hook) ∨
      (perform callback).StaysUntangled) (s : Session κ μ) : EachSupplies perform callbacks s := by
  induction callbacks generalizing s with
  | nil => trivial
  | cons callback rest ih =>
    refine ⟨(h callback List.mem_cons_self).imp_right fun hkeeps => hkeeps s, ?_⟩
    rcases (perform callback).run s with ⟨stop | _, after⟩
    · trivial
    · exact ih (fun callback' hmem => h callback' (List.mem_cons_of_mem callback hmem)) after

theorem supplies_coreHook (m : Mark CoreHook μ) : m.Supplies CoreHook.perform := by
  cases m with
  | phase => exact eachSupplies_of_forall (fun hook _ => .inl ⟨hook, rfl⟩) _
  | attempt | decision | wait => trivial

/-- Hooks given as data make no circle if the failures they supply have causes of their own. -/
theorem supplies_scriptedHook {p : Phase} {before after : Session ScriptedHook RunCounts}
    {ending : Except Stop Unit}
    (h : ∀ hook ∈ (before.request.hooks.get p).callbacks, hook.StandsAlone) :
    (Mark.phase p before ending after).Supplies ScriptedHook.perform :=
  eachSupplies_of_forall
    (fun hook hmem => .inr (ScriptedHook.staysUntangled_perform (h hook hmem))) _

/-! ## Ends of waits -/

namespace Session

/-- The context was cancelled by a cancellation error, and that is the failure of the last attempt
or one of its causes. -/
def TurnsBack (s : Session κ μ) (failure x : FailureId) : Prop :=
  s.request.context.cancelled = some (some x) ∧ s.world.failures.TellsEnd x ∧
    (x = failure ∨ s.world.failures.Behind failure x)

namespace StaysUntangled

variable (s : Session κ μ)

theorem atStage (stage : Stage) : s.StaysUntangled (s.atStage stage) := .ofRequest _ rfl rfl

theorem failed (place : String) : s.StaysUntangled (s.failed place) := by
  have hstage : s.StaysUntangled (s.atStage .failed) := atStage s .failed
  rw [Session.failed]
  split
  · exact hstage.trans (.logged _ _)
  · exact hstage

theorem waited (seconds : Float) : s.StaysUntangled (s.waited seconds) := by
  intro h
  exact ⟨h.of_same rfl h.error (fun _ hx => Context.endsBy_of_wait hx) fun _ ho => ho, .refl _⟩

theorem prepared : s.StaysUntangled s.prepared := by
  have hannounced : s.StaysUntangled s.announced := by
    rw [Session.announced]
    split
    · exact .logged _ _
    · exact .refl s
  exact hannounced.trans (.ofRequest _ (by rw [request_announced]) (by rw [request_announced]))

theorem closed : s.StaysUntangled s.closed := by
  rw [Session.closed]
  split
  · exact atStage s .completed
  · exact .refl s

theorem withoutError : s.StaysUntangled (s.withError none) := .withError fun _ => nofun

/-- What the end of the context stands for is recorded. -/
theorem withEnding {e : Context.Ending}
    (he : s.request.context.ending? s.world.clock = some e) :
    s.StaysUntangled ((s.withFailures (s.world.failures.ofEnding e).2).withError
      (some (s.world.failures.ofEnding e).1)) := by
  intro hs
  obtain ⟨hended, hgrows, htells, -⟩ := hs.ending he
  refine ⟨hended.of_same rfl (fun id hid => ?_) (fun _ hx => hx) fun _ ho => ho, hgrows⟩
  obtain rfl := Option.some.inj hid
  exact htells.knows

end StaysUntangled

end Session

namespace Request

variable {s after : Session κ μ} {failure id x : FailureId}

/-- The end of a context that has come: what it stands for is recorded, and the failure of the last
attempt put behind it. -/
theorem stopEnded_of_ending {e : Context.Ending}
    (hending : s.request.context.ending? s.world.clock = some e)
    (h : (stopEnded failure : Step κ μ Unit).run s = (.error (.raised id), after)) :
    let marked := ((s.withFailures (s.world.failures.ofEnding e).2).withError (some id)).failed
      "Retry"
    id = (s.world.failures.ofEnding e).1 ∧
      after = marked.withFailures ((s.world.failures.ofEnding e).2.setCause id (some failure)) := by
  simp only [stopEnded, Step.run_bind, run_cancellation, hending, Step.run_setError, run_markFailed,
    Step.run_setCause, Step.run_raise, Prod.mk.injEq, Except.error.injEq, Stop.raised.injEq] at h
  obtain ⟨rfl, rfl⟩ := h
  exact ⟨rfl, by simp [Session.withFailures, Session.withError]⟩

/-- The end of the wait puts the failure behind itself. -/
theorem stopEnded_turnsBack (hturns : s.TurnsBack failure x)
    (h : (stopEnded failure : Step κ μ Unit).run s = (.error (.raised id), after)) :
    id = x ∧ after.world.failures.Behind x x := by
  obtain ⟨hcancelled, htells, hbehind⟩ := hturns
  have hending : s.request.context.ending? s.world.clock = some (.cancelled (some x)) := by
    simp [Context.ending?, hcancelled]
  have hsame : s.world.failures.ofEnding (.cancelled (some x)) = (x, s.world.failures) := by
    rcases s.world.failures.ofEnding_cases (.cancelled (some x)) with ⟨_, ⟨⟩, -, h⟩ | ⟨hnot, -⟩
    · exact h
    · exact absurd htells (hnot x rfl)
  obtain ⟨hid, hafter⟩ := stopEnded_of_ending hending h
  rw [hsame] at hid hafter
  obtain rfl : id = x := hid
  refine ⟨rfl, ?_⟩
  have hupdate := Failures.causeOf?_setCause (Failures.knows_iff.1 htells.knows) (some failure)
  have hlinked : after.world.failures = s.world.failures.setCause id (some failure) := by
    rw [hafter]
    rfl
  rw [hlinked]
  have hcause : (s.world.failures.setCause id (some failure)).causeOf? id = some failure := by
    rw [hupdate, Function.update_self]
  rcases hbehind with rfl | hbehind
  · exact .single hcause
  · by_cases hne : failure = id
    · exact .single (hne ▸ hcause)
    · exact .head hcause (Failures.behind_update hupdate hne hbehind)

/-- Otherwise the end of the wait leaves chains finite. -/
theorem stopEnded_staysUntangled (hknown : s.world.failures.Knows failure)
    (hnot : ∀ x, ¬ s.TurnsBack failure x)
    (h : (stopEnded failure : Step κ μ Unit).run s = (.error (.raised id), after)) :
    s.StaysUntangled after := by
  cases hending : s.request.context.ending? s.world.clock with
  | none =>
    simp only [stopEnded, Step.run_bind, run_cancellation, hending, run_clearError, run_markFailed,
      Step.run_fail, Prod.mk.injEq, Except.error.injEq, Stop.raised.injEq] at h
    obtain ⟨-, rfl⟩ := h
    exact ((Session.StaysUntangled.withoutError s).trans (.failed _ _)).trans (.explained _ _)
  | some e =>
    intro hs
    obtain ⟨-, hgrows, htells, hfront⟩ := hs.ending hending
    obtain ⟨rfl, hafter⟩ := stopEnded_of_ending hending h
    -- the failure of the attempt is neither what the end stands for nor in front of that
    have hfree : failure ≠ (s.world.failures.ofEnding e).1 ∧
        ¬ (s.world.failures.ofEnding e).2.Behind failure (s.world.failures.ofEnding e).1 := by
      rcases s.world.failures.ofEnding_cases e with ⟨x, rfl, hx, hsame⟩ | ⟨-, reason, -, hnew⟩
      · have hturn := hnot x
        simp only [Session.TurnsBack, Context.cancelled_of_ending hending, hx, true_and,
          not_or] at hturn
        rw [hsame]
        exact ⟨fun heq => hturn.1 heq.symm, hturn.2⟩
      · rw [hnew, Failures.Behind, Failures.causeOf?_add_of_causeless _ rfl]
        refine ⟨?_, hs.causes.not_behind (Failures.not_knows_new _)⟩
        rintro rfl
        exact Failures.not_knows_new _ hknown
    obtain ⟨hmarked, -⟩ :=
      ((Session.StaysUntangled.withEnding s hending).trans (.failed _ "Retry")) hs
    have hlinked := hmarked.linked (c := failure) (by simpa using htells) (by simpa using hfront)
      (by simpa using hgrows.knows hknown) hfree.1 (by simpa using hfree.2)
    rw [hafter]
    refine ⟨by simpa using hlinked, ?_⟩
    exact hgrows.trans (Failures.grows_setCause _ _ (some failure))

end Request

/-! ## Runs -/

namespace Mark

/-- A wait tells the end of its context, and the last failure for which the retryer agreed to it is
about to be put behind itself. -/
def TurnsBack (ms : List (Mark κ μ)) (x : FailureId) : Prop :=
  ∃ t failure before seconds waited, (agreements ms).getLast? = some t ∧
    t.request.error = some failure ∧ .wait before seconds true waited ∈ ms ∧
    waited.TurnsBack failure x

theorem TurnsBack.behind {ns : List (Mark κ μ)} {x : FailureId} (h : TurnsBack ns x)
    (ms : List (Mark κ μ)) : TurnsBack (ms ++ ns) x := by
  obtain ⟨t, failure, before, seconds, waited, hlast, herror, hwait, hturns⟩ := h
  refine ⟨t, failure, before, seconds, waited, ?_, herror, List.mem_append_right ms hwait, hturns⟩
  simp [hlast]

end Mark

namespace Drive

open Request

variable {perform : κ → Step κ μ Unit} {s : Session κ μ} {x : FailureId}

theorem staysUntangled_isBuild {c : Course κ μ Unit} (h : IsBuild perform s c)
    (hsupplies : ∀ m ∈ c.marks, m.Supplies perform) : s.StaysUntangled c.after := by
  cases h with
  | failedBefore | builtBefore => exact .refl s
  | validateStopped _ _ hvalidate =>
    exact staysUntangled_runPhase hvalidate (hsupplies _ List.mem_cons_self)
  | validateFailed _ _ hvalidate =>
    exact (staysUntangled_runPhase hvalidate (hsupplies _ List.mem_cons_self)).trans (.failed _ _)
  | buildStopped _ _ hvalidate _ hbuild =>
    have hvalidated := staysUntangled_runPhase hvalidate (hsupplies _ (by simp))
    exact (hvalidated.trans (.atStage _ _)).trans
      (staysUntangled_runPhase hbuild (hsupplies _ (by simp)))
  | buildFailed _ _ hvalidate _ hbuild =>
    have hvalidated := staysUntangled_runPhase hvalidate (hsupplies _ (by simp))
    have hbuilt := staysUntangled_runPhase hbuild (hsupplies _ (by simp))
    exact ((hvalidated.trans (.atStage _ _)).trans hbuilt).trans (.failed _ _)
  | built _ _ hvalidate _ hbuild =>
    have hvalidated := staysUntangled_runPhase hvalidate (hsupplies _ (by simp))
    have hbuilt := staysUntangled_runPhase hbuild (hsupplies _ (by simp))
    exact ((hvalidated.trans (.atStage _ _)).trans hbuilt).trans (.ofRequest _ rfl rfl)

theorem staysUntangled_cancelled {id : FailureId} {failures : Failures}
    (h : (Step.cancellation? : Step κ μ _).run s = (.ok (some id), s.withFailures failures)) :
    s.StaysUntangled ((s.withFailures failures).withError (some id)) := by
  rw [run_cancellation] at h
  cases hending : s.request.context.ending? s.world.clock with
  | none => simp [hending] at h
  | some e =>
    simp only [hending, Prod.mk.injEq, Except.ok.injEq, Option.some.injEq] at h
    obtain ⟨rfl, hsame⟩ := h
    rw [← hsame]
    exact .withEnding s hending

theorem staysUntangled_isAttempt {c : Course κ μ (Option FailureId)} (h : IsAttempt perform s c)
    (hsupplies : ∀ m ∈ c.marks, m.Supplies perform) : s.StaysUntangled c.after := by
  cases h with
  | cancelled _ hcancel => exact (staysUntangled_cancelled hcancel).trans (.failed _ _)
  | sendStopped _ hsend => exact staysUntangled_runPhase hsend (hsupplies _ (by simp))
  | sendFailed _ hsend =>
    exact (staysUntangled_runPhase hsend (hsupplies _ (by simp))).trans (.failed _ _)
  | unmarshalStopped _ hsend _ hunmarshal =>
    have hsent := staysUntangled_runPhase hsend (hsupplies _ (by simp))
    exact (hsent.trans (.atStage _ _)).trans
      (staysUntangled_runPhase hunmarshal (hsupplies _ (by simp)))
  | unmarshalFailed _ hsend _ hunmarshal =>
    have hsent := staysUntangled_runPhase hsend (hsupplies _ (by simp))
    have hunmarshalled := staysUntangled_runPhase hunmarshal (hsupplies _ (by simp))
    exact ((hsent.trans (.atStage _ _)).trans hunmarshalled).trans (.failed _ _)
  | succeeded _ hsend _ hunmarshal =>
    have hsent := staysUntangled_runPhase hsend (hsupplies _ (by simp))
    exact (hsent.trans (.atStage _ _)).trans
      (staysUntangled_runPhase hunmarshal (hsupplies _ (by simp)))

/-- What follows a failed attempt, unless its wait puts a failure behind itself. -/
theorem staysUntangled_isInterval {failure : FailureId} {c : Course κ μ Unit}
    (h : IsInterval perform failure s c) (hsupplies : ∀ m ∈ c.marks, m.Supplies perform)
    (herror : s.request.error = some failure)
    (hnot : ∀ before seconds waited x, .wait before seconds true waited ∈ c.marks →
      ¬ waited.TurnsBack failure x) : s.StaysUntangled c.after := by
  cases h with
  | retryStopped hretry => exact staysUntangled_runPhase hretry (hsupplies _ (by simp))
  | replaced hretry =>
    exact (staysUntangled_runPhase hretry (hsupplies _ (by simp))).trans (.failed _ _)
  | @ended s₁ _ _ hretry _ _ hstop =>
    intro hs
    have hkept := staysUntangled_runPhase hretry (hsupplies _ (by simp))
    have hcounted := hkept.trans (.ofRequest s₁.counted.request rfl rfl)
    obtain ⟨hwaited, hgrows⟩ :=
      (hcounted.trans (.waited s₁.counted s₁.request.retryer.delay.1)) hs
    have hknown := hgrows.knows (hs.error failure herror)
    have hfree : ∀ x, ¬ (s₁.counted.waited s₁.request.retryer.delay.1).TurnsBack failure x :=
      fun x => hnot s₁.counted s₁.request.retryer.delay.1 _ x (by simp)
    obtain ⟨hstopped, hgrows'⟩ := stopEnded_staysUntangled hknown hfree hstop hwaited
    exact ⟨hstopped, hgrows.trans hgrows'⟩
  | @elapsed s₁ hretry =>
    have hkept := staysUntangled_runPhase hretry (hsupplies _ (by simp))
    have hcounted := hkept.trans (.ofRequest s₁.counted.request rfl rfl)
    exact (hcounted.trans (.waited s₁.counted s₁.request.retryer.delay.1)).trans (.prepared _)

theorem staysUntangled_isRound {c : Course κ μ (Option Value)} (h : IsRound perform s c)
    (hsupplies : ∀ m ∈ c.marks, m.Supplies perform) (hnot : ∀ x, ¬ Mark.TurnsBack c.marks x) :
    s.StaysUntangled c.after := by
  have hclear : s.StaysUntangled (s.withError none) := .withoutError s
  cases h with
  | attemptStopped hattempt => exact hclear.trans (staysUntangled_isAttempt hattempt hsupplies)
  | succeeded hattempt =>
    exact (hclear.trans (staysUntangled_isAttempt hattempt hsupplies)).trans (.atStage _ _)
  | declined hattempt =>
    exact hclear.trans (staysUntangled_isAttempt hattempt fun m hm =>
      hsupplies m (List.mem_append_left _ hm))
  | @intervalStopped failure s₁ ms _ _ ns hattempt _ hinterval
  | @again failure s₁ ms _ ns hattempt _ hinterval =>
    have herror := error_isAttempt hattempt
    have hattempted := hclear.trans (staysUntangled_isAttempt hattempt fun m hm =>
      hsupplies m (List.mem_append_left _ hm))
    refine hattempted.trans (staysUntangled_isInterval hinterval (fun m hm =>
      hsupplies m (by simp [hm])) herror fun before seconds waited x hwait hturns => ?_)
    obtain ⟨-, -, -, hnone⟩ := told_isInterval hinterval hwait
    refine hnot x ⟨s₁, failure, before, seconds, waited, ?_, herror, by simp [hwait], hturns⟩
    simp [agreements_isAttempt hattempt, show Mark.agreements ns = [] from hnone]

theorem staysUntangled_areRounds {c : Course κ μ Value} (h : AreRounds perform s c)
    (hsupplies : ∀ m ∈ c.marks, m.Supplies perform) (hnot : ∀ x, ¬ Mark.TurnsBack c.marks x) :
    s.StaysUntangled c.after := by
  induction h with
  | givenUp => exact .refl _
  | succeeded hround => exact staysUntangled_isRound hround hsupplies hnot
  | stopped hround => exact staysUntangled_isRound hround hsupplies hnot
  | @again s s₁ ms c hround _ ih =>
    have hfirst : s.StaysUntangled s₁ := by
      refine staysUntangled_isRound hround (fun m hm => hsupplies m (List.mem_append_left _ hm)) ?_
      -- a wait that tells an end would have been the last thing of the run
      rintro x ⟨-, -, before, seconds, waited, -, -, hwait, -⟩
      exact not_endsAsTold_ok (told_isRound hround hwait)
    exact hfirst.trans (ih (fun m hm => hsupplies m (List.mem_append_right _ hm))
      fun x hturns => hnot x (hturns.behind ms))

/-- Runs that put no failure behind itself leave chains finite. -/
theorem staysUntangled_isDelivery {c : Course κ μ Value} (h : IsDelivery perform s c)
    (hsupplies : ∀ m ∈ c.marks, m.Supplies perform) (hnot : ∀ x, ¬ Mark.TurnsBack c.marks x) :
    s.StaysUntangled c.after := by
  cases h with
  | unbuilt hbuild => exact staysUntangled_isBuild hbuild hsupplies
  | @built s₁ ms c hbuild hrounds =>
    have hbuilt := staysUntangled_isBuild hbuild fun m hm =>
      hsupplies m (List.mem_append_left _ hm)
    have hbegun : s.StaysUntangled s₁.begun := hbuilt.trans (.ofRequest _ rfl rfl)
    have hrest : s₁.begun.StaysUntangled c.after := by
      refine staysUntangled_areRounds hrounds (fun m hm => hsupplies m ?_) fun x hturns => ?_
      · exact List.mem_append_right _ hm
      · exact hnot x (hturns.behind ms)
    exact hbegun.trans hrest

/-- A run that puts a failure behind itself ends with it. -/
theorem turnsBack_isDelivery {c : Course κ μ Value} (h : IsDelivery perform s c)
    (hturns : Mark.TurnsBack c.marks x) :
    c.outcome = .error (.raised x) ∧ c.after.world.failures.Behind x x := by
  obtain ⟨t, failure, before, seconds, waited, hlast, herror, hwait, hback⟩ := hturns
  obtain ⟨t', failure', id, hlast', herror', houtcome, hstop⟩ := told_isDelivery h hwait
  obtain rfl : t' = t := Option.some.inj (hlast'.symm.trans hlast)
  obtain rfl : failure' = failure := Option.some.inj (herror'.symm.trans herror)
  obtain ⟨rfl, hcircle⟩ := stopEnded_turnsBack hback hstop
  exact ⟨houtcome, hcircle⟩

/-- Unless a wait puts a failure behind itself, all chains of causes come to an end, up to the end
of the run.  If it does so, that failure is what the run ends with, and is among its own causes. -/
theorem causes_end_iff (perform : κ → Step κ μ Unit) (limit : Nat) (s : Session κ μ)
    (hs : s.Untangled) (hsupplies : ∀ m ∈ ((send perform limit).run s).marks, m.Supplies perform) :
    let d := (deliver perform limit).run s
    let c := (send perform limit).run s
    ((∀ id, d.after.world.failures.Ends id) ↔ ∀ x, ¬ Mark.TurnsBack d.marks x) ∧
      ((∀ x, ¬ Mark.TurnsBack d.marks x) → ∀ id, c.after.world.failures.Ends id) ∧
      ∀ x, Mark.TurnsBack d.marks x →
        d.outcome = .error (.raised x) ∧ d.after.world.failures.Behind x x := by
  intro d c
  have hdelivery : IsDelivery perform s d := isDelivery_run perform s limit
  have hback : ∀ x, Mark.TurnsBack d.marks x →
      d.outcome = .error (.raised x) ∧ d.after.world.failures.Behind x x :=
    fun x hturns => turnsBack_isDelivery hdelivery hturns
  have hclosed := send_eq_or perform limit s
  have hsubset : ∀ m ∈ d.marks, m ∈ c.marks := by
    intro m hm
    rcases hclosed with hsame | ⟨_, _, -, hmarks, -⟩
    · rwa [show c = d from hsame]
    · rw [hmarks]
      exact List.mem_append_left _ hm
  have hdelivered : (∀ x, ¬ Mark.TurnsBack d.marks x) → s.StaysUntangled d.after :=
    staysUntangled_isDelivery hdelivery fun m hm => hsupplies m (hsubset m hm)
  refine ⟨⟨fun hends x hturns => ?_, fun hnot => ?_⟩, fun hnot => ?_, hback⟩
  · exact (hback x hturns).2.not_ends (hends x)
  · exact (hdelivered hnot hs).1.causes.ends
  · rcases hclosed with hsame | ⟨ending, s₁, hcomplete, hmarks, hafter⟩
    · rw [show c = d from hsame]
      exact (hdelivered hnot hs).1.causes.ends
    · have hfilled : s.StaysUntangled d.after.filled :=
        (hdelivered hnot).trans (.ofRequest _ rfl rfl)
      have hcompleted : s.StaysUntangled s₁ := by
        refine hfilled.trans (staysUntangled_runPhase hcomplete (hsupplies _ ?_))
        rw [hmarks]
        exact List.mem_append_right _ List.mem_cons_self
      have hend : s.StaysUntangled c.after := by
        rcases hafter with h | h
        · exact h ▸ hcompleted
        · exact h ▸ hcompleted.trans (.closed s₁)
      exact (hend hs).1.causes.ends

/-- A request whose connections are refused, and which is worth another attempt whatever happens.
Its context may be cancelled by the only failure there is. -/
def refused (context : Context) : Session CoreHook Unit :=
  let refusal : FailureSpec :=
    .make (.ofReason (.told (.outside (.network .connectError)) "refused")) none none
  let s := Session.plain "https://api.io" (CoreHook.template id)
    (.ofPolicy ⟨1, 1, 1, 0⟩ []) ⟨0, 1, 0, [], true⟩ [⟨0, none, .failure refusal⟩] ()
  { world := { s.world with failures := ⟨#[.ofReason (.told .cancelled "stop")], []⟩ }
    request := { s.request with context } }

theorem untangled_refused {context : Context} (h : ∀ x, context.EndsBy x → x = 0) :
    (refused context).Untangled := by
  have hcauseless : ∀ id, (refused context).world.failures.causeOf? id = none := by
    intro id
    match id with
    | 0 | _ + 1 => rfl
  have hclean : (refused context).request.error = none := by
    change (refused .background).request.error = none
    decide +kernel
  refine .of_causeless hcauseless (fun x hx => ?_) (fun id herror => ?_) fun o ho => ?_
  · rcases hx with hends | ⟨label, hlabel⟩
    · obtain rfl := h x hends
      exact ⟨_, rfl⟩
    · cases hlabel
  · simp [hclean] at herror
  · obtain rfl := List.mem_singleton.1 ho
    refine ⟨nofun, ?_⟩
    rintro spec ⟨⟩
    exact ⟨rfl, nofun⟩

theorem outcome_of_map {outcome : Except Stop Value} {stop : Stop}
    (h : outcome.map (fun _ => ()) = .error stop) : outcome = .error stop := by
  cases outcome with
  | error stop' => simpa [Except.map] using h
  | ok v => simp [Except.map] at h

/-- A cancellation during the wait is put in front of the failure of the attempt, and that in front
of the refusal. -/
theorem cancelled_wait_ends :
    let s := refused ⟨none, none, [⟨1000.5, some 0⟩]⟩
    let c := (send CoreHook.perform 2).run s
    s.Untangled ∧ (∀ m ∈ c.marks, m.Supplies CoreHook.perform) ∧
      c.outcome = .error (.raised 0) ∧ c.after.world.failures.causeOf? 0 = some 2 ∧
      c.after.world.failures.causeOf? 2 = some 1 ∧ c.after.world.failures.causeOf? 1 = none ∧
      ∀ id, c.after.world.failures.Ends id := by
  intro s c
  have hs : s.Untangled := untangled_refused fun x hends => by
    simpa [Context.EndsBy, eq_comm] using hends
  have hsupplies : ∀ m ∈ c.marks, m.Supplies CoreHook.perform := fun m _ => supplies_coreHook m
  obtain ⟨-, hends, hback⟩ := causes_end_iff CoreHook.perform 2 s hs hsupplies
  have hraised : c.outcome.map (fun _ => ()) = .error (.raised 0) := by decide +kernel
  have hlinks : c.after.world.failures.causeOf? 0 = some 2 ∧
      c.after.world.failures.causeOf? 2 = some 1 ∧ c.after.world.failures.causeOf? 1 = none := by
    decide +kernel
  have hleft : ((deliver CoreHook.perform 2).run s).outcome.map (fun _ => ()) = .error (.raised 0) ∧
      ((deliver CoreHook.perform 2).run s).after.world.failures.causeOf? 0 = some 2 ∧
      ((deliver CoreHook.perform 2).run s).after.world.failures.causeOf? 2 = some 1 ∧
      ((deliver CoreHook.perform 2).run s).after.world.failures.causeOf? 1 = none := by
    decide +kernel
  -- a failure that turned back would be the one that is raised, which is not among its own causes
  have hfree : ∀ x, ¬ Mark.TurnsBack ((deliver CoreHook.perform 2).run s).marks x := by
    intro x hturns
    obtain ⟨hx, hcircle⟩ := hback x hturns
    obtain ⟨hzero, hfirst, hsecond, hlast⟩ := hleft
    rw [hx] at hzero
    obtain rfl : x = 0 := by simpa [Except.map] using hzero
    rcases (Failures.behind_iff hfirst).1 hcircle with hne | hbehind
    · cases hne
    · rcases (Failures.behind_iff hsecond).1 hbehind with hne | hbehind
      · cases hne
      · exact hbehind.causeOf?_ne_none hlast
  have hall : ∀ id, c.after.world.failures.Ends id := by simpa only [c] using hends hfree
  exact ⟨hs, hsupplies, outcome_of_map hraised, hlinks.1, hlinks.2.1, hlinks.2.2, hall⟩

/-- A request that was cancelled before its first attempt: the wait for another one puts the
cancellation behind itself. -/
theorem cancellation_becomes_its_own_cause :
    let s := refused ⟨none, some (some 0), []⟩
    let c := (send CoreHook.perform 2).run s
    s.Untangled ∧ (∀ m ∈ c.marks, m.Supplies CoreHook.perform) ∧
      c.outcome = .error (.raised 0) ∧ c.after.world.failures.causeOf? 0 = some 0 ∧
      ¬ c.after.world.failures.Ends 0 := by
  intro s c
  have hs : s.Untangled := untangled_refused fun x hends => by
    simpa [Context.EndsBy, eq_comm] using hends
  have hcause : c.after.world.failures.causeOf? 0 = some 0 := by decide +kernel
  have hself : c.after.world.failures.Behind 0 0 := .single hcause
  have hraised : c.outcome.map (fun _ => ()) = .error (.raised 0) := by decide +kernel
  exact ⟨hs, fun m _ => supplies_coreHook m, outcome_of_map hraised, hcause, hself.not_ends⟩

end Drive

end RequestPipeline
