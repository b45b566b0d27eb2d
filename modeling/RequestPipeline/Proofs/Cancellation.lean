import RequestPipeline.Proofs.Calls
import RequestPipeline.Proofs.Readings

/-!
# Cancellation

An attempt looks at its context before it sends anything, and asks the retryer about the failure
that it makes of a context that has ended.  The retryer may agree, but the wait for the next
attempt tells that the context has ended, as long as the clock goes on and no hook replaces the
context (`Mark.Steady`).  So `cancellation_is_final`: nothing is sent any more, and the run ends
with that failure unless a retry or a complete hook puts another one in its place
(`Mark.Overrides`).
-/

namespace RequestPipeline

variable {κ μ : Type}

/-! ## Contexts -/

namespace Context

/-- One context comes after another: it has the same deadline and has not lost a cancellation. -/
def Keeps (c c' : Context) : Prop :=
  c'.deadline = c.deadline ∧ (c.cancelled = none ∨ c'.cancelled = c.cancelled)

instance (c c' : Context) : Decidable (c.Keeps c') := inferInstanceAs (Decidable (_ ∧ _))

theorem isDone_iff {c : Context} {now : Float} :
    c.isDone now = true ↔ c.cancelled ≠ none ∨ ∃ d, c.deadline = some d ∧ d ≤ now := by
  simp only [isDone, isExpired]
  cases hcancelled : c.cancelled <;> cases hdeadline : c.deadline <;> simp

/-- The end of a context lasts. -/
theorem Keeps.isDone {c c' : Context} {now later : Float} (h : c.Keeps c') (htime : now ≤ later)
    (hdone : c.isDone now = true) : c'.isDone later = true := by
  obtain ⟨hdeadline, hcancelled⟩ := h
  rcases isDone_iff.1 hdone with hsome | ⟨d, hd, hle⟩
  · refine isDone_iff.2 (.inl ?_)
    rwa [hcancelled.resolve_left hsome]
  · exact isDone_iff.2 (.inr ⟨d, hdeadline.trans hd, Reading.le_trans hle htime⟩)

/-- A sleep of no length keeps a context that has ended. -/
theorem isDone_sleep_zero {c : Context} {now : Float} (hdone : c.isDone now = true) :
    (c.sleep now 0).2.isDone (c.sleep now 0).1 = true := by
  rw [sleep]
  cases hcancelled : c.cancelled with
  | some cause => simp [isDone, hcancelled]
  | none =>
    cases hearliest : earliest? (c.scheduled.filter fun s => decide (s.time ≤ now + 0)) with
    | some s => simp [cancel, hcancelled, isDone]
    | none =>
      obtain ⟨d, hd, hle⟩ : ∃ d, c.deadline = some d ∧ d ≤ now := by
        simpa [hcancelled] using isDone_iff.1 hdone
      exact isDone_iff.2 (.inr ⟨d, hd, Reading.le_add_zero hle⟩)

/-- A wait tells that the context has ended before, and leaves it so. -/
theorem wait_of_isDone {c : Context} {now : Float} (hdone : c.isDone now = true)
    (seconds : Float) :
    (c.wait now seconds).done = true ∧
      (c.wait now seconds).context.isDone (c.wait now seconds).now = true := by
  by_cases hcancelled : c.cancelled = none
  · -- Nothing is left up to the deadline, so the sleep has no length.
    obtain ⟨d, hd, hle⟩ : ∃ d, c.deadline = some d ∧ d ≤ now := by
      simpa [hcancelled] using isDone_iff.1 hdone
    have hleft : c.remaining? now = some 0 := by
      simp [remaining?, hd, positivePart, Reading.not_pos_sub hle]
    have hslept := isDone_sleep_zero hdone
    simp only [wait, hleft]
    split
    case isTrue => exact ⟨rfl, hslept⟩
    case isFalse hnone =>
      have hzero : positivePart seconds = 0 := by
        rw [positivePart] at hnone ⊢
        split
        case isTrue hpos => simp [hpos] at hnone
        case isFalse => rfl
      rw [hzero]
      exact ⟨hslept, hslept⟩
  · have hsleep (timeout : Float) : c.sleep now timeout = (now, c) := by
      obtain ⟨cause, hcause⟩ := Option.ne_none_iff_exists'.1 hcancelled
      rw [sleep, hcause]
    simp only [wait, hsleep]
    cases c.remaining? now with
    | none => exact ⟨hdone, hdone⟩
    | some left =>
      dsimp only
      split
      · exact ⟨rfl, hdone⟩
      · exact ⟨hdone, hdone⟩

end Context

/-! ## Failures -/

namespace Failures

/-- The failure is a cancellation or a deadline error. -/
def TellsEnd (fs : Failures) (id : FailureId) : Prop := fs.kindAt? id = some .cancelled

instance (fs : Failures) (id : FailureId) : Decidable (fs.TellsEnd id) :=
  inferInstanceAs (Decidable (_ = _))

/-- What tells the end of a context does so later. -/
def KeepsEnds (fs fs' : Failures) : Prop := ∀ id < fs.all.size, fs.TellsEnd id → fs'.TellsEnd id

instance (fs fs' : Failures) : Decidable (fs.KeepsEnds fs') :=
  inferInstanceAs (Decidable (∀ id < fs.all.size, fs.TellsEnd id → fs'.TellsEnd id))

variable {fs fs' : Failures} {id : FailureId}

theorem KeepsEnds.tellsEnd (h : fs.KeepsEnds fs') (hid : fs.TellsEnd id) : fs'.TellsEnd id := by
  refine h id ?_ hid
  by_contra hout
  simp [TellsEnd, kindAt?, reasonAt?, get?, Array.getElem?_eq_none (Nat.le_of_not_lt hout)] at hid

/-- The end of a context stands for a failure that tells it. -/
theorem tellsEnd_ofEnding (fs : Failures) (e : Context.Ending) :
    (fs.ofEnding e).2.TellsEnd (fs.ofEnding e).1 := by
  have hadd (reason : Failure.Reason) (hkind : reason.kind = .cancelled) :
      (fs.add (.ofReason reason)).2.TellsEnd (fs.add (.ofReason reason)).1 :=
    (kindAt?_of_reasonAt? (reasonAt?_add_self fs (.ofReason reason))).trans (congrArg some hkind)
  cases e with
  | expired => exact hadd _ rfl
  | cancelled cause =>
    cases cause with
    | none => exact hadd _ rfl
    | some cause =>
      simp only [ofEnding]
      cases hcause : fs.get? cause with
      | none => exact hadd _ rfl
      | some f =>
        by_cases hkind : f.kind = .cancelled
        · have hsame : fs.kindAt? cause = some f.kind :=
            kindAt?_of_reasonAt? (by simp [reasonAt?, hcause])
          simpa [hkind, TellsEnd] using hsame
        · simpa [hkind] using hadd _ rfl

end Failures

/-! ## Steps of the driver -/

namespace Session

/-- A session comes after another one without a step back: the clock has not been turned back, the
context is the same, and what tells the end of a context does so still. -/
structure Onward (s s' : Session κ μ) : Prop where
  clock : s.world.clock ≤ s'.world.clock
  context : s.request.context.Keeps s'.request.context
  ends : s.world.failures.KeepsEnds s'.world.failures

instance (s s' : Session κ μ) : Decidable (s.Onward s') :=
  decidable_of_iff (s.world.clock ≤ s'.world.clock ∧
      s.request.context.Keeps s'.request.context ∧
      s.world.failures.KeepsEnds s'.world.failures)
    ⟨fun ⟨hclock, hcontext, hends⟩ => ⟨hclock, hcontext, hends⟩,
      fun ⟨hclock, hcontext, hends⟩ => ⟨hclock, hcontext, hends⟩⟩

theorem Onward.isEnded {s s' : Session κ μ} (h : s.Onward s') (hended : s.isEnded = true) :
    s'.isEnded = true := h.context.isDone h.clock hended

/-- A wait for another attempt tells the end of the context, and leaves it so. -/
theorem waitEnds_counted {s : Session κ μ} (hended : s.isEnded = true) (seconds : Float) :
    s.counted.waitEnds seconds = true ∧ (s.counted.waited seconds).isEnded = true :=
  Context.wait_of_isDone hended seconds

end Session

namespace Request

/-- The end of the context stands for a failure that tells it. -/
theorem cancellation_tellsEnd {s : Session κ μ} {id : FailureId} {failures : Failures}
    (h : (Step.cancellation? : Step κ μ _).run s = (.ok (some id), s.withFailures failures)) :
    failures.TellsEnd id := by
  rw [run_cancellation] at h
  cases hending : s.request.context.ending? s.world.clock with
  | none => simp [hending] at h
  | some e =>
    simp only [hending, Prod.mk.injEq, Except.ok.injEq, Option.some.injEq] at h
    obtain ⟨rfl, hsame⟩ := h
    obtain rfl : (s.world.failures.ofEnding e).2 = failures :=
      congrArg (fun s => s.world.failures) hsame
    exact Failures.tellsEnd_ofEnding _ e

/-- The end of a wait comes to a failure that tells the end of the context, and to no call. -/
theorem stopEnded_tellsEnd {s after : Session κ μ} {failure id : FailureId}
    (hended : s.isEnded = true)
    (h : (stopEnded failure : Step κ μ Unit).run s = (.error (.raised id), after)) :
    after.world.failures.TellsEnd id ∧ after.calls = s.calls := by
  obtain ⟨id', failures, hcancel⟩ := run_cancellation_of_ended s hended
  have htells := cancellation_tellsEnd hcancel
  simp only [stopEnded, Step.run_bind, hcancel, Step.run_setError, run_markFailed,
    Step.run_setCause, Step.run_raise, Prod.mk.injEq, Except.error.injEq, Stop.raised.injEq] at h
  obtain ⟨rfl, rfl⟩ := h
  refine ⟨?_, ?_⟩
  · simpa [Failures.TellsEnd] using htells
  · exact (Session.calls_failed ((s.withFailures failures).withError (some id')) "Retry" :)

end Request

/-! ## Marks -/

namespace Mark

/-- A phase, if the mark is about one, came to its end without a step back. -/
def Steady : Mark κ μ → Prop
  | .phase _ before ending after => ending ≠ .error .unfinished ∧ before.Onward after
  | _ => True

/-- A phase, if the mark is about one, made no call. -/
def IsSilent : Mark κ μ → Prop
  | .phase _ before _ after => after.calls = before.calls
  | _ => True

/-- A hook of the retry phase or of the complete phase raised a failure, or the retry phase left one
in the place of another. -/
def Overrides (id : FailureId) : Mark κ μ → Prop
  | .phase .retry before (.ok ()) after =>
    after.request.error = some id ∧ before.request.error ≠ some id
  | .phase .retry _ (.error stop) _ | .phase .complete _ (.error stop) _ => stop = .raised id
  | _ => False

instance : DecidablePred (Steady : Mark κ μ → Prop) := fun m =>
  match m with
  | .phase _ before ending after =>
    inferInstanceAs (Decidable (ending ≠ .error .unfinished ∧ before.Onward after))
  | .attempt _ | .decision _ _ | .wait _ _ _ _ => .isTrue trivial

instance : DecidablePred (IsSilent : Mark κ μ → Prop) := fun m =>
  match m with
  | .phase _ before _ after => inferInstanceAs (Decidable (after.calls = before.calls))
  | .attempt _ | .decision _ _ | .wait _ _ _ _ => .isTrue trivial

/-! ### Where attempts stand -/

variable {ms ns tail earlier rest : List (Mark κ μ)} {s t : Session κ μ}

/-- An attempt stands behind marks that are about none. -/
theorem split_append (hms : attempts ms = []) (h : ms ++ ns = earlier ++ .attempt t :: rest) :
    ∃ earlier', ns = earlier' ++ .attempt t :: rest := by
  rcases List.append_eq_append_iff.1 h with ⟨between, -, hns⟩ | ⟨between, hms', hrest⟩
  · exact ⟨between, hns⟩
  · cases between with
    | nil => exact ⟨[], by simpa using hrest.symm⟩
    | cons m between =>
      obtain ⟨rfl, -⟩ := List.cons.inj hrest
      simp [hms'] at hms

/-- An attempt is the one that comes first, or stands behind the marks of that. -/
theorem split_first (htail : attempts tail = [])
    (h : .attempt s :: (tail ++ ns) = earlier ++ .attempt t :: rest) :
    t = s ∧ rest = tail ++ ns ∨ ∃ earlier', ns = earlier' ++ .attempt t :: rest := by
  cases earlier with
  | nil =>
    obtain ⟨hs, hrest⟩ := List.cons.inj h
    exact .inl ⟨(Mark.attempt.inj hs).symm, hrest.symm⟩
  | cons m earlier => exact .inr (split_append htail (List.cons.inj h).2)

/-- With no marks behind those, it is the one that comes first. -/
theorem split_only (htail : attempts tail = [])
    (h : .attempt s :: tail = earlier ++ .attempt t :: rest) : t = s ∧ rest = tail := by
  have h' : .attempt s :: (tail ++ []) = earlier ++ .attempt t :: rest := by simpa using h
  rcases split_first htail h' with ⟨ht, hrest⟩ | ⟨earlier', hnil⟩
  · exact ⟨ht, by simpa using hrest⟩
  · simp at hnil

/-- An attempt stands before the last mark, if that is about a phase. -/
theorem split_last {p : Phase} {before after : Session κ μ} {ending : Except Stop Unit}
    (h : ms ++ [.phase p before ending after] = earlier ++ .attempt t :: rest) :
    ∃ rest', ms = earlier ++ .attempt t :: rest' ∧
      rest = rest' ++ [.phase p before ending after] := by
  rcases List.eq_nil_or_concat rest with rfl | ⟨rest', m, rfl⟩
  · have hlast := (List.append_inj' h rfl).2
    simp at hlast
  · have h' : ms ++ [.phase p before ending after] = (earlier ++ .attempt t :: rest') ++ [m] := by
      simpa using h
    obtain ⟨hms, hm⟩ := List.append_inj' h' rfl
    obtain rfl : Mark.phase p before ending after = m := by simpa using hm
    exact ⟨rest', hms, by simp⟩

end Mark

namespace Drive

open Request

variable {perform : κ → Step κ μ Unit} {α β : Type}

/-! ## After the end of the context -/

/-- What follows an attempt from `t` whose context has ended, up to the phases `last`: no other
attempt, at most the retry phase, and a failure that tells the end of the context unless a hook put
another one in its place.  Where no hook makes a call, none is made. -/
structure Halts (last : List Phase) (t : Session κ μ) (outcome : Except Stop α)
    (after : Session κ μ) (rest : List (Mark κ μ)) : Prop where
  attempts : Mark.attempts rest = []
  phases : Mark.phases rest = last ∨ Mark.phases rest = .retry :: last
  raises : ∃ id, outcome = .error (.raised id) ∧
    (after.world.failures.TellsEnd id ∨ ∃ m ∈ rest, m.Overrides id)
  calls : (∀ m ∈ rest, m.IsSilent) → after.calls = t.calls

/-- What follows the attempt from `t` heeds its context: the attempt goes on with the send phase if
the context has not ended, and is the last one otherwise. -/
structure Heeds (last : List Phase) (t : Session κ μ) (outcome : Except Stop α)
    (after : Session κ μ) (rest : List (Mark κ μ)) : Prop where
  live : t.isEnded = false → ∃ ending after later, rest = .phase .send t ending after :: later
  ended : t.isEnded = true → Halts last t outcome after rest

section Heeds

variable {last : List Phase} {t after : Session κ μ} {stop : Stop} {rest : List (Mark κ μ)}

/-- A failure stops what it is a part of. -/
theorem Halts.stops (h : Halts last t (.error stop : Except Stop α) after rest) :
    Halts last t (.error stop : Except Stop β) after rest := by
  obtain ⟨hattempts, hphases, ⟨id, hid, hraises⟩, hcalls⟩ := h
  obtain rfl : stop = .raised id := Except.error.inj hid
  exact ⟨hattempts, hphases, ⟨id, rfl, hraises⟩, hcalls⟩

theorem Heeds.stops (h : Heeds last t (.error stop : Except Stop α) after rest) :
    Heeds last t (.error stop : Except Stop β) after rest :=
  ⟨h.live, fun hended => (h.ended hended).stops⟩

/-- Where the context had not ended, anything may come later. -/
theorem Heeds.goesOn {a : α} (h : Heeds last t (.ok a) after rest) (outcome : Except Stop β)
    (after' : Session κ μ) (ns : List (Mark κ μ)) : Heeds last t outcome after' (rest ++ ns) := by
  refine ⟨fun hlive => ?_, fun hended => ?_⟩
  · obtain ⟨ending, after, later, rfl⟩ := h.live hlive
    exact ⟨ending, after, later ++ ns, rfl⟩
  · obtain ⟨id, hid, -⟩ := (h.ended hended).raises
    cases hid

end Heeds

/-- An attempt begins with its mark.  It goes on with the send phase if the context has not ended,
and ends at once otherwise. -/
theorem marks_isAttempt {s : Session κ μ} {c : Course κ μ (Option FailureId)}
    (h : IsAttempt perform s c) :
    ∃ tail, c.marks = .attempt s :: tail ∧ Mark.attempts tail = [] ∧
      (s.isEnded = false → ∃ ending after later, tail = .phase .send s ending after :: later) ∧
      (s.isEnded = true → tail = [] ∧ c.after.isEnded = true ∧ c.after.calls = s.calls ∧
        ∃ id, c.outcome = .ok (some id) ∧ c.after.world.failures.TellsEnd id) := by
  cases h with
  | cancelled hended hcancel =>
    refine ⟨_, rfl, rfl, fun hlive => absurd (hlive.symm.trans hended) nofun, fun _ => ?_⟩
    refine ⟨rfl, by simpa [Session.isEnded] using hended, by simp, _, rfl, ?_⟩
    simpa using cancellation_tellsEnd hcancel
  | sendStopped hlive | sendFailed hlive | unmarshalStopped hlive | unmarshalFailed hlive
  | succeeded hlive =>
    exact ⟨_, rfl, rfl, fun _ => ⟨_, _, _, rfl⟩,
      fun hended => absurd (hlive.symm.trans hended) nofun⟩

theorem attempts_isBuild {s : Session κ μ} {c : Course κ μ Unit} (h : IsBuild perform s c) :
    Mark.attempts c.marks = [] := by
  cases h <;> rfl

theorem attempts_isInterval {failure : FailureId} {s : Session κ μ} {c : Course κ μ Unit}
    (h : IsInterval perform failure s c) : Mark.attempts c.marks = [] := by
  cases h <;> rfl

/-- What follows a failed attempt whose context has ended: the retry phase, and then a failure. -/
theorem halts_isInterval {failure : FailureId} {s t : Session κ μ} {c : Course κ μ Unit}
    (h : IsInterval perform failure s c) (hended : s.isEnded = true)
    (herror : s.request.error = some failure) (hcalls : s.calls = t.calls)
    (hsteady : ∀ m ∈ c.marks, m.Steady) :
    Halts [] t c.outcome c.after (.decision s true :: c.marks) := by
  cases h with
  | @retryStopped stop s₁ hretry =>
    obtain ⟨hends, -⟩ := hsteady _ List.mem_cons_self
    refine ⟨rfl, .inr rfl, ?_, fun hsilent => ?_⟩
    · cases stop with
      | raised id =>
        exact ⟨id, rfl, .inr ⟨_, List.mem_cons_of_mem _ List.mem_cons_self, rfl⟩⟩
      | unfinished => exact absurd rfl hends
    · exact (hsilent _ (List.mem_cons_of_mem _ List.mem_cons_self) :).trans hcalls
  | @replaced id s₁ hretry hother hne =>
    refine ⟨rfl, .inr rfl, ⟨id, rfl, .inr ⟨_, List.mem_cons_of_mem _ List.mem_cons_self, ?_⟩⟩,
      fun hsilent => ?_⟩
    · exact ⟨hother, by simpa [herror] using hne.symm⟩
    · have hretries := hsilent _ (List.mem_cons_of_mem _ List.mem_cons_self)
      exact (Session.calls_failed s₁ "Retry").trans (hretries.trans hcalls)
  | @ended s₁ id s₂ hretry hkept hwait hstop =>
    obtain ⟨-, honward⟩ := hsteady _ List.mem_cons_self
    obtain ⟨-, hwaited⟩ := Session.waitEnds_counted (honward.isEnded hended)
      s₁.request.retryer.delay.1
    obtain ⟨htells, hsame⟩ := stopEnded_tellsEnd hwaited hstop
    refine ⟨rfl, .inr rfl, ⟨id, rfl, .inl htells⟩, fun hsilent => ?_⟩
    have hretries := hsilent _ (List.mem_cons_of_mem _ List.mem_cons_self)
    exact hsame.trans ((Session.calls_waited s₁.counted _).trans (hretries.trans hcalls))
  | @elapsed s₁ hretry hkept hwait =>
    obtain ⟨-, honward⟩ := hsteady _ List.mem_cons_self
    obtain ⟨hends, -⟩ := Session.waitEnds_counted (honward.isEnded hended)
      s₁.request.retryer.delay.1
    exact absurd (hends.symm.trans hwait) nofun

/-- An attempt goes on with its send phase, or with what a context that has ended leads to. -/
theorem heeds_isAttempt {s : Session κ μ} {c : Course κ μ (Option FailureId)}
    (h : IsAttempt perform s c) (outcome : Except Stop α) (after : Session κ μ)
    (ns : List (Mark κ μ)) (hns : Mark.attempts ns = [])
    (hhalts : ∀ failure, c.outcome = .ok (some failure) → c.after.isEnded = true →
      c.after.calls = s.calls → c.after.world.failures.TellsEnd failure →
      Halts [] s outcome after ns) :
    ∃ tail, c.marks ++ ns = .attempt s :: tail ∧ Mark.attempts tail = [] ∧
      Heeds [] s outcome after tail := by
  obtain ⟨tail, hmarks, htail, hlive, hended⟩ := marks_isAttempt h
  refine ⟨tail ++ ns, by rw [hmarks, List.cons_append], by simp [htail, hns], ?_, fun h => ?_⟩
  · intro h
    obtain ⟨ending, after, later, rfl⟩ := hlive h
    exact ⟨ending, after, later ++ ns, rfl⟩
  · obtain ⟨rfl, hafter, hcalls, id, hid, htells⟩ := hended h
    exact hhalts id hid hafter hcalls htells

theorem heeds_isRound {s : Session κ μ} {c : Course κ μ (Option Value)}
    (h : IsRound perform s c) (hsteady : ∀ m ∈ c.marks, m.Steady) :
    ∃ tail, c.marks = .attempt (s.withError none) :: tail ∧ Mark.attempts tail = [] ∧
      Heeds [] (s.withError none) c.outcome c.after tail := by
  cases h with
  | attemptStopped hattempt => simpa using heeds_isAttempt hattempt _ _ [] rfl nofun
  | succeeded hattempt => simpa using heeds_isAttempt hattempt _ _ [] rfl nofun
  | @declined failure s₁ ms hattempt hdeclined =>
    refine heeds_isAttempt hattempt _ _ _ rfl ?_
    rintro _ ⟨⟩ - hcalls htells
    exact ⟨rfl, .inl rfl, ⟨failure, rfl, .inl htells⟩, fun _ => hcalls⟩
  | @intervalStopped failure s₁ ms stop s₂ ns hattempt haccepted hinterval =>
    have hsteadyᵢ : ∀ m ∈ ns, m.Steady := fun m hm =>
      hsteady m (List.mem_append_right _ (List.mem_cons_of_mem _ hm))
    have hnone : Mark.attempts ns = [] := attempts_isInterval hinterval
    refine heeds_isAttempt hattempt _ _ _ hnone ?_
    rintro _ ⟨⟩ hended hcalls -
    exact (halts_isInterval hinterval hended (error_isAttempt hattempt) hcalls hsteadyᵢ).stops
  | @again failure s₁ ms s₂ ns hattempt haccepted hinterval =>
    have hsteadyᵢ : ∀ m ∈ ns, m.Steady := fun m hm =>
      hsteady m (List.mem_append_right _ (List.mem_cons_of_mem _ hm))
    have hnone : Mark.attempts ns = [] := attempts_isInterval hinterval
    refine heeds_isAttempt hattempt _ _ _ hnone ?_
    rintro _ ⟨⟩ hended hcalls -
    obtain ⟨id, hid, -⟩ :=
      (halts_isInterval hinterval hended (error_isAttempt hattempt) hcalls hsteadyᵢ).raises
    cases hid

theorem heeds_areRounds {s : Session κ μ} {c : Course κ μ Value} (h : AreRounds perform s c)
    (hsteady : ∀ m ∈ c.marks, m.Steady) {earlier rest : List (Mark κ μ)} {t : Session κ μ}
    (hmarks : c.marks = earlier ++ .attempt t :: rest) : Heeds [] t c.outcome c.after rest := by
  induction h generalizing earlier with
  | givenUp => simp at hmarks
  | succeeded hround =>
    obtain ⟨tail, rfl, htail, hheeds⟩ := heeds_isRound hround hsteady
    obtain ⟨rfl, rfl⟩ := Mark.split_only htail hmarks
    simpa using hheeds.goesOn _ _ []
  | stopped hround =>
    obtain ⟨tail, rfl, htail, hheeds⟩ := heeds_isRound hround hsteady
    obtain ⟨rfl, rfl⟩ := Mark.split_only htail hmarks
    exact hheeds.stops
  | @again s s₁ ms c hround hrest ih =>
    obtain ⟨hsteady₁, hsteady₂⟩ := List.forall_mem_append.1 hsteady
    obtain ⟨tail, rfl, htail, hheeds⟩ := heeds_isRound hround hsteady₁
    rcases Mark.split_first htail hmarks with ⟨rfl, rfl⟩ | ⟨earlier', hlater⟩
    · exact hheeds.goesOn _ _ _
    · exact ih hsteady₂ hlater

theorem heeds_isDelivery {s : Session κ μ} {c : Course κ μ Value} (h : IsDelivery perform s c)
    (hsteady : ∀ m ∈ c.marks, m.Steady) {earlier rest : List (Mark κ μ)} {t : Session κ μ}
    (hmarks : c.marks = earlier ++ .attempt t :: rest) :
    Heeds [] t c.outcome c.after rest := by
  cases h with
  | unbuilt hbuild =>
    have hnone : Mark.attempts (earlier ++ .attempt t :: rest) = [] :=
      hmarks ▸ attempts_isBuild hbuild
    simp at hnone
  | built hbuild hrounds =>
    obtain ⟨-, hsteady₂⟩ := List.forall_mem_append.1 hsteady
    obtain ⟨earlier', hlater⟩ := Mark.split_append (attempts_isBuild hbuild) hmarks
    exact heeds_areRounds hrounds hsteady₂ hlater

/-- The end of the run comes after what has halted, and is the end of that. -/
theorem Halts.completed {t s₁ s₂ after : Session κ μ} {outcome outcome' : Except Stop α}
    {rest : List (Mark κ μ)} {ending : Except Stop Unit}
    (h : Halts [] t outcome s₁ rest) (hkept : s₁.filled.Onward s₂)
    (hoverrides : ∀ id, outcome = .error (.raised id) → ∃ id', outcome' = .error (.raised id') ∧
      (id' = id ∨ (Mark.phase .complete s₁.filled ending s₂).Overrides id'))
    (hfailures : after.world.failures = s₂.world.failures) (hcalls : after.calls = s₂.calls) :
    Halts [.complete] t outcome' after (rest ++ [.phase .complete s₁.filled ending s₂]) := by
  obtain ⟨hattempts, hphases, ⟨id, hid, hraises⟩, hsame⟩ := h
  refine ⟨by simp [hattempts], ?_, ?_, fun hsilent => ?_⟩
  · rcases hphases with hphases | hphases
    · exact .inl (by simp [hphases])
    · exact .inr (by simp [hphases])
  · obtain ⟨id', hid', rfl | hoverride⟩ := hoverrides id hid
    · refine ⟨id', hid', ?_⟩
      rcases hraises with htells | ⟨m, hm, hother⟩
      · exact .inl (hfailures ▸ hkept.ends.tellsEnd htells)
      · exact .inr ⟨m, List.mem_append_left _ hm, hother⟩
    · exact ⟨id', hid', .inr ⟨_, List.mem_append_right _ List.mem_cons_self, hoverride⟩⟩
  · obtain ⟨hrest, hlast⟩ := List.forall_mem_append.1 hsilent
    have hcompletes : s₂.calls = s₁.filled.calls := hlast _ List.mem_cons_self
    exact hcalls.trans (hcompletes.trans (hsame hrest))

theorem heeds_isSending {s : Session κ μ} {c : Course κ μ Value} (h : IsSending perform s c)
    (hsteady : ∀ m ∈ c.marks, m.Steady) {earlier rest : List (Mark κ μ)} {t : Session κ μ}
    (hmarks : c.marks = earlier ++ .attempt t :: rest) :
    Heeds [.complete] t c.outcome c.after rest := by
  cases h with
  | givenUp hdelivery =>
    have hheeds := heeds_isDelivery hdelivery hsteady hmarks
    refine ⟨hheeds.live, fun hended => ?_⟩
    obtain ⟨id, hid, -⟩ := (hheeds.ended hended).raises
    cases hid
  | @completeStopped outcome s₁ ms stop s₂ hdelivery hfinished hcomplete =>
    obtain ⟨hsteady₁, hsteady₂⟩ := List.forall_mem_append.1 hsteady
    obtain ⟨hends, honward⟩ := hsteady₂ _ List.mem_cons_self
    obtain ⟨rest', hfirst, rfl⟩ := Mark.split_last hmarks
    have hheeds := heeds_isDelivery hdelivery hsteady₁ hfirst
    refine ⟨fun hlive => ?_, fun hended => ?_⟩
    · obtain ⟨ending, after, later, rfl⟩ := hheeds.live hlive
      exact ⟨ending, after, later ++ _, rfl⟩
    · refine (hheeds.ended hended).completed honward (fun _ _ => ?_) rfl rfl
      cases stop with
      | raised id => exact ⟨id, rfl, .inr rfl⟩
      | unfinished => exact absurd rfl hends
  | @completed outcome s₁ ms s₂ hdelivery hfinished hcomplete =>
    obtain ⟨hsteady₁, hsteady₂⟩ := List.forall_mem_append.1 hsteady
    obtain ⟨-, honward⟩ := hsteady₂ _ List.mem_cons_self
    obtain ⟨rest', hfirst, rfl⟩ := Mark.split_last hmarks
    have hheeds := heeds_isDelivery hdelivery hsteady₁ hfirst
    refine ⟨fun hlive => ?_, fun hended => ?_⟩
    · obtain ⟨ending, after, later, rfl⟩ := hheeds.live hlive
      exact ⟨ending, after, later ++ _, rfl⟩
    · exact (hheeds.ended hended).completed honward (fun id hid => ⟨id, hid, .inl rfl⟩)
        (by simp) (by simp)

/-! ## The whole run -/

/-- In a run of steady phases, an attempt goes on with its send phase if and only if its context has
not ended.  Once the context has ended there is no other attempt and no send or unmarshal phase: the
retry phase may run, the complete phase runs once, and the run ends with a failure that tells the
end of the context, unless one of these phases puts another failure in its place.  The driver makes
no call then; only hooks of these phases may. -/
theorem cancellation_is_final (perform : κ → Step κ μ Unit) (limit : Nat) (s : Session κ μ)
    (hsteady : ∀ m ∈ ((send perform limit).run s).marks, m.Steady)
    (earlier rest : List (Mark κ μ)) (t : Session κ μ)
    (hmarks : ((send perform limit).run s).marks = earlier ++ .attempt t :: rest) :
    (t.isEnded = false ↔ ∃ ending after later, rest = .phase .send t ending after :: later) ∧
    (t.isEnded = true →
      Halts [.complete] t ((send perform limit).run s).outcome ((send perform limit).run s).after
        rest) := by
  have hheeds := heeds_isSending (isSending_run perform s limit) hsteady hmarks
  refine ⟨⟨hheeds.live, ?_⟩, hheeds.ended⟩
  rintro ⟨ending, after, later, rfl⟩
  rw [← Bool.not_eq_true]
  intro hended
  rcases (hheeds.ended hended).phases with h | h <;> simp at h

/-- A request that is worth another attempt whatever happens, but was cancelled before the first. -/
def withdrawn (retryer : Retryer) (complete : HookList ScriptedHook) :
    Session ScriptedHook RunCounts :=
  let s := Session.plain "https://api.io" { Hooks.empty with complete } retryer ⟨0, 3, 0, [], true⟩
    [⟨0, none, .response (.received 200 .empty [])⟩] #[0]
  { s with request := { s.request with context := s.request.context.cancel none } }

/-- The retryer agrees to another attempt, which the wait for it prevents. -/
theorem withdrawn_request_is_not_sent :
    let c := (send ScriptedHook.perform 1).run (withdrawn (.ofPolicy .steady []) .empty)
    (∀ m ∈ c.marks, m.Steady) ∧
    ∃ earlier t rest, c.marks = earlier ++ .attempt t :: rest ∧ t.isEnded = true ∧
      Mark.phases rest = [.retry, .complete] ∧ Halts [.complete] t c.outcome c.after rest := by
  intro c
  have hsteady : ∀ m ∈ c.marks, m.Steady := by decide
  obtain ⟨t, ht⟩ : ∃ t, Mark.attempts c.marks = [t] := ⟨_, rfl⟩
  obtain rfl := List.singleton_inj.1 ht
  have hmarks : c.marks = c.marks.take 2 ++ .attempt _ :: c.marks.drop 3 := rfl
  refine ⟨hsteady, _, _, _, hmarks, by decide, by decide, ?_⟩
  exact (cancellation_is_final _ 1 _ hsteady _ _ _ hmarks).2 (by decide)

/-- The complete phase sends the request after all, and then raises a failure of its own. -/
theorem complete_phase_overrides_cancellation :
    let down : FailureSpec := .make (.ofReason (.told (.outside .value) "down")) none none
    let c := (send ScriptedHook.perform 1).run (withdrawn .never
      ⟨[CoreHook.named .core .send, .bare (.scripted 0 .complete none [.raise down] [])]⟩)
    (∀ m ∈ c.marks, m.Steady) ∧ Mark.phases c.marks = [.validate, .build, .complete] ∧
      (Mark.attempts c.marks).map (fun t => (t.isEnded, t.calls)) = [(true, 0)] ∧
      c.outcome = .error (.raised 1) ∧ ¬ c.after.world.failures.TellsEnd 1 ∧ c.after.calls = 1 := by
  intro down c
  have hraised : c.outcome.map (fun _ => ()) = .error (.raised 1) := by decide +kernel
  refine ⟨by decide +kernel, by decide +kernel, by decide +kernel, ?_, by decide +kernel,
    by decide +kernel⟩
  cases houtcome : c.outcome with
  | error stop => simpa [houtcome, Except.map] using hraised
  | ok v => simp [houtcome, Except.map] at hraised

end Drive

end RequestPipeline
