import RequestPipeline.Proofs.Rebuild
import RequestPipeline.Proofs.SentAnswers

/-!
# Responses of the latest attempt

The message and the response of an attempt are cleared before the next one of the same run, and
nowhere else: a run does not clear what an earlier run has left.
-/

namespace RequestPipeline

variable {κ μ : Type}

/-! ## Attempts by their marks -/

namespace Session

/-- The request has neither a message nor a response. -/
structure IsBlank (s : Session κ μ) : Prop where
  transmission : s.request.transmission = none
  response : s.request.response = none

end Session

namespace Mark

/-- The sessions in which the send hooks of attempts start, with the numbers of the attempts, of
which there were some before. -/
def sendStarts : (before : Nat) → List (Mark κ μ) → List (Nat × Session κ μ)
  | _, [] => []
  | n, .attempt _ :: ms => sendStarts (n + 1) ms
  | n, .phase .send s _ _ :: ms => (n, s) :: sendStarts n ms
  | n, _ :: ms => sendStarts n ms

/-- The answer that the last attempt has obtained after a mark. -/
def obtains (found : Option Response) : Mark κ μ → Option Response
  | .attempt _ => none
  | .phase .send before (.ok ()) after =>
    if after.request.error = none then before.lastAnswer? after else none
  | _ => found

/-- The answer that the last attempt has obtained. -/
def obtained? (ms : List (Mark κ μ)) : Option Response := ms.foldl obtains none

theorem sendStarts_append (n : Nat) (ms ns : List (Mark κ μ)) :
    sendStarts n (ms ++ ns) = sendStarts n ms ++ sendStarts (n + (attempts ms).length) ns := by
  induction ms generalizing n with
  | nil => rfl
  | cons m ms ih =>
    cases m with
    | attempt s =>
      simp only [List.cons_append, sendStarts, ih, attempts_attempt, List.length_cons]
      rw [Nat.add_right_comm, Nat.add_assoc n]
    | phase p before ending after =>
      cases p <;> simp only [List.cons_append, sendStarts, ih, attempts_phase]
    | decision s accepted => simp only [List.cons_append, sendStarts, ih, attempts_decision]
    | wait before seconds ended after => simp only [List.cons_append, sendStarts, ih, attempts_wait]

/-- Marks that are about neither an attempt nor its send phase. -/
structure AreBetween (ms : List (Mark κ μ)) : Prop where
  starts : ∀ n, sendStarts n ms = []
  attempts : attempts ms = []
  obtains : ∀ found, ms.foldl obtains found = found

theorem AreBetween.nil : AreBetween ([] : List (Mark κ μ)) := ⟨fun _ => rfl, rfl, fun _ => rfl⟩

end Mark

namespace Drive

open CoreHook Request Session

variable {perform : κ → Step κ μ Unit} {s : Session κ μ}

/-! ## Builds and intervals -/

/-- A build leaves the message and the response alone, and makes no attempt. -/
theorem idles_isBuild {c : Course κ μ Unit} (h : IsBuild perform s c)
    (hwatched : s.request.hooks.AreWatched perform) :
    s.Idles c.after ∧ Mark.AreBetween c.marks := by
  have hvalidated : ∀ {ending s₁}, (runPhase perform .validate).run s = (ending, s₁) →
      s.Idles s₁ := by
    intro ending s₁ hrun
    have h := idles_phase (p := .validate) (by decide) hwatched
    rwa [hrun] at h
  have hbuilt : ∀ {s₁ ending s₂}, s.Idles s₁ →
      (runPhase perform .build).run (s₁.atStage .validated) = (ending, s₂) → s.Idles s₂ := by
    intro s₁ ending s₂ hidles hrun
    have hwatched₁ : (s₁.atStage .validated).request.hooks.AreWatched perform := by
      rw [request_atStage, hidles.hooks]
      exact hwatched
    have h := idles_phase (p := .build) (by decide) hwatched₁
    rw [hrun] at h
    have hstage : s₁.Idles (s₁.atStage .validated) := frame_idles.within_setStage .validated s₁
    exact (hidles.trans hstage).trans h
  have hfailed : ∀ {place s₁}, s.Idles s₁ → s.Idles (s₁.failed place) := by
    intro place s₁ hidles
    have h := frame_idles.within_markFailed place s₁
    rw [run_markFailed] at h
    exact hidles.trans h
  refine ⟨?_, by cases h <;> exact ⟨fun _ => rfl, rfl, fun _ => rfl⟩⟩
  cases h with
  | failedBefore => exact .refl s
  | builtBefore => exact .refl s
  | validateStopped _ _ hvalidate => exact hvalidated hvalidate
  | validateFailed _ _ hvalidate => exact hfailed (hvalidated hvalidate)
  | buildStopped _ _ hvalidate _ hbuild => exact hbuilt (hvalidated hvalidate) hbuild
  | buildFailed _ _ hvalidate _ hbuild => exact hfailed (hbuilt (hvalidated hvalidate) hbuild)
  | built _ _ hvalidate _ hbuild =>
    have hdone := hbuilt (hvalidated hvalidate) hbuild
    exact ⟨hdone.hooks, hdone.transmission, hdone.response, hdone.tape, hdone.messages⟩

/-- Until the request is made ready for another attempt, an interval leaves it its response. -/
structure Pauses (s : Session κ μ) (c : Course κ μ Unit) : Prop where
  hooks : c.after.request.hooks = s.request.hooks
  ready : c.outcome = .ok () → c.after.IsBlank
  response : c.outcome ≠ .ok () → c.after.request.response = s.request.response
  marks : Mark.AreBetween c.marks

theorem pauses_isInterval {failure : FailureId} {c : Course κ μ Unit}
    (h : IsInterval perform failure s c) (hwatched : s.request.hooks.AreWatched perform) :
    Pauses s c := by
  have hretry : s.Idles ((runPhase perform .retry).run s).2 := idles_phase (by decide) hwatched
  cases h with
  | retryStopped hrun =>
    rw [hrun] at hretry
    exact ⟨hretry.hooks, nofun, fun _ => hretry.response, fun _ => rfl, rfl, fun _ => rfl⟩
  | replaced hrun =>
    rw [hrun] at hretry
    refine ⟨?_, nofun, fun _ => ?_, fun _ => rfl, rfl, fun _ => rfl⟩
    · rw [request_failed]
      exact hretry.hooks
    · rw [request_failed]
      exact hretry.response
  | @ended s₁ id s₂ hrun _ _ hstop =>
    rw [hrun] at hretry
    have hstopped := frame_idles.within_stopEnded failure
      (s₁.counted.waited s₁.request.retryer.delay.1)
    rw [hstop] at hstopped
    exact ⟨hstopped.hooks.trans hretry.hooks, nofun,
      fun _ => hstopped.response.trans hretry.response, fun _ => rfl, rfl, fun _ => rfl⟩
  | elapsed hrun =>
    rw [hrun] at hretry
    exact ⟨hretry.hooks, fun _ => ⟨rfl, rfl⟩, fun h => absurd rfl h, fun _ => rfl, rfl,
      fun _ => rfl⟩

/-! ## Attempts -/

/-- An attempt starts its send hooks with what there is.  Unless it is made ready for another one,
it ends with the answer that it has obtained, or else with the response that there is. -/
structure AttemptsOnce {α : Type} (again : Prop) (s : Session κ μ) (c : Course κ μ α) : Prop where
  hooks : c.after.request.hooks = s.request.hooks
  one : (Mark.attempts c.marks).length = 1
  starts : ∀ n, ∀ p ∈ Mark.sendStarts n c.marks, p.1 = n + 1 ∧
    p.2.request.transmission = s.request.transmission ∧ p.2.request.response = s.request.response
  ready : again → c.after.IsBlank
  response : ¬ again → ∀ found, c.after.request.response =
    (c.marks.foldl Mark.obtains found).or s.request.response

/-- A send phase obtains an answer, or leaves the response that there was. -/
theorem response_of_tries {ending : Except Stop Unit} {s₁ : Session κ μ} (h : Tries s ending s₁)
    (hclean : s.request.error = none) : s₁.request.response =
      (Mark.obtains none (.phase .send s ending s₁)).or s.request.response := by
  cases h with
  | answered _ hanswer hresponse herror =>
    simp [Mark.obtains, herror, hclean, hanswer, hresponse]
  | failed _ hresponse herror => simp [Mark.obtains, herror, hresponse]
  | stopped _ hresponse => simp [Mark.obtains, hresponse]

/-- An attempt whose send phase has run ends with what that has left. -/
theorem attemptsOnce_of_sent {α : Type} {c : Course κ μ α} {ending : Except Stop Unit}
    {s₁ : Session κ μ} {ms : List (Mark κ μ)} (htries : Tries s ending s₁)
    (hclean : s.request.error = none)
    (hmarks : c.marks = .attempt s :: .phase .send s ending s₁ :: ms) (hms : Mark.AreBetween ms)
    (hhooks : c.after.request.hooks = s₁.request.hooks)
    (hresponse : c.after.request.response = s₁.request.response) : AttemptsOnce False s c where
  hooks := hhooks.trans htries.hooks
  one := by simp [hmarks, hms.attempts]
  starts n p hp := by
    obtain rfl : p = (n + 1, s) := by simpa [hmarks, Mark.sendStarts, hms.starts] using hp
    exact ⟨rfl, rfl, rfl⟩
  ready := False.elim
  response _ found := by
    rw [hresponse, response_of_tries htries hclean, hmarks, List.foldl_cons, List.foldl_cons,
      hms.obtains]
    rfl

theorem attemptsOnce_isAttempt {c : Course κ μ (Option FailureId)} (h : IsAttempt perform s c)
    (hclean : s.request.error = none) (hwatched : s.request.hooks.AreWatched perform) :
    AttemptsOnce False s c := by
  have htries : ∀ {ending s₁}, (runPhase perform .send).run s = (ending, s₁) →
      Tries s ending s₁ := by
    intro ending s₁ hsend
    have h := tries_sendPhase hwatched
    rwa [hsend] at h
  have hkept : ∀ {ending s₁ ending' s₂}, Tries s ending s₁ →
      (runPhase perform .unmarshal).run (s₁.atStage .sent) = (ending', s₂) →
      s₂.request.hooks = s₁.request.hooks ∧ s₂.request.response = s₁.request.response := by
    intro ending s₁ ending' s₂ htries hrun
    have hwatched₁ : (s₁.atStage .sent).request.hooks.AreWatched perform := by
      rw [request_atStage, htries.hooks]
      exact hwatched
    have hidles := idles_phase (p := .unmarshal) (by decide) hwatched₁
    rw [hrun] at hidles
    exact ⟨hidles.hooks, hidles.response⟩
  have hlater : ∀ {ending s₁ s₂}, Mark.AreBetween [(.phase .unmarshal s₁ ending s₂ : Mark κ μ)] :=
    ⟨fun _ => rfl, rfl, fun _ => rfl⟩
  cases h with
  | cancelled =>
    exact ⟨by simp, rfl, fun _ _ hp => absurd hp List.not_mem_nil, False.elim,
      fun _ _ => by simp [Mark.obtains]⟩
  | sendStopped _ hsend => exact attemptsOnce_of_sent (htries hsend) hclean rfl .nil rfl rfl
  | sendFailed _ hsend =>
    exact attemptsOnce_of_sent (htries hsend) hclean rfl .nil (by simp) (by simp)
  | unmarshalStopped _ hsend _ hrun =>
    obtain ⟨hhooks, hresponse⟩ := hkept (htries hsend) hrun
    exact attemptsOnce_of_sent (htries hsend) hclean rfl hlater hhooks hresponse
  | unmarshalFailed _ hsend _ hrun =>
    obtain ⟨hhooks, hresponse⟩ := hkept (htries hsend) hrun
    exact attemptsOnce_of_sent (htries hsend) hclean rfl hlater (by simpa using hhooks)
      (by simpa using hresponse)
  | succeeded _ hsend _ hrun =>
    obtain ⟨hhooks, hresponse⟩ := hkept (htries hsend) hrun
    exact attemptsOnce_of_sent (htries hsend) hclean rfl hlater hhooks hresponse

/-! ## Rounds -/

/-- What follows an attempt leaves its response, or makes the request ready for another one. -/
theorem AttemptsOnce.followed {α β : Type} {again : Prop} {c : Course κ μ α} {c' : Course κ μ β}
    {ns : List (Mark κ μ)} (h : AttemptsOnce False s c) (hmarks : c'.marks = c.marks ++ ns)
    (hns : Mark.AreBetween ns) (hhooks : c'.after.request.hooks = c.after.request.hooks)
    (hready : again → c'.after.IsBlank)
    (hresponse : ¬ again → c'.after.request.response = c.after.request.response) :
    AttemptsOnce again s c' where
  hooks := hhooks.trans h.hooks
  one := by simp [hmarks, hns.attempts, h.one]
  starts n p hp := by
    rw [hmarks, Mark.sendStarts_append, hns.starts, List.append_nil] at hp
    exact h.starts n p hp
  ready := hready
  response hlast found := by
    rw [hresponse hlast, h.response not_false found, hmarks, List.foldl_append, hns.obtains]

theorem attemptsOnce_isRound {c : Course κ μ (Option Value)} (h : IsRound perform s c)
    (hwatched : s.request.hooks.AreWatched perform) : AttemptsOnce (c.outcome = .ok none) s c := by
  have hattempted : ∀ {c}, IsAttempt perform (s.withError none) c → AttemptsOnce False s c := by
    intro c hattempt
    obtain ⟨hhooks, hone, hstarts, hready, hresponse⟩ :=
      attemptsOnce_isAttempt hattempt rfl hwatched
    exact ⟨hhooks, hone, hstarts, hready, hresponse⟩
  have hdecided : ∀ {s₁ : Session κ μ} {accepted ns}, Mark.AreBetween ns →
      Mark.AreBetween (.decision s₁ accepted :: ns) := fun h => ⟨h.starts, h.attempts, h.obtains⟩
  have hpauses : ∀ {outcome s₁ ms failure c}, AttemptsOnce False s (⟨outcome, s₁, ms⟩ : Course κ μ
      (Option FailureId)) → IsInterval perform failure s₁ c → Pauses s₁ c := by
    intro outcome s₁ ms failure c hattempt hinterval
    exact pauses_isInterval hinterval (hattempt.hooks ▸ hwatched)
  cases h with
  | attemptStopped hattempt =>
    exact (hattempted hattempt).followed (List.append_nil _).symm .nil rfl nofun fun _ => rfl
  | succeeded hattempt =>
    exact (hattempted hattempt).followed (List.append_nil _).symm .nil rfl nofun fun _ => rfl
  | declined hattempt =>
    exact (hattempted hattempt).followed rfl (hdecided .nil) rfl nofun fun _ => rfl
  | intervalStopped hattempt _ hinterval =>
    have hpause := hpauses (hattempted hattempt) hinterval
    exact (hattempted hattempt).followed rfl (hdecided hpause.marks) hpause.hooks nofun
      fun _ => hpause.response nofun
  | again hattempt _ hinterval =>
    have hpause := hpauses (hattempted hattempt) hinterval
    exact (hattempted hattempt).followed rfl (hdecided hpause.marks) hpause.hooks
      (fun _ => hpause.ready rfl) fun h => absurd rfl h

/-- What a run of attempts does: the first one starts its send hooks with what there is, the others
without message and response, and the last one leaves the answer that it has obtained, or else what
there was when it began. -/
structure Runs {α : Type} (s : Session κ μ) (c : Course κ μ α) : Prop where
  hooks : c.after.request.hooks = s.request.hooks
  numbered : ∀ n, ∀ p ∈ Mark.sendStarts n c.marks, n < p.1
  first : ∀ n, ∀ p ∈ Mark.sendStarts n c.marks, p.1 = n + 1 →
    p.2.request.transmission = s.request.transmission ∧ p.2.request.response = s.request.response
  later : ∀ n, ∀ p ∈ Mark.sendStarts n c.marks, n + 1 < p.1 → p.2.IsBlank
  some : c.IsFinished → 1 ≤ (Mark.attempts c.marks).length
  response : c.IsFinished → ∀ found, c.after.request.response =
    (c.marks.foldl Mark.obtains found).or
      (if (Mark.attempts c.marks).length ≤ 1 then s.request.response else none)

/-- A run of one attempt. -/
theorem AttemptsOnce.runs {α β : Type} {again : Prop} {c : Course κ μ α} {c' : Course κ μ β}
    (h : AttemptsOnce again s c) (hlast : ¬ again) (hafter : c'.after = c.after)
    (hmarks : c'.marks = c.marks) : Runs s c' where
  hooks := hafter ▸ h.hooks
  numbered n p hp := by
    have hnumber := (h.starts n p (hmarks ▸ hp)).1
    omega
  first n p hp _ := (h.starts n p (hmarks ▸ hp)).2
  later n p hp hlater := by
    have hnumber := (h.starts n p (hmarks ▸ hp)).1
    omega
  some _ := by simp [hmarks, h.one]
  response _ found := by rw [hafter, hmarks, h.response hlast found, h.one, if_pos (Nat.le_refl 1)]

theorem runs_areRounds {c : Course κ μ Value} (h : AreRounds perform s c)
    (hwatched : s.request.hooks.AreWatched perform) : Runs s c := by
  induction h with
  | givenUp =>
    exact ⟨rfl, fun _ _ hp => absurd hp List.not_mem_nil, fun _ _ hp => absurd hp List.not_mem_nil,
      fun _ _ hp => absurd hp List.not_mem_nil, fun h => absurd rfl h, fun h => absurd rfl h⟩
  | succeeded hround => exact (attemptsOnce_isRound hround hwatched).runs nofun rfl rfl
  | stopped hround => exact (attemptsOnce_isRound hround hwatched).runs nofun rfl rfl
  | @again s s₁ ms c hround _ ih =>
    have hfirst := attemptsOnce_isRound hround hwatched
    have hrest := ih (hfirst.hooks ▸ hwatched)
    have hblank : s₁.IsBlank := hfirst.ready rfl
    have hmem : ∀ {n p}, p ∈ Mark.sendStarts n (ms ++ c.marks) →
        p ∈ Mark.sendStarts n ms ∨ p ∈ Mark.sendStarts (n + 1) c.marks := by
      intro n p hp
      have hone : (Mark.attempts ms).length = 1 := hfirst.one
      rwa [Mark.sendStarts_append, hone, List.mem_append] at hp
    refine ⟨hrest.hooks.trans hfirst.hooks, fun n p hp => ?_, fun n p hp hnumber => ?_,
      fun n p hp hnumber => ?_, fun _ => ?_, fun hfinished found => ?_⟩
    · rcases hmem hp with hp | hp
      · have hnumber := (hfirst.starts n p hp).1
        omega
      · have hnumber := hrest.numbered (n + 1) p hp
        omega
    · rcases hmem hp with hp | hp
      · exact (hfirst.starts n p hp).2
      · have hlater := hrest.numbered (n + 1) p hp
        omega
    · rcases hmem hp with hp | hp
      · have hfirst' := (hfirst.starts n p hp).1
        omega
      · by_cases hsecond : p.1 = n + 1 + 1
        · obtain ⟨htransmission, hresponse⟩ := hrest.first (n + 1) p hp hsecond
          exact ⟨htransmission.trans hblank.transmission, hresponse.trans hblank.response⟩
        · have hnumbered := hrest.numbered (n + 1) p hp
          exact hrest.later (n + 1) p hp (by omega)
    · have hone : (Mark.attempts ms).length = 1 := hfirst.one
      simp [hone]
    · have hone : (Mark.attempts ms).length = 1 := hfirst.one
      have hsome := hrest.some hfinished
      have hmany : ¬ (Mark.attempts (ms ++ c.marks)).length ≤ 1 := by
        rw [Mark.attempts_append, List.length_append, hone]
        omega
      have hnone : (if (Mark.attempts c.marks).length ≤ 1 then s₁.request.response else none) =
          none := by
        rw [hblank.response, ite_self]
      rw [if_neg hmany, List.foldl_append, ← hnone]
      exact hrest.response hfinished _

/-! ## Whole runs -/

/-- The response that a request has after attempts, if it had one before. -/
def leaves? (before : Option Response) (ms : List (Mark κ μ)) : Option Response :=
  (Mark.obtained? ms).or (if (Mark.attempts ms).length ≤ 1 then before else none)

/-- What a whole run does: as its attempts, and in the end there may be a response that stands for
none. -/
structure Ends {α : Type} (substitute : Option Response) (s : Session κ μ) (c : Course κ μ α) :
    Prop where
  hooks : c.after.request.hooks = s.request.hooks
  numbered : ∀ p ∈ Mark.sendStarts 0 c.marks, 0 < p.1
  first : ∀ p ∈ Mark.sendStarts 0 c.marks, p.1 = 1 →
    p.2.request.transmission = s.request.transmission ∧ p.2.request.response = s.request.response
  later : ∀ p ∈ Mark.sendStarts 0 c.marks, 1 < p.1 → p.2.IsBlank
  response : c.IsFinished →
    c.after.request.response = (leaves? s.request.response c.marks).or substitute

theorem ends_isDelivery {c : Course κ μ Value} (h : IsDelivery perform s c)
    (hwatched : s.request.hooks.AreWatched perform) : Ends none s c := by
  cases h with
  | @unbuilt stop s₁ ms hbuild =>
    obtain ⟨hidles, hbetween⟩ := idles_isBuild hbuild hwatched
    have hnone : ∀ p, p ∉ Mark.sendStarts 0 ms := by
      intro p
      rw [hbetween.starts]
      exact List.not_mem_nil
    refine ⟨hidles.hooks, fun p hp => absurd hp (hnone p), fun p hp => absurd hp (hnone p),
      fun p hp => absurd hp (hnone p), fun _ => ?_⟩
    rw [leaves?, Mark.obtained?, hbetween.obtains, hbetween.attempts]
    simpa using hidles.response
  | @built s₁ ms c hbuild hrounds =>
    obtain ⟨hidles, hbetween⟩ := idles_isBuild hbuild hwatched
    have hruns := runs_areRounds hrounds (hidles.hooks ▸ hwatched)
    have hstarts : Mark.sendStarts 0 (ms ++ c.marks) = Mark.sendStarts 0 c.marks := by
      rw [Mark.sendStarts_append, hbetween.starts, hbetween.attempts]
      rfl
    have hattempts : Mark.attempts (ms ++ c.marks) = Mark.attempts c.marks := by
      rw [Mark.attempts_append, hbetween.attempts, List.nil_append]
    have hobtained : Mark.obtained? (ms ++ c.marks) = Mark.obtained? c.marks := by
      rw [Mark.obtained?, List.foldl_append, hbetween.obtains]
      rfl
    refine ⟨hruns.hooks.trans hidles.hooks, ?_, ?_, ?_, fun hfinished => ?_⟩
    · rw [hstarts]
      exact hruns.numbered 0
    · rw [hstarts, ← hidles.transmission, ← hidles.response]
      exact hruns.first 0
    · rw [hstarts]
      exact hruns.later 0
    · rw [leaves?, hobtained, hattempts, Option.or_none, ← hidles.response]
      exact hruns.response hfinished none

/-- The end of a run gives the request a response if it has none. -/
theorem ends_isSending {c : Course κ μ Value} (h : IsSending perform s c)
    (hwatched : s.request.hooks.AreWatched perform) : Ends (some .missing) s c := by
  have hclosed : ∀ {outcome s₁ ms ending s₂} {c : Course κ μ Value},
      IsDelivery perform s ⟨outcome, s₁, ms⟩ → outcome ≠ .error .unfinished →
      (runPhase perform .complete).run s₁.filled = (ending, s₂) →
      c.after.request.hooks = s₂.request.hooks → c.after.request.response = s₂.request.response →
      c.marks = ms ++ [.phase .complete s₁.filled ending s₂] → Ends (some .missing) s c := by
    intro outcome s₁ ms ending s₂ c hdelivery hfinished hrun hhooks hresponse hmarks
    have hends := ends_isDelivery hdelivery hwatched
    have hidles : s₁.filled.Idles ((runPhase perform .complete).run s₁.filled).2 :=
      idles_phase (by decide) (hends.hooks ▸ hwatched)
    rw [hrun] at hidles
    have hstarts : Mark.sendStarts 0 c.marks = Mark.sendStarts 0 ms := by
      rw [hmarks, Mark.sendStarts_append]
      exact List.append_nil _
    have hleaves : leaves? s.request.response c.marks = leaves? s.request.response ms := by
      simp [leaves?, Mark.obtained?, hmarks, Mark.obtains]
    refine ⟨(hhooks.trans hidles.hooks).trans hends.hooks, ?_, ?_, ?_, fun _ => ?_⟩
    · rw [hstarts]
      exact hends.numbered
    · rw [hstarts]
      exact hends.first
    · rw [hstarts]
      exact hends.later
    · have hleft : s₁.request.response = leaves? s.request.response ms := by
        have h := hends.response hfinished
        rwa [Option.or_none] at h
      rw [hresponse, hidles.response, request_filled, hleaves, ← hleft]
  cases h with
  | givenUp hdelivery =>
    have hends := ends_isDelivery hdelivery hwatched
    exact ⟨hends.hooks, hends.numbered, hends.first, hends.later, fun h => absurd rfl h⟩
  | completeStopped hdelivery hfinished hcomplete =>
    exact hclosed hdelivery hfinished hcomplete rfl rfl rfl
  | @completed outcome s₁ ms s₂ hdelivery hfinished hcomplete =>
    have hkept : s₂.closed.request.hooks = s₂.request.hooks ∧
        s₂.closed.request.response = s₂.request.response := by
      rw [closed]
      split <;> exact ⟨rfl, rfl⟩
    exact hclosed hdelivery hfinished hcomplete hkept.1 hkept.2 rfl

/-! ## Builds and runs -/

/-- What a request comes to by builds and by runs to their ends, and the number of the runs. -/
inductive ComesTo (perform : κ → Step κ μ Unit) (s₀ : Session κ μ) : Nat → Session κ μ → Prop where
  | refl : ComesTo perform s₀ 0 s₀
  | build {n s} (h : ComesTo perform s₀ n s) :
    ComesTo perform s₀ n ((Drive.build perform).run s).after
  | send {n s} (h : ComesTo perform s₀ n s) (limit : Nat)
      (hfinished : ((Drive.send perform limit).run s).IsFinished) :
    ComesTo perform s₀ (n + 1) ((Drive.send perform limit).run s).after

/-- A request has a response if and only if it has been run. -/
theorem ComesTo.response {s₀ : Session κ μ} {n : Nat} (h : ComesTo perform s₀ n s)
    (hwatched : s₀.request.hooks.AreWatched perform) (hblank : s₀.IsBlank) :
    s.request.hooks.AreWatched perform ∧ (n = 0 → s.IsBlank) ∧
      (0 < n → s.request.response ≠ none) := by
  induction h with
  | refl => exact ⟨hwatched, fun _ => hblank, fun h => absurd h (Nat.lt_irrefl 0)⟩
  | @build n s _ ih =>
    obtain ⟨hwatched₁, hnew, hused⟩ := ih
    have hidles := (idles_isBuild (isBuild_run perform s) hwatched₁).1
    refine ⟨hidles.hooks ▸ hwatched₁, fun hn => ?_, fun hn => ?_⟩
    · exact ⟨hidles.transmission.trans (hnew hn).transmission,
        hidles.response.trans (hnew hn).response⟩
    · rw [hidles.response]
      exact hused hn
  | @send n s _ limit hfinished ih =>
    have hends := ends_isSending (isSending_run perform s limit) ih.1
    refine ⟨hends.hooks ▸ ih.1, fun hn => absurd hn (Nat.succ_ne_zero n), fun _ => ?_⟩
    rw [hends.response hfinished]
    cases leaves? s.request.response ((Drive.send perform limit).run s).marks <;> simp

/-- Whether a run starts its send hooks without message and response.  It does so in each attempt
but the first, and there if and only if no other run went before it.  In the end the request has the
answer that the last attempt has obtained, or else one that stands for none; but if a run went
before and there was no second attempt, it is the response of that run that takes the place of an
answer. -/
theorem send_starts_blank_iff {s₀ : Session κ μ} {n : Nat}
    (hwatched : s₀.request.hooks.AreWatched perform) (hblank : s₀.IsBlank)
    (hcomes : ComesTo perform s₀ n s) (limit : Nat) :
    let c := (Drive.send perform limit).run s
    ((∀ p ∈ Mark.sendStarts 0 c.marks, p.2.IsBlank) ↔
        n = 0 ∨ ∀ p ∈ Mark.sendStarts 0 c.marks, p.1 ≠ 1) ∧
      (∀ p ∈ Mark.sendStarts 0 c.marks, p.1 ≠ 1 → p.2.IsBlank) ∧
      (c.IsFinished → n = 0 ∨ 1 < (Mark.attempts c.marks).length →
        c.after.request.response = (Mark.obtained? c.marks).or (some .missing)) ∧
      (c.IsFinished → 0 < n → (Mark.attempts c.marks).length ≤ 1 →
        ∃ stale, s.request.response = some stale ∧
          c.after.request.response = (Mark.obtained? c.marks).or (some stale)) := by
  intro c
  obtain ⟨hwatched', hnew, hused⟩ := hcomes.response hwatched hblank
  have hends : Ends (some .missing) s c := ends_isSending (isSending_run perform s limit) hwatched'
  have hlater : ∀ p ∈ Mark.sendStarts 0 c.marks, p.1 ≠ 1 → p.2.IsBlank := by
    intro p hp hnumber
    have hpositive := hends.numbered p hp
    exact hends.later p hp (by omega)
  refine ⟨⟨fun hall => ?_, fun hcases p hp => ?_⟩, hlater, fun hfinished hcases => ?_,
    fun hfinished hn hone => ?_⟩
  · by_cases hn : n = 0
    · exact .inl hn
    · refine .inr fun p hp hnumber => hused (Nat.pos_of_ne_zero hn) ?_
      rw [← (hends.first p hp hnumber).2]
      exact (hall p hp).response
  · by_cases hnumber : p.1 = 1
    · rcases hcases with hn | hnone
      · obtain ⟨htransmission, hresponse⟩ := hends.first p hp hnumber
        exact ⟨htransmission.trans (hnew hn).transmission, hresponse.trans (hnew hn).response⟩
      · exact absurd hnumber (hnone p hp)
    · exact hlater p hp hnumber
  · have hnothing : (if (Mark.attempts c.marks).length ≤ 1 then s.request.response else none) =
        none := by
      rcases hcases with hn | hmany
      · rw [(hnew hn).response, ite_self]
      · rw [if_neg (by omega)]
    rw [hends.response hfinished, leaves?, hnothing, Option.or_none]
  · obtain ⟨stale, hstale⟩ := Option.ne_none_iff_exists'.1 (hused hn)
    refine ⟨stale, hstale, ?_⟩
    rw [hends.response hfinished, leaves?, if_pos hone, hstale]
    cases Mark.obtained? c.marks <;> rfl

/-- A hook that looks at its request is an observer. -/
theorem onlyLooks_look (place : Nat) (phase : Phase) (name : Option String) :
    (ScriptedHook.perform (.scripted place phase name [.look] [])).OnlyLooks := by
  refine ⟨fun _ => rfl, fun _ => rfl, fun _ => rfl, fun s => ?_⟩
  obtain ⟨sight, event, hevents⟩ : ∃ sight event,
      ((ScriptedHook.perform (.scripted place phase name [.look] [])).run s).2.world.events =
        .seen sight :: .hook phase event :: s.world.events := ⟨_, _, rfl⟩
  simp [World.messages, hevents, Event.message?]

/-- A request that somebody looks at when its send hooks start, and that is attempted twice. -/
def watched : Session ScriptedHook RunCounts :=
  let busy : Outcome := ⟨0, none, .response (.received 503 .empty [])⟩
  Session.plain "https://api.io"
    (ScriptedHook.template.modify .send fun l =>
      l.pushFront (.bare (.scripted 0 .send (some "look") [.look] [])))
    (.ofPolicy .steady []) ⟨0, 1, 0, [], false⟩ [busy, Transport.silence] #[0]

theorem areWatched_watched : watched.request.hooks.AreWatched ScriptedHook.perform := by
  intro p
  cases p with
  | validate => exact .core rfl .nil
  | build => exact .core rfl (.core rfl .nil)
  | send => exact .observer (onlyLooks_look _ _ _) (.core rfl (.core rfl .nil))
  | unmarshal => exact .core rfl (.core rfl .nil)
  | retry => exact .nil
  | complete => exact .core rfl .nil

/-- Both attempts of a first run start without a response, and the answer to the second one stays.
-/
theorem both_attempts_start_blank :
    let c := (Drive.send ScriptedHook.perform 2).run watched
    watched.request.hooks.AreWatched ScriptedHook.perform ∧ watched.IsBlank ∧
      (Mark.sendStarts 0 c.marks).map Prod.fst = [1, 2] ∧
      (∀ p ∈ Mark.sendStarts 0 c.marks, p.2.IsBlank) ∧
      (Mark.obtained? c.marks).map Response.status = some 200 ∧
      c.after.request.response = (Mark.obtained? c.marks).or (some .missing) := by
  intro c
  have hblank : watched.IsBlank := ⟨rfl, rfl⟩
  obtain ⟨hstarts, -, hresponse, -⟩ := send_starts_blank_iff areWatched_watched hblank .refl 2
  exact ⟨areWatched_watched, hblank, by decide +kernel, hstarts.2 (.inl rfl), by decide +kernel,
    hresponse (by decide +kernel) (.inl rfl)⟩

/-- A second run starts its send hooks with the message and the response of the first one.  It
obtains no answer, and ends with that response. -/
theorem second_run_keeps_response :
    let down : FailureSpec :=
      .make (.ofReason (.told (.outside (.network .connectError)) "")) none none
    let s : Session CoreHook Unit := Session.plain "https://api.io" (template id) .never .none
      [⟨0, none, .response (.received 200 .empty [])⟩, ⟨0, none, .failure down⟩] ()
    let first := (Drive.send CoreHook.perform 1).run s
    let second := (Drive.send CoreHook.perform 1).run first.after
    s.IsBlank ∧ first.IsFinished ∧ second.IsFinished ∧
      (Mark.sendStarts 0 second.marks).map (fun p => (p.1, p.2.request.transmission.isSome,
        p.2.request.response.map Response.status)) = [(1, true, some 200)] ∧
      (Mark.obtained? second.marks).isNone ∧
      second.after.request.response.map Response.status = some 200 := by
  intro down s first second
  exact ⟨⟨rfl, rfl⟩, by decide +kernel, by decide +kernel, by decide +kernel, by decide +kernel,
    by decide +kernel⟩

end Drive

end RequestPipeline
