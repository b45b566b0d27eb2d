import RequestPipeline.Proofs.UntangledHooks

/-!
# What a context says of its end

A context keeps the cause of its first cancellation.  That its deadline has been reached is not kept
but read from the clock at each look.  So a context that has ended stays ended and says why in the
same words, with one exception: the first cancellation after the deadline puts its words in the
place of those about the deadline.  This is shown along a history of the context, in which others
cancel it and wait on it while the clock goes on.
-/

namespace RequestPipeline

open Text (Str)

variable {κ μ : Type}

/-! ## Texts -/

namespace Failures

/-- What a cancellation says: the text of its cause if that tells the end of a context, and a text
about the cause otherwise. -/
def cancellationText (fs : Failures) : Option FailureId → Str
  | none => "context canceled"
  | some cause =>
    match fs.reasonAt? cause with
    | some reason =>
      if reason.kind = .cancelled then reason.message
      else .ofString "context canceled: " ++ reason.message
    | none => "context canceled"

/-- What a context says of its end. -/
def endingText (fs : Failures) : Context.Ending → Str
  | .expired => "context deadline exceeded"
  | .cancelled cause => fs.cancellationText cause

/-- There is such a failure, if the cause is one. -/
def KnowsCause (fs : Failures) (cause : Option FailureId) : Prop :=
  ∀ id, cause = some id → fs.Knows id

variable {fs fs' : Failures}

theorem messageOf_add_self (fs : Failures) (reason : Failure.Reason) :
    (fs.add (.ofReason reason)).2.messageOf (fs.add (.ofReason reason)).1 = reason.message := by
  simp [messageOf, Failure.message, Failure.ofReason]

/-- The failure that the end of a context stands for says so. -/
theorem messageOf_ofEnding (fs : Failures) (e : Context.Ending) :
    (fs.ofEnding e).2.messageOf (fs.ofEnding e).1 = fs.endingText e := by
  match e with
  | .expired | .cancelled none => exact messageOf_add_self fs _
  | .cancelled (some cause) =>
    cases hcause : fs.get? cause with
    | none =>
      simp only [ofEnding, hcause, endingText, cancellationText, reasonAt?, Option.map_none]
      exact messageOf_add_self fs _
    | some f =>
      simp only [ofEnding, hcause, endingText, cancellationText, reasonAt?, Option.map_some]
      by_cases hkind : f.kind = .cancelled
      · have hkind' : f.reason.kind = .cancelled := hkind
        simp [hkind, hkind', messageOf, hcause, Failure.message]
      · have hkind' : f.reason.kind ≠ .cancelled := hkind
        simp only [hkind, hkind', if_false]
        exact messageOf_add_self fs _

/-- A cancellation goes on saying what it said. -/
theorem Grows.cancellationText (h : fs.Grows fs') {cause : Option FailureId}
    (hknown : fs.KnowsCause cause) : fs'.cancellationText cause = fs.cancellationText cause := by
  cases cause with
  | none => rfl
  | some id =>
    obtain ⟨reason, hreason⟩ := hknown id rfl
    simp only [Failures.cancellationText, hreason, h id reason hreason]

end Failures

namespace Session

/-- What the failure says that the end of the context stands for, if the context has ended. -/
def endingText? (s : Session κ μ) : Option Str :=
  match (Step.cancellation? : Step κ μ _).run s with
  | (.ok (some id), after) => some (after.world.failures.messageOf id)
  | _ => none

variable {s s' s'' : Session κ μ}

theorem endingText?_eq (s : Session κ μ) :
    s.endingText? = (s.request.context.ending? s.world.clock).map s.world.failures.endingText := by
  rw [endingText?, Request.run_cancellation]
  cases s.request.context.ending? s.world.clock with
  | none => rfl
  | some e => exact congrArg some (Failures.messageOf_ofEnding _ e)

/-- A context has ended if and only if it says why. -/
theorem isEnded_iff : s.isEnded = true ↔ s.endingText? ≠ none := by
  rw [isEnded, Context.isDone_eq_isSome, endingText?_eq, Option.isSome_iff_ne_none, ne_eq, ne_eq,
    Option.map_eq_none_iff]

theorem endingText?_of_cancelled {cause : Option FailureId}
    (h : s.request.context.cancelled = some cause) :
    s.endingText? = some (s.world.failures.cancellationText cause) := by
  rw [endingText?_eq, Context.ending?, h]
  rfl

theorem endingText?_of_expired (h : s.request.context.cancelled = none)
    (hended : s.isEnded = true) :
    s.endingText? = some "context deadline exceeded" := by
  have hexpired : s.request.context.isExpired s.world.clock = true := by
    simpa [isEnded, Context.isDone, h] using hended
  rw [endingText?_eq, Context.ending?, h]
  simp [hexpired, Failures.endingText]

end Session

/-! ## Waits -/

namespace Context

variable {c : Context} {now seconds : Float}

/-- The cause of the cancellation that takes place in a sleep, if one does. -/
def struckAsleep (c : Context) (now seconds : Float) : List (Option FailureId) :=
  match c.cancelled with
  | some _ => []
  | none =>
    ((earliest? (c.scheduled.filter fun s => s.time ≤ now + seconds)).map Cancellation.cause).toList

/-- The cause of the cancellation that takes place in a wait, if one does. -/
def struck (c : Context) (now seconds : Float) : List (Option FailureId) :=
  c.struckAsleep now (c.wait now seconds).slept

theorem cancelled_cancel (c : Context) (cause : Option FailureId) :
    (c.cancel cause).cancelled = c.cancelled.or (some cause) := by
  cases h : c.cancelled <;> simp [cancel, h]

theorem cancelled_sleep (c : Context) (now seconds : Float) :
    (c.sleep now seconds).2.cancelled = c.cancelled.or (c.struckAsleep now seconds).head? := by
  cases hcancelled : c.cancelled with
  | some cause => simp [sleep, hcancelled]
  | none =>
    cases hearliest : earliest? (c.scheduled.filter fun s => decide (s.time ≤ now + seconds)) with
    | none => simp [sleep, struckAsleep, hcancelled, hearliest]
    | some s => simp [sleep, struckAsleep, hcancelled, hearliest, cancelled_cancel]

theorem context_wait (c : Context) (now seconds : Float) :
    (c.wait now seconds).context = (c.sleep now (c.wait now seconds).slept).2 := by
  rw [wait]
  cases c.remaining? now with
  | none => rfl
  | some left =>
    dsimp only
    split <;> rfl

theorem cancelled_wait (c : Context) (now seconds : Float) :
    (c.wait now seconds).context.cancelled = c.cancelled.or (c.struck now seconds).head? := by
  rw [context_wait, cancelled_sleep, struck]

end Context

/-! ## Histories -/

namespace Session

/-- The failures by which the context has ended, or may do so in a wait, can be looked up. -/
def KnowsEnds (s : Session κ μ) : Prop :=
  ∀ x, s.request.context.EndsBy x → s.world.failures.Knows x

/-- One thing that may happen to the context of a request, with the cause of the cancellation in it:
a call cancels it, something waits on it, or time goes by, in which failures may be made. -/
inductive Meets (s : Session κ μ) : List (Option FailureId) → Session κ μ → Prop
  | cancelled (cause : Option FailureId) (known : s.world.failures.KnowsCause cause) :
    Meets s [cause]
      { s with request := { s.request with context := s.request.context.cancel cause } }
  | waited (seconds : Float) :
    Meets s (s.request.context.struck s.world.clock seconds) (s.waited seconds)
  -- A clock that is no number is not after itself.
  | passed {s' : Session κ μ} (context : s'.request.context = s.request.context)
    (clock : s'.world.clock = s.world.clock ∨ s.world.clock ≤ s'.world.clock)
    (failures : s.world.failures.Grows s'.world.failures) : Meets s [] s'

/-- Any number of such things, one after the other. -/
inductive LivesThrough (s : Session κ μ) : List (Option FailureId) → Session κ μ → Prop
  | still : LivesThrough s [] s
  | more {causes later : List (Option FailureId)} {s' s'' : Session κ μ}
    (before : LivesThrough s causes s') (last : Meets s' later s'') :
    LivesThrough s (causes ++ later) s''

/-- What stays of a context: its first cancellation, its end, and the failures behind it. -/
structure Since (s : Session κ μ) (causes : List (Option FailureId)) (s' : Session κ μ) : Prop where
  cancelled : s'.request.context.cancelled = s.request.context.cancelled.or causes.head?
  ended : s.isEnded = true → s'.isEnded = true
  failures : s.world.failures.Grows s'.world.failures
  known : s.KnowsEnds → s'.KnowsEnds

variable {s s' s'' : Session κ μ} {causes later : List (Option FailureId)}

theorem Since.trans (h : Since s causes s') (h' : Since s' later s'') :
    Since s (causes ++ later) s'' where
  cancelled := by rw [h'.cancelled, h.cancelled, List.head?_append, Option.or_assoc]
  ended := h'.ended ∘ h.ended
  failures := h.failures.trans h'.failures
  known := h'.known ∘ h.known

theorem since_of_meets (h : Meets s causes s') : Since s causes s' := by
  cases h with
  | cancelled cause known =>
    refine ⟨Context.cancelled_cancel _ cause, fun _ => ?_, .refl _, fun hknown x hx => ?_⟩
    · have hsome := Context.cancelled_cancel s.request.context cause
      simp [isEnded, Context.isDone, hsome]
    · rcases Context.endsBy_of_cancel hx with hbefore | hcause
      · exact hknown x hbefore
      · exact known x hcause
  | waited seconds =>
    -- The end of a context that has ended does not rest on the clock here: its wait takes no time.
    refine ⟨Context.cancelled_wait _ _ _, fun hended => ?_, .refl _, fun hknown x hx => ?_⟩
    · exact (Context.wait_of_isDone hended seconds).2
    · exact hknown x (Context.endsBy_of_wait hx)
  | passed context clock failures =>
    refine ⟨by simp [context], fun hended => ?_, failures, fun hknown x hx => ?_⟩
    · rw [isEnded] at hended
      rw [isEnded, context]
      rcases clock with hsame | hforward
      · rwa [hsame]
      · have hkeeps : s.request.context.Keeps s.request.context := ⟨rfl, .inr rfl⟩
        exact hkeeps.isDone hforward hended
    · exact failures.knows (hknown x (context ▸ hx))

/-- Whatever happens to a context, it keeps its end and the first cancellation. -/
theorem since_of_livesThrough (h : s.LivesThrough causes s') : Since s causes s' := by
  induction h with
  | still => exact ⟨by simp, id, .refl _, id⟩
  | more _ last ih => exact ih.trans (since_of_meets last)

/-- A cancellation by a failure made for it. -/
theorem livesThrough_cancel (hlabels : s.world.failures.KnowsLabels) (cause : Option FailureSpec) :
    s.LivesThrough [cause.map fun spec => (s.world.failures.build spec).1]
      ((Step.cancel cause : Step κ μ Unit).run s).2 := by
  cases cause with
  | none => exact .more .still (.cancelled none nofun)
  | some spec =>
    have hgrows : s.world.failures.Grows (s.world.failures.build spec).2 :=
      Failures.grows_build _ spec
    have hmade : s.LivesThrough [] (s.withFailures (s.world.failures.build spec).2) :=
      .more .still (.passed rfl (.inl rfl) hgrows)
    refine .more hmade (.cancelled (some (s.world.failures.build spec).1) ?_)
    rintro id ⟨⟩
    exact (Failures.knowsLabels_build hlabels spec).2

/-- A context that was cancelled says the same of its end from then on. -/
theorem Since.endingText?_of_cancelled (h : Since s causes s') (hknown : s.KnowsEnds)
    {cause : Option FailureId} (hcancelled : s.request.context.cancelled = some cause) :
    s'.endingText? = s.endingText? := by
  have hcancelled' : s'.request.context.cancelled = some cause := by
    rw [h.cancelled, hcancelled, Option.some_or]
  have hcause : s.world.failures.KnowsCause cause := by
    rintro id rfl
    exact hknown id (.inl hcancelled)
  rw [Session.endingText?_of_cancelled hcancelled', Session.endingText?_of_cancelled hcancelled,
    h.failures.cancellationText hcause]

/-- A context that was not cancelled speaks of its deadline as long as nothing cancels it. -/
theorem Since.endingText?_of_expired (h : Since s [] s') (hended : s.isEnded = true)
    (hcancelled : s.request.context.cancelled = none) : s'.endingText? = s.endingText? := by
  have hcancelled' : s'.request.context.cancelled = none := by
    rw [h.cancelled, hcancelled]
    rfl
  rw [Session.endingText?_of_expired hcancelled' (h.ended hended),
    Session.endingText?_of_expired hcancelled hended]

/-- At every point of its life, a context has ended if and only if it says why, and once it has
ended it stays so.  If there was a cancellation up to then, it says what the first one says, and
does so from then on.  If there was none, it speaks of the deadline, up to the first cancellation:
then it says what that one says, and does so from then on. -/
theorem ending_keeps_its_text {s₀ s s' : Session κ μ} {before after : List (Option FailureId)}
    (hknown : s₀.KnowsEnds) (hs : s₀.LivesThrough before s) (hs' : s.LivesThrough after s') :
    (s.isEnded = true ↔ s.endingText? ≠ none) ∧
    (s.isEnded = true →
      s'.isEnded = true ∧
      (∀ cause, s₀.request.context.cancelled.or before.head? = some cause →
        s.endingText? = some (s.world.failures.cancellationText cause) ∧
          s'.endingText? = s.endingText?) ∧
      (s₀.request.context.cancelled.or before.head? = none →
        s.endingText? = some "context deadline exceeded" ∧
        (after = [] → s'.endingText? = s.endingText?) ∧
        ∀ cause rest, after = cause :: rest →
          s'.endingText? = some (s'.world.failures.cancellationText cause) ∧
            ∀ later s'', s'.LivesThrough later s'' → s''.endingText? = s'.endingText?)) := by
  have hsince : Since s₀ before s := since_of_livesThrough hs
  have hsince' : Since s after s' := since_of_livesThrough hs'
  refine ⟨isEnded_iff, fun hended => ⟨hsince'.ended hended, ?_, ?_⟩⟩
  · intro cause hcause
    have hcancelled : s.request.context.cancelled = some cause := hsince.cancelled.trans hcause
    exact ⟨endingText?_of_cancelled hcancelled,
      hsince'.endingText?_of_cancelled (hsince.known hknown) hcancelled⟩
  · intro hnone
    have hcancelled : s.request.context.cancelled = none := hsince.cancelled.trans hnone
    refine ⟨endingText?_of_expired hcancelled hended, ?_, ?_⟩
    · rintro rfl
      exact hsince'.endingText?_of_expired hended hcancelled
    · rintro cause rest rfl
      have hcancelled' : s'.request.context.cancelled = some cause := by
        rw [hsince'.cancelled, hcancelled]
        rfl
      have hknown' : s'.KnowsEnds := hsince'.known (hsince.known hknown)
      exact ⟨endingText?_of_cancelled hcancelled', fun later s'' hlater =>
        (since_of_livesThrough hlater).endingText?_of_cancelled hknown' hcancelled'⟩

/-- A request at a time, with a deadline and a cancellation to come during a wait. -/
def dated (clock deadline : Float) : Session CoreHook Unit :=
  let s := Session.plain "https://api.io" .empty .never .none [] ()
  { world := { s.world with
      clock, failures := ⟨#[.ofReason (.told .cancelled "stop")], []⟩ }
    request := { s.request with context := ⟨some deadline, none, [⟨1002, some 0⟩]⟩ } }

def lateCause : FailureSpec :=
  .make (.ofReason (.told (.outside .value) "late")) none none

/-- A cancellation in a wait, another one by a call, and the deadline after both. -/
theorem first_cancellation_is_told :
    let s₀ := dated 1000 1005
    let s := s₀.waited 10
    let cancelled := ((Step.cancel (some lateCause) : Step CoreHook Unit Unit).run s).2
    let s' : Session CoreHook Unit :=
      { cancelled with world := { cancelled.world with clock := 1006 } }
    s₀.KnowsEnds ∧ s₀.LivesThrough [some 0] s ∧ s.LivesThrough [some 1] s' ∧ s.isEnded = true ∧
      s.endingText? = some "stop" ∧ s'.endingText? = some "stop" := by
  intro s₀ s cancelled s'
  have hknown : s₀.KnowsEnds := by
    rintro x (hx | ⟨-, c, hc, hx⟩)
    · cases hx
    · obtain rfl := List.mem_singleton.1 hc
      obtain rfl := Option.some.inj hx
      exact ⟨_, rfl⟩
  have hstruck : s₀.request.context.struck s₀.world.clock 10 = [some 0] := by decide +kernel
  have hs : s₀.LivesThrough [some 0] s := hstruck ▸ .more .still (.waited 10)
  have hlabels : s.world.failures.KnowsLabels := fun _ _ h => by cases h
  have hforward : cancelled.world.clock ≤ 1006 := by decide +kernel
  have hs' : s.LivesThrough [some 1] s' :=
    .more (livesThrough_cancel hlabels (some lateCause)) (.passed rfl (.inr hforward) (.refl _))
  have hended : s.isEnded = true := by decide +kernel
  obtain ⟨htext, hsame⟩ := ((ending_keeps_its_text hknown hs hs').2 hended).2.1 (some 0) rfl
  have hstop : s.world.failures.cancellationText (some 0) = "stop" := by decide +kernel
  rw [hstop] at htext
  exact ⟨hknown, hs, hs', hended, htext, hsame.trans htext⟩

/-- A context that has ended by its deadline is cancelled by a call, and says something else then.
-/
theorem cancellation_hides_deadline :
    let s := dated 1000 999
    let s' := ((Step.cancel (some lateCause) : Step CoreHook Unit Unit).run s).2
    s.LivesThrough [some 1] s' ∧ s.isEnded = true ∧
      s.endingText? = some "context deadline exceeded" ∧
      s'.endingText? = some "context canceled: late" := by
  intro s s'
  have hlabels : s.world.failures.KnowsLabels := fun _ _ h => by cases h
  exact ⟨livesThrough_cancel hlabels (some lateCause), by decide +kernel, by decide +kernel,
    by decide +kernel⟩

end Session

end RequestPipeline
