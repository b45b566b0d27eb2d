import RequestPipeline.Proofs.MessageOfRun
import RequestPipeline.Proofs.Untangled

/-!
# Hooks that leave chains of causes finite

The core hooks link failures where a fault of the network is caught: they put it behind a new
failure, or behind the failure that the end of the context stands for.  That may be one from
outside, the same at every such end.  As it is behind no fault of the network, this makes no circle.
Hooks given as data leave chains finite as well, if the failures that they supply have causes of
their own.
-/

namespace RequestPipeline

open Text (Str)

variable {κ μ α β : Type}

/-! ## Contexts -/

namespace Context

variable {c : Context} {x : FailureId} {now seconds : Float}

/-- The context has ended by the failure, or may do so in a wait. -/
def EndsBy (c : Context) (x : FailureId) : Prop :=
  c.cancelled = some (some x) ∨ c.cancelled = none ∧ ∃ s ∈ c.scheduled, s.cause = some x

theorem endsBy_of_cancel {cause : Option FailureId} (h : (c.cancel cause).EndsBy x) :
    c.EndsBy x ∨ cause = some x := by
  cases hcancelled : c.cancelled with
  | some before =>
    simp only [cancel, hcancelled] at h
    exact .inl h
  | none =>
    simp only [cancel, hcancelled, EndsBy, Option.some.injEq, reduceCtorEq, false_and,
      or_false] at h
    exact .inr h

theorem cancelled_of_ending {cause : Option FailureId}
    (h : c.ending? now = some (.cancelled cause)) : c.cancelled = some cause := by
  rw [ending?] at h
  cases hcancelled : c.cancelled with
  | none => simp [hcancelled] at h
  | some before => simpa [hcancelled] using h

theorem mem_of_earliest? {cs : List Cancellation} {s : Cancellation} (h : earliest? cs = some s) :
    s ∈ cs := by
  induction cs generalizing s with
  | nil => cases h
  | cons c rest ih =>
    cases hrest : earliest? rest with
    | none =>
      simp only [earliest?, hrest, Option.some.injEq] at h
      simp [h]
    | some d =>
      simp only [earliest?, hrest] at h
      by_cases hlater : d.time < c.time
      · simp only [hlater, if_true, Option.some.injEq] at h
        exact List.mem_cons_of_mem _ (ih (h ▸ hrest))
      · simp only [hlater, if_false, Option.some.injEq] at h
        simp [h]

theorem endsBy_of_sleep (h : (c.sleep now seconds).2.EndsBy x) : c.EndsBy x := by
  cases hcancelled : c.cancelled with
  | some cause => simpa only [sleep, hcancelled] using h
  | none =>
    cases hearliest : earliest? (c.scheduled.filter fun s => decide (s.time ≤ now + seconds)) with
    | none => simpa only [sleep, hcancelled, hearliest] using h
    | some s =>
      simp only [sleep, hcancelled, hearliest] at h
      rcases endsBy_of_cancel h with hbefore | hcause
      · exact hbefore
      · exact .inr ⟨hcancelled, s, List.mem_of_mem_filter (mem_of_earliest? hearliest), hcause⟩

theorem endsBy_of_wait (h : (c.wait now seconds).context.EndsBy x) : c.EndsBy x := by
  cases hleft : c.remaining? now with
  | none =>
    simp only [wait, hleft] at h
    exact endsBy_of_sleep h
  | some left =>
    simp only [wait, hleft] at h
    by_cases hsooner : left < positivePart seconds
    · simp only [hsooner, if_true] at h
      exact endsBy_of_sleep h
    · simp only [hsooner, if_false] at h
      exact endsBy_of_sleep h

end Context

/-! ## Sessions -/

/-- The failures of the outcome have causes of their own. -/
structure Outcome.StandsAlone (o : Outcome) : Prop where
  cancels : ∀ spec, o.cancels = some (some spec) → spec.StandsAlone
  answer : ∀ spec, o.answer = .failure spec → spec.StandsAlone

namespace Session

/-- The failure has a label, or is the cause of a cancellation of the context that has come or is
scheduled: so a hook or a call can get the same failure once more. -/
def IsApart (s : Session κ μ) (x : FailureId) : Prop :=
  s.request.context.EndsBy x ∨ ∃ label, s.world.failures.labels.lookup label = some x

/-- All chains of causes are finite, and what may come again is not behind a fault of the network.
What the network answers has causes of its own. -/
structure Untangled (s : Session κ μ) : Prop where
  causes : s.world.failures.Untangled s.IsApart
  apart : ∀ x, s.IsApart x → s.world.failures.Knows x
  error : ∀ id, s.request.error = some id → s.world.failures.Knows id
  tape : ∀ o ∈ s.world.tape, o.StandsAlone

/-- If chains are finite in one session they are so in a later one, which has lost no failure. -/
def StaysUntangled (s s' : Session κ μ) : Prop :=
  s.Untangled → s'.Untangled ∧ s.world.failures.Grows s'.world.failures

variable {s s' s₁ s₂ : Session κ μ} {failures : Failures} {id : FailureId}

namespace Untangled

/-- No failure has a cause yet. -/
theorem of_causeless (hcauses : ∀ id, s.world.failures.causeOf? id = none)
    (hapart : ∀ x, s.IsApart x → s.world.failures.Knows x)
    (herror : ∀ id, s.request.error = some id → s.world.failures.Knows id)
    (htape : ∀ o ∈ s.world.tape, o.StandsAlone) : s.Untangled := by
  have hgrounded : s.world.failures.Grounded := by
    refine ⟨fun id => Failures.ends_of_causeless (hcauses id), fun id c hcause => ?_⟩
    simp [hcauses] at hcause
  refine ⟨⟨hgrounded, fun f x _ hbehind => ?_⟩, hapart, herror, htape⟩
  exact absurd (hcauses f) hbehind.causeOf?_ne_none

/-- Nothing happened to the failures. -/
theorem of_same (h : s.Untangled) (hfailures : s'.world.failures = s.world.failures)
    (herror : ∀ id, s'.request.error = some id → s.world.failures.Knows id)
    (hcontext : ∀ x, s'.request.context.EndsBy x → s.request.context.EndsBy x)
    (htape : ∀ o ∈ s'.world.tape, o ∈ s.world.tape) : s'.Untangled := by
  have hapart : ∀ x, s'.IsApart x → s.IsApart x := by
    intro x hx
    rcases hx with hends | hlabel
    · exact .inl (hcontext x hends)
    · exact .inr (hfailures ▸ hlabel)
  constructor
  · rw [hfailures]
    exact ⟨h.causes.toGrounded, fun f x hfault hbehind hx =>
      h.causes.apart f x hfault hbehind (hapart x hx)⟩
  · intro x hx
    rw [hfailures]
    exact h.apart x (hapart x hx)
  · rwa [hfailures]
  · intro o ho
    exact h.tape o (htape o ho)

theorem withFailures (h : s.Untangled) (hgrows : s.world.failures.Grows failures)
    (hlabels : failures.labels = s.world.failures.labels)
    (hcauses : failures.Untangled s.IsApart) : (s.withFailures failures).Untangled := by
  have hapart : ∀ x, (s.withFailures failures).IsApart x ↔ s.IsApart x := by
    intro x
    simp [IsApart, hlabels]
  constructor
  · exact ⟨hcauses.toGrounded, fun f x hfault hbehind hx =>
      hcauses.apart f x hfault hbehind ((hapart x).1 hx)⟩
  · intro x hx
    exact hgrows.knows (h.apart x ((hapart x).1 hx))
  · intro id hid
    exact hgrows.knows (h.error id hid)
  · exact h.tape

/-- A failure from outside that stands alone.  No fault of the network has it behind. -/
theorem built (h : s.Untangled) {spec : FailureSpec} (hspec : spec.StandsAlone) :
    let failures := (s.world.failures.build spec).2
    (s.withFailures failures).Untangled ∧ failures.Knows (s.world.failures.build spec).1 ∧
      ∀ f, failures.IsFault f → ¬ failures.Behind f (s.world.failures.build spec).1 := by
  intro failures
  have hlabelled : ∀ label id, s.world.failures.labels.lookup label = some id → s.IsApart id :=
    fun label id hid => .inr ⟨label, hid⟩
  have hgrows : s.world.failures.Grows failures := Failures.grows_build _ spec
  obtain ⟨hcauses, hmade, hlabels⟩ := h.causes.build hspec h.apart hlabelled
  have hapart : ∀ x, (s.withFailures failures).IsApart x →
      s.IsApart x ∨ x = (s.world.failures.build spec).1 := by
    intro x hx
    rcases hx with hends | ⟨label, hid⟩
    · exact .inl (.inl hends)
    · exact hlabels label x hid
  refine ⟨⟨⟨hcauses.toGrounded, fun f x hfault hbehind hx => ?_⟩, fun x hx => ?_, fun id hid => ?_,
    h.tape⟩, hmade, fun f hfault hbehind => ?_⟩
  · exact hcauses.apart f x hfault hbehind (hapart x hx)
  · rcases hapart x hx with hbefore | rfl
    · exact hgrows.knows (h.apart x hbefore)
    · exact hmade
  · exact hgrows.knows (h.error id hid)
  · exact hcauses.apart f _ hfault hbehind (.inr rfl)

/-- The context is cancelled by a failure that no fault of the network has behind it. -/
theorem cancelled (h : s.Untangled) (hknown : s.world.failures.Knows id)
    (hfront : ∀ f, s.world.failures.IsFault f → ¬ s.world.failures.Behind f id) :
    ({ s with request := { s.request with
      context := s.request.context.cancel (some id) } } : Session κ μ).Untangled := by
  refine ⟨⟨h.causes.toGrounded, fun f x hfault hbehind hx => ?_⟩, fun x hx => ?_, h.error, h.tape⟩
  · rcases hx with hends | hlabel
    · rcases Context.endsBy_of_cancel hends with hbefore | hid
      · exact h.causes.apart f x hfault hbehind (.inl hbefore)
      · obtain rfl := Option.some.inj hid
        exact hfront f hfault hbehind
    · exact h.causes.apart f x hfault hbehind (.inr hlabel)
  · rcases hx with hends | hlabel
    · rcases Context.endsBy_of_cancel hends with hbefore | hid
      · exact h.apart x (.inl hbefore)
      · obtain rfl := Option.some.inj hid
        exact hknown
    · exact h.apart x (.inr hlabel)

/-- The failure that the end of the context stands for.  No fault of the network has it behind. -/
theorem ending (h : s.Untangled) {e : Context.Ending}
    (he : s.request.context.ending? s.world.clock = some e) :
    let failures := (s.world.failures.ofEnding e).2
    (s.withFailures failures).Untangled ∧ s.world.failures.Grows failures ∧
      failures.TellsEnd (s.world.failures.ofEnding e).1 ∧
      ∀ f, failures.IsFault f → ¬ failures.Behind f (s.world.failures.ofEnding e).1 := by
  intro failures
  have htells := Failures.tellsEnd_ofEnding s.world.failures e
  obtain ⟨hgrows, -, -⟩ := Failures.knows_ofEnding s.world.failures e
  rcases s.world.failures.ofEnding_cases e with ⟨x, rfl, -, hsame⟩ | ⟨-, reason, -, hnew⟩
  · have hcancelled := Context.cancelled_of_ending he
    have hsame₂ : failures = s.world.failures := congrArg Prod.snd hsame
    refine ⟨?_, hgrows, htells, fun f hfault hbehind => ?_⟩
    · rw [hsame₂]
      exact h
    · rw [hsame, hsame₂] at hbehind
      rw [hsame₂] at hfault
      exact h.causes.apart f x hfault hbehind (.inl (.inl hcancelled))
  · have hadded : failures = (s.world.failures.add (.ofReason reason)).2 :=
      congrArg Prod.snd hnew
    refine ⟨?_, hgrows, htells, fun f _ hbehind => ?_⟩
    · rw [hadded]
      exact h.withFailures (Failures.grows_add _ _) rfl (h.causes.add rfl)
    · rw [hnew, hadded, Failures.Behind, Failures.causeOf?_add_of_causeless _ rfl] at hbehind
      exact h.causes.not_behind (Failures.not_knows_new _) hbehind

/-- What the end of the context stands for gets a cause that it is not behind. -/
theorem linked {c : FailureId} (h : s.Untangled) (htells : s.world.failures.TellsEnd id)
    (hfront : ∀ f, s.world.failures.IsFault f → ¬ s.world.failures.Behind f id)
    (hc : s.world.failures.Knows c) (hself : c ≠ id) (hbehind : ¬ s.world.failures.Behind c id) :
    (s.withFailures (s.world.failures.setCause id (some c))).Untangled := by
  have hgrows := Failures.grows_setCause s.world.failures id (some c)
  have hupdate := Failures.causeOf?_setCause (Failures.knows_iff.1 htells.knows) (some c)
  refine h.withFailures hgrows rfl (h.causes.link hgrows hupdate hc hself hbehind
    fun f hfault => ⟨?_, hfront f ?_⟩)
  · rintro rfl
    obtain ⟨fault, hkind⟩ := hfault
    rw [Failures.kindAt?_setCause, htells] at hkind
    cases hkind
  · simpa [Failures.IsFault] using hfault

end Untangled

namespace StaysUntangled

theorem refl (s : Session κ μ) : s.StaysUntangled s := fun h => ⟨h, .refl _⟩

theorem trans (h : s.StaysUntangled s₁) (h' : s₁.StaysUntangled s₂) : s.StaysUntangled s₂ := by
  intro hs
  obtain ⟨hs₁, hgrows⟩ := h hs
  obtain ⟨hs₂, hgrows'⟩ := h' hs₁
  exact ⟨hs₂, hgrows.trans hgrows'⟩

theorem ofRequest (r : Request κ) (herror : r.error = s.request.error)
    (hcontext : r.context = s.request.context) :
    s.StaysUntangled { s with request := r } := by
  intro h
  refine ⟨h.of_same rfl ?_ ?_ fun _ ho => ho, .refl _⟩
  · intro id hid
    exact h.error id (herror ▸ hid)
  · intro x hx
    exact hcontext ▸ hx

theorem ofWorld (w : World μ) (hfailures : w.failures = s.world.failures)
    (htape : w.tape = s.world.tape) : s.StaysUntangled { s with world := w } := by
  intro h
  refine ⟨h.of_same hfailures h.error (fun _ hx => hx) fun o ho => htape ▸ ho, ?_⟩
  simp only [hfailures]
  exact .refl _

theorem withError {error : Option FailureId}
    (h : s.Untangled → ∀ id, error = some id → s.world.failures.Knows id) :
    s.StaysUntangled (s.withError error) := by
  intro hs
  exact ⟨hs.of_same rfl (h hs) (fun _ hx => hx) fun _ ho => ho, .refl _⟩

/-- A failure of the library. -/
theorem explained (s : Session κ μ) (reason : Failure.Reason) :
    s.StaysUntangled (s.withFailures (s.world.failures.addReason reason).2) := by
  intro h
  have hgrows := Failures.grows_addReason s.world.failures reason
  exact ⟨h.withFailures hgrows (Failures.labels_addReason _ reason) (h.causes.addReason reason),
    hgrows⟩

/-- A failure without a cause. -/
theorem made (s : Session κ μ) {f : Failure} (hcause : f.cause = none) :
    s.StaysUntangled (s.withFailures (s.world.failures.add f).2) := by
  intro h
  have hgrows := Failures.grows_add s.world.failures f
  exact ⟨h.withFailures hgrows rfl (h.causes.add hcause), hgrows⟩

theorem logged (s : Session κ μ) (line : Str) : s.StaysUntangled (s.logged line) := by
  cases hlogger : s.request.config.logger with
  | none =>
    simp only [Session.logged, hlogger]
    exact refl s
  | some logger =>
    simp only [Session.logged, hlogger]
    exact ofWorld _ rfl rfl

end StaysUntangled

end Session

/-! ## Steps -/

namespace Step

open Session

/-- Whatever session the step is taken in, it leaves chains finite and loses no failure. -/
def StaysUntangled (step : Step κ μ α) : Prop :=
  ∀ s : Session κ μ, s.StaysUntangled (step.run s).2

theorem staysUntangled_pure (a : α) : (pure a : Step κ μ α).StaysUntangled := fun s => .refl s

theorem staysUntangled_throw (stop : Stop) : (throw stop : Step κ μ α).StaysUntangled :=
  fun s => .refl s

theorem staysUntangled_bind {step : Step κ μ α} {next : α → Step κ μ β} (h : step.StaysUntangled)
    (hnext : ∀ a, (next a).StaysUntangled) : (step >>= next).StaysUntangled := by
  intro s
  have hfirst := h s
  rw [run_bind]
  rcases hrun : step.run s with ⟨stop | a, s₁⟩ <;> rw [hrun] at hfirst
  · exact hfirst
  · exact hfirst.trans (hnext a s₁)

theorem staysUntangled_tryCatch {step : Step κ μ α} {handle : Stop → Step κ μ α}
    (h : step.StaysUntangled) (hhandle : ∀ stop, (handle stop).StaysUntangled) :
    (tryCatch step handle).StaysUntangled := by
  intro s
  have hfirst := h s
  rw [run_tryCatch]
  rcases hrun : step.run s with ⟨stop | a, s₁⟩ <;> rw [hrun] at hfirst
  · exact hfirst.trans (hhandle stop s₁)
  · exact hfirst

theorem staysUntangled_ite {p : Prop} [Decidable p] {step step' : Step κ μ α}
    (h : step.StaysUntangled) (h' : step'.StaysUntangled) :
    (if p then step else step').StaysUntangled := by
  by_cases hp : p
  · rwa [if_pos hp]
  · rwa [if_neg hp]

theorem staysUntangled_getRequest : (getRequest : Step κ μ _).StaysUntangled := fun s => .refl s

theorem staysUntangled_getWorld : (getWorld : Step κ μ _).StaysUntangled := fun s => .refl s

theorem staysUntangled_modifyRequest {f : Request κ → Request κ}
    (herror : ∀ r, (f r).error = r.error) (hcontext : ∀ r, (f r).context = r.context) :
    (modifyRequest f : Step κ μ Unit).StaysUntangled :=
  fun s => .ofRequest (f s.request) (herror _) (hcontext _)

theorem staysUntangled_record (e : Event) : (record e : Step κ μ Unit).StaysUntangled :=
  fun _ => .ofWorld _ rfl rfl

theorem staysUntangled_log (line : Str) : (log line : Step κ μ Unit).StaysUntangled := by
  intro s
  rw [Request.run_log]
  exact .logged s line

theorem staysUntangled_fail (reason : Failure.Reason) :
    (fail reason : Step κ μ α).StaysUntangled := by
  intro s
  rw [run_fail]
  exact .explained s reason

theorem staysUntangled_orFail (r : Except Failure.Reason α) :
    (orFail r : Step κ μ α).StaysUntangled := by
  cases r with
  | error reason => exact staysUntangled_fail reason
  | ok a => exact staysUntangled_pure a

/-- A failure from outside that has causes of its own. -/
theorem staysUntangled_buildFailure {spec : FailureSpec} (h : spec.StandsAlone) :
    (buildFailure spec : Step κ μ _).StaysUntangled :=
  fun s hs => ⟨(hs.built h).1, Failures.grows_build s.world.failures spec⟩

theorem staysUntangled_cancel {cause : Option FailureSpec}
    (h : ∀ spec, cause = some spec → spec.StandsAlone) :
    (cancel cause : Step κ μ Unit).StaysUntangled := by
  intro s hs
  cases cause with
  | none =>
    refine ⟨hs.of_same rfl hs.error (fun x hx => ?_) fun _ ho => ho, .refl _⟩
    exact (Context.endsBy_of_cancel hx).resolve_right nofun
  | some spec =>
    obtain ⟨hbuilt, hmade, hfront⟩ := hs.built (h spec rfl)
    exact ⟨hbuilt.cancelled hmade hfront, Failures.grows_build s.world.failures spec⟩

end Step

/-! ## Calls -/

namespace Transport

open Step Session

theorem standsAlone_silence : silence.StandsAlone := ⟨nofun, nofun⟩

/-- An outcome of the tape, or the one for want of others. -/
theorem standsAlone_outcomeAt {tape : List Outcome} (h : ∀ o ∈ tape, o.StandsAlone) :
    (outcomeAt tape 0).StandsAlone := by
  cases tape with
  | nil => exact standsAlone_silence
  | cons o rest =>
    have ho : outcomeAt (o :: rest) 0 = o := by
      cases rest <;> rfl
    rw [ho]
    exact h o List.mem_cons_self

theorem staysUntangled_called (s : Session κ μ) (t : Transmission) :
    s.StaysUntangled (s.called t) := by
  intro h
  refine ⟨h.of_same rfl h.error (fun _ hx => hx) fun o ho => ?_, .refl _⟩
  exact mem_of_mem_afterCall ho

/-- The cancellation that takes place during a call. -/
theorem staysUntangled_cancelMeanwhile {cancels : Option (Option FailureSpec)}
    (hcancels : ∀ spec, cancels = some (some spec) → spec.StandsAlone) :
    (cancelMeanwhile cancels : Step κ μ Unit).StaysUntangled := by
  cases cancels with
  | none => exact staysUntangled_pure ()
  | some cause => exact staysUntangled_cancel fun spec h => hcancels spec (congrArg some h)

/-- What comes back is kept or raised; a cookie that it sets has no part in chains. -/
theorem staysUntangled_accept (client : Option ConnectionId) (t : Transmission) {answer : Answer}
    (hanswer : ∀ spec, answer = .failure spec → spec.StandsAlone) :
    (accept client t answer : Step κ μ _).StaysUntangled := by
  cases answer with
  | response r => exact fun s => .ofWorld _ (by simp) (by simp)
  | failure spec =>
    exact staysUntangled_bind (staysUntangled_buildFailure (hanswer spec rfl)) fun id =>
      staysUntangled_throw (.raised id)

/-- A call, whose failures have causes of their own. -/
theorem staysUntangled_exchange (client : Option ConnectionId) (t : Transmission) :
    (exchange client t : Step κ μ Response).StaysUntangled := by
  intro s h
  have houtcome : (outcomeAt s.world.tape 0).StandsAlone := standsAlone_outcomeAt h.tape
  have hanswered := staysUntangled_bind (κ := κ) (μ := μ)
    (staysUntangled_cancelMeanwhile houtcome.cancels)
    (fun _ => staysUntangled_accept client t houtcome.answer)
  rw [run_exchange_called]
  exact ((staysUntangled_called s t).trans (hanswered (s.called t))) h

theorem staysUntangled_follow (client : Option ConnectionId) (follows : Bool) (calls : Nat)
    (t : Transmission) : (follow client follows calls t : Step κ μ Response).StaysUntangled := by
  induction calls generalizing t with
  | zero => exact staysUntangled_fail _
  | succ calls ih =>
    refine staysUntangled_bind (staysUntangled_exchange client t) fun response => ?_
    cases response.location? with
    | none => exact staysUntangled_pure response
    | some location =>
      refine staysUntangled_bind staysUntangled_getWorld fun w =>
        staysUntangled_bind (staysUntangled_orFail _) fun next => ?_
      cases follows with
      | true => exact ih next
      | false => exact staysUntangled_pure response

theorem staysUntangled_withOwnConnection {step : Step κ μ α} (verify : Bool)
    (h : step.StaysUntangled) : (withOwnConnection verify step).StaysUntangled := by
  refine staysUntangled_bind (staysUntangled_record _) fun _ =>
    staysUntangled_bind (fun s => .ofWorld _ rfl rfl) fun _ =>
    staysUntangled_tryCatch ?_ fun stop => ?_
  · exact staysUntangled_bind h fun a =>
      staysUntangled_bind (staysUntangled_record _) fun _ => staysUntangled_pure a
  · exact staysUntangled_bind (staysUntangled_record _) fun _ => staysUntangled_throw stop

theorem staysUntangled_send (connection : Option ConnectionId) (timeout : Float) :
    (send connection timeout : Step κ μ Response).StaysUntangled := by
  refine staysUntangled_bind staysUntangled_getRequest fun r =>
    staysUntangled_bind staysUntangled_getWorld fun w =>
    staysUntangled_bind (staysUntangled_orFail _) fun t =>
    staysUntangled_bind (staysUntangled_modifyRequest (fun _ => rfl) fun _ => rfl) fun _ => ?_
  exact staysUntangled_ite (staysUntangled_follow _ _ _ _) (staysUntangled_fail _)

end Transport

/-! ## The core hooks -/

namespace CoreHook

open Step Request Session

theorem staysUntangled_reject (reason : Failure.Reason) :
    (reject reason : Step κ μ Unit).StaysUntangled := by
  intro s
  exact (StaysUntangled.explained s reason).trans (.withError fun _ id hid => by
    obtain rfl := Option.some.inj hid
    exact Failures.knows_addReason_self reason)

theorem staysUntangled_setHeader (name value : List Char) :
    (setHeader name value : Step κ μ Unit).StaysUntangled :=
  staysUntangled_bind staysUntangled_getRequest fun _ =>
    staysUntangled_bind (staysUntangled_orFail _) fun _ =>
      staysUntangled_modifyRequest (fun _ => rfl) fun _ => rfl

theorem staysUntangled_encode : (encode : Step κ μ Unit).StaysUntangled := by
  refine staysUntangled_bind staysUntangled_getRequest fun r => ?_
  split
  · exact staysUntangled_pure ()
  · exact staysUntangled_modifyRequest (fun _ => rfl) fun _ => rfl
  · split
    · exact staysUntangled_ite (staysUntangled_reject _) (staysUntangled_fail _)
    · exact staysUntangled_bind (staysUntangled_modifyRequest (fun _ => rfl) fun _ => rfl)
        fun _ => staysUntangled_setHeader _ _

theorem staysUntangled_call (timeout : Float) :
    (call timeout : Step κ μ Response).StaysUntangled := by
  refine staysUntangled_bind staysUntangled_getRequest fun r => ?_
  cases r.config.connection with
  | none => exact Transport.staysUntangled_withOwnConnection _ (Transport.staysUntangled_send _ _)
  | some id => exact Transport.staysUntangled_send _ _

/-- A fault of the network is put behind what the end of the context stands for, or behind a new
failure. -/
theorem staysUntangled_handleFault {s : Session κ μ} {id : FailureId} {fault : Failure.NetworkFault}
    (hkind : s.world.failures.kindAt? id = some (.outside (.network fault))) :
    s.StaysUntangled ((handleFault id fault : Step κ μ Unit).run s).2 := by
  intro h
  have hknown : s.world.failures.Knows id := by
    obtain ⟨reason, hreason, -⟩ := Option.map_eq_some_iff.1 hkind
    exact ⟨reason, hreason⟩
  simp only [handleFault, run_bind, run_cancellation]
  cases hending : s.request.context.ending? s.world.clock with
  | none =>
    have hadded := Failures.grows_add s.world.failures
      (.ofSend s.request.method s.request.url (s.world.failures.messageOf id) fault.isTemporary id)
    have hcaused := h.withFailures hadded rfl
      (h.causes.addCaused (f := .ofSend s.request.method s.request.url
        (s.world.failures.messageOf id) fault.isTemporary id) rfl hknown
          fun _ hnetwork => by cases hnetwork)
    refine ⟨hcaused.of_same rfl ?_ (fun _ hx => hx) fun _ ho => ho, hadded⟩
    intro id' hid'
    obtain rfl := Option.some.inj hid'
    exact Failures.knows_add_self _
  | some e =>
    obtain ⟨hended, hgrows, htells, hfront⟩ := h.ending hending
    have hfault : (s.world.failures.ofEnding e).2.IsFault id := ⟨fault, hgrows.kindAt? hkind⟩
    have hne : id ≠ (s.world.failures.ofEnding e).1 := by
      rintro heq
      rw [← heq, Failures.TellsEnd, hgrows.kindAt? hkind] at htells
      cases htells
    have hlinked := hended.linked htells hfront (hgrows.knows hknown) hne (hfront id hfault)
    have hcause := Failures.grows_setCause (s.world.failures.ofEnding e).2
      (s.world.failures.ofEnding e).1 (some id)
    refine ⟨hlinked.of_same rfl ?_ (fun _ hx => hx) fun _ ho => ho, hgrows.trans hcause⟩
    intro id' hid'
    obtain rfl := Option.some.inj hid'
    exact hcause.knows (Failures.knows_ofEnding s.world.failures e).2.2

theorem staysUntangled_transmit : (transmit : Step κ μ Unit).StaysUntangled := by
  intro s
  have hcall := staysUntangled_call (timeLeft s.request s.world.clock) s
  simp only [transmit, run_bind, run_getRequest, run_now, run_tryCatch]
  rcases hrun : (call (timeLeft s.request s.world.clock) : Step κ μ _).run s with ⟨stop | a, s₁⟩ <;>
    rw [hrun] at hcall
  · cases stop with
    | unfinished => exact hcall
    | raised id =>
      simp only [run_bind, run_getWorld]
      cases hfault : faultOf? s₁.world.failures id with
      | none => exact hcall
      | some fault => exact hcall.trans (staysUntangled_handleFault (kindAt?_of_faultOf? hfault))
  · exact hcall.trans (.ofRequest _ rfl rfl)

theorem staysUntangled_decode : (decode : Step κ μ Unit).StaysUntangled := by
  have hdata : ∀ data, (modifyRequest fun r => { r with data } : Step κ μ Unit).StaysUntangled :=
    fun _ => staysUntangled_modifyRequest (fun _ => rfl) fun _ => rfl
  refine staysUntangled_bind staysUntangled_getRequest fun r => ?_
  cases r.response with
  | none => exact staysUntangled_pure ()
  | some response =>
    refine staysUntangled_ite ?_ (staysUntangled_ite (staysUntangled_pure ()) ?_)
    · cases hfailure : answerFailure response with
      | error fault =>
        intro s
        rw [mapError_error, run_bind, run_orFail_error, run_fail]
        exact .explained s _
      | ok failure =>
        have hcause : failure.cause = none := by
          rw [answerFailure] at hfailure
          cases hpayload : payloadOf response with
          | error fault => simp [hpayload, Except.map] at hfailure
          | ok payload =>
            simp only [hpayload, Except.map, Except.ok.injEq] at hfailure
            rw [← hfailure]
            rfl
        intro s
        rw [mapError_ok, run_bind, run_orFail_ok]
        exact (StaysUntangled.made s hcause).trans (.withError fun _ id hid => by
          obtain rfl := Option.some.inj hid
          exact Failures.knows_add_self failure)
    · cases response.json with
      | error fault => exact staysUntangled_reject _
      | ok body =>
        cases r.output with
        | none => exact hdata body
        | some output =>
          dsimp only
          cases output.adapt body with
          | error fault =>
            cases fault with
            | report report => exact staysUntangled_reject _
            | raised kind message => exact staysUntangled_fail _
          | ok data => exact hdata data

theorem staysUntangled_logRequestLines : (logRequestLines : Step κ μ Unit).StaysUntangled := by
  refine staysUntangled_bind staysUntangled_getRequest fun r =>
    staysUntangled_ite ?_ (staysUntangled_pure ())
  exact staysUntangled_bind (staysUntangled_modifyRequest (fun _ => rfl) fun _ => rfl) fun _ =>
    staysUntangled_log _

theorem staysUntangled_logResponseLines : (logResponseLines : Step κ μ Unit).StaysUntangled := by
  refine staysUntangled_bind staysUntangled_getRequest fun r =>
    staysUntangled_ite ?_ (staysUntangled_pure ())
  cases r.response with
  | none => exact staysUntangled_pure ()
  | some response =>
    refine staysUntangled_ite ?_ (staysUntangled_bind (staysUntangled_pure _) fun _ =>
      staysUntangled_log _)
    exact staysUntangled_bind (staysUntangled_orFail _) fun _ =>
      staysUntangled_bind (staysUntangled_pure _) fun _ => staysUntangled_log _

/-- The core hooks leave chains finite. -/
theorem staysUntangled_perform (hook : CoreHook) :
    (perform hook : Step κ μ Unit).StaysUntangled := by
  cases hook with
  | validateEndpoint =>
    exact staysUntangled_bind staysUntangled_getRequest fun r =>
      staysUntangled_ite (staysUntangled_reject _) (staysUntangled_pure ())
  | validateParams expected =>
    refine staysUntangled_bind staysUntangled_getRequest fun r => ?_
    cases expected.adapt r.params with
    | error fault =>
      cases fault with
      | report report => exact staysUntangled_reject _
      | raised kind message => exact staysUntangled_fail _
    | ok params => exact staysUntangled_modifyRequest (fun _ => rfl) fun _ => rfl
  | resolveEndpoint => exact staysUntangled_modifyRequest (fun _ => rfl) fun _ => rfl
  | encodeBody => exact staysUntangled_encode
  | basicAuth user password => exact staysUntangled_setHeader _ _
  | send => exact staysUntangled_transmit
  | unmarshal => exact staysUntangled_decode
  | logRequest => exact staysUntangled_logRequestLines
  | logResponse => exact staysUntangled_logResponseLines
  | closeResponse => exact staysUntangled_pure ()

end CoreHook

/-! ## Hooks given as data -/

namespace Action

open Step Session

/-- A failure that the action makes has causes of its own. -/
def StandsAlone : Action → Prop
  | .setError (some spec) | .raise spec | .cancel (some spec) => spec.StandsAlone
  | _ => True

theorem staysUntangled_perform {action : Action} (h : action.StandsAlone) :
    (perform action).StaysUntangled := by
  match action with
  | .append _ | .setData _ | .setParams _ | .setBody _ | .respond _ | .mark _ | .setUsed _
  | .setEndpoint _ | .setUrl _ | .setMethod _ =>
    exact staysUntangled_modifyRequest (fun _ => rfl) fun _ => rfl
  | .setError none => exact fun s => .withError fun _ => nofun
  | .setError (some spec) =>
    intro s hs
    obtain ⟨hbuilt, hmade, -⟩ := hs.built h
    refine ⟨hbuilt.of_same rfl ?_ (fun _ hx => hx) fun _ ho => ho,
      Failures.grows_build s.world.failures spec⟩
    intro id hid
    obtain rfl := Option.some.inj hid
    exact hmade
  | .raise spec =>
    exact staysUntangled_bind (staysUntangled_buildFailure h) fun id =>
      staysUntangled_throw (.raised id)
  | .setHeader name value => exact CoreHook.staysUntangled_setHeader _ _
  | .advance seconds => exact fun s => .ofWorld _ rfl rfl
  | .cancel none => exact staysUntangled_cancel nofun
  | .cancel (some spec) =>
    exact staysUntangled_cancel fun spec' hspec => Option.some.inj hspec ▸ h
  | .push p front spec =>
    refine staysUntangled_bind (staysUntangled_bind staysUntangled_getWorld fun w => ?_)
      fun entry => staysUntangled_modifyRequest (fun _ => rfl) fun _ => rfl
    exact staysUntangled_bind (fun s => .ofWorld _ rfl rfl) fun _ => staysUntangled_pure _
  | .look => exact staysUntangled_bind (fun s => .refl s) fun _ => staysUntangled_record _

theorem staysUntangled_performAll {actions : List Action} (h : ∀ a ∈ actions, a.StandsAlone) :
    (performAll actions).StaysUntangled := by
  induction actions with
  | nil => exact staysUntangled_pure ()
  | cons action rest ih =>
    refine staysUntangled_bind (staysUntangled_perform (h action List.mem_cons_self)) fun _ => ?_
    exact ih fun a ha => h a (List.mem_cons_of_mem action ha)

end Action

namespace ScriptedHook

open Step Session

/-- The failures that the hook supplies have causes of their own. -/
def StandsAlone : ScriptedHook → Prop
  | .core _ => True
  | .scripted _ _ _ always runs =>
    (∀ a ∈ always, a.StandsAlone) ∧ ∀ actions ∈ runs, ∀ a ∈ actions, a.StandsAlone

/-- Such a hook leaves chains finite. -/
theorem staysUntangled_perform {hook : ScriptedHook} (h : hook.StandsAlone) :
    (perform hook).StaysUntangled := by
  cases hook with
  | core hook => exact CoreHook.staysUntangled_perform hook
  | scripted place phase name always runs =>
    obtain ⟨halways, hruns⟩ := h
    refine staysUntangled_bind (staysUntangled_record _) fun _ =>
      staysUntangled_bind staysUntangled_getWorld fun w =>
      staysUntangled_bind (fun s => .ofWorld _ rfl rfl) fun _ =>
      staysUntangled_bind (Action.staysUntangled_performAll halways) fun _ =>
      Action.staysUntangled_performAll ?_
    rw [List.getD_eq_getElem?_getD]
    cases hrun : runs[w.memory.getD place 0]? with
    | none => simp
    | some actions => exact hruns actions (List.mem_of_getElem? hrun)

end ScriptedHook

end RequestPipeline
