import RequestPipeline.Proofs.Attempts

/-!
# Tame hooks

A core hook loses no failure, so that whatever a run ends with can be looked up, and it stops as
soon as a call is interrupted from outside: no hook takes the interruption for a fault of the
network.  Both are said of what one session has to do with an earlier one, and carried from the
steps of a hook to the hook.
-/

namespace RequestPipeline

open Text (Str)

variable {κ μ α β : Type}

/-! ## Failures that are known -/

namespace Failures

/-- There is such a failure. -/
def Knows (fs : Failures) (id : FailureId) : Prop := ∃ reason, fs.reasonAt? id = some reason

/-- Every label leads to a failure. -/
def KnowsLabels (fs : Failures) : Prop := ∀ label id, fs.labels.lookup label = some id → fs.Knows id

variable {fs fs' : Failures} {id : FailureId}

theorem Grows.knows (h : fs.Grows fs') (hid : fs.Knows id) : fs'.Knows id := by
  obtain ⟨reason, hreason⟩ := hid
  exact ⟨reason, h id reason hreason⟩

theorem Grows.kindAt? {kind : Failure.Kind} (h : fs.Grows fs') (hid : fs.kindAt? id = some kind) :
    fs'.kindAt? id = some kind := by
  obtain ⟨reason, hreason, rfl⟩ := Option.map_eq_some_iff.1 hid
  exact kindAt?_of_reasonAt? (h id reason hreason)

theorem KnowsLabels.grow (h : fs.KnowsLabels) (hgrows : fs.Grows fs')
    (hlabels : fs'.labels = fs.labels) : fs'.KnowsLabels := by
  intro label id hid
  exact hgrows.knows (h label id (hlabels ▸ hid))

theorem get?_of_knows (h : fs.Knows id) : ∃ f, fs.get? id = some f := by
  obtain ⟨reason, hreason⟩ := h
  obtain ⟨f, hf, -⟩ := Option.map_eq_some_iff.1 hreason
  exact ⟨f, hf⟩

theorem knows_add_self (f : Failure) : (fs.add f).2.Knows (fs.add f).1 :=
  ⟨f.reason, reasonAt?_add_self fs f⟩

theorem knows_addReason_self (reason : Failure.Reason) :
    (fs.addReason reason).2.Knows (fs.addReason reason).1 :=
  ⟨reason, reasonAt?_addReason_self fs reason⟩

theorem knowsLabels_put (h : fs.KnowsLabels) (label : Option String) (f : Failure) :
    (fs.put label f).KnowsLabels := by
  have hadd : (fs.add f).2.KnowsLabels := h.grow (fs.grows_add f) rfl
  cases label with
  | none => exact hadd
  | some l =>
    intro label id hid
    rw [put, List.lookup_cons] at hid
    have hknows : (fs.add f).2.Knows id := by
      split at hid
      · obtain rfl : (fs.add f).1 = id := by simpa using hid
        exact knows_add_self f
      · exact hadd label id hid
    obtain ⟨reason, hreason⟩ := hknows
    exact ⟨reason, by rw [reasonAt?_put, hreason]⟩

theorem grows_put (fs : Failures) (label : Option String) (f : Failure) :
    fs.Grows (fs.put label f) := by
  intro id reason h
  rw [reasonAt?_put]
  exact fs.grows_add f id reason h

theorem grows_build (fs : Failures) (spec : FailureSpec) : fs.Grows (fs.build spec).2 := by
  match spec with
  | .make f label cause =>
    cases hlookup : label.bind fun l => fs.labels.lookup l with
    | some id =>
      rw [build_known hlookup]
      exact .refl fs
    | none =>
      rw [build_new hlookup]
      cases cause with
      | none => exact fs.grows_put label f
      | some behind =>
        exact ((fs.grows_put label f).trans (grows_build _ behind)).trans (grows_setCause _ _ _)

theorem knowsLabels_build {fs : Failures} (h : fs.KnowsLabels) (spec : FailureSpec) :
    (fs.build spec).2.KnowsLabels ∧ (fs.build spec).2.Knows (fs.build spec).1 := by
  match spec with
  | .make f label cause =>
    cases hlookup : label.bind fun l => fs.labels.lookup l with
    | some id =>
      rw [build_known hlookup]
      obtain ⟨l, -, hid⟩ := Option.bind_eq_some_iff.1 hlookup
      exact ⟨h, h l id hid⟩
    | none =>
      rw [build_new hlookup]
      have hself : (fs.put label f).Knows (fs.add f).1 :=
        ⟨f.reason, by rw [reasonAt?_put, reasonAt?_add_self]⟩
      cases cause with
      | none => exact ⟨knowsLabels_put h label f, hself⟩
      | some behind =>
        obtain ⟨hlabels, -⟩ := knowsLabels_build (knowsLabels_put h label f) behind
        exact ⟨hlabels.grow (grows_setCause _ _ _) rfl,
          (grows_setCause _ _ _).knows ((grows_build _ behind).knows hself)⟩

/-- A failure without a label is made anew. -/
theorem reasonAt?_build_unlabelled (fs : Failures) (f : Failure) (cause : Option FailureSpec) :
    (fs.build (.make f none cause)).2.reasonAt? (fs.build (.make f none cause)).1 =
      some f.reason := by
  rw [build_new rfl]
  cases cause with
  | none => exact reasonAt?_add_self fs f
  | some behind =>
    simp only [reasonAt?_setCause]
    exact grows_build _ behind _ _ (reasonAt?_add_self fs f)

/-- The failure for the end of a context is known. -/
theorem knows_ofEnding (fs : Failures) (e : Context.Ending) :
    fs.Grows (fs.ofEnding e).2 ∧ (fs.ofEnding e).2.labels = fs.labels ∧
      (fs.ofEnding e).2.Knows (fs.ofEnding e).1 := by
  match e with
  | .expired => exact ⟨fs.grows_add _, rfl, knows_add_self _⟩
  | .cancelled none => exact ⟨fs.grows_add _, rfl, knows_add_self _⟩
  | .cancelled (some cause) =>
    rw [ofEnding]
    split
    · rename_i f hf
      split
      · exact ⟨.refl fs, rfl, f.reason, by rw [reasonAt?, hf]; rfl⟩
      · exact ⟨fs.grows_add _, rfl, knows_add_self _⟩
    · exact ⟨fs.grows_add _, rfl, knows_add_self _⟩

end Failures

/-! ## Sessions -/

/-- The call is interrupted from outside, while the program waits for the answer. -/
def Outcome.Interrupts (o : Outcome) : Prop :=
  ∃ f cause, o.answer = .failure (.make f none cause) ∧ f.kind = .outside .signal

namespace Session

/-- All failures that the session speaks of can be looked up. -/
structure Sound (s : Session κ μ) : Prop where
  error : ∀ id, s.request.error = some id → s.world.failures.Knows id
  labels : s.world.failures.KnowsLabels

/-- The calls so far took the beginning of a tape, and none of them was interrupted. -/
structure Quiet (tape : List Outcome) (s : Session κ μ) : Prop where
  rest : ∀ i, Transport.outcomeAt s.world.tape i = Transport.outcomeAt tape (s.calls + i)
  heard : ∀ i < s.calls, ¬ (Transport.outcomeAt tape i).Interrupts

/-- The step stopped because a call was interrupted. -/
def Interrupted (outcome : Except Stop α) (s : Session κ μ) : Prop :=
  ∃ id, outcome = .error (.raised id) ∧ s.world.failures.kindAt? id = some (.outside .signal)

end Session

open Session

/-- A step led from `s` to `s'` with an outcome.  No failure and no event is lost, and the step
stops at once if a call is interrupted. -/
structure Later (s : Session κ μ) (outcome : Except Stop α) (s' : Session κ μ) : Prop where
  hooks : s'.request.hooks = s.request.hooks
  grows : s.world.failures.Grows s'.world.failures
  sound : s.Sound → s'.Sound ∧ ∀ id, outcome = .error (.raised id) → s'.world.failures.Knows id
  quiet : ∀ tape, s.Quiet tape → s'.Quiet tape ∨ Interrupted outcome s'
  events : s.world.events <:+ s'.world.events

namespace Later

variable {s s₁ s₂ : Session κ μ} {outcome : Except Stop α} {a : α} {b : β}

theorem refl (s : Session κ μ) (a : α) : Later s (.ok a) s :=
  ⟨rfl, .refl _, fun h => ⟨h, nofun⟩, fun _ h => .inl h, List.suffix_rfl⟩

/-- A step after one that did not stop. -/
theorem trans {outcome : Except Stop β} (h : Later s (.ok a : Except Stop α) s₁)
    (h' : Later s₁ outcome s₂) : Later s outcome s₂ where
  hooks := h'.hooks.trans h.hooks
  grows := h.grows.trans h'.grows
  sound hs := h'.sound (h.sound hs).1
  quiet tape hs := by
    rcases h.quiet tape hs with hquiet | ⟨id, hid, -⟩
    · exact h'.quiet tape hquiet
    · cases hid
  events := h.events.trans h'.events

/-- A step that cannot stop, after another one whose outcome stays. -/
theorem andThen (h : Later s outcome s₁) (h' : Later s₁ (.ok b : Except Stop β) s₂) :
    Later s outcome s₂ where
  hooks := h'.hooks.trans h.hooks
  grows := h.grows.trans h'.grows
  sound hs := by
    obtain ⟨hsound, hknown⟩ := h.sound hs
    exact ⟨(h'.sound hsound).1, fun id hid => h'.grows.knows (hknown id hid)⟩
  quiet tape hs := by
    rcases h.quiet tape hs with hquiet | ⟨id, hid, hkind⟩
    · rcases h'.quiet tape hquiet with hquiet' | ⟨id, hid, -⟩
      · exact .inl hquiet'
      · cases hid
    · exact .inr ⟨id, hid, h'.grows.kindAt? hkind⟩
  events := h.events.trans h'.events

/-- A step after one that stopped for another reason than an interruption. -/
theorem caught {id : FailureId} {outcome : Except Stop β}
    (h : Later s (.error (.raised id) : Except Stop α) s₁)
    (hkind : s₁.world.failures.kindAt? id ≠ some (.outside .signal)) (h' : Later s₁ outcome s₂) :
    Later s outcome s₂ where
  hooks := h'.hooks.trans h.hooks
  grows := h.grows.trans h'.grows
  sound hs := h'.sound (h.sound hs).1
  quiet tape hs := by
    rcases h.quiet tape hs with hquiet | ⟨id', hid', hkind'⟩
    · exact h'.quiet tape hquiet
    · cases hid'
      exact absurd hkind' hkind
  events := h.events.trans h'.events

/-- The same stop with an outcome of another type. -/
theorem recast {stop : Stop} (h : Later s (.error stop : Except Stop α) s₁) :
    Later s (.error stop : Except Stop β) s₁ where
  hooks := h.hooks
  grows := h.grows
  sound hs := ⟨(h.sound hs).1, fun id hid => (h.sound hs).2 id (by cases hid; rfl)⟩
  quiet tape hs := by
    rcases h.quiet tape hs with hquiet | ⟨id, hid, hkind⟩
    · exact .inl hquiet
    · exact .inr ⟨id, by cases hid; rfl, hkind⟩
  events := h.events

/-- A change to the request that leaves hooks and error alone. -/
theorem ofRequest (r : Request κ) (a : α) (hhooks : r.hooks = s.request.hooks)
    (herror : r.error = s.request.error) : Later s (.ok a) { s with request := r } where
  hooks := hhooks
  grows := .refl _
  sound hs := ⟨⟨fun id hid => hs.error id (herror ▸ hid), hs.labels⟩, nofun⟩
  quiet _ hs := .inl ⟨hs.rest, hs.heard⟩
  events := List.suffix_rfl

theorem withoutError (s : Session κ μ) (a : α) : Later s (.ok a) (s.withError none) where
  hooks := rfl
  grows := .refl _
  sound hs := ⟨⟨nofun, hs.labels⟩, nofun⟩
  quiet _ hs := .inl ⟨hs.rest, hs.heard⟩
  events := List.suffix_rfl

/-- A known failure becomes the error of the request. -/
theorem withKnown (s : Session κ μ) {id : FailureId} (a : α)
    (hid : s.Sound → s.world.failures.Knows id) : Later s (.ok a) (s.withError (some id)) where
  hooks := rfl
  grows := .refl _
  sound hs := by
    refine ⟨⟨fun id' hid' => ?_, hs.labels⟩, nofun⟩
    obtain rfl : id = id' := by simpa using hid'
    exact hid hs
  quiet _ hs := .inl ⟨hs.rest, hs.heard⟩
  events := List.suffix_rfl

theorem withFailures (s : Session κ μ) {failures : Failures} (a : α)
    (hgrows : s.world.failures.Grows failures)
    (hlabels : s.world.failures.KnowsLabels → failures.KnowsLabels) :
    Later s (.ok a) (s.withFailures failures) where
  hooks := rfl
  grows := hgrows
  sound hs := ⟨⟨fun id hid => hgrows.knows (hs.error id hid), hlabels hs.labels⟩, nofun⟩
  quiet _ hs := .inl ⟨hs.rest, hs.heard⟩
  events := List.suffix_rfl

/-- Whatever happens to the world besides failures and calls. -/
theorem ofWorld (w : World μ) (a : α) (hfailures : w.failures = s.world.failures)
    (htape : w.tape = s.world.tape) (hevents : s.world.events <:+ w.events)
    (hcalls : w.events.countP Event.isCall = s.world.events.countP Event.isCall) :
    Later s (.ok a) { s with world := w } where
  hooks := rfl
  grows := by simp only [hfailures]; exact .refl _
  sound hs := by
    refine ⟨⟨fun id hid => ?_, ?_⟩, nofun⟩
    · simpa only [hfailures] using hs.error id hid
    · simpa only [hfailures] using hs.labels
  quiet tape hs := by
    have hsame : Session.calls { s with world := w } = s.calls := hcalls
    refine .inl ⟨fun i => ?_, fun i hi => ?_⟩
    · rw [hsame]
      simpa only [htape] using hs.rest i
    · rw [hsame] at hi
      exact hs.heard i hi
  events := hevents

theorem recorded (s : Session κ μ) {e : Event} (a : α) (he : e.isCall = false) :
    Later s (.ok a) (s.recorded e) :=
  ofWorld _ a rfl rfl (List.suffix_cons _ _) (by simp [he])

/-- Cookies are no failures and no events. -/
theorem unpacked (s : Session κ μ) (a : α) : Later s (.ok a) s.unpacked :=
  ofWorld _ a rfl rfl List.suffix_rfl rfl

theorem keeping (s : Session κ μ) (client : Option ConnectionId) (url : Url) (r : Response)
    (a : α) : Later s (.ok a) (s.keeping client url r) :=
  ofWorld _ a (by simp) (by simp) (by simp) (by simp)

theorem logged (s : Session κ μ) (line : Str) (a : α) : Later s (.ok a) (s.logged line) := by
  rw [Session.logged]
  split
  · exact ofWorld _ a rfl rfl (List.suffix_cons _ _) (by simp [Event.isCall])
  · exact refl s a

/-- A stop with a failure that is known. -/
theorem raised {id : FailureId} (h : Later s (.ok a : Except Stop α) s₁)
    (hid : s.Sound → s₁.world.failures.Knows id) :
    Later s (.error (.raised id) : Except Stop β) s₁ where
  hooks := h.hooks
  grows := h.grows
  sound hs := by
    refine ⟨(h.sound hs).1, fun id' hid' => ?_⟩
    cases hid'
    exact hid hs
  quiet tape hs := by
    rcases h.quiet tape hs with hquiet | ⟨id', hid', -⟩
    · exact .inl hquiet
    · cases hid'
  events := h.events

end Later

/-! ## Tame steps -/

/-- A hook led from `s` to `s'`: it came to an end and left the retries alone. -/
structure Tame (s : Session κ μ) (outcome : Except Stop α) (s' : Session κ μ) : Prop where
  later : Later s outcome s'
  budget : s'.request.budget = s.request.budget
  finished : outcome ≠ .error .unfinished

namespace Tame

variable {s s₁ s₂ : Session κ μ} {outcome : Except Stop α} {a : α} {b : β}

theorem refl (s : Session κ μ) (a : α) : Tame s (.ok a) s := ⟨.refl s a, rfl, by simp⟩

theorem trans {outcome : Except Stop β} (h : Tame s (.ok a : Except Stop α) s₁)
    (h' : Tame s₁ outcome s₂) : Tame s outcome s₂ :=
  ⟨h.later.trans h'.later, h'.budget.trans h.budget, h'.finished⟩

theorem andThen (h : Tame s outcome s₁) (h' : Tame s₁ (.ok b : Except Stop β) s₂) :
    Tame s outcome s₂ :=
  ⟨h.later.andThen h'.later, h'.budget.trans h.budget, h.finished⟩

theorem caught {id : FailureId} {outcome : Except Stop β}
    (h : Tame s (.error (.raised id) : Except Stop α) s₁)
    (hkind : s₁.world.failures.kindAt? id ≠ some (.outside .signal)) (h' : Tame s₁ outcome s₂) :
    Tame s outcome s₂ :=
  ⟨h.later.caught hkind h'.later, h'.budget.trans h.budget, h'.finished⟩

theorem recast {stop : Stop} (h : Tame s (.error stop : Except Stop α) s₁) :
    Tame s (.error stop : Except Stop β) s₁ :=
  ⟨h.later.recast, h.budget, fun hstop => h.finished (by cases hstop; rfl)⟩

theorem ofRequest (r : Request κ) (a : α) (hhooks : r.hooks = s.request.hooks)
    (herror : r.error = s.request.error) (hbudget : r.budget = s.request.budget) :
    Tame s (.ok a) { s with request := r } :=
  ⟨.ofRequest r a hhooks herror, hbudget, by simp⟩

theorem withKnown (s : Session κ μ) {id : FailureId} (a : α)
    (hid : s.Sound → s.world.failures.Knows id) : Tame s (.ok a) (s.withError (some id)) :=
  ⟨.withKnown s a hid, rfl, by simp⟩

theorem withFailures (s : Session κ μ) {failures : Failures} (a : α)
    (hgrows : s.world.failures.Grows failures)
    (hlabels : s.world.failures.KnowsLabels → failures.KnowsLabels) :
    Tame s (.ok a) (s.withFailures failures) :=
  ⟨.withFailures s a hgrows hlabels, rfl, by simp⟩

theorem recorded (s : Session κ μ) {e : Event} (a : α) (he : e.isCall = false) :
    Tame s (.ok a) (s.recorded e) :=
  ⟨.recorded s a he, rfl, by simp⟩

theorem unpacked (s : Session κ μ) (a : α) : Tame s (.ok a) s.unpacked :=
  ⟨.unpacked s a, rfl, by simp⟩

theorem keeping (s : Session κ μ) (client : Option ConnectionId) (url : Url) (r : Response)
    (a : α) : Tame s (.ok a) (s.keeping client url r) :=
  ⟨.keeping s client url r a, rfl, by simp⟩

theorem logged (s : Session κ μ) (line : Str) (a : α) : Tame s (.ok a) (s.logged line) :=
  ⟨.logged s line a, by rw [request_logged], by simp⟩

theorem raised {id : FailureId} (h : Tame s (.ok a : Except Stop α) s₁)
    (hid : s.Sound → s₁.world.failures.Knows id) :
    Tame s (.error (.raised id) : Except Stop β) s₁ :=
  ⟨h.later.raised hid, h.budget, by simp⟩

/-- A new failure for a reason. -/
theorem explained (s : Session κ μ) (reason : Failure.Reason) (a : α) :
    Tame s (.ok a) (s.withFailures (s.world.failures.addReason reason).2) :=
  .withFailures s a (Failures.grows_addReason _ reason) fun h =>
    h.grow (Failures.grows_addReason _ reason) (Failures.labels_addReason _ reason)

/-- A new failure. -/
theorem made (s : Session κ μ) (f : Failure) (a : α) :
    Tame s (.ok a) (s.withFailures (s.world.failures.add f).2) :=
  .withFailures s a (Failures.grows_add _ f) fun h => h.grow (Failures.grows_add _ f) rfl

end Tame

namespace Step

/-- Whatever session the step is taken in, it is tame. -/
def IsTame (step : Step κ μ α) : Prop := ∀ s, Tame s (step.run s).1 (step.run s).2

theorem isTame_pure (a : α) : (pure a : Step κ μ α).IsTame := fun s => .refl s a

theorem isTame_bind {step : Step κ μ α} {next : α → Step κ μ β} (h : step.IsTame)
    (h' : ∀ a, (next a).IsTame) : (step >>= next).IsTame := by
  intro s
  have hfirst := h s
  rw [run_bind]
  rcases hrun : step.run s with ⟨stop | a, s₁⟩ <;> rw [hrun] at hfirst
  · exact hfirst.recast
  · exact hfirst.trans (h' a s₁)

theorem isTame_getRequest : (getRequest : Step κ μ _).IsTame := fun s => .refl s _

theorem isTame_getWorld : (getWorld : Step κ μ _).IsTame := fun s => .refl s _

theorem isTame_record {e : Event} (he : e.isCall = false) : (record e : Step κ μ Unit).IsTame :=
  fun s => .recorded s () he

theorem isTame_log (line : Str) : (log line : Step κ μ Unit).IsTame := by
  intro s
  rw [Request.run_log]
  exact .logged s line ()

theorem isTame_modifyRequest {f : Request κ → Request κ} (hhooks : ∀ r, (f r).hooks = r.hooks)
    (herror : ∀ r, (f r).error = r.error) (hbudget : ∀ r, (f r).budget = r.budget) :
    (modifyRequest f : Step κ μ Unit).IsTame :=
  fun _ => .ofRequest _ () (hhooks _) (herror _) (hbudget _)

theorem isTame_fail (reason : Failure.Reason) : (fail reason : Step κ μ α).IsTame := by
  intro s
  rw [run_fail]
  exact (Tame.explained s reason ()).raised fun _ => Failures.knows_addReason_self reason

theorem isTame_orFail (r : Except Failure.Reason α) : (orFail r : Step κ μ α).IsTame := by
  cases r with
  | error reason => exact isTame_fail reason
  | ok a => exact isTame_pure a

end Step

/-! ## The transport -/

namespace Transport

open Step

theorem quiet_called {tape : List Outcome} {s : Session κ μ} (t : Transmission)
    (hs : s.Quiet tape) (hquiet : ¬ (outcomeAt s.world.tape 0).Interrupts) :
    (s.called t).Quiet tape := by
  have hcalls : (s.called t).calls = s.calls + 1 := List.countP_cons_of_pos rfl
  refine ⟨fun i => ?_, fun i hi => ?_⟩
  · rw [hcalls, Session.called, outcomeAt_afterCall, hs.rest, Nat.add_assoc, Nat.add_comm 1 i]
  · rw [hcalls] at hi
    rcases Nat.lt_succ_iff_lt_or_eq.1 hi with hi | rfl
    · exact hs.heard i hi
    · rw [hs.rest] at hquiet
      exact hquiet

theorem tame_called {s : Session κ μ} (t : Transmission) (a : α)
    (hquiet : ¬ (outcomeAt s.world.tape 0).Interrupts) : Tame s (.ok a) (s.called t) :=
  ⟨⟨rfl, .refl _, fun hs => ⟨⟨hs.error, hs.labels⟩, nofun⟩,
    fun _ hs => .inl (quiet_called t hs hquiet), List.suffix_cons _ _⟩, rfl, by simp⟩

theorem isTame_buildFailure (spec : FailureSpec) :
    (buildFailure spec : Step κ μ _).IsTame :=
  fun _ => .withFailures _ _ (Failures.grows_build _ spec) fun h =>
    (Failures.knowsLabels_build h spec).1

theorem run_cancel (cause : Option FailureSpec) (s : Session κ μ) :
    ∃ s₁, (cancel cause : Step κ μ Unit).run s = (.ok (), s₁) ∧ Tame s (.ok ()) s₁ := by
  cases cause with
  | none => exact ⟨_, rfl, .ofRequest _ () rfl rfl rfl⟩
  | some spec =>
    exact ⟨_, rfl, (isTame_buildFailure spec s).trans (.ofRequest _ () rfl rfl rfl)⟩

/-- What the answer to a message comes to. -/
def accept (client : Option ConnectionId) (t : Transmission) : Answer → Step κ μ Response
  | .response r => do
    modifyWorld fun w => w.keepCookies client t.url r
    pure r
  | .failure spec => do
    let id ← buildFailure spec
    raise id

section Accept

variable (client : Option ConnectionId) (t : Transmission)

theorem run_accept_response (r : Response) (s : Session κ μ) :
    (accept client t (.response r) : Step κ μ _).run s = (.ok r, s.keeping client t.url r) := rfl

theorem run_accept_failure (spec : FailureSpec) (s : Session κ μ) :
    (accept client t (.failure spec) : Step κ μ _).run s =
      (.error (.raised (s.world.failures.build spec).1),
        s.withFailures (s.world.failures.build spec).2) := by
  rw [accept, run_bind, run_buildFailure]
  rfl

theorem isTame_accept (answer : Answer) : (accept client t answer : Step κ μ _).IsTame := by
  intro s
  cases answer with
  | response r =>
    rw [run_accept_response]
    exact .keeping s client t.url r r
  | failure spec =>
    rw [run_accept_failure]
    exact (isTame_buildFailure spec s).raised fun hs =>
      (Failures.knowsLabels_build hs.labels spec).2

/-- A call comes to its answer, perhaps after a cancellation. -/
theorem run_exchange_accept (s : Session κ μ) :
    ∃ s₁, Tame (s.called t) (.ok ()) s₁ ∧
      (exchange client t).run s = (accept client t (outcomeAt s.world.tape 0).answer).run s₁ := by
  simp only [exchange, run_bind, run_record, run_nextOutcome, run_advance]
  cases hcancels : (outcomeAt s.world.tape 0).cancels with
  | none =>
    refine ⟨s.called t, .refl _ (), ?_⟩
    cases hanswer : (outcomeAt s.world.tape 0).answer <;> simp [accept, Session.called]
  | some cause =>
    obtain ⟨s₁, hcancel, htame⟩ := run_cancel cause (s.called t)
    refine ⟨s₁, htame, ?_⟩
    simp only [Session.called] at hcancel
    simp only [run_bind, hcancel]
    cases (outcomeAt s.world.tape 0).answer <;> rfl

/-- A call that is interrupted stops with the interruption, and no call goes unheard. -/
theorem isTame_exchange : (exchange client t : Step κ μ Response).IsTame := by
  intro s
  obtain ⟨s₁, hcalled, hrun⟩ := run_exchange_accept client t s
  rw [hrun]
  by_cases hinterrupts : (outcomeAt s.world.tape 0).Interrupts
  · obtain ⟨f, cause, hanswer, hkind⟩ := hinterrupts
    have haccept := isTame_accept client t (outcomeAt s.world.tape 0).answer s₁
    rw [hanswer, run_accept_failure] at haccept ⊢
    have hall := hcalled.trans haccept
    refine ⟨⟨hall.later.hooks, hall.later.grows, fun hs => ?_, fun _ _ => .inr ⟨_, rfl, ?_⟩,
      (List.suffix_cons _ _).trans hall.later.events⟩, hall.budget, by simp⟩
    · exact hall.later.sound ⟨hs.error, hs.labels⟩
    · rw [← hkind]
      exact Failures.kindAt?_of_reasonAt? (Failures.reasonAt?_build_unlabelled _ f cause)
  · exact (tame_called t () hinterrupts).trans (hcalled.trans (isTame_accept client t _ s₁))

end Accept

theorem isTame_follow (client : Option ConnectionId) (follows : Bool) (calls : Nat)
    (t : Transmission) : (follow client follows calls t : Step κ μ Response).IsTame := by
  induction calls generalizing t with
  | zero => exact isTame_fail _
  | succ calls ih =>
    refine isTame_bind (isTame_exchange client t) fun response => ?_
    cases response.location? with
    | none => exact isTame_pure response
    | some location =>
      refine isTame_bind isTame_getWorld fun w => isTame_bind (isTame_orFail _) fun next => ?_
      cases follows with
      | true => exact ih next
      | false => exact isTame_pure response

theorem isTame_withOwnConnection {step : Step κ μ α} (verify : Bool) (h : step.IsTame) :
    (withOwnConnection verify step).IsTame := by
  intro s
  rw [run_withOwnConnection]
  have hdialled : Tame s (.ok ()) (s.recorded (.opened verify none)).unpacked :=
    (Tame.recorded s () rfl).trans (.unpacked _ ())
  exact (hdialled.trans (h _)).andThen (.recorded _ () rfl)

theorem isTame_send (connection : Option ConnectionId) (timeout : Float) :
    (send connection timeout : Step κ μ Response).IsTame := by
  refine isTame_bind isTame_getRequest fun r => isTame_bind isTame_getWorld fun w =>
    isTame_bind (isTame_orFail _) fun t =>
    isTame_bind (isTame_modifyRequest (fun _ => rfl) (fun _ => rfl) fun _ => rfl) fun _ => ?_
  split
  · exact isTame_follow _ _ _ _
  · exact isTame_fail _

end Transport

/-! ## The core hooks -/

namespace CoreHook

open Step Request

theorem isTame_reject (reason : Failure.Reason) : (reject reason : Step κ μ Unit).IsTame :=
  fun s => (Tame.explained s reason ()).trans
    (.withKnown _ () fun _ => Failures.knows_addReason_self reason)

theorem isTame_setHeader (name value : List Char) : (setHeader name value : Step κ μ Unit).IsTame :=
  isTame_bind isTame_getRequest fun _ => isTame_bind (isTame_orFail _) fun _ =>
    isTame_modifyRequest (fun _ => rfl) (fun _ => rfl) fun _ => rfl

theorem isTame_encode : (encode : Step κ μ Unit).IsTame := by
  refine isTame_bind isTame_getRequest fun r => ?_
  split
  · exact isTame_pure ()
  · exact isTame_modifyRequest (fun _ => rfl) (fun _ => rfl) fun _ => rfl
  · split
    · split
      · exact isTame_reject _
      · exact isTame_fail _
    · exact isTame_bind (isTame_modifyRequest (fun _ => rfl) (fun _ => rfl) fun _ => rfl) fun _ =>
        isTame_setHeader _ _

theorem isTame_call (timeout : Float) : (call timeout : Step κ μ Response).IsTame := by
  refine isTame_bind isTame_getRequest fun r => ?_
  split
  · exact Transport.isTame_withOwnConnection _ (Transport.isTame_send _ _)
  · exact Transport.isTame_send _ _

theorem isTame_handleFault {s : Session κ μ} {id : FailureId} (fault : Failure.NetworkFault) :
    Tame s ((handleFault id fault : Step κ μ Unit).run s).1
      ((handleFault id fault : Step κ μ Unit).run s).2 := by
  simp only [handleFault, run_bind, run_cancellation]
  cases s.request.context.ending? s.world.clock with
  | none => exact (Tame.made s _ ()).trans (.withKnown _ () fun _ => Failures.knows_add_self _)
  | some e =>
    obtain ⟨hgrows, hlabels, hknows⟩ := Failures.knows_ofEnding s.world.failures e
    have hended : Tame s (.ok ()) (s.withFailures (s.world.failures.ofEnding e).2) :=
      .withFailures s () hgrows fun h => h.grow hgrows hlabels
    have hcaused := hended.trans (.withFailures _ () (Failures.grows_setCause _
      (s.world.failures.ofEnding e).1 (some id)) fun h =>
        h.grow (Failures.grows_setCause _ _ _) rfl)
    exact hcaused.trans (.withKnown _ () fun _ => (Failures.grows_setCause _ _ _).knows hknows)

/-- What is taken for a fault of the network is no interruption. -/
theorem kindAt?_of_faultOf? {failures : Failures} {id : FailureId} {fault : Failure.NetworkFault}
    (h : faultOf? failures id = some fault) :
    failures.kindAt? id = some (.outside (.network fault)) := by
  unfold faultOf? at h
  split at h
  · rename_i found hkind
    cases h
    obtain ⟨f, hf, hf'⟩ := Option.map_eq_some_iff.1 hkind
    rw [Failures.kindAt?, Failures.reasonAt?, hf, ← hf']
    rfl
  · cases h

theorem isTame_transmit : (transmit : Step κ μ Unit).IsTame := by
  intro s
  have hcall := isTame_call (timeLeft s.request s.world.clock) s
  simp only [transmit, run_bind, run_getRequest, run_now, run_tryCatch]
  rcases hrun : (call (timeLeft s.request s.world.clock) : Step κ μ _).run s with ⟨stop | a, s₁⟩ <;>
    rw [hrun] at hcall
  · cases stop with
    | unfinished => exact absurd rfl hcall.finished
    | raised id =>
      simp only [run_bind, run_getWorld]
      cases hfault : faultOf? s₁.world.failures id with
      | none => exact hcall.recast
      | some fault =>
        refine hcall.caught ?_ (isTame_handleFault fault)
        rw [kindAt?_of_faultOf? hfault]
        simp
  · exact hcall.trans (.ofRequest _ () rfl rfl rfl)

theorem isTame_decode : (decode : Step κ μ Unit).IsTame := by
  refine isTame_bind isTame_getRequest fun r => ?_
  split
  · exact isTame_pure ()
  · split
    · refine isTame_bind (isTame_orFail _) fun failure s => ?_
      exact (Tame.made s failure ()).trans (.withKnown _ () fun _ => Failures.knows_add_self _)
    · split
      · exact isTame_pure ()
      · split
        · exact isTame_reject _
        · split
          · exact isTame_modifyRequest (fun _ => rfl) (fun _ => rfl) fun _ => rfl
          · split
            · exact isTame_modifyRequest (fun _ => rfl) (fun _ => rfl) fun _ => rfl
            · exact isTame_reject _
            · exact isTame_fail _

theorem isTame_logRequestLines : (logRequestLines : Step κ μ Unit).IsTame := by
  refine isTame_bind isTame_getRequest fun r => ?_
  split
  · exact isTame_bind (isTame_modifyRequest (fun _ => rfl) (fun _ => rfl) fun _ => rfl) fun _ =>
      isTame_log _
  · exact isTame_pure ()

theorem isTame_logResponseLines : (logResponseLines : Step κ μ Unit).IsTame := by
  refine isTame_bind isTame_getRequest fun r => ?_
  split
  · split
    · exact isTame_pure ()
    · split
      · exact isTame_bind (isTame_orFail _) fun _ => isTame_log _
      · exact isTame_log _
  · exact isTame_pure ()

/-- Every core hook is tame. -/
theorem isTame_perform (hook : CoreHook) : (perform hook : Step κ μ Unit).IsTame := by
  cases hook with
  | validateEndpoint =>
    refine isTame_bind isTame_getRequest fun r => ?_
    split
    · exact isTame_reject _
    · exact isTame_pure ()
  | validateParams expected =>
    refine isTame_bind isTame_getRequest fun r => ?_
    split
    · exact isTame_modifyRequest (fun _ => rfl) (fun _ => rfl) fun _ => rfl
    · exact isTame_reject _
    · exact isTame_fail _
  | resolveEndpoint => exact isTame_modifyRequest (fun _ => rfl) (fun _ => rfl) fun _ => rfl
  | encodeBody => exact isTame_encode
  | basicAuth user password => exact isTame_setHeader _ _
  | send => exact isTame_transmit
  | unmarshal => exact isTame_decode
  | logRequest => exact isTame_logRequestLines
  | logResponse => exact isTame_logResponseLines
  | closeResponse => exact isTame_pure ()

theorem isTame_runAll (callbacks : List CoreHook) :
    (runAll perform callbacks : Step CoreHook μ Unit).IsTame := by
  induction callbacks with
  | nil => exact isTame_pure ()
  | cons hook rest ih => exact isTame_bind (isTame_perform hook) fun _ => ih

theorem isTame_runPhase (p : Phase) : (runPhase perform p : Step CoreHook μ Unit).IsTame :=
  isTame_bind (isTame_record rfl) fun _ => isTame_bind isTame_getRequest fun _ => isTame_runAll _

end CoreHook

end RequestPipeline
