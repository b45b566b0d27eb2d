import RequestPipeline.Proofs.Frames

/-!
# What a send phase obtains

The send hook of an attempt makes the calls that lead to an answer, which is that to the last one of
them. It obtains this answer, or it leaves a failure, or it stops; in the last two cases the
response of the request stays what it was.  Observers among the hooks of the phase make no
difference, and the hooks of the other phases leave the response alone.
-/

namespace RequestPipeline

variable {κ μ : Type}

/-! ## The answer to a call -/

namespace Session

/-- The answer to the last of the calls between two sessions. -/
def lastAnswer? (s s' : Session κ μ) : Option Response :=
  match s'.world.messages.length - s.world.messages.length with
  | 0 => none
  | n + 1 => match (Transport.outcomeAt s.world.tape n).answer with
    | .response a => some a
    | .failure _ => none

/-- Nothing has been sent, and the hooks, the response and the error are as they were. -/
structure Rests (s s' : Session κ μ) : Prop where
  hooks : s'.request.hooks = s.request.hooks
  response : s'.request.response = s.request.response
  error : s'.request.error = s.request.error
  tape : s'.world.tape = s.world.tape
  messages : s'.world.messages = s.world.messages

/-- What calls leave alone, and where their answer comes from. -/
structure Asks (s : Session κ μ) (outcome : Except Stop Response) (s' : Session κ μ) : Prop where
  hooks : s'.request.hooks = s.request.hooks
  response : s'.request.response = s.request.response
  error : s'.request.error = s.request.error
  answered : ∀ a, outcome = .ok a → ∃ n,
    s'.world.messages.length = s.world.messages.length + (n + 1) ∧
      (Transport.outcomeAt s.world.tape n).answer = .response a

variable {s s₁ s₂ s₃ : Session κ μ} {outcome : Except Stop Response} {a : Response}

theorem Rests.refl (s : Session κ μ) : s.Rests s := ⟨rfl, rfl, rfl, rfl, rfl⟩

theorem Rests.trans (h : s.Rests s₁) (h' : s₁.Rests s₂) : s.Rests s₂ where
  hooks := h'.hooks.trans h.hooks
  response := h'.response.trans h.response
  error := h'.error.trans h.error
  tape := h'.tape.trans h.tape
  messages := h'.messages.trans h.messages

theorem rests_recorded (s : Session κ μ) {e : Event} (he : e.message? = none) :
    s.Rests (s.recorded e) := ⟨rfl, rfl, rfl, rfl, World.messages_of_events rfl he⟩

theorem rests_dialled (s : Session κ μ) : s.Rests s.dialled := by
  rw [dialled]
  split
  · exact (s.rests_recorded rfl).trans ⟨rfl, rfl, rfl, rfl, rfl⟩
  · exact .refl s

theorem rests_hungUp (connection : Option ConnectionId) (s : Session κ μ) :
    s.Rests (s.hungUp connection) := by
  cases connection with
  | none => exact s.rests_recorded rfl
  | some _ => exact .refl s

theorem Asks.of_rests (h : s₁.Asks outcome s₂) (hbefore : s.Rests s₁) (hafter : s₂.Rests s₃) :
    s.Asks outcome s₃ where
  hooks := (hafter.hooks.trans h.hooks).trans hbefore.hooks
  response := (hafter.response.trans h.response).trans hbefore.response
  error := (hafter.error.trans h.error).trans hbefore.error
  answered := by
    rw [hafter.messages, ← hbefore.messages, ← hbefore.tape]
    exact h.answered

theorem lastAnswer?_eq {n : Nat}
    (hsent : s₁.world.messages.length = s.world.messages.length + (n + 1))
    (hanswer : (Transport.outcomeAt s.world.tape n).answer = .response a) :
    s.lastAnswer? s₁ = some a := by
  rw [lastAnswer?, hsent, Nat.add_sub_cancel_left]
  simp only [hanswer]

theorem lastAnswer?_of_rests (hbefore : s.Rests s₁) (hafter : s₂.Rests s₃) :
    s.lastAnswer? s₃ = s₁.lastAnswer? s₂ := by
  rw [lastAnswer?, lastAnswer?, hafter.messages, hbefore.messages, hbefore.tape]

end Session

namespace Transport

open Step Session

section Exchange

variable (client : Option ConnectionId)

theorem error_exchange (t : Transmission) (s : Session κ μ) :
    ((exchange client t).run s).2.request.error = s.request.error := by
  rw [run_exchange_called, run_bind]
  cases (outcomeAt s.world.tape 0).cancels with
  | none => cases (outcomeAt s.world.tape 0).answer <;> rfl
  | some cause => cases cause <;> cases (outcomeAt s.world.tape 0).answer <;> rfl

theorem idles_exchange (t : Transmission) (s : Session κ μ) :
    (s.called t).Idles ((exchange client t).run s).2 :=
  frame_idles.keeps_exchange client t s fun a s₁ _ _ => idles_keeping client t.url a s₁

theorem asks_exchange (t : Transmission) (s : Session κ μ) :
    s.Asks ((exchange client t).run s).1 ((exchange client t).run s).2 := by
  have hkept := idles_exchange client t s
  refine ⟨hkept.hooks, hkept.response, error_exchange client t s, fun a ha => ⟨0, ?_, ?_⟩⟩
  · rw [hkept.messages]
    simp [called, World.messages, Event.message?]
  · exact answer_of_run_exchange client (Prod.ext ha rfl)

/-- Calls behind another one. -/
theorem asks_behind {t : Transmission} {s s' : Session κ μ} {outcome : Except Stop Response}
    (h : ((exchange client t).run s).2.Asks outcome s') : s.Asks outcome s' := by
  have hkept := idles_exchange client t s
  refine ⟨h.hooks.trans hkept.hooks, h.response.trans hkept.response,
    h.error.trans (error_exchange client t s), fun a ha => ?_⟩
  obtain ⟨n, hsent, hanswer⟩ := h.answered a ha
  refine ⟨n + 1, ?_, ?_⟩
  · have hone : (s.called t).world.messages.length = s.world.messages.length + 1 := by
      simp [called, World.messages, Event.message?]
    rw [hsent, hkept.messages, hone]
    omega
  · rw [hkept.tape] at hanswer
    rwa [← outcomeAt_afterCall]

theorem asks_fail (reason : Failure.Reason) (s : Session κ μ) :
    s.Asks ((fail reason : Step κ μ Response).run s).1
      ((fail reason : Step κ μ Response).run s).2 := by
  rw [run_fail]
  exact ⟨rfl, rfl, rfl, nofun⟩

/-- The answer that calls end with is that to the last one. -/
theorem asks_follow (follows : Bool) (calls : Nat) (t : Transmission) (s : Session κ μ) :
    s.Asks ((follow client follows calls t).run s).1
      ((follow client follows calls t).run s).2 := by
  induction calls generalizing t s with
  | zero => exact asks_fail .redirectLoop s
  | succ calls ih =>
    have hfirst := asks_exchange client t s
    have hbehind : ∀ {outcome s'}, ((exchange client t).run s).2.Asks outcome s' →
      s.Asks outcome s' := asks_behind client
    rw [follow, run_bind]
    rcases hrun : (exchange client t).run s with ⟨stop | a, s₁⟩ <;> rw [hrun] at hfirst hbehind
    · exact hfirst
    · cases hlocation : a.location? with
      | none =>
        simp only [hlocation, run_pure]
        exact hfirst
      | some location =>
        simp only [hlocation, run_bind, run_getWorld]
        cases nextTransmission (s₁.world.cookie? client) t a location with
        | error reason =>
          rw [run_orFail_error, run_fail]
          exact hbehind ⟨rfl, rfl, rfl, by simp⟩
        | ok next =>
          rw [run_orFail_ok]
          cases follows with
          | true => exact hbehind (ih next s₁)
          | false => exact hfirst

end Exchange

end Transport

namespace CoreHook

open Step Transport Session

theorem asks_call (timeout : Float) (s : Session κ μ) :
    s.Asks ((call timeout : Step κ μ Response).run s).1
      ((call timeout : Step κ μ Response).run s).2 := by
  rw [run_call, run_send_dialled]
  refine Asks.of_rests ?_ s.rests_dialled (rests_hungUp _ _)
  cases s.message timeout with
  | error reason => exact asks_fail reason _
  | ok t =>
    have haddressed : s.dialled.Rests (s.dialled.addressed t) := ⟨rfl, rfl, rfl, rfl, rfl⟩
    dsimp only
    split
    · exact (asks_follow _ _ _ _ _).of_rests haddressed (.refl _)
    · exact (asks_fail _ _).of_rests haddressed (.refl _)

/-- What comes of sending the request: an answer, a failure, or a stop. -/
inductive Tries (s : Session κ μ) : Except Stop Unit → Session κ μ → Prop where
  | answered {a s'} (hhooks : s'.request.hooks = s.request.hooks)
      (hanswer : s.lastAnswer? s' = some a) (hresponse : s'.request.response = some a)
      (herror : s'.request.error = s.request.error) : Tries s (.ok ()) s'
  | failed {e s'} (hhooks : s'.request.hooks = s.request.hooks)
      (hresponse : s'.request.response = s.request.response) (herror : s'.request.error = some e) :
    Tries s (.ok ()) s'
  | stopped {stop s'} (hhooks : s'.request.hooks = s.request.hooks)
      (hresponse : s'.request.response = s.request.response) : Tries s (.error stop) s'

theorem Tries.hooks {s s' : Session κ μ} {outcome : Except Stop Unit} (h : Tries s outcome s') :
    s'.request.hooks = s.request.hooks := by
  cases h <;> assumption

theorem Tries.of_rests {s s₁ s₂ s₃ : Session κ μ} {outcome : Except Stop Unit}
    (h : Tries s₁ outcome s₂) (hbefore : s.Rests s₁) (hafter : s₂.Rests s₃) :
    Tries s outcome s₃ := by
  have hhooks : s₂.request.hooks = s₁.request.hooks → s₃.request.hooks = s.request.hooks :=
    fun h => (hafter.hooks.trans h).trans hbefore.hooks
  have hresponse : s₂.request.response = s₁.request.response →
      s₃.request.response = s.request.response :=
    fun h => (hafter.response.trans h).trans hbefore.response
  cases h with
  | answered hhooks' hanswer hresponse' herror =>
    exact .answered (hhooks hhooks') ((lastAnswer?_of_rests hbefore hafter).trans hanswer)
      (hafter.response.trans hresponse') ((hafter.error.trans herror).trans hbefore.error)
  | failed hhooks' hresponse' herror =>
    exact .failed (hhooks hhooks') (hresponse hresponse') (hafter.error.trans herror)
  | stopped hhooks' hresponse' => exact .stopped (hhooks hhooks') (hresponse hresponse')

/-- A fault of the network is recorded. -/
theorem error_handleFault (id : FailureId) (fault : Failure.NetworkFault) (s : Session κ μ) :
    ∃ e s', (handleFault id fault : Step κ μ Unit).run s = (.ok (), s') ∧
      s'.request.error = some e := by
  simp only [handleFault, run_bind, Request.run_cancellation]
  cases s.request.context.ending? s.world.clock with
  | some ending => exact ⟨_, _, rfl, rfl⟩
  | none => exact ⟨_, _, rfl, rfl⟩

theorem tries_transmit (s : Session κ μ) :
    Tries s ((transmit : Step κ μ Unit).run s).1 ((transmit : Step κ μ Unit).run s).2 := by
  have hcall := asks_call (timeLeft s.request s.world.clock) s
  simp only [transmit, run_bind, run_getRequest, run_now, run_tryCatch]
  rcases hrun : (call (timeLeft s.request s.world.clock) : Step κ μ Response).run s with
    ⟨stop | a, s₁⟩ <;> rw [hrun] at hcall
  · cases stop with
    | unfinished => exact .stopped hcall.hooks hcall.response
    | raised id =>
      simp only [run_bind, run_getWorld]
      cases faultOf? s₁.world.failures id with
      | none =>
        rw [run_raise]
        exact .stopped hcall.hooks hcall.response
      | some fault =>
        have hkept := frame_idles.within_handleFault id fault s₁
        obtain ⟨e, s', hfault, herror⟩ := error_handleFault id fault s₁
        rw [hfault] at hkept
        dsimp only
        rw [hfault]
        exact .failed (hkept.hooks.trans hcall.hooks) (hkept.response.trans hcall.response) herror
  · obtain ⟨n, hsent, hanswer⟩ := hcall.answered a rfl
    have hmessages : (s₁.answered a).world.messages.length = s.world.messages.length + (n + 1) :=
      hsent
    exact .answered hcall.hooks (lastAnswer?_eq hmessages hanswer) rfl hcall.error

end CoreHook

/-! ## Observers -/

/-- The hook only looks at its request: it comes to an end, and it neither changes the request nor
makes any calls. -/
structure Step.OnlyLooks (step : Step κ μ Unit) : Prop where
  goesOn : ∀ s, (step.run s).1 = .ok ()
  request : ∀ s, (step.run s).2.request = s.request
  tape : ∀ s, (step.run s).2.world.tape = s.world.tape
  messages : ∀ s, (step.run s).2.world.messages = s.world.messages

/-- Callbacks that are core hooks in order, with observers among them. -/
inductive Watches (perform : κ → Step κ μ Unit) : List κ → List CoreHook → Prop where
  | nil : Watches perform [] []
  | core {callback h callbacks hs} (hcore : perform callback = h.perform)
      (hrest : Watches perform callbacks hs) : Watches perform (callback :: callbacks) (h :: hs)
  | observer {callback callbacks hs} (hlooks : (perform callback).OnlyLooks)
      (hrest : Watches perform callbacks hs) : Watches perform (callback :: callbacks) hs

/-- The core hooks, with observers among them. -/
def Hooks.AreWatched (perform : κ → Step κ μ Unit) (hooks : Hooks κ) : Prop :=
  ∀ p, Watches perform (hooks.get p).callbacks ((CoreHook.template id).get p).callbacks

namespace CoreHook

open Step Request Session

variable {perform : κ → Step κ μ Unit} {s : Session κ μ}

theorem idles_of_onlyLooks {step : Step κ μ Unit} (h : step.OnlyLooks) : step.Within Idles := by
  intro s
  have hrequest := h.request s
  exact ⟨by rw [hrequest], by rw [hrequest], by rw [hrequest], h.tape s, h.messages s⟩

/-- The step comes to an end and sends nothing, and the request rests. -/
def LetsRest (step : Step κ μ Unit) : Prop :=
  ∀ s, ∃ s', step.run s = (.ok (), s') ∧ s.Rests s'

theorem letsRest_of_onlyLooks {step : Step κ μ Unit} (h : step.OnlyLooks) : LetsRest step := by
  intro s
  have hrequest := h.request s
  exact ⟨_, Prod.ext (h.goesOn s) rfl, by rw [hrequest], by rw [hrequest], by rw [hrequest],
    h.tape s, h.messages s⟩

theorem letsRest_logRequestLines : LetsRest (logRequestLines : Step κ μ Unit) := by
  intro s
  have hkept := frame_idles.within_logRequestLines s
  obtain ⟨s', hrun, -, hrequest, -⟩ := logRequestLines_spec (fun _ => .deadlineExceeded) s
  rw [hrun] at hkept
  exact ⟨s', hrun, hkept.hooks, hkept.response, (congrArg Request.error hrequest :), hkept.tape,
    hkept.messages⟩

/-- Observers alone let the request rest. -/
theorem letsRest_runAll {callbacks : List κ} (h : Watches perform callbacks []) :
    LetsRest (runAll perform callbacks) := by
  intro s
  generalize hnone : ([] : List CoreHook) = hs at h
  induction h generalizing s with
  | nil => exact ⟨s, rfl, .refl s⟩
  | core => cases hnone
  | observer hlooks _ ih =>
    obtain ⟨s₁, hrun, hrests⟩ := letsRest_of_onlyLooks hlooks s
    obtain ⟨s₂, hrest, hrests'⟩ := ih s₁ hnone
    exact ⟨s₂, by simp only [runAll, run_bind, hrun, hrest], hrests.trans hrests'⟩

/-- One sending hook behind others that let the request rest. -/
theorem tries_runAll {callbacks : List κ} {hs before : List CoreHook}
    (h : Watches perform callbacks hs) (hlast : hs = before ++ [.send])
    (hbefore : ∀ h ∈ before, LetsRest (h.perform : Step κ μ Unit)) (s : Session κ μ) :
    Tries s ((runAll perform callbacks).run s).1 ((runAll perform callbacks).run s).2 := by
  have hgoes : ∀ {callback : κ} {callbacks : List κ} {s : Session κ μ},
      LetsRest (perform callback) →
      (∀ s, Tries s ((runAll perform callbacks).run s).1 ((runAll perform callbacks).run s).2) →
      Tries s ((runAll perform (callback :: callbacks)).run s).1
        ((runAll perform (callback :: callbacks)).run s).2 := by
    intro callback callbacks s hrest ih
    obtain ⟨s₁, hrun, hrests⟩ := hrest s
    simp only [runAll, run_bind, hrun]
    exact (ih s₁).of_rests hrests (.refl _)
  induction h generalizing before s with
  | nil => simp at hlast
  | @core callback first callbacks hs hcore hrest ih =>
    cases before with
    | nil =>
      obtain ⟨rfl, rfl⟩ := List.cons.inj hlast
      have htries := tries_transmit s
      have hsend : perform callback = transmit := hcore
      simp only [runAll, run_bind, hsend]
      rcases hrun : (transmit : Step κ μ Unit).run s with ⟨stop | _, s₁⟩ <;> rw [hrun] at htries
      · exact htries
      · obtain ⟨s₂, hlooked, hrests⟩ := letsRest_runAll hrest s₁
        dsimp only
        rw [hlooked]
        exact htries.of_rests (.refl s) hrests
    | cons _ before =>
      obtain ⟨rfl, hlater⟩ := List.cons.inj hlast
      refine hgoes (hcore ▸ hbefore first List.mem_cons_self) fun s => ?_
      exact ih hlater (fun h hh => hbefore h (List.mem_cons_of_mem _ hh)) s
  | observer hlooks _ ih =>
    exact hgoes (letsRest_of_onlyLooks hlooks) fun s => ih hlast hbefore s

/-- A send phase sends once. -/
theorem tries_sendPhase (hwatched : s.request.hooks.AreWatched perform) :
    Tries s ((runPhase perform .send).run s).1 ((runPhase perform .send).run s).2 := by
  have hbefore : ∀ h ∈ [logRequest], LetsRest (h.perform : Step κ μ Unit) := by
    intro h hh
    obtain rfl := List.mem_singleton.1 hh
    exact letsRest_logRequestLines
  have htries := tries_runAll (hwatched .send) rfl hbefore (s.recorded (.phase .send))
  exact htries.of_rests (s.rests_recorded rfl) (.refl _)

/-- All other phases leave the message and the response alone. -/
theorem idles_phase {p : Phase} (hother : p ≠ .send)
    (hwatched : s.request.hooks.AreWatched perform) : s.Idles ((runPhase perform p).run s).2 := by
  have hnone : CoreHook.send ∉ ((template id).get p).callbacks := by
    cases p with
    | send => exact absurd rfl hother
    | _ => simp [template, Hooks.get, HookList.callbacks, HookList.ofEntries, HookList.empty, named,
        HookList.Entry.asHook, HookList.Entry.callback]
  have hall : ∀ {callbacks hs}, Watches perform callbacks hs → CoreHook.send ∉ hs →
      ∀ callback ∈ callbacks, (perform callback).Within Idles := by
    intro callbacks hs h
    induction h with
    | nil => exact fun _ _ hmem => absurd hmem List.not_mem_nil
    | core hcore _ ih =>
      intro hnone callback hmem
      rcases List.mem_cons.1 hmem with rfl | hmem
      · rw [hcore]
        exact frame_idles.within_perform fun heq => hnone (heq ▸ List.mem_cons_self)
      · exact ih (fun hsend => hnone (List.mem_cons_of_mem _ hsend)) callback hmem
    | observer hlooks _ ih =>
      intro hnone callback hmem
      rcases List.mem_cons.1 hmem with rfl | hmem
      · exact idles_of_onlyLooks hlooks
      · exact ih hnone callback hmem
  exact frame_idles.keeps_runPhase (hall (hwatched p) hnone)

end CoreHook

end RequestPipeline
