import RequestPipeline.Proofs.FirstMessage

/-!
# What steps leave alone

Between the calls of a request much happens to it that has no part in its messages: failures are
made, stages pass, retries are counted and waited for, lines are logged.  A relation between
sessions that lets all this happen, and that holds from one session to another by way of a third,
holds from the beginning of a run to its end if it does so for each of its phases.
-/

namespace RequestPipeline

open Text (Str)

variable {κ μ α β : Type}

/-- A request with the same message, connections, hooks and answer. -/
structure Request.Alike (r r' : Request κ) : Prop where
  method : r'.method = r.method
  url : r'.url = r.url
  fields : r'.headers.fields = r.headers.fields
  body : r'.body = r.body
  hooks : r'.hooks = r.hooks
  transmission : r'.transmission = r.transmission
  response : r'.response = r.response
  connection : r'.config.connection = r.config.connection

theorem Request.Alike.refl (r : Request κ) : r.Alike r :=
  ⟨rfl, rfl, rfl, rfl, rfl, rfl, rfl, rfl⟩

/-- A relation between sessions that lets happen what has no part in messages and answers: no cookie
comes or goes either. -/
structure Frame (R : Session κ μ → Session κ μ → Prop) : Prop where
  refl (s : Session κ μ) : R s s
  trans {s s₁ s₂ : Session κ μ} (h : R s s₁) (h' : R s₁ s₂) : R s s₂
  request (s : Session κ μ) {r : Request κ} (h : s.request.Alike r) : R s { s with request := r }
  world (s : Session κ μ) {w : World μ} (htape : w.tape = s.world.tape)
    (hmessages : w.messages = s.world.messages) (hnetwork : w.network = s.world.network)
    (hcookies : w.cookies = s.world.cookies) : R s { s with world := w }

/-- The relation, from sessions of a kind. -/
def Session.Guarded (P : Session κ μ → Prop) (R : Session κ μ → Session κ μ → Prop)
    (s s' : Session κ μ) : Prop := P s → R s s'

/-- Nothing has been sent, and the request has the hooks and the answer that it had. -/
structure Session.Idles (s s' : Session κ μ) : Prop where
  hooks : s'.request.hooks = s.request.hooks
  transmission : s'.request.transmission = s.request.transmission
  response : s'.request.response = s.request.response
  tape : s'.world.tape = s.world.tape
  messages : s'.world.messages = s.world.messages

/-- Whatever session the step is taken in, it keeps to the relation. -/
def Step.Within (R : Session κ μ → Session κ μ → Prop) (step : Step κ μ α) : Prop :=
  ∀ s, R s (step.run s).2

/-- Whatever session the run begins in, it keeps to the relation. -/
def Drive.Within (R : Session κ μ → Session κ μ → Prop) (d : Drive κ μ α) : Prop :=
  ∀ s, R s (d.run s).after

namespace Transport

open Step

/-- The cancellation that takes place during a call, if there is one. -/
def cancelMeanwhile : Option (Option FailureSpec) → Step κ μ Unit
  | some cause => cancel cause
  | none => pure ()

section Exchange

variable (client : Option ConnectionId) {t : Transmission}

/-- A call takes the next outcome, and comes to its answer after the cancellation that there may be.
-/
theorem run_exchange_called (t : Transmission) (s : Session κ μ) :
    (exchange client t).run s = (do
      cancelMeanwhile (outcomeAt s.world.tape 0).cancels
      accept client t (outcomeAt s.world.tape 0).answer : Step κ μ Response).run (s.called t) := by
  simp only [exchange, run_bind, run_record, run_nextOutcome, run_advance, Session.called]
  cases (outcomeAt s.world.tape 0).cancels with
  | none => cases (outcomeAt s.world.tape 0).answer <;> rfl
  | some cause =>
    simp only [run_bind, cancelMeanwhile]
    cases (outcomeAt s.world.tape 0).answer <;> rfl

/-- The response of a call is the answer of the outcome. -/
theorem answer_of_run_exchange {s s' : Session κ μ} {a : Response}
    (h : (exchange client t).run s = (.ok a, s')) :
    (outcomeAt s.world.tape 0).answer = .response a := by
  rw [run_exchange_called, run_bind] at h
  split at h
  · cases hanswer : (outcomeAt s.world.tape 0).answer with
    | response r =>
      rw [hanswer] at h
      cases h
      rfl
    | failure spec =>
      rw [hanswer, run_accept_failure] at h
      cases h
  · cases h

end Exchange

end Transport

namespace Frame

variable {R : Session κ μ → Session κ μ → Prop} (hR : Frame R)

include hR

/-- A relation that keeps to sessions of a kind is asked about those only. -/
theorem guarded {P : Session κ μ → Prop} (hkept : ∀ {s s'}, P s → R s s' → P s') :
    Frame (Session.Guarded P R) where
  refl s _ := hR.refl s
  trans h h' hs := hR.trans (h hs) (h' (hkept hs (h hs)))
  request s _ h _ := hR.request s h
  world s _ htape hmessages hnetwork hcookies _ := hR.world s htape hmessages hnetwork hcookies

/-! ## Steps -/

section Steps

open Step Request

theorem within_pure (a : α) : (pure a : Step κ μ α).Within R := hR.refl

theorem within_throw (stop : Stop) : (throw stop : Step κ μ α).Within R := hR.refl

theorem within_raise (id : FailureId) : (raise id : Step κ μ α).Within R := hR.refl

theorem within_getRequest : (getRequest : Step κ μ (Request κ)).Within R := hR.refl

theorem within_getWorld : (getWorld : Step κ μ (World μ)).Within R := hR.refl

theorem within_bind {step : Step κ μ α} {next : α → Step κ μ β} (h : step.Within R)
    (hnext : ∀ a, (next a).Within R) : (step >>= next).Within R := by
  intro s
  have hfirst := h s
  rw [run_bind]
  rcases hrun : step.run s with ⟨stop | a, s₁⟩ <;> rw [hrun] at hfirst
  · exact hfirst
  · exact hR.trans hfirst (hnext a s₁)

theorem within_tryCatch {step : Step κ μ α} {handle : Stop → Step κ μ α} (h : step.Within R)
    (hhandle : ∀ stop, (handle stop).Within R) : (tryCatch step handle).Within R := by
  intro s
  have hfirst := h s
  rw [run_tryCatch]
  rcases hrun : step.run s with ⟨stop | a, s₁⟩ <;> rw [hrun] at hfirst
  · exact hR.trans hfirst (hhandle stop s₁)
  · exact hfirst

omit hR in
theorem within_ite {p : Prop} [Decidable p] {step step' : Step κ μ α} (h : step.Within R)
    (h' : step'.Within R) : (if p then step else step').Within R := by
  split
  · exact h
  · exact h'

theorem within_modifyRequest {f : Request κ → Request κ} (h : ∀ r : Request κ, r.Alike (f r)) :
    (modifyRequest f : Step κ μ Unit).Within R := fun s => hR.request s (h s.request)

theorem within_record {e : Event} (he : e.message? = none) : (record e : Step κ μ Unit).Within R :=
  fun s => hR.world s rfl (World.messages_of_events rfl he) rfl rfl

theorem within_withFailures {step : Step κ μ α}
    (h : ∀ s, ∃ failures, (step.run s).2 = s.withFailures failures) : step.Within R := by
  intro s
  obtain ⟨failures, hs⟩ := h s
  rw [hs]
  exact hR.world s rfl rfl rfl rfl

theorem within_explain (reason : Failure.Reason) : (explain reason : Step κ μ _).Within R :=
  hR.within_withFailures fun _ => ⟨_, rfl⟩

theorem within_makeFailure (f : Failure) : (makeFailure f : Step κ μ _).Within R :=
  hR.within_withFailures fun _ => ⟨_, rfl⟩

theorem within_buildFailure (spec : FailureSpec) : (buildFailure spec : Step κ μ _).Within R :=
  hR.within_withFailures fun _ => ⟨_, rfl⟩

theorem within_setCause (id cause : FailureId) : (setCause id cause : Step κ μ Unit).Within R :=
  hR.within_withFailures fun _ => ⟨_, rfl⟩

theorem within_messageOf (id : FailureId) : (messageOf id : Step κ μ Str).Within R := hR.refl

theorem within_fail (reason : Failure.Reason) : (fail reason : Step κ μ α).Within R :=
  hR.within_bind (hR.within_explain reason) fun id => hR.within_raise id

theorem within_orFail (e : Except Failure.Reason α) : (orFail e : Step κ μ α).Within R := by
  cases e with
  | error reason => exact hR.within_fail reason
  | ok a => exact hR.within_pure a

theorem within_setError (id : FailureId) : (setError id : Step κ μ Unit).Within R :=
  hR.within_modifyRequest fun _ => ⟨rfl, rfl, rfl, rfl, rfl, rfl, rfl, rfl⟩

theorem within_log (line : Str) : (log line : Step κ μ Unit).Within R := by
  refine hR.within_bind hR.within_getRequest fun r => ?_
  cases r.config.logger with
  | none => exact hR.within_pure ()
  | some logger => exact hR.within_record rfl

theorem keeps_logged (line : Str) (s : Session κ μ) : R s (s.logged line) := by
  have hlog := hR.within_log line s
  rwa [run_log] at hlog

theorem within_cancellation : (cancellation? : Step κ μ (Option FailureId)).Within R := by
  intro s
  rw [run_cancellation]
  cases s.request.context.ending? s.world.clock with
  | none => exact hR.refl s
  | some e => exact hR.world s rfl rfl rfl rfl

theorem within_cancel (cause : Option FailureSpec) : (cancel cause : Step κ μ Unit).Within R := by
  have hcancel : ∀ id, (modifyRequest fun r =>
      { r with context := r.context.cancel id } : Step κ μ Unit).Within R := fun _ =>
    hR.within_modifyRequest fun _ => ⟨rfl, rfl, rfl, rfl, rfl, rfl, rfl, rfl⟩
  cases cause with
  | none => exact hR.within_bind (hR.within_pure _) hcancel
  | some spec =>
    exact hR.within_bind (hR.within_buildFailure spec) fun _ =>
      hR.within_bind (hR.within_pure _) hcancel

theorem within_wait (seconds : Float) : (wait seconds : Step κ μ Bool).Within R := by
  intro s
  have hcontext : R s { s with request := { s.request with
      context := (s.request.context.wait s.world.clock seconds).context } } :=
    hR.request s ⟨rfl, rfl, rfl, rfl, rfl, rfl, rfl, rfl⟩
  exact hR.trans hcontext (hR.world _ rfl (World.messages_of_events rfl rfl) rfl rfl)

end Steps

/-! ## The steps between the phases -/

section Between

open Step Request

theorem within_setStage (stage : Stage) : (setStage stage : Step κ μ Unit).Within R :=
  hR.within_modifyRequest fun _ => ⟨rfl, rfl, rfl, rfl, rfl, rfl, rfl, rfl⟩

theorem within_clearError : (clearError : Step κ μ Unit).Within R :=
  hR.within_modifyRequest fun _ => ⟨rfl, rfl, rfl, rfl, rfl, rfl, rfl, rfl⟩

theorem within_markFailed (place : String) : (markFailed place : Step κ μ Unit).Within R := by
  intro s
  rw [run_markFailed, Session.failed]
  have hstage : R s (s.atStage .failed) := hR.within_setStage .failed s
  split
  · exact hR.trans hstage (hR.keeps_logged _ _)
  · exact hstage

theorem within_stopIfFailed (place : String) : (stopIfFailed place : Step κ μ Unit).Within R := by
  refine hR.within_bind hR.within_getRequest fun r => ?_
  cases r.error with
  | none => exact hR.within_pure ()
  | some id => exact hR.within_bind (hR.within_markFailed place) fun _ => hR.within_raise id

theorem within_failureAt (place : String) : (failureAt place : Step κ μ _).Within R := by
  refine hR.within_bind hR.within_getRequest fun r => ?_
  cases r.error with
  | none => exact hR.within_pure none
  | some id => exact hR.within_bind (hR.within_markFailed place) fun _ => hR.within_pure _

theorem within_failCancelled (id : FailureId) : (failCancelled id : Step κ μ _).Within R :=
  hR.within_bind (hR.within_setError id) fun _ =>
    hR.within_bind (hR.within_markFailed "Send") fun _ => hR.within_pure _

theorem within_stopIfReplaced (failure : FailureId) :
    (stopIfReplaced failure : Step κ μ Unit).Within R := by
  refine hR.within_bind hR.within_getRequest fun r => ?_
  cases r.error with
  | none => exact hR.within_pure ()
  | some id =>
    exact within_ite (hR.within_pure ())
      (hR.within_bind (hR.within_markFailed "Retry") fun _ => hR.within_raise id)

theorem within_countRetry : (countRetry : Step κ μ Float).Within R := fun s =>
  hR.request s ⟨rfl, rfl, rfl, rfl, rfl, rfl, rfl, rfl⟩

theorem within_stopEnded (failure : FailureId) : (stopEnded failure : Step κ μ Unit).Within R := by
  refine hR.within_bind hR.within_cancellation fun ended => ?_
  cases ended with
  | some id =>
    exact hR.within_bind (hR.within_setError id) fun _ =>
      hR.within_bind (hR.within_markFailed "Retry") fun _ =>
        hR.within_bind (hR.within_setCause id failure) fun _ => hR.within_raise id
  | none =>
    exact hR.within_bind hR.within_clearError fun _ =>
      hR.within_bind (hR.within_markFailed "Retry") fun _ => hR.within_fail _

end Between

/-! ## Hooks that neither send nor build -/

section Hooks

open Step CoreHook

theorem within_reject (reason : Failure.Reason) : (reject reason : Step κ μ Unit).Within R :=
  hR.within_bind (hR.within_explain reason) fun id => hR.within_setError id

theorem within_checkEndpoint : (checkEndpoint : Step κ μ Unit).Within R :=
  hR.within_bind hR.within_getRequest fun _ => within_ite (hR.within_reject _) (hR.within_pure ())

theorem within_checkParams (expected : Output) :
    (checkParams expected : Step κ μ Unit).Within R := by
  refine hR.within_bind hR.within_getRequest fun r => ?_
  cases expected.adapt r.params with
  | error fault =>
    cases fault with
    | report report => exact hR.within_reject _
    | raised kind message => exact hR.within_fail _
  | ok params => exact hR.within_modifyRequest fun _ => ⟨rfl, rfl, rfl, rfl, rfl, rfl, rfl, rfl⟩

theorem within_handleFault (id : FailureId) (fault : Failure.NetworkFault) :
    (handleFault id fault : Step κ μ Unit).Within R := by
  refine hR.within_bind hR.within_cancellation fun ended => ?_
  cases ended with
  | some cancelled => exact hR.within_bind (hR.within_setCause _ _) fun _ => hR.within_setError _
  | none =>
    exact hR.within_bind hR.within_getRequest fun r => hR.within_bind (hR.within_messageOf id)
      fun text => hR.within_bind (hR.within_makeFailure _) fun failure => hR.within_setError failure

theorem within_decode : (decode : Step κ μ Unit).Within R := by
  have hdata : ∀ data, (modifyRequest fun r => { r with data } : Step κ μ Unit).Within R := fun _ =>
    hR.within_modifyRequest fun _ => ⟨rfl, rfl, rfl, rfl, rfl, rfl, rfl, rfl⟩
  refine hR.within_bind hR.within_getRequest fun r => ?_
  cases r.response with
  | none => exact hR.within_pure ()
  | some response =>
    refine within_ite ?_ (within_ite (hR.within_pure ()) ?_)
    · exact hR.within_bind (hR.within_orFail _) fun failure =>
        hR.within_bind (hR.within_makeFailure failure) fun id => hR.within_setError id
    · cases response.json with
      | error fault => exact hR.within_reject _
      | ok body =>
        cases r.output with
        | none => exact hdata body
        | some output =>
          dsimp only
          cases output.adapt body with
          | error fault =>
            cases fault with
            | report report => exact hR.within_reject _
            | raised kind message => exact hR.within_fail _
          | ok data => exact hdata data

theorem within_logRequestLines : (logRequestLines : Step κ μ Unit).Within R := by
  refine hR.within_bind hR.within_getRequest fun r => within_ite ?_ (hR.within_pure ())
  exact hR.within_bind
    (hR.within_modifyRequest fun r =>
      ⟨rfl, rfl, Headers.fields_read r.headers, rfl, rfl, rfl, rfl, rfl⟩)
    fun _ => hR.within_log _

theorem within_logResponseLines : (logResponseLines : Step κ μ Unit).Within R := by
  refine hR.within_bind hR.within_getRequest fun r => within_ite ?_ (hR.within_pure ())
  cases r.response with
  | none => exact hR.within_pure ()
  | some response =>
    refine within_ite ?_ (hR.within_bind (hR.within_pure _) fun _ => hR.within_log _)
    exact hR.within_bind (hR.within_orFail _) fun _ =>
      hR.within_bind (hR.within_pure _) fun _ => hR.within_log _

end Hooks

/-! ## Phases -/

section Phases

open Step Request

variable {perform : κ → Step κ μ Unit}

theorem within_runAll {callbacks : List κ}
    (h : ∀ callback ∈ callbacks, (perform callback).Within R) :
    (runAll perform callbacks).Within R := by
  induction callbacks with
  | nil => exact hR.within_pure ()
  | cons callback rest ih =>
    exact hR.within_bind (h callback List.mem_cons_self) fun _ =>
      ih fun other hother => h other (List.mem_cons_of_mem _ hother)

/-- A phase keeps to the relation if the hooks do that it finds. -/
theorem keeps_runPhase {p : Phase} {s : Session κ μ}
    (h : ∀ callback ∈ (s.request.hooks.get p).callbacks, (perform callback).Within R) :
    R s ((runPhase perform p).run s).2 :=
  hR.trans (hR.within_record rfl s) (hR.within_runAll h _)

end Phases

/-! ## Calls -/

section Calls

open Step Transport CoreHook

theorem within_cancelMeanwhile (cancels : Option (Option FailureSpec)) :
    (cancelMeanwhile cancels : Step κ μ Unit).Within R := by
  cases cancels with
  | none => exact hR.within_pure ()
  | some cause => exact hR.within_cancel cause

section Exchange

variable (client : Option ConnectionId) (t : Transmission)

theorem keeps_accept (answer : Answer) (s : Session κ μ)
    (hkept : ∀ a, answer = .response a → R s (s.keeping client t.url a)) :
    R s ((accept client t answer).run s).2 := by
  cases answer with
  | response a => exact hkept a rfl
  | failure spec =>
    exact hR.within_bind (hR.within_buildFailure spec) (fun id => hR.within_raise id) s

/-- What comes after the call itself, if the answer may leave its cookies. -/
theorem keeps_exchange (s : Session κ μ)
    (hkept : ∀ a s₁, (outcomeAt s.world.tape 0).answer = .response a → R (s.called t) s₁ →
      R s₁ (s₁.keeping client t.url a)) :
    R (s.called t) ((exchange client t).run s).2 := by
  have hcancelled := hR.within_cancelMeanwhile (outcomeAt s.world.tape 0).cancels (s.called t)
  rw [run_exchange_called, run_bind]
  rcases hrun : (cancelMeanwhile (outcomeAt s.world.tape 0).cancels).run (s.called t) with
    ⟨stop | _, s₁⟩ <;> rw [hrun] at hcancelled
  · exact hcancelled
  · exact hR.trans hcancelled
      (hR.keeps_accept client t _ s₁ fun a hanswer => hkept a s₁ hanswer hcancelled)

end Exchange

theorem within_transmit
    (hcall : ∀ timeout, (call timeout : Step κ μ Response).Within R)
    (hanswered : ∀ (a : Response) (s : Session κ μ), R s (s.answered a)) :
    (transmit : Step κ μ Unit).Within R := by
  refine hR.within_bind hR.within_getRequest fun r => hR.within_bind hR.refl fun time =>
    hR.within_tryCatch ?_ fun stop => ?_
  · exact hR.within_bind (hcall _) hanswered
  · cases stop with
    | unfinished => exact hR.within_throw .unfinished
    | raised id =>
      refine hR.within_bind hR.within_getWorld fun w => ?_
      cases faultOf? w.failures id with
      | some fault => exact hR.within_handleFault id fault
      | none => exact hR.within_raise id

end Calls

/-! ## Runs -/

section Runs

open Request Drive

theorem within_then {d : Drive κ μ α} {next : α → Drive κ μ β} (h : d.Within R)
    (hnext : ∀ a, (next a).Within R) : (d >>= next).Within R := by
  intro s
  have hfirst := h s
  rw [run_bind]
  rcases hrun : d.run s with ⟨stop | a, s₁, ms⟩ <;> rw [hrun] at hfirst
  · exact hfirst
  · exact hR.trans hfirst (hnext a s₁)

variable {perform : κ → Step κ μ Unit}

theorem within_build (hvalidate : (runPhase perform .validate).Within R)
    (hbuild : (runPhase perform .build).Within R) : (Drive.build perform).Within R := by
  have hbuilt : (markBuilt : Step κ μ Unit).Within R :=
    hR.within_modifyRequest fun _ => ⟨rfl, rfl, rfl, rfl, rfl, rfl, rfl, rfl⟩
  refine hR.within_then hR.refl fun r => ?_
  cases r.error with
  | some id => exact hR.refl
  | none =>
    dsimp only
    cases r.built with
    | true => exact hR.refl
    | false =>
      exact hR.within_then hvalidate fun _ => hR.within_then (hR.within_stopIfFailed "Validate")
        fun _ => hR.within_then (hR.within_setStage .validated) fun _ =>
          hR.within_then hbuild fun _ => hR.within_then (hR.within_stopIfFailed "Build")
            fun _ => hbuilt

theorem within_attempt (hsend : (runPhase perform .send).Within R)
    (hunmarshal : (runPhase perform .unmarshal).Within R) : (attempt perform).Within R := by
  refine hR.within_then hR.refl fun s => hR.within_then hR.refl fun _ =>
    hR.within_then hR.within_cancellation fun ended => ?_
  cases ended with
  | some id => exact hR.within_failCancelled id
  | none =>
    refine hR.within_then hsend fun _ =>
      hR.within_then (hR.within_failureAt "Send") fun failure => ?_
    cases failure with
    | some id => exact hR.refl
    | none =>
      exact hR.within_then (hR.within_setStage .sent) fun _ =>
        hR.within_then hunmarshal fun _ => hR.within_failureAt "Unmarshal"

theorem within_interval (hretry : (runPhase perform .retry).Within R)
    (hprepared : ∀ s : Session κ μ, R s s.prepared) (failure : FailureId) :
    (interval perform failure).Within R := by
  have hready : (prepareRetry : Step κ μ Unit).Within R := by
    intro s
    rw [run_prepareRetry]
    exact hprepared s
  refine hR.within_then hretry fun _ => hR.within_then (hR.within_stopIfReplaced failure) fun _ =>
    hR.within_then hR.within_countRetry fun seconds => hR.within_then (hR.within_wait seconds)
      fun ended => ?_
  cases ended with
  | true => exact hR.within_stopEnded failure
  | false => exact hready

theorem within_attempts (hphase : ∀ p, p ≠ .validate → p ≠ .build → (runPhase perform p).Within R)
    (hprepared : ∀ s : Session κ μ, R s s.prepared) (limit : Nat) :
    (attempts perform limit).Within R := by
  have hattempt := hR.within_attempt (hphase .send (by decide) (by decide))
    (hphase .unmarshal (by decide) (by decide))
  have hround : (round perform).Within R := by
    refine hR.within_then hR.within_clearError fun _ => hR.within_then hattempt fun failure => ?_
    cases failure with
    | none => exact hR.within_then (hR.within_setStage .unmarshalled) fun _ => hR.refl
    | some failure =>
      refine hR.within_then hR.refl fun accepted => ?_
      cases accepted with
      | true =>
        have hretry := hphase .retry (by decide) (by decide)
        exact hR.within_then (hR.within_interval hretry hprepared failure) fun _ => hR.refl
      | false => exact hR.refl
  induction limit with
  | zero => exact hR.refl
  | succ limit ih =>
    refine hR.within_then hround fun data => ?_
    cases data with
    | some v => exact hR.refl
    | none => exact ih

end Runs

end Frame

/-! ## Hooks that send nothing -/

/-- A request with the same hooks and connections, and with the same message on its way and the same
answer to it. -/
structure Request.Rewritten (r r' : Request κ) : Prop where
  hooks : r'.hooks = r.hooks
  transmission : r'.transmission = r.transmission
  response : r'.response = r.response
  connection : r'.config.connection = r.config.connection

/-- A relation that lets happen as well what a build does to the message of a request. -/
structure BuildFrame (R : Session κ μ → Session κ μ → Prop) : Prop extends Frame R where
  rewritten (s : Session κ μ) {r : Request κ} (h : s.request.Rewritten r) :
    R s { s with request := r }

namespace BuildFrame

open Step CoreHook

variable {R : Session κ μ → Session κ μ → Prop} (hR : BuildFrame R)

include hR

theorem within_rewrite {f : Request κ → Request κ} (h : ∀ r : Request κ, r.Rewritten (f r)) :
    (modifyRequest f : Step κ μ Unit).Within R := fun s => hR.rewritten s (h s.request)

theorem within_setHeader (name value : List Char) :
    (setHeader name value : Step κ μ Unit).Within R := by
  refine hR.within_bind hR.within_getRequest fun r => ?_
  exact hR.within_bind (hR.within_orFail _) fun _ =>
    hR.within_rewrite fun _ => ⟨rfl, rfl, rfl, rfl⟩

theorem within_encode : (encode : Step κ μ Unit).Within R := by
  refine hR.within_bind hR.within_getRequest fun r => ?_
  split
  · exact hR.within_pure ()
  · exact hR.within_rewrite fun _ => ⟨rfl, rfl, rfl, rfl⟩
  · split
    · exact Frame.within_ite (hR.within_reject _) (hR.within_fail _)
    · exact hR.within_bind (hR.within_rewrite fun _ => ⟨rfl, rfl, rfl, rfl⟩) fun _ =>
        hR.within_setHeader _ _

/-- All hooks but one send nothing. -/
theorem within_perform {h : CoreHook} (hother : h ≠ .send) :
    (perform h : Step κ μ Unit).Within R := by
  cases h with
  | validateEndpoint => exact hR.within_checkEndpoint
  | validateParams expected => exact hR.within_checkParams expected
  | resolveEndpoint => exact hR.within_rewrite fun _ => ⟨rfl, rfl, rfl, rfl⟩
  | encodeBody => exact hR.within_encode
  | basicAuth user password => exact hR.within_setHeader _ _
  | send => exact absurd rfl hother
  | unmarshal => exact hR.within_decode
  | logRequest => exact hR.within_logRequestLines
  | logResponse => exact hR.within_logResponseLines
  | closeResponse => exact hR.within_pure ()

end BuildFrame

namespace Session

theorem Idles.refl (s : Session κ μ) : s.Idles s := ⟨rfl, rfl, rfl, rfl, rfl⟩

theorem Idles.trans {s s₁ s₂ : Session κ μ} (h : s.Idles s₁) (h' : s₁.Idles s₂) : s.Idles s₂ where
  hooks := h'.hooks.trans h.hooks
  transmission := h'.transmission.trans h.transmission
  response := h'.response.trans h.response
  tape := h'.tape.trans h.tape
  messages := h'.messages.trans h.messages

theorem frame_idles : BuildFrame (Idles : Session κ μ → Session κ μ → Prop) where
  refl := .refl
  trans := .trans
  request _ _ h := ⟨h.hooks, h.transmission, h.response, rfl, rfl⟩
  world _ _ htape hmessages _ _ := ⟨rfl, rfl, rfl, htape, hmessages⟩
  rewritten _ _ h := ⟨h.hooks, h.transmission, h.response, rfl, rfl⟩

theorem idles_keeping (client : Option ConnectionId) (url : Url) (a : Response) (s : Session κ μ) :
    s.Idles (s.keeping client url a) :=
  ⟨rfl, rfl, rfl, by simp [keeping], by simp [keeping]⟩

end Session

end RequestPipeline
