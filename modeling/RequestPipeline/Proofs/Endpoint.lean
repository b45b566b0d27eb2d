import RequestPipeline.Proofs.Cancellation
import RequestPipeline.Proofs.DefaultPipeline
import RequestPipeline.Proofs.PlainData

/-!
# Malformed endpoints

A request over the core hooks checks its endpoint when it is made, and puts a scheme in front of one
that has none when it is built.  An endpoint that is no URL as it was given ends the request with a
validation failure before anything is sent.  One that is no URL only behind its scheme is found out
later: whatever then ends a run that sends nothing is no validation failure.
-/

namespace RequestPipeline

variable {κ μ α β : Type}

/-- The endpoint behind its scheme. -/
def Request.resolvedEndpoint (r : Request κ) : String :=
  String.ofList (Url.withScheme r.config.endpoint.toList r.config.disableSsl)

/-- A request over the core hooks has no error, unless its endpoint is no URL as it was given. -/
structure FreshRequest (s : Session CoreHook μ) : Prop where
  hooks : s.request.hooks = CoreHook.template id
  checked : match Request.endpointFault? s.request.config.endpoint with
    | none => s.request.error = none
    | some fault => ∃ id, s.request.error = some id ∧
        s.world.failures.reasonAt? id = some (.invalidEndpoint fault)

/-- A request that has just been made is one. -/
theorem FreshRequest.opening (config : Config) (operation : Operation) (params data : Value)
    (output : Option Output) (retryer : Retryer) (failures : Failures) (clock : Float)
    (tape : List Outcome) (memory : μ) :
    FreshRequest (Session.opening (Request.create config (CoreHook.template id) operation params
      data output retryer failures) clock tape memory) := by
  cases hfault : Request.endpointFault? config.endpoint with
  | none =>
    simp only [Request.create, hfault]
    exact ⟨rfl, by simp [Session.opening, hfault]⟩
  | some fault =>
    simp only [Request.create, hfault]
    exact ⟨rfl, by simp [Session.opening, hfault]⟩

/-- It stays one with another budget. -/
theorem FreshRequest.withBudget {s : Session CoreHook μ} (h : FreshRequest s)
    (budget : RetryBudget) : FreshRequest { s with request := { s.request with budget } } :=
  ⟨h.hooks, h.checked⟩

namespace Drive

open Request CoreHook

variable {s : Session CoreHook μ}

/-- The run raised a validation error without a send phase and without a call to the network. -/
structure FailsFast (s : Session κ μ) (c : Course κ μ α) : Prop where
  unsent : Phase.send ∉ Mark.phases c.marks
  calls : c.after.calls = s.calls
  raises : ∃ id, c.outcome = .error (.raised id) ∧
    c.after.world.failures.kindAt? id = some .validation

/-! ## Endpoints that are no URLs as they were given -/

/-- A request over the core hooks that has failed before runs its end only. -/
theorem run_send_of_error {e : FailureId} (limit : Nat)
    (hhooks : s.request.hooks = template id) (herror : s.request.error = some e) :
    (send perform limit).run s = ⟨.error (.raised e), ended s,
      [.phase .complete s.filled (.ok ()) (s.filled.recorded (.phase .complete))]⟩ := by
  have hdelivery := (isDelivery_run perform s limit).of_error herror
  have hfinished : ((deliver perform limit).run s).outcome ≠ .error .unfinished := by
    rw [hdelivery]
    nofun
  rw [send, run_closedBy_of_finished s _ hfinished, hdelivery, run_finish hhooks]
  rfl

theorem failsFast_of_error {e : FailureId} (limit : Nat)
    (hhooks : s.request.hooks = template id) (herror : s.request.error = some e)
    (hkind : s.world.failures.kindAt? e = some .validation) :
    FailsFast s ((send perform limit).run s) := by
  rw [run_send_of_error limit hhooks herror]
  refine ⟨by simp, calls_ended s, e, rfl, ?_⟩
  rw [failures_ended]
  exact hkind

/-! ## Endpoints that are no URLs behind their schemes -/

theorem run_encode_of_not_canEncode (h : ¬ s.request.CanEncode) :
    ∃ operation fault, (encode : Step CoreHook μ Unit).run s =
      (.ok (), s.rejecting (.cannotEncode operation fault)) := by
  have hvalue : s.request.params ≠ .null := fun hnull => h (by simp [CanEncode, hnull])
  have hdata : ∀ bytes, s.request.params ≠ .bytes bytes :=
    fun bytes hbytes => h (by simp [CanEncode, hbytes])
  rw [canEncode_iff hvalue hdata] at h
  cases hbody : Json.body s.request.params with
  | error fault =>
    have hkind := Json.refuses_body _ fault hbody
    exact ⟨s.request.operation.name, fault,
      by rw [encode, run_encodeWith Json.body hvalue hdata, hbody]; simp [hkind]⟩
  | ok body => exact absurd ⟨body, hbody⟩ h

/-- The build phase leaves no error, or a failure of its own. -/
theorem run_buildPhase_cases (hhooks : s.request.hooks = template id)
    (hclean : s.request.error = none) :
    ∃ s₁, (runPhase perform .build).run s = (.ok (), s₁) ∧ s₁.request.hooks = s.request.hooks ∧
      ∀ e, s₁.request.error = some e → s₁.world.failures.kindAt? e = some .build := by
  by_cases hparams : s.request.CanEncode
  · obtain ⟨body, headers, hbuild⟩ := run_buildPhase hhooks hparams
    refine ⟨_, hbuild, rfl, fun e herror => ?_⟩
    cases hclean.symm.trans herror
  · have hlist : (s.request.hooks.get .build).callbacks = [.resolveEndpoint, .encodeBody] := by
      rw [hhooks]
      rfl
    have hresolve : (perform .resolveEndpoint).run (s.recorded (.phase .build)) =
      (.ok (), (s.recorded (.phase .build)).resolved) := rfl
    obtain ⟨operation, fault, hencode⟩ :=
      run_encode_of_not_canEncode (s := (s.recorded (.phase .build)).resolved) hparams
    refine ⟨_, (run_pair hlist hresolve).trans hencode, rfl, fun e herror => ?_⟩
    obtain rfl := Option.some.inj herror
    exact Failures.kindAt?_of_reasonAt? (Failures.reasonAt?_addReason_self _ _)

/-- A part of a run over the core hooks keeps them, and is not stopped by a validation failure. -/
structure StaysValid (outcome : Except Stop α) (after : Session CoreHook μ) : Prop where
  hooks : after.request.hooks = template id
  stops : ∀ e, outcome = .error (.raised e) → after.world.failures.kindAt? e ≠ some .validation

theorem StaysValid.of_kind {after : Session CoreHook μ} {e : FailureId} {kind : Failure.Kind}
    (hhooks : after.request.hooks = template id)
    (hkind : after.world.failures.kindAt? e = some kind) (hother : kind ≠ .validation) :
    StaysValid (.error (.raised e) : Except Stop α) after := by
  refine ⟨hhooks, fun e' hraised => ?_⟩
  obtain rfl : e = e' := by simpa using hraised
  simpa [hkind] using hother

/-- A failure stops what it is a part of. -/
theorem StaysValid.stopped {stop : Stop} {after : Session CoreHook μ}
    (h : StaysValid (.error stop : Except Stop α) after) :
    StaysValid (.error stop : Except Stop β) after :=
  ⟨h.hooks, fun e he => h.stops e (by cases he; rfl)⟩

theorem staysValid_isBuild {c : Course CoreHook μ Unit} (h : IsBuild perform s c)
    (hhooks : s.request.hooks = template id) (hclean : s.request.error = none)
    (hendpoint : s.request.config.endpoint ≠ "") : StaysValid c.outcome c.after := by
  have hvalidates := run_validatePhase hhooks hendpoint
  have hbuilds := run_buildPhase_cases
    (s := (s.recorded (.phase .validate)).atStage .validated) hhooks hclean
  cases h with
  | failedBefore herror => cases hclean.symm.trans herror
  | builtBefore => exact ⟨hhooks, by simp⟩
  | validateStopped _ _ hvalidate => cases hvalidate.symm.trans hvalidates
  | validateFailed _ _ hvalidate herror =>
    cases hvalidate.symm.trans hvalidates
    cases hclean.symm.trans herror
  | buildStopped _ _ hvalidate _ hbuild =>
    cases hvalidate.symm.trans hvalidates
    obtain ⟨s₂, hrun, -⟩ := hbuilds
    cases hbuild.symm.trans hrun
  | buildFailed _ _ hvalidate _ hbuild herror =>
    cases hvalidate.symm.trans hvalidates
    obtain ⟨s₂, hrun, hsame, hkind⟩ := hbuilds
    cases hbuild.symm.trans hrun
    exact .of_kind (by simpa using hsame.trans hhooks) (by simpa using hkind _ herror)
      (by decide : Failure.Kind.build ≠ .validation)
  | built _ _ hvalidate _ hbuild =>
    cases hvalidate.symm.trans hvalidates
    obtain ⟨s₂, hrun, hsame, -⟩ := hbuilds
    cases hbuild.symm.trans hrun
    exact ⟨hsame.trans hhooks, by simp⟩

/-- An attempt without a send phase did not get past its context. -/
theorem tellsEnd_isAttempt_of_unsent {c : Course CoreHook μ (Option FailureId)}
    (h : IsAttempt perform s c) (hunsent : Phase.send ∉ Mark.phases c.marks) :
    ∃ e, c.outcome = .ok (some e) ∧ c.after.world.failures.TellsEnd e ∧
      c.after.request.hooks = s.request.hooks := by
  cases h with
  | cancelled hended hcancel =>
    refine ⟨_, rfl, ?_, by simp⟩
    simpa using cancellation_tellsEnd hcancel
  | sendStopped | sendFailed | unmarshalStopped | unmarshalFailed | succeeded => simp at hunsent

/-- The end of a wait is no validation failure, whether or not the context has ended. -/
theorem staysValid_stopEnded {after : Session CoreHook μ} {failure e : FailureId}
    (h : (stopEnded failure : Step CoreHook μ Unit).run s = (.error (.raised e), after))
    (hhooks : s.request.hooks = template id) :
    StaysValid (.error (.raised e) : Except Stop α) after := by
  cases hended : s.isEnded with
  | true =>
    obtain ⟨htells, -⟩ := stopEnded_tellsEnd hended h
    obtain ⟨_, _, hrun, hrequest⟩ := run_stopEnded_of_ended s failure hended
    cases hrun.symm.trans h
    exact .of_kind (by rw [hrequest]; exact hhooks) htells (by decide)
  | false =>
    simp only [stopEnded, Step.run_bind, run_cancellation_of_live s hended, run_clearError,
      run_markFailed, Step.run_fail, Prod.mk.injEq, Except.error.injEq, Stop.raised.injEq] at h
    obtain ⟨rfl, rfl⟩ := h
    exact .of_kind (by simpa using hhooks)
      (Failures.kindAt?_of_reasonAt? (Failures.reasonAt?_addReason_self _ _)) (by decide)

theorem staysValid_isInterval {failure : FailureId} {c : Course CoreHook μ Unit}
    (h : IsInterval perform failure s c) (hhooks : s.request.hooks = template id)
    (herror : s.request.error = some failure) : StaysValid c.outcome c.after := by
  have hretries : (runPhase perform .retry).run s = (.ok (), s.recorded (.phase .retry)) := by
    have hlist : (s.request.hooks.get .retry).callbacks = [] := by
      rw [hhooks]
      rfl
    simp [runPhase, hlist, runAll, Session.recorded]
  cases h with
  | retryStopped hretry => cases hretry.symm.trans hretries
  | replaced hretry hother hne =>
    cases hretry.symm.trans hretries
    exact absurd (Option.some.inj (hother.symm.trans herror)) hne
  | ended hretry _ _ hstop =>
    cases hretry.symm.trans hretries
    exact staysValid_stopEnded hstop hhooks
  | elapsed hretry =>
    cases hretry.symm.trans hretries
    exact ⟨hhooks, by simp⟩

theorem staysValid_isRound {c : Course CoreHook μ (Option Value)} (h : IsRound perform s c)
    (hhooks : s.request.hooks = template id) (hunsent : Phase.send ∉ Mark.phases c.marks) :
    StaysValid c.outcome c.after := by
  cases h with
  | attemptStopped hattempt =>
    obtain ⟨e, hfailed, -⟩ := tellsEnd_isAttempt_of_unsent hattempt hunsent
    cases hfailed
  | succeeded hattempt =>
    obtain ⟨e, hfailed, -⟩ := tellsEnd_isAttempt_of_unsent hattempt hunsent
    cases hfailed
  | declined hattempt =>
    obtain ⟨e, hfailed, htells, hsame⟩ :=
      tellsEnd_isAttempt_of_unsent hattempt (by simpa using hunsent)
    cases hfailed
    exact .of_kind (hsame.trans hhooks) htells (by decide)
  | intervalStopped hattempt _ hinterval =>
    simp only [Mark.phases_append, List.mem_append, not_or] at hunsent
    obtain ⟨e, hfailed, -, hsame⟩ := tellsEnd_isAttempt_of_unsent hattempt hunsent.1
    have hstops := staysValid_isInterval hinterval (hsame.trans hhooks) (error_isAttempt hattempt)
    exact hstops.stopped
  | again hattempt _ hinterval =>
    simp only [Mark.phases_append, List.mem_append, not_or] at hunsent
    obtain ⟨e, hfailed, -, hsame⟩ := tellsEnd_isAttempt_of_unsent hattempt hunsent.1
    have hgoes := staysValid_isInterval hinterval (hsame.trans hhooks) (error_isAttempt hattempt)
    exact ⟨hgoes.hooks, by simp⟩

theorem staysValid_areRounds {c : Course CoreHook μ Value} (h : AreRounds perform s c)
    (hhooks : s.request.hooks = template id) (hunsent : Phase.send ∉ Mark.phases c.marks) :
    StaysValid c.outcome c.after := by
  induction h with
  | givenUp => exact ⟨hhooks, by simp⟩
  | succeeded hround => exact ⟨(staysValid_isRound hround hhooks hunsent).hooks, by simp⟩
  | stopped hround =>
    have hstops := staysValid_isRound hround hhooks hunsent
    exact hstops.stopped
  | again hround hrest ih =>
    simp only [Mark.phases_append, List.mem_append, not_or] at hunsent
    exact ih (staysValid_isRound hround hhooks hunsent.1).hooks hunsent.2

theorem staysValid_isDelivery {c : Course CoreHook μ Value} (h : IsDelivery perform s c)
    (hhooks : s.request.hooks = template id) (hclean : s.request.error = none)
    (hendpoint : s.request.config.endpoint ≠ "") (hunsent : Phase.send ∉ Mark.phases c.marks) :
    StaysValid c.outcome c.after := by
  cases h with
  | unbuilt hbuild =>
    have hstops := staysValid_isBuild hbuild hhooks hclean hendpoint
    exact hstops.stopped
  | built hbuild hrounds =>
    simp only [Mark.phases_append, List.mem_append, not_or] at hunsent
    have hhooks₁ := (staysValid_isBuild hbuild hhooks hclean hendpoint).hooks
    have hvalid := staysValid_areRounds hrounds hhooks₁ hunsent.2
    exact hvalid

/-- An endpoint that is a URL as it was given never leads to a validation failure before anything is
sent. -/
theorem staysValid_isSending {c : Course CoreHook μ Value} (h : IsSending perform s c)
    (hhooks : s.request.hooks = template id) (hclean : s.request.error = none)
    (hendpoint : s.request.config.endpoint ≠ "") (hunsent : Phase.send ∉ Mark.phases c.marks) :
    StaysValid c.outcome c.after := by
  cases h with
  | givenUp hdelivery =>
    exact staysValid_isDelivery hdelivery hhooks hclean hendpoint hunsent
  | completeStopped hdelivery _ hcomplete =>
    simp only [Mark.phases_append, List.mem_append, not_or] at hunsent
    have hbefore := staysValid_isDelivery hdelivery hhooks hclean hendpoint hunsent.1
    cases hcomplete.symm.trans (run_completePhase hbefore.hooks)
  | completed hdelivery _ hcomplete =>
    simp only [Mark.phases_append, List.mem_append, not_or] at hunsent
    have hbefore := staysValid_isDelivery hdelivery hhooks hclean hendpoint hunsent.1
    cases hcomplete.symm.trans (run_completePhase hbefore.hooks)
    refine ⟨?_, fun e hraised => ?_⟩
    · rw [Session.closed]
      split <;> exact hbefore.hooks
    · rw [Session.failures_closed]
      exact hbefore.stops e hraised

/-! ## Both together -/

/-- A scheme alone is a URL. -/
theorem endpointFault?_impliedScheme (disableSsl : Bool) :
    endpointFault? (String.ofList (Url.impliedScheme disableSsl)) = none := by
  cases disableSsl <;> decide

/-- A request over the core hooks whose endpoint is no URL behind its scheme ends with a validation
failure before anything is sent, if and only if the endpoint was no URL as it was given.  An
endpoint that had its scheme from the start is such a one. -/
theorem malformed_endpoint_fails_fast_iff (limit : Nat) (s : Session CoreHook μ)
    (hfresh : FreshRequest s) (hmalformed : endpointFault? s.request.resolvedEndpoint ≠ none) :
    (FailsFast s ((send perform limit).run s) ↔
      endpointFault? s.request.config.endpoint ≠ none) ∧
    (Url.hasScheme s.request.config.endpoint.toList = true →
      FailsFast s ((send perform limit).run s)) := by
  have hiff : FailsFast s ((send perform limit).run s) ↔
      endpointFault? s.request.config.endpoint ≠ none := by
    have hchecked := hfresh.checked
    cases hfault : endpointFault? s.request.config.endpoint with
    | none =>
      refine iff_of_false (fun hfails => ?_) (by simp)
      have hclean : s.request.error = none := by simpa [hfault] using hchecked
      have hendpoint : s.request.config.endpoint ≠ "" := by
        -- Of an empty endpoint only the scheme is left, which is a URL.
        intro hempty
        have hresolved := endpointFault?_impliedScheme s.request.config.disableSsl
        exact hmalformed (by
          simpa [resolvedEndpoint, hempty, Url.withScheme, Url.hasScheme, Url.cut] using hresolved)
      obtain ⟨e, hraised, hkind⟩ := hfails.raises
      exact (staysValid_isSending (isSending_run perform s limit) hfresh.hooks hclean hendpoint
        hfails.unsent).stops e hraised hkind
    | some fault =>
      refine iff_of_true ?_ (by simp)
      obtain ⟨e, herror, hreason⟩ : ∃ e, s.request.error = some e ∧
          s.world.failures.reasonAt? e = some (.invalidEndpoint fault) := by
        simpa [hfault] using hchecked
      exact failsFast_of_error limit hfresh.hooks herror (Failures.kindAt?_of_reasonAt? hreason)
  refine ⟨hiff, fun hscheme => hiff.2 ?_⟩
  simpa [resolvedEndpoint, Url.withScheme, hscheme] using hmalformed

/-- A request over the core hooks that has just been made. -/
def toEndpoint (endpoint : String) : Session CoreHook Unit :=
  Session.plain endpoint (template id) .never .none [] ()

theorem freshRequest_toEndpoint (endpoint : String) : FreshRequest (toEndpoint endpoint) :=
  (FreshRequest.opening _ _ _ _ _ _ _ _ _ _).withBudget .none

theorem malformed_endpoint_of_misnumbered_port :
    let s := toEndpoint "https://api.example.com:notaport"
    FreshRequest s ∧ endpointFault? s.request.resolvedEndpoint ≠ none ∧
      FailsFast s ((send perform 1).run s) := by
  intro s
  have hfresh : FreshRequest s := freshRequest_toEndpoint _
  have hmalformed : endpointFault? s.request.resolvedEndpoint ≠ none := by decide
  obtain ⟨-, hfails⟩ := malformed_endpoint_fails_fast_iff 1 s hfresh hmalformed
  exact ⟨hfresh, hmalformed, hfails (by decide)⟩

/-- Without its scheme, the host of the same endpoint reads as a scheme and its port as a path. -/
theorem endpoint_without_scheme_is_sent :
    let s := toEndpoint "api.example.com:notaport"
    FreshRequest s ∧ endpointFault? s.request.resolvedEndpoint ≠ none ∧
      Mark.phases ((send perform 1).run s).marks = [.validate, .build, .send, .complete] ∧
      ¬ FailsFast s ((send perform 1).run s) := by
  intro s
  have hphases : Mark.phases ((send perform 1).run s).marks =
      [.validate, .build, .send, .complete] := by decide +kernel
  refine ⟨freshRequest_toEndpoint _, by decide, hphases, fun hfails => hfails.unsent ?_⟩
  simp [hphases]

end Drive

end RequestPipeline
