import RequestPipeline.Proofs.Answers

/-!
# Attempts over the core hooks

The send and unmarshal phases of a request over the core hooks, and an attempt made of both: it ends
with the data of its answer, with the failure that the answer tells, or with one that escapes.
-/

namespace RequestPipeline

variable {μ : Type}

namespace CoreHook

open Step

variable {κ : Type} {words : String → Failure.Reason} {s : Session κ μ} {a : Response}

/-! ## The log -/

theorem logRequestLines_spec (words : String → Failure.Reason) (s : Session κ μ) :
    ∃ s', (logRequestLines : Step κ μ Unit).run s = (.ok (), s') ∧ Along words 0 s s' ∧
      s'.request = { s.request with headers := s'.request.headers } ∧
      s'.world.failures = s.world.failures := by
  cases hlogs : logsTraffic s.request with
  | false =>
    exact ⟨s, by simp [logRequestLines, hlogs], .refl s, rfl, rfl⟩
  | true =>
    simp only [logRequestLines, run_bind, run_getRequest, hlogs, if_true, run_modifyRequest,
      Request.run_log]
    exact ⟨s.headersRead.logged _, rfl, (Along.refl s).headersRead.logged _,
      by simp [Session.headersRead], by simp [Session.headersRead]⟩

theorem logResponseLines_readable (words : String → Failure.Reason)
    (hresponse : s.request.response = some a)
    (hreadable : logsBody s.request a = true → a.text.isOk = true) :
    ∃ s', (logResponseLines : Step κ μ Unit).run s = (.ok (), s') ∧ Along words 0 s s' ∧
      s'.request = s.request ∧ s'.world.failures = s.world.failures := by
  rw [logsBody] at hreadable
  cases hlogs : logsTraffic s.request with
  | false => exact ⟨s, by simp [logResponseLines, hlogs], .refl s, rfl, rfl⟩
  | true =>
    simp only [logResponseLines, run_bind, run_getRequest, hlogs, if_true, hresponse]
    cases hbody : s.request.config.logLevel.covers LogLevel.debugBody && !a.body.isEmpty with
    | false =>
      simp only [Bool.false_eq_true, if_false, run_bind, run_pure, Request.run_log]
      exact ⟨s.logged _, rfl, (Along.refl s).logged _, by simp, by simp⟩
    | true =>
      cases htext : a.text with
      | error fault => simp [hlogs, hbody, htext, Except.isOk, Except.toBool] at hreadable
      | ok text =>
        simp only [if_true, mapError_ok, run_bind, run_orFail_ok, run_pure, Request.run_log]
        exact ⟨s.logged _, rfl, (Along.refl s).logged _, by simp, by simp⟩

/-- Without the text that the log needs of an answer, the hook stops. -/
theorem logResponseLines_unreadable {fault : Text.CodecFault}
    (hresponse : s.request.response = some a) (hlogs : logsBody s.request a = true)
    (htext : a.text = .error fault) :
    (logResponseLines : Step κ μ Unit).run s =
      (fail (.codec fault) : Step κ μ Unit).run s := by
  rw [logsBody, Bool.and_eq_true] at hlogs
  simp only [logResponseLines, run_bind, run_getRequest, hlogs.1, if_true, hresponse, hlogs.2,
    htext, mapError_error, run_orFail_error, run_fail]

end CoreHook

/-- A request over the core hooks between its attempts: its URL can be read, its context is not
cancelled and has no deadline, and no outcome on the tape redirects or cancels. -/
structure Ready (words : String → Failure.Reason) (s : Session CoreHook μ) : Prop where
  hooks : s.request.hooks = CoreHook.template id
  context : s.request.context = .background
  url : ∃ url, Url.read s.request.url.toList = .ok url
  fits : s.world.failures.Fits words
  tape : ∀ i, (Transport.outcomeAt s.world.tape i).Plain words

theorem Ready.along {words : String → Failure.Reason} {n : Nat} {s s' : Session CoreHook μ}
    (h : Ready words s) (halong : Along words n s s') : Ready words s' where
  hooks := halong.hooks.trans h.hooks
  context := halong.context.trans h.context
  url := by rw [halong.url]; exact h.url
  fits := halong.fits h.fits
  tape i := by rw [halong.tape]; exact h.tape _

/-! ## The send phase -/

namespace CoreHook

open Step Request

variable {words : String → Failure.Reason} {s : Session CoreHook μ} {a : Response}

/-- A phase of one core hook. -/
theorem run_single {p : Phase} {only : CoreHook}
    (hhooks : (s.request.hooks.get p).callbacks = [only]) :
    (runPhase perform p).run s = (perform only).run (s.recorded (.phase p)) := by
  simp only [runPhase, run_bind, run_record, run_getRequest, hhooks, runAll, run_pure,
    Session.recorded]
  rcases (perform only).run _ with ⟨stop | _, _⟩ <;> rfl

/-- A phase of two core hooks. -/
theorem run_pair {p : Phase} {first second : CoreHook} {s₁ : Session CoreHook μ}
    (hhooks : (s.request.hooks.get p).callbacks = [first, second])
    (hfirst : (perform first).run (s.recorded (.phase p)) = (.ok (), s₁)) :
    (runPhase perform p).run s = (perform second).run s₁ := by
  simp only [Session.recorded] at hfirst
  simp only [runPhase, run_bind, run_record, run_getRequest, hhooks, runAll, hfirst, run_pure]
  rcases (perform second).run s₁ with ⟨stop | _, _⟩ <;> rfl

/-- A phase whose first hook stops. -/
theorem run_first {p : Phase} {first : CoreHook} {rest : List CoreHook} {stop : Stop}
    {s₁ : Session CoreHook μ} (hhooks : (s.request.hooks.get p).callbacks = first :: rest)
    (hfirst : (perform first).run (s.recorded (.phase p)) = (.error stop, s₁)) :
    (runPhase perform p).run s = (.error stop, s₁) := by
  simp only [Session.recorded] at hfirst
  simp only [runPhase, run_bind, run_record, run_getRequest, hhooks, runAll, hfirst]

theorem run_sendPhase (hready : Ready words s) :
    ∃ s₁, (runPhase perform .send).run s = (transmit : Step CoreHook μ Unit).run s₁ ∧
      Along words 0 s s₁ ∧ s₁.request = { s.request with headers := s₁.request.headers } := by
  obtain ⟨s₁, hlog, halong, hrequest, -⟩ :=
    logRequestLines_spec words (s.recorded (.phase .send))
  have hhooks : (s.request.hooks.get .send).callbacks = [.logRequest, .send] := by
    rw [hready.hooks]
    rfl
  exact ⟨s₁, run_pair hhooks hlog, ((Along.refl s).recorded rfl).trans halong, hrequest⟩

theorem sendPhase_answered (hready : Ready words s) (hsendable : s.IsSendable)
    (hopen : s.IsOpen) (hanswer : (Transport.outcomeAt s.world.tape 0).answer = .response a) :
    ∃ s', (runPhase perform .send).run s = (.ok (), s') ∧ Along words 1 s s' ∧
      s'.request.response = some a ∧ s'.request.error = s.request.error ∧
      s'.request.data = s.request.data := by
  obtain ⟨s₁, hphase, halong, hrequest⟩ := run_sendPhase hready
  have hready₁ := hready.along halong
  have hsame : Transport.outcomeAt s₁.world.tape 0 = Transport.outcomeAt s.world.tape 0 :=
    halong.tape 0
  obtain ⟨s', htransmit, halong', hresponse, herror, hdata⟩ := transmit_answered
    (halong.isSendable.2 hsendable) (halong.isOpen.2 hopen) (hready₁.tape 0) (hsame ▸ hanswer)
  refine ⟨s', hphase.trans htransmit, halong.trans halong', hresponse, ?_, ?_⟩
  · rw [herror, hrequest]
  · rw [hdata, hrequest]

theorem sendPhase_failed {spec : FailureSpec} (hready : Ready words s)
    (hsendable : s.IsSendable) (hopen : s.IsOpen)
    (hanswer : (Transport.outcomeAt s.world.tape 0).answer = .failure spec) :
    ∃ s' e, (runPhase perform .send).run s = (.ok (), s') ∧ Along words 1 s s' ∧
      s'.request.error = some e ∧ s'.request.data = s.request.data ∧
      Answer.IsFailure s.request s'.world.failures e (.failure spec) ∧
      ∀ codes, s'.world.failures.isRetryable codes (some e) =
        Answer.isRetryable codes (.failure spec) := by
  obtain ⟨s₁, hphase, halong, hrequest⟩ := run_sendPhase hready
  have hready₁ := hready.along halong
  have hsame : Transport.outcomeAt s₁.world.tape 0 = Transport.outcomeAt s.world.tape 0 :=
    halong.tape 0
  obtain ⟨fault, hkind⟩ := (hready.tape 0).network spec hanswer
  obtain ⟨s', e, cause, htransmit, halong', herror, hdata, hget, hreason⟩ := transmit_failed
    (halong.isSendable.2 hsendable) (halong.isOpen.2 hopen) (hready₁.tape 0) (hsame ▸ hanswer) hkind
    hready₁.context hready₁.fits
  rw [halong.method, halong.url] at hget
  refine ⟨s', e, hphase.trans htransmit, halong.trans halong', herror,
    by rw [hdata, hrequest], ⟨fault, cause, hkind, hget, hreason⟩, fun codes => ?_⟩
  refine Failures.isRetryable_of_decides hget ?_
  simp [Failure.decides?, Failure.ofSend, Answer.isRetryable, hkind, Value.truthy]

theorem sendPhase_refused (hready : Ready words s)
    (hrefused : ¬ (s.IsSendable ∧ s.IsOpen)) :
    ∃ s' e reason, (runPhase perform .send).run s = (.error (.raised e), s') ∧
      Along words 0 s s' ∧ s'.request.error = s.request.error ∧
      s'.world.failures.reasonAt? e = some reason ∧ reason.Escapes := by
  obtain ⟨s₁, hphase, halong, hrequest⟩ := run_sendPhase hready
  obtain ⟨url, hurl⟩ := (hready.along halong).url
  obtain ⟨e, s', reason, htransmit, halong', herror, hreason, hkind⟩ :=
    transmit_refused words hurl (by rwa [halong.isSendable, halong.isOpen])
  refine ⟨s', e, reason, hphase.trans htransmit, halong.trans halong', ?_, hreason, ?_⟩
  · rw [herror, hrequest]
  · rcases hkind with ⟨fault, rfl⟩ | rfl <;> exact trivial

/-! ## The unmarshal phase -/

/-- An error answer is retried by its status and its error code. -/
theorem isRetryable_ofAnswer {fs : Failures} {e : FailureId} {payload : Value}
    (hsuccess : a.isSuccess = false) (hpayload : payloadOf a = .ok payload)
    (hget : fs.get? e = some (.ofAnswer a.status payload (answerMessage a.status payload)
      ((codeOf payload).map .str))) (codes : List String) :
    fs.isRetryable codes (some e) = Answer.isRetryable codes (.response a) := by
  refine Failures.isRetryable_of_decides hget ?_
  simp only [Failure.decides?, Failure.ofAnswer, Answer.isRetryable, hsuccess, Answer.isListed,
    hpayload, Except.map]
  cases codeOf payload with
  | none => simp [Value.truthy]
  | some code =>
    have htext : (Value.str code).text = code := by simp [Value.text]
    simp only [Option.map_some, htext]
    split
    · rename_i hlisted
      simp [hlisted]
    · rename_i hunlisted
      simp [hunlisted, Value.truthy]

/-- A body that cannot be decoded is not retried. -/
theorem isRetryable_of_isDecoding {reason : Failure.Reason} (hreason : reason.IsDecoding)
    (fs : Failures) (codes : List String) :
    (fs.addReason reason).2.isRetryable codes (some (fs.addReason reason).1) = false := by
  rcases Failure.Reason.isDecoding_iff.1 hreason with ⟨operation, fault, rfl⟩ | ⟨_, _, report, rfl⟩
  · refine Failures.isRetryable_addReason rfl rfl ?_
    cases fault <;> rfl
  · exact Failures.isRetryable_addReason rfl rfl rfl

/-- With the text for the log, the unmarshal phase comes down to its second hook. -/
theorem unmarshalPhase_logged (hready : Ready words s) (hresponse : s.request.response = some a)
    (hlogs : logsBody s.request a = true → a.text.isOk = true) :
    ∃ s₁, (runPhase perform .unmarshal).run s = (decode : Step CoreHook μ Unit).run s₁ ∧
      Along words 0 s s₁ ∧ s₁.request = s.request := by
  have hhooks : (s.request.hooks.get .unmarshal).callbacks = [.logResponse, .unmarshal] := by
    rw [hready.hooks]
    rfl
  obtain ⟨s₁, hlog, halong, hrequest, -⟩ := logResponseLines_readable words
    (s := s.recorded (.phase .unmarshal)) hresponse hlogs
  exact ⟨s₁, run_pair hhooks hlog, ((Along.refl s).recorded rfl).trans halong,
    hrequest.trans (s.request_recorded _)⟩

theorem unmarshalPhase_read (hready : Ready words s) (hclean : s.request.error = none)
    (hresponse : s.request.response = some a) (hread : CanRead s.request (.response a)) :
    ∃ s', (runPhase perform .unmarshal).run s = (.ok (), s') ∧ Along words 0 s s' ∧
      ((s'.request.error = none ∧ Answer.IsData s.request s'.request.data (.response a)) ∨
        ∃ e, s'.request.error = some e ∧ s'.request.data = s.request.data ∧
          Answer.IsFailure s.request s'.world.failures e (.response a) ∧
          ∀ codes, s'.world.failures.isRetryable codes (some e) =
            Answer.isRetryable codes (.response a)) := by
  obtain ⟨s₁, hphase, halong₁, hrequest⟩ := unmarshalPhase_logged hready hresponse fun hlogs =>
    hread.1 (by simp [hlogs])
  have hadapts₁ : adapterFails s₁.request a = false := hrequest ▸ hread.2
  have hresponse₁ : s₁.request.response = some a := hrequest ▸ hresponse
  have hclean₁ : s₁.request.error = none := hrequest ▸ hclean
  have hdata₁ : s₁.request.data = s.request.data := by rw [hrequest]
  cases hsuccess : a.isSuccess with
  | true =>
    rw [run_decode_of_success hresponse₁ hsuccess hadapts₁, hrequest] at hphase
    cases hdata : dataOf s.request a with
    | ok data =>
      rw [hdata] at hphase
      exact ⟨_, hphase, halong₁.withData data, .inl ⟨hclean₁, hsuccess, hdata⟩⟩
    | error reason =>
      rw [hdata] at hphase
      have hdecoding := Answer.isDecoding_of_dataOf hsuccess hread.2 hdata
      refine ⟨_, hphase, halong₁.rejecting reason, .inr ⟨_, rfl, hdata₁, ?_, fun codes => ?_⟩⟩
      · rw [Answer.IsFailure, if_pos hsuccess]
        exact ⟨reason, hdata, hdecoding, Failures.reasonAt?_addReason_self _ _⟩
      · rw [Answer.isRetryable, hsuccess]
        exact isRetryable_of_isDecoding hdecoding _ codes
  | false =>
    rw [run_decode_of_failure hresponse₁ hsuccess] at hphase
    obtain ⟨payload, hpayload⟩ := payloadOf_of_readable hsuccess fun htells =>
      hread.1 (by simp [htells])
    rw [answerFailure, hpayload] at hphase
    refine ⟨_, hphase, halong₁.failing _, .inr ⟨_, rfl, hdata₁, ?_, fun codes => ?_⟩⟩
    · rw [Answer.IsFailure, if_neg (by simp [hsuccess])]
      refine ⟨payload, fun p hp => ?_, Failures.get?_add_self _ _⟩
      exact Except.ok.inj (hpayload.symm.trans hp)
    · exact isRetryable_ofAnswer hsuccess hpayload (Failures.get?_add_self _ _) codes

/-- Without the text that the log needs, the unmarshal phase stops in its first hook. -/
theorem unmarshalPhase_unlogged {fault : Text.CodecFault} (hready : Ready words s)
    (hresponse : s.request.response = some a) (hlogs : logsBody s.request a = true)
    (htext : a.text = .error fault) :
    ∃ s' e, (runPhase perform .unmarshal).run s = (.error (.raised e), s') ∧
      Along words 0 s s' ∧ s'.request.error = s.request.error ∧
      s'.world.failures.reasonAt? e = some (.codec fault) := by
  have hhooks : (s.request.hooks.get .unmarshal).callbacks = [.logResponse, .unmarshal] := by
    rw [hready.hooks]
    rfl
  have hlog := logResponseLines_unreadable (s := s.recorded (.phase .unmarshal)) hresponse hlogs
    htext
  obtain ⟨e, s', hfail, halong, hrequest, hreason⟩ :=
    ((Along.refl s).recorded (e := .phase .unmarshal) rfl).run_fail Unit (.codec fault)
  exact ⟨s', e, run_first hhooks (hlog.trans hfail), halong,
    by rw [hrequest, Session.request_recorded], hreason⟩

/-- With the text for the log, the unmarshal phase stops in its second hook for the reason that this
one stops for. -/
theorem unmarshalPhase_undecoded (hready : Ready words s)
    (hresponse : s.request.response = some a)
    (hlogs : logsBody s.request a = true → a.text.isOk = true)
    (hdecode : ∀ s₁ : Session CoreHook μ, s₁.request = s.request →
      ∃ reason : Failure.Reason, reason.Escapes ∧ (decode : Step CoreHook μ Unit).run s₁ =
        (fail reason : Step CoreHook μ Unit).run s₁) :
    ∃ s' e reason, (runPhase perform .unmarshal).run s = (.error (.raised e), s') ∧
      Along words 0 s s' ∧ s'.request.error = s.request.error ∧
      s'.world.failures.reasonAt? e = some reason ∧ reason.Escapes := by
  obtain ⟨s₁, hphase, halong, hrequest⟩ := unmarshalPhase_logged hready hresponse hlogs
  obtain ⟨reason, hescapes, hstops⟩ := hdecode s₁ hrequest
  obtain ⟨e, s', hfail, halong', hrequest', hreason⟩ := halong.run_fail Unit reason
  exact ⟨s', e, reason, (hphase.trans hstops).trans hfail, halong', by rw [hrequest', hrequest],
    hreason, hescapes⟩

theorem unmarshalPhase_unread (hready : Ready words s) (hresponse : s.request.response = some a)
    (hunread : ¬ CanRead s.request (.response a)) :
    ∃ s' e reason, (runPhase perform .unmarshal).run s = (.error (.raised e), s') ∧
      Along words 0 s s' ∧ s'.request.error = s.request.error ∧
      s'.world.failures.reasonAt? e = some reason ∧ reason.Escapes := by
  by_cases hlogs : logsBody s.request a = true ∧ ∃ fault, a.text = .error fault
  · obtain ⟨hlogs, fault, htext⟩ := hlogs
    obtain ⟨s', e, hphase, halong, herror, hreason⟩ :=
      unmarshalPhase_unlogged hready hresponse hlogs htext
    exact ⟨s', e, .codec fault, hphase, halong, herror, hreason, trivial⟩
  have hlogged : logsBody s.request a = true → a.text.isOk = true := by
    intro h
    cases htext : a.text with
    | ok text => rfl
    | error fault => exact absurd ⟨h, fault, htext⟩ hlogs
  refine unmarshalPhase_undecoded hready hresponse hlogged fun s₁ hrequest => ?_
  cases hfails : adapterFails s.request a with
  | true =>
    obtain ⟨kind, message, hdecode⟩ :=
      run_decode_of_adapterFails (s := s₁) (hrequest ▸ hresponse) (hrequest ▸ hfails)
    exact ⟨.told kind message, trivial, hdecode⟩
  | false =>
    obtain ⟨hneeds, fault, htext⟩ : (logsBody s.request a || tellsInText a) = true ∧
        ∃ fault, a.text = .error fault := by
      cases htext : a.text with
      | ok text => exact absurd ⟨fun _ => by rw [htext]; rfl, hfails⟩ hunread
      | error fault =>
        refine ⟨Decidable.byContradiction fun hneeds => ?_, fault, rfl⟩
        exact hunread ⟨fun h => absurd h hneeds, hfails⟩
    have htells : tellsInText a = true := by
      rcases Bool.or_eq_true_iff.1 hneeds with h | h
      · exact absurd ⟨h, fault, htext⟩ hlogs
      · exact h
    have hsuccess : a.isSuccess = false := by
      simp only [tellsInText, Bool.and_eq_true, Bool.not_eq_true'] at htells
      exact htells.1
    refine ⟨.codec fault, trivial, ?_⟩
    rw [run_decode_of_failure (hrequest ▸ hresponse) hsuccess,
      answerFailure_of_tellsInText htells htext]

end CoreHook

/-! ## Attempts -/

namespace Drive

open Request CoreHook

variable {words : String → Failure.Reason} {s : Session CoreHook μ}

theorem isEnded_of_background (hcontext : s.request.context = .background) : s.isEnded = false := by
  simp [Session.isEnded, hcontext, Context.isDone, Context.background, Context.isExpired]

/-- An attempt whose answer can be read ends with the data or the failure that the answer tells. -/
theorem attempt_read (hready : Ready words s) (hclean : s.request.error = none)
    (hsendable : s.IsSendable) (hopen : s.IsOpen)
    (hread : CanRead s.request (Transport.outcomeAt s.world.tape 0).answer) :
    ∃ s' ms, Along words 1 s s' ∧ Mark.attempts ms = [s] ∧ Mark.waits ms = [] ∧
      ((attempt perform).run s = ⟨.ok none, s', ms⟩ ∧
          Answer.IsData s.request s'.request.data (Transport.outcomeAt s.world.tape 0).answer ∨
        ∃ e, (attempt perform).run s = ⟨.ok (some e), s', ms⟩ ∧ s'.request.error = some e ∧
          s'.request.data = s.request.data ∧
          Answer.IsFailure s.request s'.world.failures e
            (Transport.outcomeAt s.world.tape 0).answer ∧
          ∀ codes, s'.world.failures.isRetryable codes (some e) =
            Answer.isRetryable codes (Transport.outcomeAt s.world.tape 0).answer) := by
  have hcancel := run_cancellation_of_live s (isEnded_of_background hready.context)
  cases hanswer : (Transport.outcomeAt s.world.tape 0).answer with
  | failure spec =>
    obtain ⟨s₁, e, hsend, halong, herror, hdata, hfailure, hretry⟩ :=
      sendPhase_failed hready hsendable hopen hanswer
    refine ⟨s₁.failed "Send", [.attempt s, .phase .send s (.ok ()) s₁], halong.failed "Send",
      rfl, rfl, .inr ⟨e, ?_, by simpa using herror, by simpa using hdata, by simpa using hfailure,
        by simpa using hretry⟩⟩
    simp [attempt, run_bind, hcancel, hsend, run_failureAt, herror]
  | response a =>
    obtain ⟨s₁, hsend, halong, hresponse, herror, hdata⟩ :=
      sendPhase_answered hready hsendable hopen hanswer
    have hsent : s₁.request.error = none := herror.trans hclean
    have halong₁ := halong.atStage .sent
    rw [hanswer] at hread
    obtain ⟨s₂, hunmarshal, halong₂, hend⟩ := unmarshalPhase_read (hready.along halong₁) hsent
      hresponse ((halong₁.canRead_iff _).2 hread)
    rcases hend with ⟨hdone, hdata'⟩ | ⟨e, herror', hdata', hfailure, hretry⟩
    · refine ⟨s₂, [.attempt s, .phase .send s (.ok ()) s₁,
        .phase .unmarshal (s₁.atStage .sent) (.ok ()) s₂], halong₁.trans halong₂, rfl, rfl,
        .inl ⟨?_, ?_⟩⟩
      · simp [attempt, run_bind, hcancel, hsend, run_failureAt, hsent, hunmarshal, hdone]
      · exact (halong₁.isData_iff hdata _ _).1 hdata'
    · refine ⟨s₂.failed "Unmarshal", [.attempt s, .phase .send s (.ok ()) s₁,
        .phase .unmarshal (s₁.atStage .sent) (.ok ()) s₂], (halong₁.trans halong₂).failed _,
        rfl, rfl, .inr ⟨e, ?_, by simpa using herror', by simpa using hdata'.trans hdata, ?_,
          by simpa using hretry⟩⟩
      · simp [attempt, run_bind, hcancel, hsend, run_failureAt, hsent, hunmarshal, herror']
      · simpa using (halong₁.isFailure_iff hdata _ _ _).1 hfailure

/-- An attempt of a request that cannot go out, or whose answer cannot be read, ends with a failure
that escapes and that the request does not tell. -/
theorem attempt_escapes (hready : Ready words s) (hclean : s.request.error = none)
    (hhindered : ¬ (s.IsSendable ∧ s.IsOpen ∧
      CanRead s.request (Transport.outcomeAt s.world.tape 0).answer)) :
    ∃ e s' ms reason, (attempt perform).run s = ⟨.error (.raised e), s', ms⟩ ∧
      Mark.attempts ms = [s] ∧ s'.request.hooks = template id ∧ s'.request.error = none ∧
      s'.world.failures.reasonAt? e = some reason ∧ reason.Escapes := by
  have hcancel := run_cancellation_of_live s (isEnded_of_background hready.context)
  by_cases hrefused : s.IsSendable ∧ s.IsOpen
  · obtain ⟨hsendable, hopen⟩ := hrefused
    have hunread := fun h => hhindered ⟨hsendable, hopen, h⟩
    cases hanswer : (Transport.outcomeAt s.world.tape 0).answer with
    | failure spec =>
      rw [hanswer] at hunread
      exact absurd trivial hunread
    | response a =>
      obtain ⟨s₁, hsend, halong, hresponse, herror, -⟩ :=
        sendPhase_answered hready hsendable hopen hanswer
      have hsent : s₁.request.error = none := herror.trans hclean
      have halong₁ := halong.atStage .sent
      rw [hanswer, ← halong₁.canRead_iff] at hunread
      have hready₁ := hready.along halong₁
      obtain ⟨s₂, e, reason, hunmarshal, halong₂, hkept, hreason, hescapes⟩ :=
        unmarshalPhase_unread hready₁ hresponse hunread
      refine ⟨e, s₂, [.attempt s, .phase .send s (.ok ()) s₁,
        .phase .unmarshal (s₁.atStage .sent) (.error (.raised e)) s₂], reason, ?_, rfl,
        (hready₁.along halong₂).hooks, hkept.trans hsent, hreason, hescapes⟩
      simp [attempt, run_bind, hcancel, hsend, run_failureAt, hsent, hunmarshal]
  · obtain ⟨s₁, e, reason, hsend, halong, hkept, hreason, hescapes⟩ :=
      sendPhase_refused hready hrefused
    refine ⟨e, s₁, [.attempt s, .phase .send s (.error (.raised e)) s₁], reason, ?_, rfl,
      (hready.along halong).hooks, hkept.trans hclean, hreason, hescapes⟩
    simp [attempt, run_bind, hcancel, hsend]

end Drive

end RequestPipeline
