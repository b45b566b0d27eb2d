import RequestPipeline.Proofs.Calls

/-!
# Answers

What the core hooks make of an answer: data, or a failure with a reason.  Two things go past both.
The answer may keep its text to itself where the text is needed, since the codec that goes with it
refuses; and the adapter of the request may fail in a way of its own instead of reporting what does
not fit.
-/

namespace RequestPipeline

open Text (Str)

variable {κ μ : Type}

namespace Failure.Reason

/-- The reason is about the body of a successful answer: it is no JSON, or its value does not fit
the output type. -/
def IsDecoding : Failure.Reason → Prop
  | .notJson _ _ | .mismatch _ _ _ => True
  | _ => False

/-- A core hook raises failures with this reason instead of recording them. -/
def Escapes : Failure.Reason → Prop
  | .header _ | .closedConnection | .codec _ | .told _ _ => True
  | _ => False

theorem isDecoding_iff {reason : Failure.Reason} :
    reason.IsDecoding ↔ (∃ operation fault, reason = .notJson operation fault) ∨
      ∃ operation expected report, reason = .mismatch operation expected report := by
  cases reason <;> simp [IsDecoding]

theorem IsDecoding.not_escapes {reason : Failure.Reason} (h : reason.IsDecoding) :
    ¬ reason.Escapes := by
  rcases isDecoding_iff.1 h with ⟨_, _, rfl⟩ | ⟨_, _, _, rfl⟩ <;> exact id

end Failure.Reason

namespace CoreHook

/-- The response hook logs the body: the level covers bodies, there is a logger, and the body is not
empty. -/
def logsBody (r : Request κ) (a : Response) : Bool :=
  logsTraffic r && (r.config.logLevel.covers LogLevel.debugBody && !a.body.isEmpty)

/-- The answer has an error status and a body that is no JSON, so that its text becomes the payload.
-/
def tellsInText (a : Response) : Bool :=
  !a.isSuccess && (!a.body.isEmpty && !a.json.isOk)

/-- The output adapter raises something else than a validation report on the body of a successful
answer. -/
def adapterFails (r : Request κ) (a : Response) : Bool :=
  match r.output, a.json with
  | some output, .ok body =>
    match output.adapt body with
    | .error (.raised _ _) => a.isSuccess && !a.body.isEmpty
    | _ => false
  | _, _ => false

/-- The answer can be processed: its codec gives the text where that is needed, for the log or as
the payload of an error status, and the output adapter raises nothing but a validation report. -/
def CanRead (r : Request κ) : Answer → Prop
  | .response a => (logsBody r a || tellsInText a → a.text.isOk) ∧ adapterFails r a = false
  | .failure _ => True

instance (r : Request κ) (answer : Answer) : Decidable (CanRead r answer) :=
  match answer with
  | .response a => inferInstanceAs
      (Decidable ((logsBody r a || tellsInText a → a.text.isOk) ∧ adapterFails r a = false))
  | .failure _ => .isTrue trivial

/-- Where the codec refuses the text of an error answer, there is no failure to record. -/
theorem answerFailure_of_tellsInText {a : Response} {fault : Text.CodecFault}
    (htells : tellsInText a = true) (htext : a.text = .error fault) :
    answerFailure a = .error fault := by
  simp only [tellsInText, Bool.and_eq_true, Bool.not_eq_true'] at htells
  obtain ⟨-, hbody, hjson⟩ := htells
  cases hread : a.json with
  | ok v => simp [hread, Except.isOk, Except.toBool] at hjson
  | error fault => simp [answerFailure, payloadOf, hbody, hread, htext, Except.map]

theorem payloadOf_of_readable {a : Response} (hsuccess : a.isSuccess = false)
    (hread : tellsInText a = true → a.text.isOk = true) : ∃ payload, payloadOf a = .ok payload := by
  simp only [payloadOf]
  cases hbody : a.body.isEmpty with
  | true => exact ⟨_, rfl⟩
  | false =>
    cases hjson : a.json with
    | ok v => exact ⟨v, rfl⟩
    | error fault =>
      have htells : tellsInText a = true := by
        simp [tellsInText, hsuccess, hbody, hjson, Except.isOk, Except.toBool]
      cases htext : a.text with
      | ok text => exact ⟨_, rfl⟩
      | error fault => simp [htext, Except.isOk, Except.toBool, htells] at hread

/-- What it means that an adapter gives no value of the type asked for. -/
def rejection (operation : String) (output : Output) : AdapterFault → Failure.Reason
  | .report report => .mismatch operation output.name report
  | .raised kind message => .told kind message

/-- The data of a successful answer, which leaves that of the request if its body is empty. -/
def dataOf (r : Request κ) (a : Response) : Except Failure.Reason Value :=
  if a.body.isEmpty then .ok r.data
  else match a.json with
    | .error fault => .error (.notJson r.operation.name fault)
    | .ok body => match r.output with
      | none => .ok body
      | some output => (output.adapt body).mapError (rejection r.operation.name output)

end CoreHook

namespace Answer

/-- The error code of an answer with an error status is one of the codes that are retried. -/
def isListed (codes : List String) (a : Response) : Bool :=
  match (CoreHook.payloadOf a).map CoreHook.codeOf with
  | .ok (some code) => codes.any fun listed : String => Str.ofString listed == code
  | _ => false

/-- The data is that of a successful answer. -/
def IsData (r : Request κ) (data : Value) : Answer → Prop
  | .response a => a.isSuccess = true ∧ CoreHook.dataOf r a = .ok data
  | .failure _ => False

/-- The failure for an answer: a fault of the network instead of it, a body that cannot be decoded,
or an error status. -/
def IsFailure (r : Request κ) (fs : Failures) (e : FailureId) : Answer → Prop
  | .response a =>
    if a.isSuccess then
      ∃ reason, CoreHook.dataOf r a = .error reason ∧ reason.IsDecoding ∧
        fs.reasonAt? e = some reason
    else
      ∃ payload, (∀ p, CoreHook.payloadOf a = .ok p → payload = p) ∧
        fs.get? e = some (.ofAnswer a.status payload (CoreHook.answerMessage a.status payload)
          ((CoreHook.codeOf payload).map .str))
  | .failure spec =>
    ∃ fault cause, spec.failure.kind = .outside (.network fault) ∧
      fs.get? e =
        some (.ofSend r.method r.url spec.failure.message fault.isTemporary cause) ∧
      fs.reasonAt? cause = some spec.failure.reason

/-- Whether an answer is retried: a temporary fault of the network is, and an error status by its
number or its error code. -/
def isRetryable (codes : List String) : Answer → Bool
  | .response a => !a.isSuccess && (Status.isTemporary a.status || isListed codes a)
  | .failure spec =>
    match spec.failure.kind with
    | .outside (.network fault) => fault.isTemporary
    | _ => false

end Answer

namespace Session

/-- The session with other data. -/
def withData (data : Value) (s : Session κ μ) : Session κ μ :=
  { s with request := { s.request with data } }

/-- The session with a failure that is new. -/
def failing (f : Failure) (s : Session κ μ) : Session κ μ :=
  (s.withFailures (s.world.failures.add f).2).withError (some (s.world.failures.add f).1)

/-- The session with a failure for a reason. -/
def rejecting (reason : Failure.Reason) (s : Session κ μ) : Session κ μ :=
  (s.withFailures (s.world.failures.addReason reason).2).withError
    (some (s.world.failures.addReason reason).1)

end Session

namespace Along

variable {words : String → Failure.Reason} {n : Nat} {s s' : Session κ μ}

theorem withData (h : Along words n s s') (data : Value) : Along words n s (s'.withData data) :=
  ⟨h.terms, h.used, h.retryer, h.message, h.tape, h.calls, h.connections, h.fits⟩

theorem failing (h : Along words n s s') (f : Failure) : Along words n s (s'.failing f) :=
  (h.withFailures fun hfs => hfs.grow (Failures.grows_add _ f) rfl).withError _

theorem rejecting (h : Along words n s s') (reason : Failure.Reason) :
    Along words n s (s'.rejecting reason) :=
  (h.withFailures fun hfs => hfs.grow (Failures.grows_addReason _ reason)
    (Failures.labels_addReason _ reason)).withError _

theorem canRead_iff (h : Along words n s s') (answer : Answer) :
    CoreHook.CanRead s'.request answer ↔ CoreHook.CanRead s.request answer := by
  cases answer <;> simp only [CoreHook.CanRead, CoreHook.logsBody, CoreHook.logsTraffic,
    CoreHook.adapterFails, h.config, h.output]

theorem dataOf_eq (h : Along words n s s') (hdata : s'.request.data = s.request.data)
    (a : Response) : CoreHook.dataOf s'.request a = CoreHook.dataOf s.request a := by
  simp only [CoreHook.dataOf, h.operation, h.output, hdata]

theorem isData_iff (h : Along words n s s') (hdata : s'.request.data = s.request.data)
    (data : Value) (answer : Answer) :
    answer.IsData s'.request data ↔ answer.IsData s.request data := by
  cases answer <;> simp only [Answer.IsData, h.dataOf_eq hdata]

theorem isFailure_iff (h : Along words n s s') (hdata : s'.request.data = s.request.data)
    (fs : Failures) (e : FailureId) (answer : Answer) :
    answer.IsFailure s'.request fs e ↔ answer.IsFailure s.request fs e := by
  cases answer <;> simp only [Answer.IsFailure, h.dataOf_eq hdata, h.method, h.url]

end Along

namespace CoreHook

open Step

variable {s : Session κ μ} {a : Response}

@[simp] theorem run_reject (reason : Failure.Reason) (s : Session κ μ) :
    (reject reason : Step κ μ Unit).run s = (.ok (), s.rejecting reason) := by
  simp [reject, Session.rejecting, Session.withError, Session.withFailures]

theorem run_decode_of_success (hresponse : s.request.response = some a)
    (hsuccess : a.isSuccess = true) (hadapts : adapterFails s.request a = false) :
    (decode : Step κ μ Unit).run s = (.ok (), match dataOf s.request a with
      | .ok data => s.withData data
      | .error reason => s.rejecting reason) := by
  simp only [decode, run_bind, run_getRequest, hresponse, hsuccess, dataOf]
  simp only [adapterFails, hsuccess] at hadapts
  cases hbody : a.body.isEmpty
  · cases hjson : a.json with
    | error fault => simp
    | ok body =>
      cases houtput : s.request.output with
      | none => simp [Session.withData]
      | some output =>
        cases hadapt : output.adapt body with
        | ok data =>
          simp only [hadapt]
          rfl
        | error fault =>
          cases fault with
          | report report =>
            simp only [hadapt]
            rfl
          | raised kind message => simp [hjson, houtput, hadapt, hbody] at hadapts
  · simp [Session.withData]

/-- An adapter that raises anything but a report stops the hook. -/
theorem run_decode_of_adapterFails (hresponse : s.request.response = some a)
    (hfails : adapterFails s.request a = true) :
    ∃ kind message, (decode : Step κ μ Unit).run s =
      (fail (.told kind message) : Step κ μ Unit).run s := by
  simp only [adapterFails] at hfails
  split at hfails
  · rename_i output body houtput hjson
    split at hfails
    · rename_i kind message hadapt
      obtain ⟨hsuccess, hbody⟩ := Bool.and_eq_true_iff.1 hfails
      refine ⟨kind, message, ?_⟩
      rw [Bool.not_eq_true'] at hbody
      simp only [decode, run_bind, run_getRequest, hresponse, hsuccess, hbody, hjson, houtput,
        hadapt]
      rfl
    · cases hfails
  · cases hfails

theorem run_decode_of_failure (hresponse : s.request.response = some a)
    (hsuccess : a.isSuccess = false) :
    (decode : Step κ μ Unit).run s = match answerFailure a with
      | .ok f => (.ok (), s.failing f)
      | .error fault => (fail (.codec fault) : Step κ μ Unit).run s := by
  simp only [decode, run_bind, run_getRequest, hresponse, hsuccess]
  cases answerFailure a with
  | ok f => rfl
  | error fault => rfl

end CoreHook

namespace Answer

variable {r : Request κ} {fs : Failures} {e : FailureId} {answer : Answer}

theorem isDecoding_of_dataOf {a : Response} {reason : Failure.Reason}
    (hsuccess : a.isSuccess = true) (hadapts : CoreHook.adapterFails r a = false)
    (h : CoreHook.dataOf r a = .error reason) : reason.IsDecoding := by
  rw [CoreHook.dataOf] at h
  split at h
  · cases h
  · rename_i hbody
    split at h
    · cases h
      exact trivial
    · rename_i body hjson
      split at h
      · cases h
      · rename_i output houtput
        cases hadapt : output.adapt body with
        | ok data => rw [hadapt] at h; cases h
        | error fault =>
          rw [hadapt] at h
          cases h
          cases fault with
          | report report => exact trivial
          | raised kind message =>
            simp [CoreHook.adapterFails, houtput, hjson, hadapt, hsuccess, hbody] at hadapts

/-- What an answer tells does not escape. -/
theorem IsFailure.not_escapes (h : answer.IsFailure r fs e) {reason : Failure.Reason}
    (hreason : fs.reasonAt? e = some reason) : ¬ reason.Escapes := by
  cases answer with
  | response a =>
    rw [IsFailure] at h
    split at h
    · obtain ⟨reason', -, hdecoding, hreason'⟩ := h
      obtain rfl : reason' = reason := by simpa [hreason'] using hreason
      exact hdecoding.not_escapes
    · obtain ⟨payload, -, hget⟩ := h
      obtain rfl : Failure.Reason.answered _ _ _ = reason := by
        simpa [Failures.reasonAt?, hget, Failure.ofAnswer] using hreason
      exact id
  | failure spec =>
    obtain ⟨fault, cause, -, hget, -⟩ := h
    obtain rfl : Failure.Reason.sendFailed _ _ _ = reason := by
      simpa [Failures.reasonAt?, hget, Failure.ofSend] using hreason
    exact id

end Answer

end RequestPipeline
