import RequestPipeline.Proofs.FirstMessage
import RequestPipeline.Proofs.HeaderFields

/-!
# Logging

What a request logs is for its reader only: a run ends in the same way, makes the same calls and
waits, and leaves the same request behind, whatever its log level is and whether or not there is a
logger.  The one thing that the log needs is that the codecs of answers give their text.
-/

namespace RequestPipeline

open Text (Str)

variable {κ μ α β : Type}

/-! ## Sessions without their log -/

/-- The lines of the log among what happened. -/
def Event.isLog : Event → Bool
  | .log _ _ => true
  | _ => false

/-- The collection as if it had not been read as a whole. -/
def Headers.unread (h : Headers) : Headers := { h with settled := none }

/-- The request with nothing to log, and without the trace that reading its header fields for the
log leaves in them. -/
def Request.unlogged (r : Request κ) : Request κ :=
  { r with
    config.logLevel := LogLevel.silent, config.logger := none, headers := r.headers.unread }

/-- The world in which nothing was logged. -/
def World.unlogged (w : World μ) : World μ :=
  { w with events := w.events.filter fun e => !e.isLog }

/-- A request has nothing to log, or nobody to log it for. -/
def Request.IsMute (r : Request κ) : Prop :=
  r.config.logLevel = LogLevel.silent ∨ r.config.logger = none

namespace Session

/-- The session with all that has to do with its log taken away. -/
def unlogged (s : Session κ μ) : Session κ μ := ⟨s.world.unlogged, s.request.unlogged⟩

/-- What was logged, the latest line first. -/
def logLines (s : Session κ μ) : List Event := s.world.events.filter Event.isLog

/-- The session with another log level and another logger, or none. -/
def withLog (level : LogLevel) (logger : Option Logger) (s : Session κ μ) : Session κ μ :=
  { s with request := { s.request with config.logLevel := level, config.logger := logger } }

/-- Nothing is logged where nothing may be, and nothing may be logged there afterwards. -/
def StaysMute (s s' : Session κ μ) : Prop :=
  s.request.IsMute → s'.request.IsMute ∧ s'.logLines = s.logLines

theorem StaysMute.trans {s s₁ s₂ : Session κ μ} (h : s.StaysMute s₁) (h' : s₁.StaysMute s₂) :
    s.StaysMute s₂ := by
  intro hm
  obtain ⟨hm₁, hlines⟩ := h hm
  obtain ⟨hm₂, hlines'⟩ := h' hm₁
  exact ⟨hm₂, hlines'.trans hlines⟩

theorem isMute_unlogged (s : Session κ μ) : s.unlogged.request.IsMute := .inl rfl

theorem unlogged_logged (line : Str) (s : Session κ μ) :
    (s.logged line).unlogged = s.unlogged := by
  rw [logged]
  split <;> simp [unlogged, World.unlogged, Event.isLog]

theorem logged_of_no_logger (line : Str) {s : Session κ μ}
    (h : s.request.config.logger = none) : s.logged line = s := by
  rw [logged, h]

end Session

/-! ## Answers that are text -/

/-- The codec of the answer gives its body as text. -/
def Response.IsText (a : Response) : Prop := ∃ text, a.text = .ok text

def Outcome.IsText (o : Outcome) : Prop := ∀ a, o.answer = .response a → a.IsText

def Request.HasText (r : Request κ) : Prop := ∀ a, r.response = some a → a.IsText

/-- The answer that the request has is text, and so are all that are still to come. -/
structure Session.IsText (s : Session κ μ) : Prop where
  response : s.request.HasText
  tape : ∀ o ∈ s.world.tape, o.IsText

namespace Transport

theorem isText_silence : silence.IsText := by
  intro a ha
  obtain rfl : Response.received 200 .empty [] = a := by simpa [silence] using ha
  exact ⟨[], rfl⟩

theorem isText_outcomeAt {tape : List Outcome} (h : ∀ o ∈ tape, o.IsText) :
    (outcomeAt tape 0).IsText := by
  match tape with
  | [] => exact isText_silence
  | [last] => exact h last List.mem_cons_self
  | first :: _ :: _ => exact h first List.mem_cons_self

theorem isText_afterCall {tape : List Outcome} (h : ∀ o ∈ tape, o.IsText) :
    ∀ o ∈ afterCall tape, o.IsText := by
  match tape with
  | [] => exact h
  | [_] => exact h
  | _ :: _ :: _ => exact fun o ho => h o (List.mem_cons_of_mem _ ho)

end Transport

/-! ## ASCII -/

theorem isAscii_base64Digit {n : Nat} (h : n < 64) : isAscii (Text.base64Digit n) = true := by
  revert n
  decide

theorem isAscii_base64 (bytes : Text.Bytes) : ∀ c ∈ Text.base64OfBytes bytes, isAscii c = true := by
  have hpad : isAscii '=' = true := rfl
  induction bytes using Text.base64OfBytes.induct with
  | case1 => simp [Text.base64OfBytes]
  | case2 a =>
    have hlt : a.toNat < 256 := a.toNat_lt
    simp only [Text.base64OfBytes, List.forall_mem_cons, hpad, true_and]
    exact ⟨isAscii_base64Digit (by omega), isAscii_base64Digit (by omega), nofun⟩
  | case3 a b =>
    have hlt : a.toNat < 256 := a.toNat_lt
    have hlt' : b.toNat < 256 := b.toNat_lt
    simp only [Text.base64OfBytes, List.forall_mem_cons, hpad, true_and]
    exact ⟨isAscii_base64Digit (by omega), isAscii_base64Digit (by omega),
      isAscii_base64Digit (by omega), nofun⟩
  | case4 a b c rest ih =>
    have hlt : a.toNat < 256 := a.toNat_lt
    have hlt' : b.toNat < 256 := b.toNat_lt
    have hlt'' : c.toNat < 256 := c.toNat_lt
    simp only [Text.base64OfBytes, List.forall_mem_cons]
    exact ⟨isAscii_base64Digit (by omega), isAscii_base64Digit (by omega),
      isAscii_base64Digit (by omega), isAscii_base64Digit (by omega), ih⟩

/-! ## Steps on which the log has no influence -/

namespace Step

/-- From the session without its log the step comes to the same result and to the same session
without its log, and it logs nothing there.  Answers stay text, and the result is as `Q` says. -/
structure BlindAt (Q : α → Prop) (step : Step κ μ α) (s : Session κ μ) : Prop where
  same : step.run s.unlogged = ((step.run s).1, (step.run s).2.unlogged)
  text : (step.run s).2.IsText
  answer : ∀ a, (step.run s).1 = .ok a → Q a
  mute : s.StaysMute (step.run s).2

/-- The log has no influence on the step, whose answers are as `Q` says. -/
def IsBlindWith (Q : α → Prop) (step : Step κ μ α) : Prop := ∀ s, s.IsText → BlindAt Q step s

/-- The log has no influence on the step. -/
abbrev IsBlind (step : Step κ μ α) : Prop := IsBlindWith (fun _ => True) step

section Rules

variable {P : α → Prop} {Q : β → Prop} {s : Session κ μ}

theorem BlindAt.of_run {step : Step κ μ α} {outcome : Except Stop α} {s' : Session κ μ}
    (hrun : step.run s = (outcome, s')) (hsame : step.run s.unlogged = (outcome, s'.unlogged))
    (htext : s'.IsText) (hanswer : ∀ a, outcome = .ok a → P a)
    (hmute : s.StaysMute s') : BlindAt P step s where
  same := by rw [hrun, hsame]
  text := by rw [hrun]; exact htext
  answer := by rw [hrun]; exact hanswer
  mute := by rw [hrun]; exact hmute

theorem isBlindWith_pure {a : α} (h : P a) : IsBlindWith P (pure a : Step κ μ α) := fun _ hs =>
  .of_run rfl rfl hs (fun _ hb => Except.ok.inj hb ▸ h) fun hm => ⟨hm, rfl⟩

theorem isBlind_pure (a : α) : IsBlind (pure a : Step κ μ α) := isBlindWith_pure trivial

theorem isBlind_throw (stop : Stop) : IsBlindWith P (throw stop : Step κ μ α) := by
  intro s hs
  refine .of_run rfl rfl hs ?_ fun hm => ⟨hm, rfl⟩
  exact nofun

theorem isBlind_raise (id : FailureId) : IsBlindWith P (raise id : Step κ μ α) := isBlind_throw _

theorem IsBlindWith.bind {step : Step κ μ α} {next : α → Step κ μ β} (h : step.IsBlindWith P)
    (hnext : ∀ a, P a → (next a).IsBlindWith Q) : (step >>= next).IsBlindWith Q := by
  intro s hs
  obtain ⟨hsame, htext, hanswer, hmute⟩ := h s hs
  rcases hrun : step.run s with ⟨stop | a, s₁⟩ <;> rw [hrun] at hsame htext hanswer hmute
  · have hstop : (step >>= next).run s = (.error stop, s₁) := by rw [run_bind, hrun]
    exact .of_run hstop (by rw [run_bind, hsame]) htext nofun hmute
  · obtain ⟨hsame', htext', hanswer', hmute'⟩ := hnext a (hanswer a rfl) s₁ htext
    refine .of_run ?_ ?_ htext' hanswer' (hmute.trans hmute')
    · rw [run_bind, hrun]
    · rw [run_bind, hsame]
      exact hsame'

theorem IsBlindWith.tryCatch {step : Step κ μ α} {handle : Stop → Step κ μ α}
    (h : step.IsBlindWith P) (hhandle : ∀ stop, (handle stop).IsBlindWith P) :
    (tryCatch step handle).IsBlindWith P := by
  intro s hs
  obtain ⟨hsame, htext, hanswer, hmute⟩ := h s hs
  rcases hrun : step.run s with ⟨stop | a, s₁⟩ <;> rw [hrun] at hsame htext hanswer hmute
  · obtain ⟨hsame', htext', hanswer', hmute'⟩ := hhandle stop s₁ htext
    refine .of_run ?_ ?_ htext' hanswer' (hmute.trans hmute')
    · rw [run_tryCatch, hrun]
    · rw [run_tryCatch, hsame]
      exact hsame'
  · refine .of_run ?_ ?_ htext hanswer hmute
    · rw [run_tryCatch, hrun]
    · rw [run_tryCatch, hsame]

theorem isBlind_ite {p : Prop} [Decidable p] {step step' : Step κ μ α} (h : step.IsBlindWith P)
    (h' : step'.IsBlindWith P) : (if p then step else step').IsBlindWith P := by
  split
  · exact h
  · exact h'

/-- What a step does with a request, it does with the request without its log. -/
theorem isBlind_getRequest {next : Request κ → Step κ μ β}
    (hsame : ∀ r, next r.unlogged = next r) (h : ∀ r, (next r).IsBlindWith Q) :
    (getRequest >>= next).IsBlindWith Q := by
  intro s hs
  obtain ⟨hrun, htext, hanswer, hmute⟩ := h s.request s hs
  refine .of_run (by rw [run_bind, run_getRequest]) ?_ htext hanswer hmute
  have hnext : next s.unlogged.request = next s.request := hsame s.request
  rw [run_bind, run_getRequest, ← hrun, ← hnext]

theorem isBlind_getWorld {next : World μ → Step κ μ β} (hsame : ∀ w, next w.unlogged = next w)
    (h : ∀ w, (next w).IsBlindWith Q) : (getWorld >>= next).IsBlindWith Q := by
  intro s hs
  obtain ⟨hrun, htext, hanswer, hmute⟩ := h s.world s hs
  refine .of_run (by rw [run_bind, run_getWorld]) ?_ htext hanswer hmute
  have hnext : next s.unlogged.world = next s.world := hsame s.world
  rw [run_bind, run_getWorld, ← hrun, ← hnext]

theorem isBlind_now : IsBlind (now : Step κ μ Float) :=
  isBlind_getWorld (fun _ => rfl) fun _ => isBlind_pure _

theorem isBlind_modifyRequest {f : Request κ → Request κ}
    (hsame : ∀ r, f r.unlogged = (f r).unlogged) (htext : ∀ r, r.HasText → (f r).HasText)
    (hmute : ∀ r, r.IsMute → (f r).IsMute) :
    IsBlind (modifyRequest f : Step κ μ Unit) := by
  intro s hs
  refine .of_run rfl ?_ ⟨htext _ hs.response, hs.tape⟩ (fun _ _ => trivial) fun hm =>
    ⟨hmute _ hm, rfl⟩
  have hchanged : f s.unlogged.request = (f s.request).unlogged := hsame s.request
  rw [run_modifyRequest, hchanged]
  rfl

/-- A step that makes failures and nothing else. -/
theorem isBlind_of_failures {step : Step κ μ α} (answer : Failures → α)
    (change : Failures → Failures)
    (hrun : ∀ s, step.run s =
      (.ok (answer s.world.failures), s.withFailures (change s.world.failures))) :
    IsBlind step := fun s hs =>
  .of_run (hrun s) (hrun s.unlogged) ⟨hs.response, hs.tape⟩ (fun _ _ => trivial) fun hm => ⟨hm, rfl⟩

theorem isBlind_explain (reason : Failure.Reason) :
    IsBlind (explain reason : Step κ μ FailureId) :=
  isBlind_of_failures (fun fs => (fs.addReason reason).1)
    (fun fs => (fs.addReason reason).2) fun s => run_explain s reason

theorem isBlind_makeFailure (f : Failure) :
    IsBlind (makeFailure f : Step κ μ FailureId) :=
  isBlind_of_failures (fun fs => (fs.add f).1) (fun fs => (fs.add f).2)
    fun s => run_makeFailure s f

theorem isBlind_buildFailure (spec : FailureSpec) :
    IsBlind (buildFailure spec : Step κ μ FailureId) :=
  isBlind_of_failures (fun fs => (fs.build spec).1) (fun fs => (fs.build spec).2)
    fun s => run_buildFailure s spec

theorem isBlind_setCause (id cause : FailureId) :
    IsBlind (setCause id cause : Step κ μ Unit) :=
  isBlind_of_failures (fun _ => ()) (fun fs => fs.setCause id (some cause))
    fun s => run_setCause s id cause

theorem isBlind_messageOf (id : FailureId) :
    IsBlind (messageOf id : Step κ μ Str) :=
  isBlind_getWorld (fun _ => rfl) fun _ => isBlind_pure _

theorem isBlind_setError (id : FailureId) :
    IsBlind (setError id : Step κ μ Unit) :=
  isBlind_modifyRequest (fun _ => rfl) (fun _ h => h) fun _ h => h

theorem isBlind_fail (reason : Failure.Reason) : IsBlindWith P (fail reason : Step κ μ α) :=
  (isBlind_explain reason).bind fun id _ => isBlind_raise id

theorem isBlind_orFail {e : Except Failure.Reason α} (h : ∀ a, e = .ok a → P a) :
    IsBlindWith P (orFail e : Step κ μ α) := by
  cases e with
  | error reason => exact isBlind_fail reason
  | ok a => exact isBlindWith_pure (h a rfl)

/-- Whatever happens besides the log. -/
theorem isBlind_record {e : Event} (he : e.isLog = false) :
    IsBlind (record e : Step κ μ Unit) := by
  intro s hs
  refine .of_run (run_record s e) ?_ ⟨hs.response, hs.tape⟩ (fun _ _ => trivial) fun hm => ⟨hm, ?_⟩
  · simp [Session.unlogged, World.unlogged, he]
  · simp [Session.logLines, he]

/-- Cookies that come or go have nothing to do with the log. -/
theorem isBlind_modifyWorld {f : World μ → World μ} (hsame : ∀ w, f w.unlogged = (f w).unlogged)
    (htape : ∀ w, (f w).tape = w.tape) (hevents : ∀ w, (f w).events = w.events) :
    IsBlind (modifyWorld f : Step κ μ Unit) := by
  intro s hs
  refine .of_run rfl ?_ ⟨hs.response, ?_⟩ (fun _ _ => trivial) fun hm => ⟨hm, ?_⟩
  · have hchanged : f s.unlogged.world = (f s.world).unlogged := hsame s.world
    rw [run_modifyWorld, hchanged]
    rfl
  · simpa only [htape] using hs.tape
  · simp only [Session.logLines, hevents]

theorem isBlind_advance (seconds : Float) :
    IsBlind (advance seconds : Step κ μ Unit) := fun _ hs =>
  .of_run rfl rfl ⟨hs.response, hs.tape⟩ (fun _ _ => trivial) fun hm => ⟨hm, rfl⟩

theorem isBlind_wait (seconds : Float) :
    IsBlind (wait seconds : Step κ μ Bool) := by
  intro s hs
  refine .of_run (run_wait s seconds) ?_ ⟨hs.response, hs.tape⟩ (fun _ _ => trivial)
    fun hm => ⟨hm, ?_⟩
  · rw [run_wait]
    simp [Session.unlogged, World.unlogged, Request.unlogged, Event.isLog]
  · simp [Session.logLines, Event.isLog]

theorem isBlind_cancellation :
    IsBlind (cancellation? : Step κ μ (Option FailureId)) := by
  intro s hs
  have hrun := Request.run_cancellation s
  have hrun' := Request.run_cancellation s.unlogged
  have hending : s.unlogged.request.context.ending? s.unlogged.world.clock =
      s.request.context.ending? s.world.clock := rfl
  rw [hending] at hrun'
  cases hended : s.request.context.ending? s.world.clock with
  | none =>
    rw [hended] at hrun hrun'
    exact .of_run hrun hrun' hs (fun _ _ => trivial) fun hm => ⟨hm, rfl⟩
  | some e =>
    rw [hended] at hrun hrun'
    exact .of_run hrun hrun' ⟨hs.response, hs.tape⟩ (fun _ _ => trivial) fun hm => ⟨hm, rfl⟩

theorem isBlind_cancel (cause : Option FailureSpec) :
    IsBlind (cancel cause : Step κ μ Unit) := by
  have hcancel : ∀ id, IsBlind (modifyRequest fun r =>
      { r with context := r.context.cancel id } : Step κ μ Unit) := fun _ =>
    isBlind_modifyRequest (fun _ => rfl) (fun _ h => h) fun _ h => h
  cases cause with
  | none => exact (isBlind_pure _).bind fun id _ => hcancel id
  | some spec =>
    exact ((isBlind_buildFailure spec).bind fun id _ => isBlind_pure _).bind fun id _ =>
      hcancel id

end Rules

/-! ## Steps that log -/

/-- The step does nothing but log, and does nothing at all where nothing is to be logged. -/
def OnlyLogs (step : Step κ μ Unit) : Prop :=
  ∀ s, s.IsText → ∃ s', step.run s = (.ok (), s') ∧ s'.unlogged = s.unlogged ∧
    (s.request.IsMute → s' = s)

theorem isText_of_unlogged {s s' : Session κ μ} (h : s'.unlogged = s.unlogged) (hs : s.IsText) :
    s'.IsText where
  response := by
    have hresponse : s'.request.response = s.request.response :=
      (congrArg (fun s => s.request.response) h :)
    rw [Request.HasText, hresponse]
    exact hs.response
  tape := by
    have htape : s'.world.tape = s.world.tape := (congrArg (fun s => s.world.tape) h :)
    rw [htape]
    exact hs.tape

theorem OnlyLogs.isBlind {step : Step κ μ Unit} (h : step.OnlyLogs) : step.IsBlind := by
  intro s hs
  obtain ⟨s', hrun, hsame, hmute⟩ := h s hs
  obtain ⟨s'', hrun', -, hmute'⟩ := h s.unlogged ⟨hs.response, hs.tape⟩
  obtain rfl := hmute' s.isMute_unlogged
  refine .of_run hrun ?_ (isText_of_unlogged hsame hs) (fun _ _ => trivial) fun hm => ?_
  · rw [hrun', hsame]
  · rw [hmute hm]
    exact ⟨hm, rfl⟩

/-- A line that goes out only if a gate is open, which is shut where nothing is to be logged. -/
theorem onlyLogs_of_gate {step : Step κ μ Unit} (gate : Request κ → Bool)
    (line : Session κ μ → Str)
    (hrun : ∀ s, step.run s = (.ok (), if gate s.request then s.logged (line s) else s))
    (hgate : ∀ r : Request κ, r.config.logLevel = LogLevel.silent → gate r = false) :
    step.OnlyLogs := by
  intro s _
  refine ⟨_, hrun s, ?_, fun hm => ?_⟩
  · split
    · exact s.unlogged_logged _
    · rfl
  · rcases hm with hlevel | hlogger
    · rw [hgate _ hlevel]
      rfl
    · split
      · exact Session.logged_of_no_logger _ hlogger
      · rfl

end Step

namespace Request

open Step

/-- The line about a failure at a place. -/
theorem onlyLogs_failure (place : String) : OnlyLogs (do
    let r ← getRequest
    if r.config.logLevel.atLeast LogLevel.error then
      let text ← match r.error with
        | some id => messageOf id
        | none => pure "None"
      log (.ofString s!"ERROR: {place} {r.operation.name} failed, error " ++ text) :
        Step κ μ Unit) := by
  refine onlyLogs_of_gate (fun r => r.config.logLevel.atLeast LogLevel.error)
    (fun s => .ofString s!"ERROR: {place} {s.request.operation.name} failed, error " ++ s.errorText)
    (fun s => ?_) fun r hr => ?_
  · by_cases hlevel : s.request.config.logLevel.atLeast LogLevel.error = true <;>
      cases herror : s.request.error <;> simp [hlevel, herror, Session.errorText]
  · rw [hr]
    rfl

/-- The line about another attempt. -/
theorem onlyLogs_retry : OnlyLogs (do
    let r ← getRequest
    if r.config.logLevel.covers LogLevel.debugRetries then
      log s!"DEBUG: Retrying Request {r.operation.name}, attempt {r.budget.used}" :
        Step κ μ Unit) := by
  refine onlyLogs_of_gate (fun r => r.config.logLevel.covers LogLevel.debugRetries)
    (fun s =>
      s!"DEBUG: Retrying Request {s.request.operation.name}, attempt {s.request.budget.used}")
    (fun s => ?_) fun r hr => ?_
  · by_cases hlevel : s.request.config.logLevel.covers LogLevel.debugRetries = true <;>
      simp [hlevel]
  · rw [hr]
    rfl

theorem isBlind_setStage (stage : Stage) : IsBlind (setStage stage : Step κ μ Unit) :=
  isBlind_modifyRequest (fun _ => rfl) (fun _ h => h) fun _ h => h

theorem isBlind_clearError : IsBlind (clearError : Step κ μ Unit) :=
  isBlind_modifyRequest (fun _ => rfl) (fun _ h => h) fun _ h => h

theorem isBlind_markBuilt : IsBlind (markBuilt : Step κ μ Unit) :=
  isBlind_modifyRequest (fun _ => rfl) (fun _ h => h) fun _ h => h

theorem isBlind_startClock : IsBlind (startClock : Step κ μ Unit) :=
  isBlind_now.bind fun _ _ => isBlind_modifyRequest (fun _ => rfl) (fun _ h => h) fun _ h => h

theorem isBlind_markFailed (place : String) : IsBlind (markFailed place : Step κ μ Unit) :=
  (isBlind_setStage _).bind fun _ _ => (onlyLogs_failure place).isBlind

theorem isBlind_stopIfFailed (place : String) : IsBlind (stopIfFailed place : Step κ μ Unit) := by
  refine isBlind_getRequest (fun _ => rfl) fun r => ?_
  cases r.error with
  | none => exact isBlind_pure ()
  | some id => exact (isBlind_markFailed place).bind fun _ _ => isBlind_raise id

theorem isBlind_failureAt (place : String) :
    IsBlind (failureAt place : Step κ μ (Option FailureId)) := by
  refine isBlind_getRequest (fun _ => rfl) fun r => ?_
  cases r.error with
  | none => exact isBlind_pure none
  | some id => exact (isBlind_markFailed place).bind fun _ _ => isBlind_pure (some id)

theorem isBlind_failCancelled (id : FailureId) :
    IsBlind (failCancelled id : Step κ μ (Option FailureId)) :=
  (isBlind_setError id).bind fun _ _ =>
    (isBlind_markFailed "Send").bind fun _ _ => isBlind_pure (some id)

theorem isBlind_mayRetry : IsBlind (mayRetry : Step κ μ Bool) :=
  isBlind_getWorld (fun _ => rfl) fun _ =>
    isBlind_getRequest (fun _ => rfl) fun _ => isBlind_pure _

theorem isBlind_stopIfReplaced (failure : FailureId) :
    IsBlind (stopIfReplaced failure : Step κ μ Unit) := by
  refine isBlind_getRequest (fun _ => rfl) fun r => ?_
  cases r.error with
  | none => exact isBlind_pure ()
  | some id =>
    exact isBlind_ite (isBlind_pure ())
      ((isBlind_markFailed "Retry").bind fun _ _ => isBlind_raise id)

theorem isBlind_countRetry : IsBlind (countRetry : Step κ μ Float) := by
  have hcount : IsBlind (modifyRequest fun r =>
      { r with budget.used := r.budget.used + 1 } : Step κ μ Unit) :=
    isBlind_modifyRequest (fun _ => rfl) (fun _ h => h) fun _ h => h
  have hdraw : ∀ retryer, IsBlind (modifyRequest fun r => { r with retryer } : Step κ μ Unit) :=
    fun _ => isBlind_modifyRequest (fun _ => rfl) (fun _ h => h) fun _ h => h
  exact hcount.bind fun _ _ => isBlind_getRequest (fun _ => rfl) fun r =>
    (hdraw _).bind fun _ _ => isBlind_pure _

theorem isBlind_stopEnded (failure : FailureId) :
    IsBlind (stopEnded failure : Step κ μ Unit) := by
  refine isBlind_cancellation.bind fun ended _ => ?_
  cases ended with
  | some id =>
    exact (isBlind_setError id).bind fun _ _ => (isBlind_markFailed "Retry").bind fun _ _ =>
      (isBlind_setCause id failure).bind fun _ _ => isBlind_raise id
  | none =>
    exact isBlind_clearError.bind fun _ _ => (isBlind_markFailed "Retry").bind fun _ _ =>
      isBlind_fail _

theorem isBlind_prepareRetry : IsBlind (prepareRetry : Step κ μ Unit) := by
  have hready : IsBlind (modifyRequest fun r =>
      { r with response := none, transmission := none, stage := .built } : Step κ μ Unit) :=
    isBlind_modifyRequest (fun _ => rfl) (fun _ _ => nofun) fun _ h => h
  have hblind := (onlyLogs_retry (κ := κ) (μ := μ)).isBlind.bind fun _ _ => hready
  -- The line goes out first, and the rest comes after it in either case.
  have heq : (prepareRetry : Step κ μ Unit) = (do
      let r ← getRequest
      if r.config.logLevel.covers LogLevel.debugRetries then
        log s!"DEBUG: Retrying Request {r.operation.name}, attempt {r.budget.used}") >>= fun _ =>
      modifyRequest fun r =>
        { r with response := none, transmission := none, stage := .built } := by
    funext s
    change prepareRetry.run s = Step.run _ s
    by_cases hlevel : s.request.config.logLevel.covers LogLevel.debugRetries = true <;>
      simp [prepareRetry, hlevel]
  rw [heq]
  exact hblind

theorem isBlind_fillResponse : IsBlind (fillResponse : Step κ μ Unit) := by
  refine isBlind_modifyRequest (fun _ => rfl) (fun r h a ha => ?_) fun _ h => h
  cases hresponse : r.response with
  | some b =>
    obtain rfl : b = a := by simpa [hresponse] using ha
    exact h b hresponse
  | none =>
    obtain rfl : Response.missing = a := by simpa [hresponse] using ha
    exact ⟨[], rfl⟩

theorem isBlind_markCompleted : IsBlind (markCompleted : Step κ μ Unit) := by
  refine isBlind_modifyRequest (fun r => ?_) (fun r h => ?_) fun r h => ?_
  · cases herror : r.error <;> simp [unlogged, herror]
  all_goals
    split
    · exact h
    · exact h

end Request

/-! ## Calls -/

namespace Transport

open Step

theorem isBlind_nextOutcome :
    IsBlindWith Outcome.IsText (nextOutcome : Step κ μ Outcome) := fun s hs =>
  .of_run (run_nextOutcome s) (run_nextOutcome s.unlogged) ⟨hs.response, isText_afterCall hs.tape⟩
    (fun _ ho => Except.ok.inj ho ▸ isText_outcomeAt hs.tape) fun hm => ⟨hm, rfl⟩

theorem isBlind_accept (client : Option ConnectionId) (t : Transmission) {answer : Answer}
    (h : ∀ r, answer = .response r → r.IsText) :
    IsBlindWith Response.IsText (accept client t answer : Step κ μ Response) := by
  cases answer with
  | response r =>
    have hkept : IsBlind (modifyWorld fun w => w.keepCookies client t.url r : Step κ μ Unit) := by
      refine isBlind_modifyWorld (fun w => ?_) (fun w => by simp) fun w => by simp
      rw [World.keepCookies, World.keepCookies]
      split <;> rfl
    exact hkept.bind fun _ _ => isBlindWith_pure (h r rfl)
  | failure spec => exact (isBlind_buildFailure spec).bind fun id _ => isBlind_raise id

theorem isBlind_exchange (client : Option ConnectionId) (t : Transmission) :
    IsBlindWith Response.IsText (exchange client t : Step κ μ Response) := by
  refine (isBlind_record rfl).bind fun _ _ => isBlind_nextOutcome.bind fun o ho => ?_
  have hanswer : IsBlindWith Response.IsText (accept client t o.answer : Step κ μ Response) :=
    isBlind_accept client t ho
  refine (isBlind_advance o.elapsed).bind fun _ _ => ?_
  cases o.cancels with
  | none => exact (isBlind_pure ()).bind fun _ _ => hanswer
  | some cause => exact (isBlind_cancel cause).bind fun _ _ => hanswer

theorem isBlind_follow (client : Option ConnectionId) (follows : Bool) (calls : Nat)
    (t : Transmission) :
    IsBlindWith Response.IsText (follow client follows calls t : Step κ μ Response) := by
  induction calls generalizing t with
  | zero => exact isBlind_fail .redirectLoop
  | succ calls ih =>
    refine (isBlind_exchange client t).bind fun response hresponse => ?_
    cases response.location? with
    | none => exact isBlindWith_pure hresponse
    | some location =>
      refine isBlind_getWorld (fun _ => rfl) fun w => ?_
      refine (isBlind_orFail (P := fun _ => True) fun _ _ => trivial).bind fun next _ => ?_
      exact isBlind_ite (ih next) (isBlindWith_pure hresponse)

theorem isBlind_withOwnConnection {P : α → Prop} (verify : Bool) {step : Step κ μ α}
    (h : step.IsBlindWith P) : IsBlindWith P (withOwnConnection verify step) := by
  have hempty : IsBlind (modifyWorld fun w => w.emptyJar none : Step κ μ Unit) :=
    isBlind_modifyWorld (fun _ => rfl) (fun _ => rfl) fun _ => rfl
  refine (isBlind_record rfl).bind fun _ _ => hempty.bind fun _ _ => .tryCatch ?_ fun stop => ?_
  · exact h.bind fun a ha => (isBlind_record rfl).bind fun _ _ => isBlindWith_pure ha
  · exact (isBlind_record rfl).bind fun _ _ => isBlind_throw stop

theorem isBlind_send (client : Option ConnectionId) (timeout : Float) :
    IsBlindWith Response.IsText (send client timeout : Step κ μ Response) := by
  refine isBlind_getRequest (fun r => ?_) fun r => isBlind_getWorld (fun _ => rfl) fun w => ?_
  · have hparts : ∀ w : World μ,
        Transmission.ofParts w.network.defaults (w.cookie? client) r.method r.url r.headers.unread
          r.body timeout =
        Transmission.ofParts w.network.defaults (w.cookie? client) r.method r.url r.headers r.body
          timeout := fun w => ofParts_congr _ _ _ _ _ rfl timeout
    change (getWorld >>= fun w : World μ => orFail (Transmission.ofParts w.network.defaults
      (w.cookie? client) r.method r.url r.headers.unread r.body timeout) >>= _ :
      Step κ μ Response) = _
    simp only [hparts]
    rfl
  · refine (isBlind_orFail (P := fun _ => True) fun _ _ => trivial).bind fun t _ => ?_
    have haddress : IsBlind (modifyRequest fun r =>
        { r with transmission := some t } : Step κ μ Unit) :=
      isBlind_modifyRequest (fun _ => rfl) (fun _ h => h) fun _ h => h
    exact haddress.bind fun _ _ => isBlind_ite (isBlind_follow _ _ _ _) (isBlind_fail _)

end Transport

/-! ## Core hooks -/

namespace CoreHook

open Step Transport

theorem isBlind_reject (reason : Failure.Reason) : IsBlind (reject reason : Step κ μ Unit) :=
  (isBlind_explain reason).bind fun id _ => isBlind_setError id

theorem isBlind_checkEndpoint : IsBlind (checkEndpoint : Step κ μ Unit) :=
  isBlind_getRequest (fun _ => rfl) fun _ => isBlind_ite (isBlind_reject _) (isBlind_pure ())

theorem isBlind_checkParams (expected : Output) :
    IsBlind (checkParams expected : Step κ μ Unit) := by
  refine isBlind_getRequest (fun _ => rfl) fun r => ?_
  cases expected.adapt r.params with
  | error fault =>
    cases fault with
    | report report => exact isBlind_reject _
    | raised kind message => exact isBlind_fail _
  | ok params => exact isBlind_modifyRequest (fun _ => rfl) (fun _ h => h) fun _ h => h

theorem isBlind_resolve : IsBlind (resolve : Step κ μ Unit) :=
  isBlind_modifyRequest (fun _ => rfl) (fun _ h => h) fun _ h => h

/-- A collection that has been read refuses no field of ASCII characters. -/
theorem isBlind_setHeader {name value : List Char} (hname : notAscii? name = none)
    (hvalue : notAscii? value = none) : IsBlind (setHeader name value : Step κ μ Unit) := by
  intro s hs
  have hrun : ∀ s : Session κ μ, (setHeader name value).run s = (.ok (), { s with request :=
      { s.request with headers := s.request.headers.set (.ofList name) (.ofList value) } }) := by
    intro s
    have hset : (setHeader (String.ofList name).toList (String.ofList value).toList).run s = _ :=
      run_setHeader (by simpa using hname) (by simpa using hvalue)
    simpa using hset
  exact .of_run (hrun s) (hrun s.unlogged) ⟨hs.response, hs.tape⟩ (fun _ _ => trivial) fun hm =>
    ⟨hm, rfl⟩

theorem isBlind_encode : IsBlind (encode : Step κ μ Unit) := by
  refine isBlind_getRequest (fun _ => rfl) fun r => ?_
  have hbody : ∀ body, IsBlind (modifyRequest fun r =>
      { r with body := some body } : Step κ μ Unit) := fun _ =>
    isBlind_modifyRequest (fun _ => rfl) (fun _ h => h) fun _ h => h
  split
  · exact isBlind_pure ()
  · exact hbody _
  · split
    · exact isBlind_ite (isBlind_reject _) (isBlind_fail _)
    · exact (hbody _).bind fun _ _ => isBlind_setHeader (by decide) (by decide)

theorem isBlind_authorize (user password : String) :
    IsBlind (authorize user password : Step κ μ Unit) := by
  have hscheme : ∀ c ∈ "Basic ".toList, isAscii c = true := by simp [isAscii]
  refine isBlind_setHeader (by decide) (notAscii?_eq_none fun c hc => ?_)
  rcases List.mem_append.1 hc with hc | hc
  · exact hscheme c hc
  · exact isAscii_base64 _ c hc

theorem isBlind_handleFault (id : FailureId) (fault : Failure.NetworkFault) :
    IsBlind (handleFault id fault : Step κ μ Unit) := by
  refine isBlind_cancellation.bind fun ended _ => ?_
  cases ended with
  | some cancelled => exact (isBlind_setCause _ _).bind fun _ _ => isBlind_setError _
  | none =>
    exact isBlind_getRequest (fun _ => rfl) fun r => (isBlind_messageOf id).bind fun text _ =>
      (isBlind_makeFailure _).bind fun failure _ => isBlind_setError failure

theorem isBlind_call (timeout : Float) :
    IsBlindWith Response.IsText (call timeout : Step κ μ Response) := by
  refine isBlind_getRequest (fun _ => rfl) fun r => ?_
  cases r.config.connection with
  | none => exact isBlind_withOwnConnection _ (isBlind_send none timeout)
  | some id => exact isBlind_send (some id) timeout

theorem isBlind_answered {response : Response} (h : response.IsText) :
    IsBlind (modifyRequest fun r => { r with response := some response } : Step κ μ Unit) := by
  refine isBlind_modifyRequest (fun _ => rfl) (fun r _ a ha => ?_) fun _ h => h
  obtain rfl : response = a := Option.some.inj ha
  exact h

theorem isBlind_transmit : IsBlind (transmit : Step κ μ Unit) := by
  refine isBlind_getRequest (fun _ => rfl) fun r => isBlind_now.bind fun time _ => ?_
  refine .tryCatch ((isBlind_call _).bind fun response h => isBlind_answered h) fun stop => ?_
  cases stop with
  | unfinished => exact isBlind_throw .unfinished
  | raised id =>
    refine isBlind_getWorld (fun _ => rfl) fun w => ?_
    cases faultOf? w.failures id with
    | some fault => exact isBlind_handleFault id fault
    | none => exact isBlind_raise id

theorem isBlind_decode : IsBlind (decode : Step κ μ Unit) := by
  have hdata : ∀ data, IsBlind (modifyRequest fun r => { r with data } : Step κ μ Unit) := fun _ =>
    isBlind_modifyRequest (fun _ => rfl) (fun _ h => h) fun _ h => h
  refine isBlind_getRequest (fun _ => rfl) fun r => ?_
  cases r.response with
  | none => exact isBlind_pure ()
  | some response =>
    refine isBlind_ite ?_ (isBlind_ite (isBlind_pure ()) ?_)
    · exact (isBlind_orFail (P := fun _ => True) fun _ _ => trivial).bind fun failure _ =>
        (isBlind_makeFailure failure).bind fun id _ => isBlind_setError id
    · cases response.json with
      | error fault => exact isBlind_reject _
      | ok body =>
        cases r.output with
        | none => exact hdata body
        | some output =>
          dsimp only
          cases output.adapt body with
          | error fault =>
            cases fault with
            | report report => exact isBlind_reject _
            | raised kind message => exact isBlind_fail _
          | ok data => exact hdata data

/-! ## The hooks that log -/

theorem logsTraffic_of_isMute {r : Request κ} (h : r.IsMute) : logsTraffic r = false := by
  rcases h with hlevel | hlogger
  · simp [logsTraffic, hlevel, LogLevel.atLeast, LogLevel.debug, LogLevel.silent]
  · simp [logsTraffic, hlogger]

theorem onlyLogs_logRequestLines : OnlyLogs (logRequestLines : Step κ μ Unit) := by
  intro s _
  cases hlogs : logsTraffic s.request with
  | false => exact ⟨s, by simp [logRequestLines, hlogs], rfl, fun _ => rfl⟩
  | true =>
    obtain ⟨line, hrun⟩ : ∃ line,
        (logRequestLines : Step κ μ Unit).run s = (.ok (), s.headersRead.logged line) := by
      simp only [logRequestLines, run_bind, run_getRequest, hlogs, if_true, run_modifyRequest,
        Request.run_log]
      exact ⟨_, rfl⟩
    have hread : s.request.headers.read.unread = s.request.headers.unread := by
      rw [Headers.unread, Headers.fields_read]
      rfl
    refine ⟨_, hrun, (Session.unlogged_logged _ _).trans ?_, fun hm => ?_⟩
    · simp only [Session.unlogged, Session.headersRead, Request.unlogged, hread]
    · rw [logsTraffic_of_isMute hm] at hlogs
      cases hlogs

theorem onlyLogs_logResponseLines : OnlyLogs (logResponseLines : Step κ μ Unit) := by
  intro s hs
  cases hlogs : logsTraffic s.request with
  | false => exact ⟨s, by simp [logResponseLines, hlogs], rfl, fun _ => rfl⟩
  | true =>
    have hmute : s.request.IsMute → ∀ s', s' = s := fun hm => by
      rw [logsTraffic_of_isMute hm] at hlogs
      cases hlogs
    cases hresponse : s.request.response with
    | none => exact ⟨s, by simp [logResponseLines, hlogs, hresponse], rfl, fun _ => rfl⟩
    | some a =>
      obtain ⟨text, htext⟩ := hs.response a hresponse
      obtain ⟨line, hrun⟩ : ∃ line,
          (logResponseLines : Step κ μ Unit).run s = (.ok (), s.logged line) := by
        simp only [logResponseLines, run_bind, run_getRequest, hlogs, if_true, hresponse, htext]
        split
        · simp only [mapError_ok, run_bind, run_orFail_ok, run_pure, Request.run_log]
          exact ⟨_, rfl⟩
        · simp only [run_bind, run_pure, Request.run_log]
          exact ⟨_, rfl⟩
      exact ⟨_, hrun, Session.unlogged_logged _ _, fun hm => hmute hm _⟩

/-- The log has no influence on a core hook. -/
theorem isBlind_perform (h : CoreHook) : IsBlind (perform h : Step κ μ Unit) := by
  cases h with
  | validateEndpoint => exact isBlind_checkEndpoint
  | validateParams expected => exact isBlind_checkParams expected
  | resolveEndpoint => exact isBlind_resolve
  | encodeBody => exact isBlind_encode
  | basicAuth user password => exact isBlind_authorize user password
  | send => exact isBlind_transmit
  | unmarshal => exact isBlind_decode
  | logRequest => exact onlyLogs_logRequestLines.isBlind
  | logResponse => exact onlyLogs_logResponseLines.isBlind
  | closeResponse => exact isBlind_pure ()

end CoreHook

/-! ## Phases -/

namespace Request

open Step

variable {perform : κ → Step κ μ Unit} (hperform : ∀ callback, (perform callback).IsBlind)

include hperform

theorem isBlind_runAll (callbacks : List κ) : IsBlind (runAll perform callbacks) := by
  induction callbacks with
  | nil => exact isBlind_pure ()
  | cons callback rest ih => exact (hperform callback).bind fun _ _ => ih

theorem isBlind_runPhase (p : Phase) : IsBlind (runPhase perform p) :=
  (isBlind_record rfl).bind fun _ _ =>
    isBlind_getRequest (fun _ => rfl) fun _ => isBlind_runAll hperform _

end Request

/-! ## Whole runs -/

namespace Drive

open Request

/-- The log has no influence on the run but for its marks. -/
def IsBlind (d : Drive κ μ α) : Prop := d.toStep.IsBlind

section Rules

theorem isBlind_pure (a : α) : IsBlind (pure a : Drive κ μ α) := Step.isBlind_pure a

theorem isBlind_take {step : Step κ μ α} (h : step.IsBlind) : IsBlind (take step) := h

theorem toStep_bind (d : Drive κ μ α) (next : α → Drive κ μ β) :
    (d >>= next).toStep = d.toStep >>= fun a => (next a).toStep := by
  funext s
  change (d >>= next).toStep.run s = (d.toStep >>= fun a => (next a).toStep).run s
  rw [run_toStep, Step.run_bind, run_toStep, run_bind]
  cases (d.run s).outcome <;> rfl

theorem IsBlind.bind {d : Drive κ μ α} {next : α → Drive κ μ β} (h : d.IsBlind)
    (hnext : ∀ a, (next a).IsBlind) : (d >>= next).IsBlind := by
  rw [IsBlind, toStep_bind]
  exact Step.IsBlindWith.bind h fun a _ => hnext a

theorem isBlind_take_getRequest {next : Request κ → Drive κ μ α}
    (hsame : ∀ r, next r.unlogged = next r) (h : ∀ r, (next r).IsBlind) :
    (take Step.getRequest >>= next).IsBlind := by
  rw [IsBlind, toStep_bind]
  exact Step.isBlind_getRequest (fun r => by rw [hsame]) h

/-- A mark of the session in front of a run. -/
theorem IsBlind.noted {d : Drive κ μ α} (h : d.IsBlind) (mark : Session κ μ → Mark κ μ) :
    IsBlind (do
      note (mark (← session))
      d) := h

theorem IsBlind.closedBy {d : Drive κ μ α} {last : Drive κ μ Unit} (h : d.IsBlind)
    (hlast : last.IsBlind) : (d.closedBy last).IsBlind := by
  intro s hs
  obtain ⟨hsame, htext, -, hmute⟩ := h s hs
  obtain ⟨houtcome, hafter⟩ := Prod.ext_iff.1 hsame
  simp only [run_toStep] at htext hmute houtcome hafter
  by_cases hgiven : (d.run s).outcome = .error .unfinished
  · have hrun : (d.closedBy last).toStep.run s = ((d.run s).outcome, (d.run s).after) := by
      rw [run_toStep, run_closedBy_of_unfinished s last hgiven]
    refine .of_run hrun ?_ htext (fun _ _ => trivial) hmute
    rw [run_toStep, run_closedBy_of_unfinished _ last (houtcome.trans hgiven), houtcome, hafter]
  · obtain ⟨hsame', htext', -, hmute'⟩ := hlast (d.run s).after htext
    obtain ⟨houtcome', hafter'⟩ := Prod.ext_iff.1 hsame'
    simp only [run_toStep] at htext' hmute' houtcome' hafter'
    have hrun := run_toStep s (d.closedBy last)
    rw [run_closedBy_of_finished s last hgiven] at hrun
    refine .of_run hrun ?_ htext' (fun _ _ => trivial) (hmute.trans hmute')
    rw [run_toStep, run_closedBy_of_finished _ last (houtcome ▸ hgiven)]
    simp only [houtcome, hafter, houtcome', hafter']

end Rules

section Runs

variable {perform : κ → Step κ μ Unit} (hperform : ∀ callback, (perform callback).IsBlind)

include hperform

theorem isBlind_phase (p : Phase) : IsBlind (phase perform p) := isBlind_runPhase hperform p

theorem isBlind_build : IsBlind (build perform) := by
  refine isBlind_take_getRequest (fun _ => rfl) fun r => ?_
  cases r.error with
  | some id => exact isBlind_take (Step.isBlind_raise id)
  | none =>
    cases r.built with
    | true => exact isBlind_pure ()
    | false =>
      exact (isBlind_phase hperform .validate).bind fun _ =>
        (isBlind_take (isBlind_stopIfFailed "Validate")).bind fun _ =>
          (isBlind_take (isBlind_setStage .validated)).bind fun _ =>
            (isBlind_phase hperform .build).bind fun _ =>
              (isBlind_take (isBlind_stopIfFailed "Build")).bind fun _ =>
                isBlind_take isBlind_markBuilt

theorem isBlind_attempt : IsBlind (attempt perform) := by
  refine .noted ((isBlind_take Step.isBlind_cancellation).bind fun ended => ?_) .attempt
  cases ended with
  | some id => exact isBlind_take (isBlind_failCancelled id)
  | none =>
    refine (isBlind_phase hperform .send).bind fun _ =>
      (isBlind_take (isBlind_failureAt "Send")).bind fun failure => ?_
    cases failure with
    | some id => exact isBlind_pure (some id)
    | none =>
      exact (isBlind_take (isBlind_setStage .sent)).bind fun _ =>
        (isBlind_phase hperform .unmarshal).bind fun _ =>
          isBlind_take (isBlind_failureAt "Unmarshal")

omit hperform in
theorem isBlind_decision : IsBlind (decision : Drive κ μ Bool) := isBlind_mayRetry

omit hperform in
theorem isBlind_pause (seconds : Float) : IsBlind (pause seconds : Drive κ μ Bool) :=
  Step.isBlind_wait seconds

theorem isBlind_interval (failure : FailureId) : IsBlind (interval perform failure) := by
  refine (isBlind_phase hperform .retry).bind fun _ =>
    (isBlind_take (isBlind_stopIfReplaced failure)).bind fun _ =>
      (isBlind_take isBlind_countRetry).bind fun seconds =>
        (isBlind_pause seconds).bind fun ended => ?_
  cases ended with
  | true => exact isBlind_take (isBlind_stopEnded failure)
  | false => exact isBlind_take isBlind_prepareRetry

theorem isBlind_round : IsBlind (round perform) := by
  refine (isBlind_take isBlind_clearError).bind fun _ =>
    (isBlind_attempt hperform).bind fun failure => ?_
  cases failure with
  | none =>
    exact (isBlind_take (isBlind_setStage .unmarshalled)).bind fun _ =>
      isBlind_take_getRequest (fun _ => rfl) fun r => isBlind_pure (some r.data)
  | some failure =>
    refine isBlind_decision.bind fun accepted => ?_
    cases accepted with
    | true => exact (isBlind_interval hperform failure).bind fun _ => isBlind_pure none
    | false => exact isBlind_take (Step.isBlind_raise failure)

theorem isBlind_attempts (limit : Nat) : IsBlind (attempts perform limit) := by
  induction limit with
  | zero => exact isBlind_take (Step.isBlind_throw .unfinished)
  | succ limit ih =>
    refine (isBlind_round hperform).bind fun data => ?_
    cases data with
    | some v => exact isBlind_pure v
    | none => exact ih

theorem isBlind_deliver (limit : Nat) : IsBlind (deliver perform limit) :=
  (isBlind_build hperform).bind fun _ => (isBlind_take isBlind_startClock).bind fun _ =>
    isBlind_attempts hperform limit

theorem isBlind_finish : IsBlind (finish perform) :=
  (isBlind_take isBlind_fillResponse).bind fun _ =>
    (isBlind_phase hperform .complete).bind fun _ => isBlind_take isBlind_markCompleted

theorem isBlind_send (limit : Nat) : IsBlind (send perform limit) :=
  (isBlind_deliver hperform limit).closedBy (isBlind_finish hperform)

end Runs

/-- Two runs of a request over core hooks that differ in nothing but log level and logger end in the
same way, and their sessions are the same but for the log: calls and waits, stage, data, retries,
error, failures and answer.  A run that has nothing to log, or nobody to log it for, logs nothing.
-/
theorem send_regardless_of_log (s : Session CoreHook μ) (htext : s.IsText) (level : LogLevel)
    (logger : Option Logger) (limit : Nat) :
    let c := (send CoreHook.perform limit).run s
    let c' := (send CoreHook.perform limit).run (s.withLog level logger)
    c'.outcome = c.outcome ∧ c'.after.unlogged = c.after.unlogged ∧
      (level = LogLevel.silent ∨ logger = none → c'.after.logLines = s.logLines) := by
  intro c c'
  have hblind := isBlind_send CoreHook.isBlind_perform limit (s := s) htext
  have hblind' := isBlind_send CoreHook.isBlind_perform limit (s := s.withLog level logger)
    ⟨htext.response, htext.tape⟩
  have hsame : (s.withLog level logger).unlogged = s.unlogged := rfl
  have heq : (c'.outcome, c'.after.unlogged) = (c.outcome, c.after.unlogged) :=
    hblind'.same.symm.trans ((congrArg _ hsame).trans hblind.same)
  obtain ⟨houtcome, hafter⟩ := Prod.ext_iff.1 heq
  exact ⟨houtcome, hafter, fun hmute => (hblind'.mute hmute).2⟩

/-- A run that logs all it can tells three lines, and ends as the silent one does. -/
theorem busy_answer_is_logged_and_ends_alike :
    let busy : Outcome := ⟨0, none, .response (.received 503 .empty [110, 111])⟩
    let s : Session CoreHook Unit :=
      Session.plain "https://api.io" (CoreHook.template id) .never .none [busy] ()
    let c := (send CoreHook.perform 1).run (s.withLog LogLevel.debugBody (some .recorder))
    let c' := (send CoreHook.perform 1).run
      ((s.withLog LogLevel.debugBody (some .recorder)).withLog LogLevel.silent (some .recorder))
    s.IsText ∧ c.after.logLines.length = 3 ∧ c'.outcome = c.outcome ∧
      c'.after.unlogged = c.after.unlogged ∧ c'.after.logLines = [] := by
  intro busy s c c'
  have htext : s.IsText := by
    refine ⟨nofun, fun o ho a ha => ?_⟩
    obtain rfl : o = busy := List.mem_singleton.1 ho
    cases ha
    exact ⟨.ofString "no", by decide +kernel⟩
  obtain ⟨houtcome, hafter, hmute⟩ := send_regardless_of_log
    (s.withLog LogLevel.debugBody (some .recorder)) ⟨htext.response, htext.tape⟩ LogLevel.silent
    (some .recorder) 1
  exact ⟨htext, by decide +kernel, houtcome, hafter, hmute (.inl rfl)⟩

end Drive

end RequestPipeline
