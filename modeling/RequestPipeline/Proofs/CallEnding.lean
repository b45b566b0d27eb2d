import RequestPipeline.CommandLine.Run
import RequestPipeline.Proofs.ClientRequests
import RequestPipeline.Proofs.Interruption

/-!
# How a call from the command line ends

The output of a call is the decoded answer and nothing else: what is said along the way goes to the
diagnostics.  A failure leaves the output empty, and the exit code tells what kind of failure it
was; an interruption has an exit code of its own, whichever of the handlers around the command takes
care of it.  An answer that holds half a character is printed up to the line where that stands, and
then the run fails like after any other unexpected failure.
-/

namespace RequestPipeline.CommandLine

open Session
open Text (Str)

/-! ## What a call comes to -/

/-- The end of a run with the command `call`, behind the handlers of the library for command lines
and of the program. -/
def Ending.ofCall (s : Surroundings) (d : Display) (a : CallArguments) (c : Conditions) : Ending :=
  (call s d a c.source c.world).supervised.ending d

/-- The exit code of the program after a failure. -/
def exitStatus (f : Failure) : Int :=
  match f.exitCode? with
  | some code => code
  | none => if f.kind = .outside .signal ∨ f.kind = .outside .keyboard then 130 else 1

/-- What a call comes to before anything is printed, and the world it leaves. -/
inductive Comes (s : Surroundings) (a : CallArguments) (c : Conditions) :
    Except Failure Value → World Unit → Prop where
  /-- There are no settings, or the arguments cannot be used with them. -/
  | unprepared {reason} (hcall : Call.ofArguments s c.clock a = .error reason) :
    Comes s a c (.error (.ofReason reason)) c.world
  /-- The settings name a log level that does not exist. -/
  | unready {call reason} (hcall : Call.ofArguments s c.clock a = .ok call)
      (hclient : Client.ofSettings call.settings (CoreHook.template id) c.source = .error reason) :
    Comes s a c (.error (.ofReason reason)) c.world
  | failed {call client e f w} (hcall : Call.ofArguments s c.clock a = .ok call)
      (hclient : Client.ofSettings call.settings (CoreHook.template id) c.source = .ok client)
      (hperform : call.perform a.body (client.start c.world).1 (client.start c.world).2 =
        (.error (.raised e), w)) (hf : w.failures.get? e = some f) :
    Comes s a c (.error f) ((client.start c.world).1.stop w).2
  | answered {call client v w} (hcall : Call.ofArguments s c.clock a = .ok call)
      (hclient : Client.ofSettings call.settings (CoreHook.template id) c.source = .ok client)
      (hperform : call.perform a.body (client.start c.world).1 (client.start c.world).2 =
        (.ok v, w)) :
    Comes s a c (.ok v) ((client.start c.world).1.stop w).2

/-! ## What is printed -/

/-- An answer in one of the layouts that other programs read: one text in JSON, or else lines. -/
def rendering (layout : Layout) (v : Value) : Except Failure.Reason (List Str) :=
  match layout with
  | .json => (Display.jsonPayload (Display.readable v)).map fun text => [text]
  | _ => .ok (Display.plainLines (Display.readable v))

/-- What becomes of lines on the output, with the exit code: all of them are printed, or those
before one that has no form in UTF-8. -/
inductive Prints (lines : List Str) : List Char → Int → Prop where
  | whole {texts : List (List Char)} (h : lines = texts.map Str.ofChars) :
    Prints lines (Terminal.unlines texts) 0
  | torn {before : List (List Char)} {line rest}
      (h : lines = before.map Str.ofChars ++ line :: rest) (htorn : line.chars? = none) :
    Prints lines (Terminal.unlines before) 1

/-- The output and the exit code for the result of a call: nothing and the code of the failure, or
the rendered answer and zero.  An answer without a rendering counts as a failure. -/
def EndsAs (layout : Layout) (verdict : Except Failure Value) (e : Ending) : Prop :=
  match verdict with
  | .error f => e.output = [] ∧ e.exitCode = exitStatus f
  | .ok .null => e.output = [] ∧ e.exitCode = 0
  | .ok v => match rendering layout v with
    | .ok lines => Prints lines e.output e.exitCode
    | .error _ => e.output = [] ∧ e.exitCode = 1

theorem payload_eq {d : Display} (h : d.layout ≠ .rich) (v : Value) :
    d.payload v = match rendering d.layout v with
      | .ok lines => .lines lines
      | .error reason => .nothing reason := by
  unfold Display.payload rendering
  cases hlayout : d.layout with
  | json =>
    cases hpayload : Display.jsonPayload (Display.readable v) <;>
      simp [Display.Printed.line, hpayload, Except.map]
  | plain => rfl
  | rich => exact absurd hlayout h

theorem exitStatus_of_rendering {layout : Layout} {v : Value} {reason : Failure.Reason}
    (h : rendering layout v = .error reason) : exitStatus (.ofReason reason) = 1 := by
  have hjson : ∀ v : Value, Display.jsonText v = .error reason →
      exitStatus (.ofReason reason) = 1 := by
    intro v hv
    rw [Display.jsonText] at hv
    cases hindented : Json.indented v with
    | ok text =>
      rw [hindented] at hv
      cases hv
    | error fault =>
      rw [hindented] at hv
      cases hv
      cases fault <;> rfl
  cases layout with
  | json =>
    simp only [rendering] at h
    cases hpayload : Display.jsonPayload (Display.readable v) with
    | ok text =>
      rw [hpayload] at h
      cases h
    | error r =>
      rw [hpayload] at h
      cases h
      unfold Display.jsonPayload at hpayload
      split at hpayload
      · split at hpayload
        · exact hjson _ hpayload
        · cases hpayload
          rfl
        · cases hpayload
      · exact hjson _ hpayload
  | plain => cases h
  | rich => cases h

/-! ### The handlers -/

theorem ending_of_failed (d : Display) (output diagnostics : List Char) (f : Failure)
    (w : World Unit) (hsignal : f.kind ≠ .outside .signal) :
    let e := (Departure.mk (.failed f) output diagnostics w).supervised.ending d
    e.output = output ∧ e.exitCode = exitStatus f ∧ e.world = w := by
  intro e
  by_cases hkeyboard : f.kind = .outside .keyboard
  · have hnone : f.exitCode? = none := by
      simp [Failure.exitCode?, hkeyboard, Failure.Kind.exitCode?]
    simp [e, Departure.supervised, Departure.ending, hkeyboard, exitStatus, hnone,
      Departure.interruptedCode]
  · cases hcode : f.exitCode? <;>
      simp [e, Departure.supervised, Departure.ending, hkeyboard, exitStatus, hcode, hsignal]

/-- A command that a failure ends, whether or not the command reports it by itself. -/
theorem ending_ofFailure (d : Display) (output diagnostics : List Char) (f : Failure)
    (w : World Unit) {departure : Departure}
    (h : departure = .ofFailure output diagnostics f w ∨
      departure = (Departure.ofFailure output diagnostics f w).reported d) :
    let e := departure.supervised.ending d
    e.output = output ∧ e.exitCode = exitStatus f ∧ e.world = w := by
  by_cases hsignal : f.kind = .outside .signal
  · have hnone : f.exitCode? = none := by
      simp [Failure.exitCode?, hsignal, Failure.Kind.exitCode?]
    rcases h with rfl | rfl <;>
      simp [Departure.ofFailure, hsignal, Departure.reported, Departure.supervised,
        Departure.ending, exitStatus, hnone, cancelledCode]
  · have hfailed := ending_of_failed d output diagnostics f w hsignal
    rw [Departure.ofFailure, if_neg hsignal] at h
    rcases h with rfl | rfl
    · exact hfailed
    · cases hcode : f.exitCode? with
      | none =>
        simp only [Departure.reported, hcode]
        exact hfailed
      | some code => simp [Departure.reported, hcode, Departure.supervised, Departure.ending,
          exitStatus]

/-- A line that can be printed goes in front of what is printed behind it. -/
theorem Prints.cons (line : List Char) {rest : List Str} {text : List Char} {code : Int}
    (h : Prints rest text code) :
    Prints (Str.ofChars line :: rest) (line ++ '\n' :: text) code := by
  cases h with
  | @whole texts h =>
    have hwhole : Prints (Str.ofChars line :: rest) (Terminal.unlines (line :: texts)) 0 :=
      .whole (by rw [h, List.map_cons])
    simpa [Terminal.unlines] using hwhole
  | @torn before line' rest' h htorn =>
    have htorn : Prints (Str.ofChars line :: rest) (Terminal.unlines (line :: before)) 1 :=
      @Prints.torn (Str.ofChars line :: rest) (line :: before) line' rest'
        (by rw [h, List.map_cons, List.cons_append]) htorn
    simpa [Terminal.unlines] using htorn

/-- Lines are printed up to one that cannot be. -/
theorem lines_prints (lines : List Str) :
    Display.Printed.lines lines = .whole (Display.Printed.lines lines).text ∧
        Prints lines (Display.Printed.lines lines).text 0 ∨
      ∃ fault, (Display.Printed.lines lines).fault = some (.unprintable fault) ∧
        Prints lines (Display.Printed.lines lines).text 1 := by
  induction lines with
  | nil => exact .inl ⟨rfl, @Prints.whole [] [] rfl⟩
  | cons line rest ih =>
    cases hline : line.encodable with
    | error fault =>
      have hlines : Display.Printed.lines (line :: rest) = .nothing (.unprintable fault) := by
        rw [Display.Printed.lines, hline]
      have htorn := Str.chars?_of_encodable_eq_error hline
      rw [hlines]
      exact .inr ⟨fault, rfl, @Prints.torn (line :: rest) [] line rest rfl htorn⟩
    | ok text =>
      obtain rfl := Str.encodable_eq_ok_iff.1 hline
      have hlines : Display.Printed.lines (Str.ofChars text :: rest) =
          { Display.Printed.lines rest with
            text := text ++ '\n' :: (Display.Printed.lines rest).text } := by
        rw [Display.Printed.lines, hline]
      rw [hlines]
      obtain ⟨hwhole, hprints⟩ | ⟨fault, hfault, hprints⟩ := ih
      · refine .inl ⟨?_, hprints.cons text⟩
        rw [hwhole]
        rfl
      · exact .inr ⟨fault, hfault, hprints.cons text⟩

theorem ofResult_ends {d : Display} (hlayout : d.layout ≠ .rich) (diagnostics : List Char)
    (v : Value) (w : World Unit) :
    let e := (Departure.ofResult d diagnostics v w).supervised.ending d
    EndsAs d.layout (.ok v) e ∧ e.world = w := by
  intro e
  by_cases hnull : v = .null
  · subst hnull
    exact ⟨⟨rfl, rfl⟩, rfl⟩
  have hresult : Departure.ofResult d diagnostics v w = .ofPrinted diagnostics (d.payload v) w := by
    cases v with
    | null => exact absurd rfl hnull
    | _ => rfl
  have hends : EndsAs d.layout (.ok v) e ↔ match rendering d.layout v with
      | .ok lines => Prints lines e.output e.exitCode
      | .error _ => e.output = [] ∧ e.exitCode = 1 := by
    cases v with
    | null => exact absurd rfl hnull
    | _ => exact .rfl
  rw [hends]
  simp only [e, hresult, payload_eq hlayout v]
  cases hrendering : rendering d.layout v with
  | error reason =>
    obtain ⟨houtput, hcode, hworld⟩ := ending_ofFailure d [] diagnostics (.ofReason reason) w
      (.inl rfl)
    exact ⟨⟨houtput, hcode.trans (exitStatus_of_rendering hrendering)⟩, hworld⟩
  | ok lines =>
    dsimp only
    obtain ⟨hwhole, hprints⟩ | ⟨fault, hfault, hprints⟩ := lines_prints lines
    · rw [hwhole]
      exact ⟨hprints, rfl⟩
    · obtain ⟨houtput, hcode, hworld⟩ := ending_ofFailure d (Display.Printed.lines lines).text
        diagnostics (.ofReason (.unprintable fault)) w (.inl rfl)
      simp only [Departure.ofPrinted, hfault]
      rw [houtput, hcode]
      exact ⟨hprints, hworld⟩

/-! ## The request of a call -/

/-- The outcome of the request of a call: an answer, or a failure that the heap knows.  If a call to
the network was interrupted, it is that interruption. -/
structure Reaches (tape : List Outcome) (outcome : Except Stop Value) (w : World Unit) : Prop where
  known : (∃ v, outcome = .ok v) ∨ ∃ e, outcome = .error (.raised e) ∧ w.failures.Knows e
  heard : (∀ i < w.events.countP Event.isCall, ¬ (Transport.outcomeAt tape i).Interrupts) ∨
    ∃ e, outcome = .error (.raised e) ∧ w.failures.kindAt? e = some (.outside .signal)

theorem Reaches.of_later {tape : List Outcome} {outcome : Except Stop Value}
    {s s' : Session CoreHook Unit} (h : Later s outcome s') (hsound : s.Sound)
    (hquiet : s.Quiet tape) (hfinished : outcome ≠ .error .unfinished) :
    Reaches tape outcome s'.world := by
  refine ⟨?_, ?_⟩
  · match outcome, h, hfinished with
    | .ok v, _, _ => exact .inl ⟨v, rfl⟩
    | .error (.raised e), h, _ => exact .inr ⟨e, rfl, (h.sound hsound).2 e rfl⟩
    | .error .unfinished, _, hfinished => exact absurd rfl hfinished
  · rcases h.quiet tape hquiet with hquiet' | hinterrupted
    · exact .inl hquiet'.heard
    · exact .inr hinterrupted

theorem isTame_applyOptions (options : List RequestOption) :
    (Step.applyOptions options : Step CoreHook Unit Unit).IsTame := by
  induction options with
  | nil => exact Step.isTame_pure ()
  | cons option rest ih =>
    intro s
    simp only [Step.applyOptions, Step.run_bind, Step.run_getRequest]
    cases hchanged : s.request.withOption option with
    | error fault => exact Step.isTame_fail (.header fault) s
    | ok r =>
      have hkept := (Step.optioned_of_withOption hchanged).request
      exact (Tame.ofRequest r () (congrArg Request.hooks hkept :) (congrArg Request.error hkept :)
        (congrArg Request.budget hkept :)).trans (ih _)

/-- A new request refers to no failure but its own. -/
theorem sound_blankRequest (client : Client CoreHook) (operation : Operation) (params : Value)
    {w : World Unit} (hlabels : w.failures.KnowsLabels) :
    (client.blankRequest operation params none w).Sound := by
  cases hfault : Request.endpointFault? client.requestConfig.endpoint with
  | none =>
    simp only [Client.blankRequest, Request.create, hfault]
    exact ⟨by simp, hlabels⟩
  | some fault =>
    simp only [Client.blankRequest, Request.create, hfault]
    refine ⟨fun e he => ?_, ?_⟩
    · obtain rfl := Option.some.inj he
      exact Failures.knows_addReason_self _
    · exact hlabels.grow (Failures.grows_addReason _ _) (Failures.labels_addReason _ _)

theorem quiet_of_untouched {tape : List Outcome} {s : Session CoreHook Unit}
    (htape : s.world.tape = tape) (hcalls : s.calls = 0) : s.Quiet tape := by
  refine ⟨fun i => ?_, fun i hi => ?_⟩
  · rw [htape, hcalls, Nat.zero_add]
  · omega

/-- A client that settings describe makes a request and sends it, within the retries they allow. -/
theorem reaches_call {client : Client CoreHook} {limit : Nat} {operation : Operation}
    {params : Value} {options : List RequestOption} {context : Option Context} {w : World Unit}
    (hhooks : client.hooks = CoreHook.template id)
    (hlimit : (client.budget.limit - client.budget.used).toNat < limit)
    (hlabels : w.failures.KnowsLabels) (hcalls : w.events.countP Event.isCall = 0) :
    Reaches w.tape (client.call CoreHook.perform limit operation params none options context w).1
      (client.call CoreHook.perform limit operation params none options context w).2.1 := by
  have hblank := Client.request_blankRequest client operation params w
  have hworld := Client.world_blankRequest client operation params w
  have hsound := sound_blankRequest client operation params hlabels
  have hquiet : (client.blankRequest operation params none w).Quiet w.tape :=
    quiet_of_untouched (congrArg World.tape hworld :) hcalls
  have hoptions := isTame_applyOptions options (client.blankRequest operation params none w)
  simp only [Client.call, Client.newRequest]
  rcases hrun : (Step.applyOptions options).run (client.blankRequest operation params none w) with
    ⟨stop | _, s₁⟩ <;> rw [hrun] at hoptions
  · exact .of_later hoptions.later.recast hsound hquiet fun h =>
      hoptions.finished (by cases h; rfl)
  · simp only [Client.send, Request.send, Drive.run_toStep]
    generalize hready : ({ world := s₁.world, request := { s₁.request with
      context := context.getD .background
      retryer := s₁.request.retryer.resume client.drawn } } : Session CoreHook Unit) = ready
    have hprepared : Later s₁ (.ok ()) ready := by
      rw [← hready]
      exact .ofRequest _ () rfl rfl
    have hkept : ready.request.hooks = CoreHook.template id := by
      rw [hprepared.hooks, hoptions.later.hooks]
      exact (congrArg Request.hooks hblank :).trans hhooks
    have hleft : ready.left < limit := by
      have hbudget := hoptions.budget.trans (congrArg Request.budget hblank :)
      rw [← hready, Session.left, Session.limit, Session.used, hbudget]
      exact hlimit
    have hsent := Drive.later_isSending (Drive.isSending_run CoreHook.perform ready limit) hkept
    exact .of_later ((hoptions.later.trans hprepared).trans hsent) hsound hquiet
      (Drive.finished_send hleft)

/-- What is the same before and after a client is opened or closed: everything but its connections.
-/
structure Switches (client client' : Client CoreHook) (w w' : World Unit) : Prop where
  client : client' = { client with pool := client'.pool }
  world : w' = { w with connections := w'.connections, events := w'.events }
  calls : w'.events.countP Event.isCall = w.events.countP Event.isCall

theorem switches_start (client : Client CoreHook) (w : World Unit) :
    Switches client (client.start w).1 w (client.start w).2 := by
  rw [Client.start]
  split
  · exact ⟨rfl, rfl, rfl⟩
  · exact ⟨rfl, rfl, List.countP_cons_of_neg (by simp [Event.isCall])⟩

theorem switches_stop (client : Client CoreHook) (w : World Unit) :
    Switches client (client.stop w).1 w (client.stop w).2 := by
  rw [Client.stop]
  split
  · exact ⟨rfl, rfl, rfl⟩
  · exact ⟨rfl, rfl, List.countP_cons_of_neg (by simp [Event.isCall])⟩

section Switches

variable {client client' : Client CoreHook} {w w' : World Unit}
  (h : Switches client client' w w')

include h

theorem Switches.hooks : client'.hooks = client.hooks := (congrArg Client.hooks h.client :)

theorem Switches.config : client'.config = client.config := (congrArg Client.config h.client :)

theorem Switches.budget : client'.budget = client.budget := (congrArg Client.budget h.client :)

theorem Switches.failures : w'.failures = w.failures := (congrArg World.failures h.world :)

theorem Switches.tape : w'.tape = w.tape := (congrArg World.tape h.world :)

theorem Switches.cookies : w'.cookies = w.cookies := (congrArg World.cookies h.world :)

end Switches

theorem ofSettings_kept {settings : Settings} {source : Nat → Float} {client : Client CoreHook}
    (h : Client.ofSettings settings (CoreHook.template id) source = .ok client) :
    client.hooks = CoreHook.template id ∧ client.budget = Client.budgetOf settings := by
  rw [Client.ofSettings] at h
  cases hlevel : LogLevel.parse settings.logLevel.toList with
  | error reason =>
    rw [hlevel] at h
    cases h
  | ok level =>
    rw [hlevel] at h
    cases h
    exact ⟨rfl, rfl⟩

/-- The bound on the attempts of a call is above the retries that its settings allow. -/
theorem reaches_started {call : Call} {client : Client CoreHook} {source : Nat → Float}
    (hclient : Client.ofSettings call.settings (CoreHook.template id) source = .ok client)
    (params : Value) {w : World Unit} (hlabels : w.failures.KnowsLabels)
    (hcalls : w.events.countP Event.isCall = 0) :
    Reaches w.tape
      ((client.start w).1.call CoreHook.perform call.attemptLimit call.operation params none
        call.options call.context (client.start w).2).1
      ((client.start w).1.call CoreHook.perform call.attemptLimit call.operation params none
        call.options call.context (client.start w).2).2.1 := by
  obtain ⟨hhooks, hbudget⟩ := ofSettings_kept hclient
  have hstarts := switches_start client w
  have hlimit : ((client.start w).1.budget.limit - (client.start w).1.budget.used).toNat <
      call.attemptLimit := by
    rw [hstarts.budget, hbudget]
    simp only [Call.attemptLimit, Client.budgetOf]
    omega
  rw [← hstarts.tape]
  exact reaches_call (hstarts.hooks.trans hhooks) hlimit (hstarts.failures ▸ hlabels)
    (hstarts.calls.trans hcalls)

theorem reaches_perform {c : Conditions} {call : Call} {client : Client CoreHook}
    (hclient : Client.ofSettings call.settings (CoreHook.template id) c.source = .ok client)
    (body : Option String) :
    Reaches c.tape (call.perform body (client.start c.world).1 (client.start c.world).2).1
      (call.perform body (client.start c.world).1 (client.start c.world).2).2 := by
  have hcalls : c.world.events.countP Event.isCall = 0 := rfl
  have hlabels : c.world.failures.KnowsLabels := by
    intro label e he
    cases he
  cases body with
  | none => exact reaches_started hclient .null hlabels hcalls
  | some typed =>
    simp only [Call.perform]
    cases parseBody typed with
    | error reason =>
      refine ⟨.inr ⟨_, rfl, Failures.knows_addReason_self reason⟩, .inl fun i hi => ?_⟩
      rw [(switches_start client c.world).calls, hcalls] at hi
      omega
    | ok params => exact reaches_started hclient params hlabels hcalls

section Performed

variable {s : Surroundings} {a : CallArguments} {c : Conditions} {d : Display} {prepared : Call}
  {client : Client CoreHook} {w : World Unit}

theorem call_of_stop {stop : Stop} (hcall : Call.ofArguments s c.clock a = .ok prepared)
    (hclient : Client.ofSettings prepared.settings (CoreHook.template id) c.source = .ok client)
    (hperform : prepared.perform a.body (client.start c.world).1 (client.start c.world).2 =
      (.error stop, w)) :
    ∃ diagnostics, call s d a c.source c.world =
      (Departure.ofStop diagnostics stop ((client.start c.world).1.stop w).2).reported d := by
  refine ⟨d.detail prepared.announcement ++
    d.logged ((client.start c.world).1.stop w).2.events.reverse, ?_⟩
  simp only [Conditions.world] at hperform
  simp only [call, Conditions.world, hcall, hclient, hperform]

theorem call_of_result {v : Value} (hcall : Call.ofArguments s c.clock a = .ok prepared)
    (hclient : Client.ofSettings prepared.settings (CoreHook.template id) c.source = .ok client)
    (hperform : prepared.perform a.body (client.start c.world).1 (client.start c.world).2 =
      (.ok v, w)) :
    ∃ diagnostics, call s d a c.source c.world =
      .ofResult d diagnostics v ((client.start c.world).1.stop w).2 := by
  refine ⟨d.detail prepared.announcement ++
    d.logged ((client.start c.world).1.stop w).2.events.reverse, ?_⟩
  simp only [Conditions.world] at hperform
  simp only [call, Conditions.world, hcall, hclient, hperform]

/-- The call has come to an answer or to a failure and ends as that, and an interruption during a
call to the network has had the last word. -/
structure HasCome (s : Surroundings) (d : Display) (a : CallArguments) (c : Conditions)
    (e : Ending) : Prop where
  comes : ∃ verdict, Comes s a c verdict e.world ∧ EndsAs d.layout verdict e
  signalled :
    (∃ i < e.world.events.countP Event.isCall, (Transport.outcomeAt c.tape i).Interrupts) →
    e.output = [] ∧ e.exitCode = 130

/-- A failure before any call to the network. -/
theorem hasCome_of_reason {reason : Failure.Reason} (diagnostics : List Char)
    (hcomes : Comes s a c (.error (.ofReason reason)) c.world)
    (hended : call s d a c.source c.world =
      (Departure.ofFailure [] diagnostics (.ofReason reason) c.world).reported d) :
    HasCome s d a c (.ofCall s d a c) := by
  obtain ⟨houtput, hcode, hworld⟩ := ending_ofFailure d [] diagnostics (.ofReason reason) c.world
    (.inr rfl)
  rw [Ending.ofCall, hended]
  refine ⟨⟨.error _, hworld.symm ▸ hcomes, houtput, hcode⟩, ?_⟩
  rintro ⟨i, hi, -⟩
  have hnocall : c.world.events.countP Event.isCall = 0 := rfl
  rw [hworld, hnocall] at hi
  omega

/-- The answer of the request: no call to the network was interrupted. -/
theorem hasCome_of_result (hlayout : d.layout ≠ .rich) {v : Value}
    (hcall : Call.ofArguments s c.clock a = .ok prepared)
    (hclient : Client.ofSettings prepared.settings (CoreHook.template id) c.source = .ok client)
    (hperform : prepared.perform a.body (client.start c.world).1 (client.start c.world).2 =
      (.ok v, w)) (hreaches : Reaches c.tape (.ok v) w) :
    HasCome s d a c (.ofCall s d a c) := by
  obtain ⟨diagnostics, hended⟩ := call_of_result hcall hclient hperform (d := d)
  obtain ⟨hends, hworld⟩ := ofResult_ends hlayout diagnostics v ((client.start c.world).1.stop w).2
  rw [Ending.ofCall, hended]
  refine ⟨⟨.ok v, hworld.symm ▸ .answered hcall hclient hperform, hends⟩, ?_⟩
  rintro ⟨i, hi, hinterrupts⟩
  rw [hworld, (switches_stop (client.start c.world).1 w).calls] at hi
  rcases hreaches.heard with hquiet | ⟨e, he, -⟩
  · exact absurd hinterrupts (hquiet i hi)
  · cases he

/-- A failure of the request ends the call. -/
theorem ofCall_of_failed {e : FailureId} {f : Failure}
    (hcall : Call.ofArguments s c.clock a = .ok prepared)
    (hclient : Client.ofSettings prepared.settings (CoreHook.template id) c.source = .ok client)
    (hperform : prepared.perform a.body (client.start c.world).1 (client.start c.world).2 =
      (.error (.raised e), w)) (hf : w.failures.get? e = some f) :
    let ending := Ending.ofCall s d a c
    ending.output = [] ∧ ending.exitCode = exitStatus f ∧
      ending.world = ((client.start c.world).1.stop w).2 := by
  obtain ⟨diagnostics, hended⟩ := call_of_stop hcall hclient hperform (d := d)
  have hstopped : call s d a c.source c.world =
      (Departure.ofFailure [] diagnostics f ((client.start c.world).1.stop w).2).reported d := by
    simp only [hended, Departure.ofStop, (switches_stop _ w).failures, hf]
  rw [Ending.ofCall, hstopped]
  exact ending_ofFailure d [] diagnostics f _ (.inr rfl)

/-- The failure of the request: the interruption, where a call to the network was interrupted. -/
theorem hasCome_of_raised {e : FailureId} (hcall : Call.ofArguments s c.clock a = .ok prepared)
    (hclient : Client.ofSettings prepared.settings (CoreHook.template id) c.source = .ok client)
    (hperform : prepared.perform a.body (client.start c.world).1 (client.start c.world).2 =
      (.error (.raised e), w)) (hknown : w.failures.Knows e)
    (hreaches : Reaches c.tape (.error (.raised e)) w) :
    HasCome s d a c (.ofCall s d a c) := by
  obtain ⟨f, hf⟩ := Failures.get?_of_knows hknown
  obtain ⟨houtput, hcode, hworld⟩ := ofCall_of_failed hcall hclient hperform hf (d := d)
  refine ⟨⟨.error f, hworld.symm ▸ .failed hcall hclient hperform hf, houtput, hcode⟩, ?_⟩
  rintro ⟨i, hi, hinterrupts⟩
  rw [hworld, (switches_stop (client.start c.world).1 w).calls] at hi
  rcases hreaches.heard with hquiet | ⟨e', he', hkind⟩
  · exact absurd hinterrupts (hquiet i hi)
  · cases he'
    have hsignal : f.kind = .outside .signal := by
      simpa [Failures.kindAt?, Failures.reasonAt?, hf, Failure.kind] using hkind
    have hnone : f.exitCode? = none := by
      simp [Failure.exitCode?, hsignal, Failure.Kind.exitCode?]
    exact ⟨houtput, by simp [hcode, exitStatus, hnone, hsignal]⟩

end Performed

/-- Every call comes to an answer or to a failure, and its run ends as that. -/
theorem call_comes (s : Surroundings) {d : Display} (hlayout : d.layout ≠ .rich)
    (a : CallArguments) (c : Conditions) :
    HasCome s d a c (.ofCall s d a c) := by
  cases hcall : Call.ofArguments s c.clock a with
  | error reason =>
    exact hasCome_of_reason [] (.unprepared hcall) (by simp [call, Conditions.world, hcall])
  | ok prepared =>
  cases hclient : Client.ofSettings prepared.settings (CoreHook.template id) c.source with
  | error reason =>
    exact hasCome_of_reason (d.detail prepared.announcement) (.unready hcall hclient)
      (by simp [call, Conditions.world, hcall, hclient])
  | ok client =>
  have hreaches := reaches_perform hclient a.body
  rcases hperform : prepared.perform a.body (client.start c.world).1 (client.start c.world).2 with
    ⟨outcome, w⟩
  rw [hperform] at hreaches
  rcases hreaches.known with ⟨v, rfl⟩ | ⟨e, rfl, hknown⟩
  · exact hasCome_of_result hlayout hcall hclient hperform hreaches
  · exact hasCome_of_raised hcall hclient hperform hknown hreaches

theorem run_of_call {s : Surroundings} {terminal : Bool} {c : Conditions} {words : List String}
    {p : Preferences} {a : CallArguments}
    (hparse : Invocation.parse words = .ok (.command p (.call a))) :
    let d := Display.create s terminal p.layout p.noColour p.quiet p.verbose
    run s terminal c words = .ofCall s d a c := by
  simp only [run, hparse, runCommand, Ending.ofCall]

/-! ## Calls that are interrupted, and one that cannot print its answer -/

/-- Nothing but the variable that names the directory of settings. -/
def unconfigured : Surroundings where
  environment := [("XDG_CONFIG_HOME", "xdg")]
  platform := "Linux"
  workingDirectory := "/work"
  files := []

/-- A call as it is typed, behind the option for a layout. -/
def typedCall (option : String) : List String :=
  [option, "call", "GET", "/t", "-e", "api.example.com"]

/-- What the typed call is told. -/
def typedArguments : CallArguments :=
  .ofOptions [(.endpoint, some "api.example.com")] [(.endpoint, .str "api.example.com")] "GET" "/t"

/-- The network says the same to every call. -/
def saying (answer : Answer) : Conditions where
  clock := 1000
  tape := [⟨0, none, answer⟩]
  network := .bare
  source _ := 0

/-- The network answers every call with the same failure. -/
def failing (reason : Failure.Reason) : Conditions :=
  saying (.failure (.make (.ofReason reason) none none))

/-- What kind of failure stops the request of a call. -/
def stoppedBy? (s : Surroundings) (a : CallArguments) (c : Conditions) : Option Failure.Kind :=
  match Call.ofArguments s c.clock a with
  | .error _ => none
  | .ok prepared =>
    match Client.ofSettings prepared.settings (CoreHook.template id) c.source with
    | .error _ => none
    | .ok client =>
      match prepared.perform a.body (client.start c.world).1 (client.start c.world).2 with
      | (.error (.raised id), w) => w.failures.kindAt? id
      | _ => none

/-- The list of the letter `a` and of half a character. -/
def halfAnswer : Conditions :=
  saying (.response (.received 200 .empty (Text.encodeUtf8 "[\"a\", \"\\ud800\"]".toList)))

end RequestPipeline.CommandLine
