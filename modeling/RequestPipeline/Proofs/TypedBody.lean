import RequestPipeline.Proofs.CallEnding
import RequestPipeline.Proofs.SentBody
import RequestPipeline.Proofs.Validation

/-!
# The body on the command line

A body is typed as JSON, and a text that is no JSON is sent as it is.  Some JSON does not arrive as
it was typed.  Null is taken for no body at all, and a number that is not finite becomes null.  A
whole number with more digits than are read ends the call before anything goes out, and so does a
value that the encoder refuses because its parts stand inside too many collections or because a
surrogate stands in one of its keys.
-/

namespace RequestPipeline

open Text (Str)

/-- The message carries a typed body.  If that is JSON, the body of the message is JSON of the same
value and is declared as such; otherwise it is the text in UTF-8. -/
def Transmission.Delivers (t : Transmission) (typed : String) : Prop :=
  match Json.read typed with
  | .ok v => Json.readBytes t.body = .ok v ∧
      t.headers.get? "content-type" = some "application/json".toList
  | .error _ => t.body = Text.encodeUtf8 typed.toList

namespace CommandLine

/-- The same arguments without a body. -/
def CallArguments.withoutBody (a : CallArguments) : CallArguments := { a with body := none }

/-- The text is no JSON, or else JSON that is not null, has no number that is not finite or too long
to be read, and is not refused by the encoder for its depth or its keys. -/
def IsDeliverable (typed : String) : Prop :=
  match Json.read typed with
  | .ok v => v ≠ .null ∧ Json.IsFinite v ∧ Json.Fits 0 v
  | .error (.badSyntax _ _ _ _) => True
  | .error _ => False

/-- The text is no JSON. -/
def IsPlainText (typed : String) : Prop :=
  ∃ reason line column offset,
    Json.read typed = .error (.badSyntax reason line column offset)

/-- The ways in which a call with a typed body ends.  The same call without a body ends as `bare`,
and its first message is `t₀`. -/
inductive BodyFate (typed : String) (bare : Ending) (t₀ : Transmission) (e : Ending) : Prop where
  /-- Null is no body. -/
  | dropped (hread : Json.read typed = .ok .null) (hends : e = bare)
  | json {v t} (hread : Json.read typed = .ok v) (hvalue : v ≠ .null) (hfits : Json.Fits 0 v)
      (hsent : e.world.messages.head? = some t) (hmethod : t.method = t₀.method)
      (hurl : t.url = t₀.url) (hbody : Json.readBytes t.body = .ok (Json.finitePart v))
      (htype : t.headers.get? "content-type" = some "application/json".toList)
  | text {t} (hplain : IsPlainText typed) (hsent : e.world.messages.head? = some t)
      (hmethod : t.method = t₀.method) (hurl : t.url = t₀.url)
      (hbody : t.body = Text.encodeUtf8 typed.toList)
      (htype : t.headers.get? "content-type" = t₀.headers.get? "content-type")
  /-- A number has too many digits. -/
  | unreadable {fault} (hread : Json.read typed = .error fault) (hplain : ¬ IsPlainText typed)
      (hsilent : e.world.messages = []) (houtput : e.output = []) (hcode : e.exitCode = 1)
  /-- The encoder refuses the value. -/
  | refused {v} (hread : Json.read typed = .ok v) (hfits : ¬ Json.Fits 0 v)
      (hsilent : e.world.messages = []) (houtput : e.output = []) (hcode : e.exitCode = 4)

theorem readBytes_nil : Json.readBytes [] = .error (.badSyntax .expectingValue 1 1 0) := by
  have hread : Json.readBytes (Text.encodeUtf8 []) = Json.read [] := Json.readBytes_of_visible nofun
  exact hread.trans rfl

section Delivers

variable {typed : String} {v : Value} {t : Transmission}

/-- The words of a command line have no surrogates, and so no pairs of them come of what they say.
-/
theorem isData_of_typed (h : Json.read typed = .ok v) : Json.IsData v :=
  Json.isData_of_read (Str.isEncodable_ofChars typed.toList) h

theorem read_typed (h : Json.Says typed.toList v) : Json.read typed = .ok v := by
  have hread : Json.read (Str.ofString typed ++ []) = .ok v := h.toIsReadAs.read nofun
  rwa [List.append_nil] at hread

theorem delivers_of_text (h : IsPlainText typed) :
    t.Delivers typed ↔ t.body = Text.encodeUtf8 typed.toList := by
  obtain ⟨reason, line, column, offset, hread⟩ := h
  rw [Transmission.Delivers, hread]

theorem delivers_of_json (h : Json.read typed = .ok v) :
    t.Delivers typed ↔ Json.readBytes t.body = .ok v ∧
      t.headers.get? "content-type" = some "application/json".toList := by
  rw [Transmission.Delivers, h]

theorem isDeliverable_of_text (h : IsPlainText typed) : IsDeliverable typed := by
  obtain ⟨reason, line, column, offset, hread⟩ := h
  rw [IsDeliverable, hread]
  trivial

theorem isDeliverable_of_json (h : Json.read typed = .ok v) :
    IsDeliverable typed ↔ v ≠ .null ∧ Json.IsFinite v ∧ Json.Fits 0 v := by
  rw [IsDeliverable, h]

theorem parseBody_of_text (h : IsPlainText typed) :
    parseBody typed = .ok (.bytes (Text.encodeUtf8 typed.toList)) := by
  obtain ⟨reason, line, column, offset, hread⟩ := h
  simp only [parseBody, hread]

theorem parseBody_of_json (h : Json.read typed = .ok v) : parseBody typed = .ok v := by
  simp only [parseBody, h]

theorem parseBody_of_unreadable {fault : Json.Fault} (h : Json.read typed = .error fault)
    (hplain : ¬ IsPlainText typed) : parseBody typed = .error (.json fault) := by
  cases fault with
  | badSyntax reason line column offset => exact absurd ⟨reason, line, column, offset, h⟩ hplain
  | tooManyDigits count => simp only [parseBody, h]
  | undecodable fault => simp only [parseBody, h]

theorem not_isDeliverable_of_unreadable {fault : Json.Fault}
    (h : Json.read typed = .error fault) (hplain : ¬ IsPlainText typed) :
    ¬ IsDeliverable typed := by
  rw [IsDeliverable, h]
  cases fault with
  | badSyntax reason line column offset => exact absurd ⟨reason, line, column, offset, h⟩ hplain
  | tooManyDigits count => exact id
  | undecodable fault => exact id

end Delivers

/-- The first message delivers the body exactly if the body is deliverable. -/
theorem BodyFate.delivers_iff {typed : String} {bare e : Ending} {t₀ : Transmission}
    (h : BodyFate typed bare t₀ e) (hbare : bare.world.messages.head? = some t₀)
    (hempty : t₀.body = []) :
    (∃ t, e.world.messages.head? = some t ∧ t.Delivers typed) ↔ IsDeliverable typed := by
  cases h with
  | dropped hread hends =>
    rw [isDeliverable_of_json hread]
    refine iff_of_false ?_ fun hdeliverable => hdeliverable.1 rfl
    rintro ⟨t, ht, hdelivers⟩
    rw [hends, hbare] at ht
    obtain rfl := Option.some.inj ht
    rw [delivers_of_json hread, hempty, readBytes_nil] at hdelivers
    cases hdelivers.1
  | @json v t hread hvalue hfits hsent _ _ hbody htype =>
    rw [isDeliverable_of_json hread]
    have hsame := Json.finitePart_eq_self_iff (isData_of_typed hread)
    constructor
    · rintro ⟨t', ht', hdelivers⟩
      obtain rfl := Option.some.inj (hsent.symm.trans ht')
      rw [delivers_of_json hread, hbody] at hdelivers
      exact ⟨hvalue, hsame.1 (Except.ok.inj hdelivers.1), hfits⟩
    · rintro ⟨-, hfinite, -⟩
      rw [hsame.2 hfinite] at hbody
      exact ⟨t, hsent, (delivers_of_json hread).2 ⟨hbody, htype⟩⟩
  | text hplain hsent _ _ hbody =>
    exact iff_of_true ⟨_, hsent, (delivers_of_text hplain).2 hbody⟩ (isDeliverable_of_text hplain)
  | unreadable hread hplain hsilent =>
    refine iff_of_false ?_ (not_isDeliverable_of_unreadable hread hplain)
    rintro ⟨t, ht, -⟩
    rw [hsilent] at ht
    cases ht
  | refused hread hfits hsilent =>
    refine iff_of_false ?_ fun hdeliverable =>
      hfits ((isDeliverable_of_json hread).1 hdeliverable).2.2
    rintro ⟨t, ht, -⟩
    rw [hsilent] at ht
    cases ht

/-! ## The call and its client -/

namespace Departure

variable (d : Display) (output diagnostics : List Char) (w : World Unit) (e : Departure)

@[simp] theorem world_ofFailure (f : Failure) : (ofFailure output diagnostics f w).world = w := by
  rw [ofFailure]
  split <;> rfl

@[simp] theorem world_ofStop (stop : Stop) : (ofStop diagnostics stop w).world = w := by
  unfold ofStop
  split
  · split
    · exact world_ofFailure _ _ _ _
    · rfl
  · rfl

@[simp] theorem world_ofPrinted (p : Display.Printed) : (ofPrinted diagnostics p w).world = w := by
  unfold ofPrinted
  split
  · rfl
  · exact world_ofFailure _ _ _ _

@[simp] theorem world_ofResult (v : Value) : (ofResult d diagnostics v w).world = w := by
  unfold ofResult
  split
  · rfl
  · exact world_ofPrinted _ _ _

@[simp] theorem world_reported : (e.reported d).world = e.world := by
  unfold reported
  split
  · split <;> rfl
  · rfl

@[simp] theorem world_supervised : e.supervised.world = e.world := by
  unfold supervised
  split
  · split <;> rfl
  · rfl

@[simp] theorem world_ending : (e.ending d).world = e.world := by
  unfold ending
  split
  · rfl
  · rfl
  · split
    · rfl
    · split <;> rfl

end Departure

theorem messages_start (client : Client CoreHook) (w : World Unit) :
    (client.start w).2.messages = w.messages := by
  rw [Client.start]
  split
  · rfl
  · exact World.messages_of_events rfl rfl

theorem messages_stop (client : Client CoreHook) (w : World Unit) :
    (client.stop w).2.messages = w.messages := by
  rw [Client.stop]
  split
  · rfl
  · exact World.messages_of_events rfl rfl

section Prepared

variable {s : Surroundings} {a : CallArguments} {now : Float} {prepared : Call}
  {client : Client CoreHook} {source : Nat → Float}

/-- A call that can be made has an endpoint, and nobody has cancelled its context. -/
theorem ofArguments_kept (h : Call.ofArguments s now a = .ok prepared) :
    prepared.settings.endpoint ≠ "" ∧ (prepared.context.getD .background).cancelled = none := by
  obtain ⟨v, -, h⟩ := Json.bind_eq_ok h
  dsimp only at h
  split at h
  · cases h
  · rename_i hendpoint
    obtain ⟨options, -, h⟩ := Json.bind_eq_ok h
    cases h
    refine ⟨by simpa using hendpoint, ?_⟩
    cases htimeout : a.timeout with
    | none => rfl
    | some seconds =>
      simp only [Call.contextOf]
      split <;> rfl

/-- The client of a call is idle when it is opened. -/
theorem isIdle_start (hcall : Call.ofArguments s now a = .ok prepared)
    (hclient : Client.ofSettings prepared.settings (CoreHook.template id) source = .ok client)
    {w : World Unit} (hsilent : w.events.countP Event.isCall = 0) (hempty : w.cookies = []) :
    (client.start w).1.IsIdle prepared.context (client.start w).2 := by
  obtain ⟨hendpoint, hcontext⟩ := ofArguments_kept hcall
  obtain ⟨hhooks, hbudget⟩ := ofSettings_kept hclient
  have hstarts := switches_start client w
  have hconfig : client.config.endpoint = prepared.settings.endpoint := by
    obtain ⟨level, -, hmade⟩ := Json.bind_eq_ok hclient
    cases hmade
    rfl
  exact {
    hooks := hstarts.hooks.trans hhooks
    endpoint := fun hnone => hendpoint (hconfig.symm.trans (hstarts.config ▸ hnone))
    unmarked := by rw [hstarts.budget, hbudget]; rfl
    context := hcontext
    silent := hstarts.calls.trans hsilent
    empty := hstarts.cookies.trans hempty }

end Prepared

/-! ## Calls -/

variable {s : Surroundings} {a : CallArguments} {c : Conditions} {d : Display}

/-- A call that could be prepared sends what its client sends. -/
theorem messages_ofCall {prepared : Call} {client : Client CoreHook}
    (hcall : Call.ofArguments s c.clock a = .ok prepared)
    (hclient : Client.ofSettings prepared.settings (CoreHook.template id) c.source = .ok client) :
    (Ending.ofCall s d a c).world.messages =
      (prepared.perform a.body (client.start c.world).1 (client.start c.world).2).2.messages := by
  rcases hperform : prepared.perform a.body (client.start c.world).1 (client.start c.world).2 with
    ⟨stop | v, w⟩
  · obtain ⟨diagnostics, hended⟩ := call_of_stop hcall hclient hperform (d := d)
    simp [Ending.ofCall, hended, messages_stop]
  · obtain ⟨diagnostics, hended⟩ := call_of_result hcall hclient hperform (d := d)
    simp [Ending.ofCall, hended, messages_stop]

/-- A call that sends something could be prepared. -/
theorem prepared_of_messages (h : (Ending.ofCall s d a c).world.messages ≠ []) :
    ∃ prepared client, Call.ofArguments s c.clock a = .ok prepared ∧
      Client.ofSettings prepared.settings (CoreHook.template id) c.source = .ok client := by
  have hsilent : c.world.messages = [] := rfl
  cases hcall : Call.ofArguments s c.clock a with
  | error reason =>
    refine absurd ?_ h
    have hcall' : Call.ofArguments s c.world.clock a = .error reason := hcall
    simp [Ending.ofCall, call, hcall', hsilent]
  | ok prepared =>
    cases hclient : Client.ofSettings prepared.settings (CoreHook.template id) c.source with
    | error reason =>
      refine absurd ?_ h
      have hcall' : Call.ofArguments s c.world.clock a = .ok prepared := hcall
      simp [Ending.ofCall, call, hcall', hclient, hsilent]
    | ok client => exact ⟨prepared, client, rfl, hclient⟩

/-- A body of null is no body. -/
theorem ofCall_of_null {typed : String} (hbody : a.body = some typed)
    (hnull : parseBody typed = .ok .null) :
    Ending.ofCall s d a c = Ending.ofCall s d a.withoutBody c := by
  have harguments : Call.ofArguments s c.world.clock a.withoutBody =
      Call.ofArguments s c.world.clock a := rfl
  have hnone : a.withoutBody.body = none := rfl
  have hperform : ∀ (prepared : Call) (client : Client CoreHook) (w : World Unit),
      prepared.perform a.body client w = prepared.perform none client w := by
    intro prepared client w
    simp only [hbody, Call.perform, hnull]
  simp only [Ending.ofCall, call, harguments, hnone, hperform]

section Prepared

variable {prepared : Call} {client : Client CoreHook} {typed : String}
  (hcall : Call.ofArguments s c.clock a = .ok prepared)
  (hclient : Client.ofSettings prepared.settings (CoreHook.template id) c.source = .ok client)
  (hbody : a.body = some typed)

include hcall hclient hbody

/-- The messages of a call are those that its client sends with the body as input. -/
theorem messages_ofCall_of_parseBody {params : Value} (hparams : parseBody typed = .ok params) :
    (Ending.ofCall s d a c).world.messages = ((client.start c.world).1.call CoreHook.perform
      prepared.attemptLimit prepared.operation params none prepared.options prepared.context
      (client.start c.world).2).2.1.messages := by
  rw [messages_ofCall hcall hclient, hbody]
  simp only [Call.perform, hparams]

/-- A body that cannot be read ends the call before anything is sent. -/
theorem ofCall_of_unreadable {fault : Json.Fault}
    (hrefused : parseBody typed = .error (.json fault)) :
    let e := Ending.ofCall s d a c
    e.world.messages = [] ∧ e.output = [] ∧ e.exitCode = 1 := by
  let added := (client.start c.world).2.failures.addReason (.json fault)
  let w : World Unit := { (client.start c.world).2 with failures := added.2 }
  have hperform : prepared.perform a.body (client.start c.world).1 (client.start c.world).2 =
      (.error (.raised added.1), w) := by
    simp only [hbody, Call.perform, hrefused]
    rfl
  have hf : w.failures.get? added.1 = some (.ofReason (.json fault)) := Failures.get?_add_self _ _
  obtain ⟨houtput, hcode, hworld⟩ := ofCall_of_failed hcall hclient hperform hf (d := d)
  refine ⟨?_, houtput, hcode.trans (by cases fault <;> rfl)⟩
  rw [hworld, messages_stop]
  exact messages_start client c.world

section Sent

variable {t₀ : Transmission} (bare : Ending)
  (hbare : ((client.start c.world).1.call CoreHook.perform prepared.attemptLimit prepared.operation
    .null none prepared.options prepared.context (client.start c.world).2).2.1.messages.head? =
    some t₀)

include hbare

theorem bodyFate_of_text (hplain : IsPlainText typed) :
    BodyFate typed bare t₀ (.ofCall s d a c) := by
  have hidle := isIdle_start hcall hclient (w := c.world) rfl rfl
  obtain ⟨t, ht, hmethod, hurl, hsame, htype⟩ :=
    hidle.call_bytes hbare (Text.encodeUtf8 typed.toList)
  have hsent := messages_ofCall_of_parseBody (d := d) hcall hclient hbody (parseBody_of_text hplain)
  exact .text hplain ((congrArg List.head? hsent).trans ht) hmethod hurl hsame htype

section Json

variable {v : Value} (hread : Json.read typed = .ok v) (hvalue : v ≠ .null)

include hread hvalue

theorem bodyFate_of_fits (hfits : Json.Fits 0 v) : BodyFate typed bare t₀ (.ofCall s d a c) := by
  have hidle := isIdle_start hcall hclient (w := c.world) rfl rfl
  have hdata := isData_of_typed hread
  obtain ⟨body, hwritten, hreads⟩ := Json.readBytes_body hdata hfits
  obtain ⟨t, ht, hmethod, hurl, hsame, htype⟩ :=
    hidle.call_json hbare hvalue hdata.ne_bytes hwritten
  have hsent := messages_ofCall_of_parseBody (d := d) hcall hclient hbody (parseBody_of_json hread)
  rw [← hsame] at hreads
  exact .json hread hvalue hfits ((congrArg List.head? hsent).trans ht) hmethod hurl hreads htype

/-- A value that is refused by the encoder ends the call before anything is sent. -/
theorem bodyFate_of_refused (hfits : ¬ Json.Fits 0 v) :
    BodyFate typed bare t₀ (.ofCall s d a c) := by
  have hidle := isIdle_start hcall hclient (w := c.world) rfl rfl
  have hdata := isData_of_typed hread
  obtain ⟨fault, hrefused⟩ := Json.body_refuses hdata hfits
  obtain ⟨e, f, w, hended, hsilent, hf, hfour⟩ :=
    hidle.call_refused hbare hvalue hdata.ne_bytes hrefused
  have hperform : prepared.perform a.body (client.start c.world).1 (client.start c.world).2 =
      (.error (.raised e), w) := by
    simp only [hbody, Call.perform, parseBody_of_json hread]
    exact hended
  obtain ⟨houtput, hcode, hworld⟩ := ofCall_of_failed hcall hclient hperform hf (d := d)
  refine .refused hread hfits ?_ houtput (hcode.trans (by simp [exitStatus, hfour]))
  rw [hworld, messages_stop]
  exact hsilent

end Json

end Sent

end Prepared

/-- Whatever is typed as a body, something becomes of it. -/
theorem ofCall_bodyFate {typed : String} {t₀ : Transmission} (hbody : a.body = some typed)
    (hvalid : (Ending.ofCall s d a.withoutBody c).world.messages.head? = some t₀) :
    BodyFate typed (.ofCall s d a.withoutBody c) t₀ (.ofCall s d a c) ∧ t₀.body = [] := by
  have hsome : (Ending.ofCall s d a.withoutBody c).world.messages ≠ [] := by
    intro hnone
    simp [hnone] at hvalid
  obtain ⟨prepared, client, hcall', hclient⟩ := prepared_of_messages hsome
  have hcall : Call.ofArguments s c.clock a = .ok prepared := hcall'
  rw [messages_ofCall hcall' hclient] at hvalid
  have hbare : ((client.start c.world).1.call CoreHook.perform prepared.attemptLimit
      prepared.operation .null none prepared.options prepared.context
      (client.start c.world).2).2.1.messages.head? = some t₀ := hvalid
  refine ⟨?_, (isIdle_start hcall hclient (w := c.world) rfl rfl).body_of_null hbare⟩
  cases hread : Json.read typed with
  | error fault =>
    by_cases hplain : IsPlainText typed
    · exact bodyFate_of_text hcall hclient hbody _ hbare hplain
    · obtain ⟨hsilent, houtput, hcode⟩ :=
        ofCall_of_unreadable hcall hclient hbody (parseBody_of_unreadable hread hplain)
      exact .unreadable hread hplain hsilent houtput hcode
  | ok v =>
    by_cases hvalue : v = .null
    · subst hvalue
      exact .dropped hread (ofCall_of_null hbody (parseBody_of_json hread))
    · by_cases hfits : Json.Fits 0 v
      · exact bodyFate_of_fits hcall hclient hbody _ hbare hread hvalue hfits
      · exact bodyFate_of_refused hcall hclient hbody _ hbare hread hvalue hfits

/-! ## Bodies that are sent and bodies that are not -/

/-- A call with a body as it is typed. -/
def typedPost (body : String) : List String :=
  ["--json", "call", "POST", "/t", "-e", "api.example.com", "-b", body]

/-- What the typed call is told. -/
def typedPostArguments (body : String) : CallArguments :=
  .ofOptions [(.endpoint, some "api.example.com"), (.body, some body)]
    [(.endpoint, .str "api.example.com"), (.body, .str body)] "POST" "/t"

/-- What the same call is told without a body. -/
def barePostArguments : CallArguments :=
  .ofOptions [(.endpoint, some "api.example.com")] [(.endpoint, .str "api.example.com")] "POST" "/t"

/-- The network answers every call without a body of its own. -/
def silent : Conditions := saying Transport.silence.answer

/-- How the call without a body ends. -/
def barePost : Ending :=
  .ofCall unconfigured (.create unconfigured false (some .json) false false false) barePostArguments
    silent

/-- A whole number with one digit more than are read. -/
def longNumber : String := String.ofList (List.replicate (Json.digitLimit + 1) '1')

end CommandLine

end RequestPipeline
