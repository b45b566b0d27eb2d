import RequestPipeline.Proofs.ClientRequests
import RequestPipeline.Proofs.FirstMessage
import RequestPipeline.Proofs.HeaderFields
import RequestPipeline.Proofs.PlainData

/-!
# The body that is sent

The input of a request becomes the body of its first message: binary data as it is, all else as JSON
with the type of its content among the header fields.  Where the message goes does not depend on the
input, and without input the body stays empty.  The jar of a client that has sent nothing is empty,
so that no cookie comes between a request and its first message.
-/

namespace RequestPipeline

variable {κ μ : Type}

/-! ## Messages -/

namespace Transmission

open Headers

@[simp] theorem method_authorized (t : Transmission) : t.authorized.method = t.method := by
  rw [authorized]
  split <;> rfl

@[simp] theorem url_authorized (t : Transmission) : t.authorized.url = t.url := by
  rw [authorized]
  split <;> rfl

@[simp] theorem body_authorized (t : Transmission) : t.authorized.body = t.body := by
  rw [authorized]
  split <;> rfl

theorem fieldsOf_authorized_of_ne (t : Transmission) {name : List Char}
    (hne : name ≠ "authorization".toList) :
    t.authorized.headers.fieldsOf name = t.headers.fieldsOf name := by
  rw [authorized]
  split
  · rfl
  · exact filter_put_of_ne t.headers.fields _ hne.symm

/-- What a message has from the parts it is made of.  Fields about its way and its length are its
own. -/
structure MadeOf (defaults : Headers) (method target : String) (h : Headers)
    (body : Option Text.Bytes) (t : Transmission) : Prop where
  url : ∃ url, Url.read target.toList = .ok url ∧ t.url = url.rooted
  method : t.method = String.ofList (Text.upper method.toList)
  body : t.body = body.getD []
  type : ∃ merged, defaults.update? h = .ok merged ∧
    t.headers.get? "content-type" = merged.get? "content-type"

variable {defaults : Headers} {cookie? : Url → Option (List Char)} {method target : String}
  {h h' : Headers} {body body' : Option Text.Bytes} {timeout : Float} {t t' : Transmission}

theorem madeOf_ofParts (ht : ofParts defaults cookie? method target h body timeout = .ok t) :
    MadeOf defaults method target h body t := by
  obtain ⟨merged, hmerged, hkept⟩ := fieldsOf_ofParts ht
  obtain ⟨url, _, _, hurl, -, -, rfl⟩ := ofParts_eq_ok ht
  refine ⟨⟨url, hurl, rfl⟩, rfl, rfl, merged, hmerged, get?_of_fieldsOf (hkept _ fun hadded => ?_)⟩
  exact absurd hadded (by decide)

theorem MadeOf.authorized (hmade : MadeOf defaults method target h body t) :
    MadeOf defaults method target h body t.authorized where
  url := by rw [url_authorized]; exact hmade.url
  method := by rw [method_authorized]; exact hmade.method
  body := by rw [body_authorized]; exact hmade.body
  type := by
    obtain ⟨merged, hmerged, htype⟩ := hmade.type
    have hkept := t.fieldsOf_authorized_of_ne
      (by decide : "content-type".toList ≠ "authorization".toList)
    exact ⟨merged, hmerged, (get?_of_fieldsOf hkept).trans htype⟩

/-- Messages to one target go to the same place, whatever they carry. -/
theorem MadeOf.url_eq (hmade : MadeOf defaults method target h body t)
    (hmade' : MadeOf defaults method target h' body' t') : t'.url = t.url := by
  obtain ⟨url, hurl, heq⟩ := hmade.url
  obtain ⟨url', hurl', heq'⟩ := hmade'.url
  obtain rfl := Except.ok.inj (hurl.symm.trans hurl')
  rw [heq, heq']

/-- A message can be made without a cookie, for a target that is a URL and fields that can go out.
-/
theorem exists_ofParts {url : Url} {merged : Headers} (method : String) (body : Option Text.Bytes)
    (timeout : Float) (hurl : Url.read target.toList = .ok url)
    (hmerged : defaults.update? h = .ok merged) (hfree : ∀ url, cookie? url = none) :
    ∃ t, ofParts defaults cookie? method target h body timeout = .ok t := by
  simp only [ofParts, hurl, hmerged, hfree, withCookie, bind, Except.bind, Except.mapError]
  exact ⟨_, rfl⟩

end Transmission

namespace Session

variable {s s' : Session κ μ} {t : Transmission}

/-- Nothing comes out of an empty jar. -/
theorem cookie?_of_cookies (hempty : s.world.cookies = []) (url : Url) : s.cookie? url = none := by
  rw [cookie?]
  cases s.request.config.connection with
  | none => rfl
  | some id =>
    have hjar : s.world.jar (some id) = [] := by simp [World.jar, hempty]
    rw [Option.bind_some, World.cookie?, hjar]
    exact s.world.network.fresh _ _

/-- How far a request has come makes no difference to its message. -/
theorem firstMessage?_congr (hmethod : s'.request.method = s.request.method)
    (hurl : s'.request.url = s.request.url) (hheaders : s'.request.headers = s.request.headers)
    (hbody : s'.request.body = s.request.body) (hconfig : s'.request.config = s.request.config)
    (hcontext : s'.request.context = s.request.context)
    (hclock : s'.world.clock = s.world.clock)
    (hconnections : s'.world.connections = s.world.connections)
    (hnetwork : s'.world.network = s.world.network)
    (hcookies : s'.world.cookies = s.world.cookies) :
    s'.firstMessage? = s.firstMessage? := by
  have hended : s'.isEnded = s.isEnded := by rw [isEnded, isEnded, hcontext, hclock]
  have hopen : s'.IsOpen ↔ s.IsOpen := by rw [IsOpen, IsOpen, hconfig, hconnections]
  have htime : CoreHook.timeLeft s'.request s'.world.clock =
      CoreHook.timeLeft s.request s.world.clock := by
    rw [CoreHook.timeLeft, CoreHook.timeLeft, hcontext, hconfig, hclock]
  have hcookie : s'.cookie? = s.cookie? := by
    funext url
    simp only [cookie?, World.cookie?, World.jar, hconfig, hnetwork, hcookies, hclock]
  simp only [firstMessage?, message?, message, hended, hmethod, hurl, hheaders, hbody, htime, hopen,
    hnetwork, hcookie]

/-- The request in its session has a message that goes first. -/
theorem madeOf_firstMessage? (ht : s.firstMessage? = some t) :
    s.isEnded = false ∧ s.IsOpen ∧ t.MadeOf s.world.network.defaults s.request.method s.request.url
      s.request.headers s.request.body := by
  rw [firstMessage?] at ht
  split at ht
  · cases ht
  · rename_i hlive
    rw [message?] at ht
    split at ht
    · rename_i made hmade
      split at ht
      · rename_i hopen
        cases ht
        exact ⟨by simpa using hlive, hopen, (Transmission.madeOf_ofParts hmade).authorized⟩
      · cases ht
    · cases ht

/-- A body changes neither the target of a message nor whether it goes out. -/
theorem firstMessage?_encoded (ht : s.firstMessage? = some t) (hempty : s.world.cookies = [])
    (body : Option Text.Bytes) {headers : Headers}
    (hmerges : ∃ merged, s.world.network.defaults.update? headers = .ok merged) :
    ∃ t', (s.encoded body headers).firstMessage? = some t' ∧
      t'.MadeOf s.world.network.defaults s.request.method s.request.url headers body := by
  obtain ⟨hlive, hopen, hmade⟩ := madeOf_firstMessage? ht
  obtain ⟨url, hurl, -⟩ := hmade.url
  obtain ⟨merged, hmerged⟩ := hmerges
  obtain ⟨made, hparts⟩ := Transmission.exists_ofParts s.request.method body
    (CoreHook.timeLeft s.request s.world.clock) hurl hmerged (cookie?_of_cookies hempty)
  have hfirst : (s.encoded body headers).firstMessage? = some made.authorized := by
    have hlive' : (s.encoded body headers).isEnded = false := hlive
    have hparts' : (s.encoded body headers).message (CoreHook.timeLeft
        (s.encoded body headers).request (s.encoded body headers).world.clock) = .ok made := hparts
    have hopen' : (s.encoded body headers).IsOpen := hopen
    rw [firstMessage?, hlive', message?, hparts']
    simp [hopen']
  exact ⟨_, hfirst, (Transmission.madeOf_ofParts hparts).authorized⟩

end Session

/-! ## Writing the input -/

/-- The body and the header fields that the input of a request becomes. -/
inductive Request.Encodes (r : Request κ) : Option Text.Bytes → Headers → Prop where
  | nothing (hparams : r.params = .null) : Encodes r r.body r.headers
  | bytes {body} (hparams : r.params = .bytes body) : Encodes r (some body) r.headers
  | json {body} (hvalue : r.params ≠ .null) (hdata : ∀ bytes, r.params ≠ .bytes bytes)
      (hbody : Json.body r.params = .ok body) :
    Encodes r (some body) (r.headers.set "Content-Type" "application/json")

/-- Nothing but the input, the body and the header fields of a request has a part in it. -/
theorem Request.Encodes.of_same {r r' : Request κ} {body : Option Text.Bytes} {headers : Headers}
    (h : r.Encodes body headers) (hparams : r'.params = r.params) (hbody : r'.body = r.body)
    (hheaders : r'.headers = r.headers) : r'.Encodes body headers := by
  cases h with
  | nothing hnull =>
    rw [← hbody, ← hheaders]
    exact .nothing (hparams.trans hnull)
  | bytes hbytes =>
    rw [← hheaders]
    exact .bytes (hparams.trans hbytes)
  | json hvalue hdata hjson =>
    rw [← hparams] at hvalue hdata hjson
    rw [← hheaders]
    exact .json hvalue hdata hjson

namespace CoreHook

open Step

variable {s : Session κ μ} {body : Option Text.Bytes} {headers : Headers}

theorem run_encode_of_encodes (h : s.request.Encodes body headers) :
    (encode : Step κ μ Unit).run s = (.ok (), s.encoded body headers) := by
  cases h with
  | nothing hparams =>
    simp only [encode, encodeWith, run_bind, run_getRequest, hparams]
    rfl
  | bytes hparams =>
    simp only [encode, encodeWith, run_bind, run_getRequest, hparams]
    rfl
  | json hvalue hdata hbody => rw [encode, run_encodeWith Json.body hvalue hdata, hbody]

theorem run_encode_of_refused {fault : Failure.EncodingFault} (hvalue : s.request.params ≠ .null)
    (hdata : ∀ bytes, s.request.params ≠ .bytes bytes)
    (hbody : Json.body s.request.params = .error fault) : (encode : Step κ μ Unit).run s =
      (.ok (), s.rejecting (.cannotEncode s.request.operation.name fault)) := by
  have hkind := Json.refuses_body _ fault hbody
  rw [encode, run_encodeWith Json.body hvalue hdata, hbody]
  simp [hkind]

end CoreHook

/-! ## A whole run -/

namespace Drive

open Request CoreHook

variable {s : Session CoreHook μ} {body : Option Text.Bytes} {headers : Headers}

/-- A request over the core hooks with an endpoint that has not been built yet. -/
structure IsFresh (s : Session CoreHook μ) : Prop extends IsUnsent s where
  clean : s.request.error = none
  unbuilt : s.request.built = false
  endpoint : s.request.config.endpoint ≠ ""

theorem messages_ended (s : Session CoreHook μ) :
    (ended s).world.messages = s.world.messages := by
  have hevents : (ended s).world.events = .phase .complete :: s.world.events := by
    rw [ended, Session.closed]
    split <;> rfl
  exact World.messages_of_events hevents rfl

/-- The end of a run sends nothing. -/
theorem messages_closedBy_finish {α : Type} {d : Drive CoreHook μ α}
    (hhooks : (d.run s).after.request.hooks = template id) :
    ((d.closedBy (finish perform)).run s).after.world.messages =
      (d.run s).after.world.messages := by
  by_cases hgiven : (d.run s).outcome = .error .unfinished
  · rw [run_closedBy_of_unfinished s (finish perform) hgiven]
  · rw [run_closedBy_of_finished s (finish perform) hgiven, run_finish hhooks]
    exact messages_ended _

theorem run_build_of_fresh (h : IsFresh s) (hencodes : s.request.Encodes body headers) :
    ∃ s' ms, (build perform).run s = ⟨.ok (), s', ms⟩ ∧ IsUnsent s'.begun ∧
      s'.begun.firstMessage? = (s.resolved.encoded body headers).firstMessage? := by
  let s₁ := (s.recorded (.phase .validate)).atStage .validated
  let s₂ := (s₁.recorded (.phase .build)).resolved.encoded body headers
  have hvalidate := run_validatePhase h.hooks h.endpoint
  have hbuild : (runPhase perform .build).run s₁ = (.ok (), s₂) := by
    have hcallbacks : (s₁.request.hooks.get .build).callbacks =
        [.resolveEndpoint, .encodeBody] := by
      have hkept : s₁.request.hooks = template id := h.hooks
      rw [hkept]
      rfl
    have hresolve : (perform .resolveEndpoint).run (s₁.recorded (.phase .build)) =
        (.ok (), (s₁.recorded (.phase .build)).resolved) := rfl
    have hencodes' : (s₁.recorded (.phase .build)).resolved.request.Encodes body headers :=
      hencodes.of_same rfl rfl rfl
    exact (run_pair hcallbacks hresolve).trans (run_encode_of_encodes hencodes')
  have hclean : s₂.request.error = none := h.clean
  refine ⟨s₂.asBuilt, [.phase .validate s (.ok ()) (s.recorded (.phase .validate)),
    .phase .build s₁ (.ok ()) s₂], ?_, ⟨h.hooks, h.context, h.unmarked, ?_⟩,
    Session.firstMessage?_congr rfl rfl rfl rfl rfl rfl rfl rfl rfl rfl⟩
  · simp [build, run_bind, h.clean, h.unbuilt, hvalidate, run_stopIfFailed, hclean, hbuild, s₁, s₂]
  · have hevents : s₂.asBuilt.begun.world.events =
        .phase .build :: .phase .validate :: s.world.events := rfl
    have hsilent : s.world.events.countP Event.isCall = 0 := h.silent
    simp [Session.calls, hevents, Event.isCall, hsilent]

/-- The first message of a run is the one that goes to the resolved target with the body that the
input becomes. -/
theorem head?_messages_send (h : IsFresh s) (hencodes : s.request.Encodes body headers)
    (limit : Nat) :
    ((send perform (limit + 1)).run s).after.world.messages.head? =
      (s.resolved.encoded body headers).firstMessage? := by
  obtain ⟨s', ms, hbuild, hunsent, hfirst⟩ := run_build_of_fresh h hencodes
  have hdeliver : (deliver perform (limit + 1)).run s =
      ⟨((attempts perform (limit + 1)).run s'.begun).outcome,
        ((attempts perform (limit + 1)).run s'.begun).after,
        ms ++ ((attempts perform (limit + 1)).run s'.begun).marks⟩ := by
    simp [deliver, run_bind, hbuild]
  have hkept : ((deliver perform (limit + 1)).run s).after.request.hooks = template id := by
    rw [hdeliver]
    exact (later_areRounds (areRounds_run perform s'.begun (limit + 1))).hooks.trans hunsent.hooks
  rw [send, messages_closedBy_finish hkept, hdeliver]
  exact (head?_messages_attempts hunsent limit).trans hfirst

/-- Input that is refused fails the build of a request, and nothing is sent. -/
theorem run_send_of_refused {fault : Failure.EncodingFault} (h : IsFresh s)
    (hvalue : s.request.params ≠ .null) (hdata : ∀ bytes, s.request.params ≠ .bytes bytes)
    (hbody : Json.body s.request.params = .error fault) (limit : Nat) :
    ∃ e f, ((send perform limit).run s).outcome = .error (.raised e) ∧
      ((send perform limit).run s).after.calls = s.calls ∧
      ((send perform limit).run s).after.world.failures.get? e = some f ∧
      f.exitCode? = some 4 := by
  let s₁ := (s.recorded (.phase .validate)).atStage .validated
  let s₂ := (s₁.recorded (.phase .build)).resolved
  let s₃ := s₂.rejecting (.cannotEncode s.request.operation.name fault)
  have hvalidate := run_validatePhase h.hooks h.endpoint
  have hbuild : (runPhase perform .build).run s₁ = (.ok (), s₃) := by
    have hcallbacks : (s₁.request.hooks.get .build).callbacks =
        [.resolveEndpoint, .encodeBody] := by
      have hkept : s₁.request.hooks = template id := h.hooks
      rw [hkept]
      rfl
    have hresolve : (perform .resolveEndpoint).run (s₁.recorded (.phase .build)) = (.ok (), s₂) :=
      rfl
    exact (run_pair hcallbacks hresolve).trans (run_encode_of_refused (s := s₂) hvalue hdata hbody)
  let e := (s₂.world.failures.addReason (.cannotEncode s.request.operation.name fault)).1
  obtain ⟨f, hf, hcode⟩ := s₂.world.failures.exists_addReason_self
    (.cannotEncode s.request.operation.name fault)
  have herror : s₃.request.error = some e := rfl
  obtain ⟨ms, hdeliver⟩ : ∃ ms, (deliver perform limit).run s =
      ⟨.error (.raised e), s₃.failed "Build", ms⟩ :=
    ⟨[.phase .validate s (.ok ()) (s.recorded (.phase .validate)), .phase .build s₁ (.ok ()) s₃], by
      simp [deliver, build, run_bind, h.clean, h.unbuilt, hvalidate, run_stopIfFailed, hbuild,
        herror, s₁]⟩
  have hhooks : (s₃.failed "Build").request.hooks = template id := by
    rw [Session.request_failed]
    exact h.hooks
  have hfinished : ((deliver perform limit).run s).outcome ≠ .error .unfinished := by
    simp [hdeliver]
  rw [send, run_closedBy_of_finished s _ hfinished, hdeliver, run_finish hhooks]
  refine ⟨e, f, rfl, ?_, ?_, hcode⟩
  · rw [calls_ended, Session.calls_failed]
    have hevents : s₃.world.events = .phase .build :: .phase .validate :: s.world.events := rfl
    simp [Session.calls, hevents, Event.isCall]
  · rw [failures_ended, Session.failures_failed]
    exact hf

/-- A request that has failed before is not sent. -/
theorem messages_send_of_failed {e : FailureId} (hhooks : s.request.hooks = template id)
    (herror : s.request.error = some e) (limit : Nat) :
    ((send perform limit).run s).after.world.messages = s.world.messages := by
  have hdeliver : (deliver perform limit).run s = ⟨.error (.raised e), s, []⟩ := by
    simp [deliver, build, run_bind, herror]
  have hkept : ((deliver perform limit).run s).after.request.hooks = template id := by
    rw [hdeliver]
    exact hhooks
  rw [send, messages_closedBy_finish hkept, hdeliver]

end Drive

/-! ## The request of a client -/

namespace Client

open CoreHook Session

variable {c : Client CoreHook} {w : World μ} {operation : Operation} {options : List RequestOption}
  {context : Option Context}

/-- A client over the core hooks with an endpoint, before anything has gone out or come back. -/
structure IsIdle (c : Client CoreHook) (context : Option Context) (w : World μ) : Prop where
  hooks : c.hooks = template id
  endpoint : c.config.endpoint ≠ ""
  unmarked : c.budget.marked = false
  context : (context.getD .background).cancelled = none
  silent : w.events.countP Event.isCall = 0
  empty : w.cookies = []

theorem IsIdle.isUnsent (h : c.IsIdle context w) (operation : Operation) (params : Value)
    (options : List RequestOption) :
    Drive.IsUnsent (c.ready context (c.newRequest operation params none options w).2) := by
  have hoptioned := Step.optioned_applyOptions options (c.blankRequest operation params none w)
  have hchanged := hoptioned.request
  have hblank := request_blankRequest c operation params w
  refine ⟨?_, h.context, ?_, ?_⟩
  · exact ((congrArg Request.hooks hchanged :).trans (congrArg Request.hooks hblank :)).trans
      h.hooks
  · have hbudget := (congrArg Request.budget hchanged :).trans (congrArg Request.budget hblank :)
    exact (congrArg RetryBudget.marked hbudget).trans h.unmarked
  · have hevents := hoptioned.events.trans
      (congrArg World.events (world_blankRequest c operation params w) :)
    exact (congrArg (List.countP Event.isCall) hevents).trans h.silent

/-- A new request of an idle client can be sent unless it has failed when it was made. -/
theorem IsIdle.isFresh (h : c.IsIdle context w) (operation : Operation) (params : Value)
    (options : List RequestOption)
    (hclean : (c.newRequest operation params none options w).2.request.error = none) :
    Drive.IsFresh (c.ready context (c.newRequest operation params none options w).2) := by
  have hoptioned := Step.optioned_applyOptions options (c.blankRequest operation params none w)
  have hchanged := hoptioned.request
  have hblank := request_blankRequest c operation params w
  refine ⟨h.isUnsent operation params options, hclean, ?_, ?_⟩
  · exact (congrArg Request.built hchanged :).trans (congrArg Request.built hblank :)
  · have hendpoint := hoptioned.endpoint.trans (congrArg (fun r => r.config.endpoint) hblank :)
    exact fun hempty => h.endpoint (hendpoint.symm.trans hempty)

/-- A new request has its input and no body. -/
theorem unwritten_newRequest (c : Client κ) (operation : Operation) (params : Value)
    (options : List RequestOption) (w : World μ) :
    (c.newRequest operation params none options w).2.request.body = none ∧
      (c.newRequest operation params none options w).2.request.params = params := by
  have hchanged := (Step.optioned_applyOptions options
    (c.blankRequest operation params none w)).request
  have hblank := request_blankRequest c operation params w
  exact ⟨(congrArg Request.body hchanged :).trans (congrArg Request.body hblank :),
    (congrArg Request.params hchanged :).trans (congrArg Request.params hblank :)⟩

/-- A client that sends something has made a request without failure. -/
theorem IsIdle.made_of_messages {limit : Nat} {params : Value} (h : c.IsIdle context w)
    (hsome : (c.call perform limit operation params none options context w).2.1.messages ≠ []) :
    ∃ s, c.newRequest operation params none options w = (.ok (), s) ∧ s.request.error = none := by
  have hnothing : w.messages = [] := (World.messages_eq_nil_iff w).2 h.silent
  have hevents : (c.newRequest operation params none options w).2.world.events = w.events :=
    (Step.optioned_applyOptions options (c.blankRequest operation params none w)).events
  have hsilent : (c.newRequest operation params none options w).2.world.messages = [] := by
    rw [World.messages, hevents]
    exact hnothing
  have hunsent := h.isUnsent operation params options
  rw [world_call] at hsome
  rcases hnew : c.newRequest operation params none options w with ⟨stop | _, s⟩ <;>
    rw [hnew] at hsome hunsent hsilent <;> dsimp only at hsome hunsent
  · exact absurd hsilent hsome
  · cases herror : s.request.error with
    | some e =>
      rw [Drive.messages_send_of_failed hunsent.hooks herror] at hsome
      exact absurd hsilent hsome
    | none => exact ⟨s, rfl, herror⟩

/-- The first message of a call carries the body that its input becomes. -/
theorem IsIdle.head?_messages_call {limit : Nat} {params : Value} {body : Option Text.Bytes}
    {headers : Headers} {s : Session CoreHook μ} (h : c.IsIdle context w)
    (hnew : c.newRequest operation params none options w = (.ok (), s))
    (hclean : s.request.error = none) (hencodes : s.request.Encodes body headers) :
    (c.call perform (limit + 1) operation params none options context w).2.1.messages.head? =
      ((c.ready context s).resolved.encoded body headers).firstMessage? := by
  have hfresh := h.isFresh operation params options
  rw [hnew] at hfresh
  have hencodes' : (c.ready context s).request.Encodes body headers := hencodes.of_same rfl rfl rfl
  rw [world_call, hnew]
  dsimp only at hfresh ⊢
  exact Drive.head?_messages_send (hfresh hclean) hencodes' limit

/-- A client that sends a request without input sends the same request with input to the same
target. -/
theorem IsIdle.exists_bare {limit : Nat} {t : Transmission} (h : c.IsIdle context w)
    (ht : (c.call perform (limit + 1) operation .null none options context w).2.1.messages.head? =
      some t) :
    ∃ s : Session CoreHook μ, s.request.body = none ∧ s.world.cookies = [] ∧
      s.firstMessage? = some t ∧
      ∀ {params body headers}, (s.request.withParams params).Encodes body headers →
        (c.call perform (limit + 1) operation params none options context w).2.1.messages.head? =
          (s.encoded body headers).firstMessage? := by
  have hsome : (c.call perform (limit + 1) operation .null none options context
      w).2.1.messages ≠ [] := by
    intro hnone
    simp [hnone] at ht
  obtain ⟨s, hnew, hclean⟩ := h.made_of_messages hsome
  obtain ⟨hbody, hparams⟩ := unwritten_newRequest c operation .null options w
  have hempty : s.world.cookies = [] := by
    have hcookies := (Step.optioned_applyOptions options
      (c.blankRequest operation .null none w)).cookies
    rw [← newRequest, hnew] at hcookies
    exact hcookies.trans h.empty
  rw [hnew] at hbody hparams
  refine ⟨(c.ready context s).resolved, hbody, hempty, ?_, fun {params body headers} hencodes => ?_⟩
  · have hsame : (c.ready context s).resolved.firstMessage? =
        ((c.ready context s).resolved.encoded s.request.body s.request.headers).firstMessage? :=
      Session.firstMessage?_congr rfl rfl rfl rfl rfl rfl rfl rfl rfl rfl
    exact (hsame.trans (h.head?_messages_call hnew hclean (.nothing hparams)).symm).trans ht
  · have hnew' : c.newRequest operation params none options w = (.ok (), s.withParams params) := by
      rw [newRequest_withParams, hnew]
    have hsame : ((c.ready context (s.withParams params)).resolved.encoded body
        headers).firstMessage? =
          ((c.ready context s).resolved.encoded body headers).firstMessage? :=
      Session.firstMessage?_congr rfl rfl rfl rfl rfl rfl rfl rfl rfl rfl
    exact (h.head?_messages_call hnew' hclean (hencodes.of_same rfl rfl rfl)).trans hsame

section Sent

variable {limit : Nat} {t : Transmission} (h : c.IsIdle context w)
  (ht : (c.call perform (limit + 1) operation .null none options context w).2.1.messages.head? =
    some t)

include h ht

theorem IsIdle.body_of_null : t.body = [] := by
  obtain ⟨s, hbody, -, hfirst, -⟩ := h.exists_bare ht
  have hmade := (Session.madeOf_firstMessage? hfirst).2.2
  rw [hmade.body, hbody]
  rfl

/-- Binary data is the body as it is. -/
theorem IsIdle.call_bytes (body : Text.Bytes) :
    ∃ t', (c.call perform (limit + 1) operation (.bytes body) none options context
        w).2.1.messages.head? = some t' ∧
      t'.method = t.method ∧ t'.url = t.url ∧ t'.body = body ∧
      t'.headers.get? "content-type" = t.headers.get? "content-type" := by
  obtain ⟨s, -, hempty, hfirst, hsent⟩ := h.exists_bare ht
  have hmade := (Session.madeOf_firstMessage? hfirst).2.2
  obtain ⟨merged, hmerged, htype⟩ := hmade.type
  obtain ⟨t', ht', hmade'⟩ :=
    Session.firstMessage?_encoded hfirst hempty (some body) ⟨merged, hmerged⟩
  obtain ⟨merged', hmerged', htype'⟩ := hmade'.type
  obtain rfl := Except.ok.inj (hmerged.symm.trans hmerged')
  exact ⟨t', (hsent (.bytes rfl)).trans ht', hmade'.method.trans hmade.method.symm,
    hmade.url_eq hmade', hmade'.body, htype'.trans htype.symm⟩

/-- All else is written as JSON, and the message says so. -/
theorem IsIdle.call_json {params : Value} {body : Text.Bytes} (hvalue : params ≠ .null)
    (hdata : ∀ bytes, params ≠ .bytes bytes) (hwritten : Json.body params = .ok body) :
    ∃ t', (c.call perform (limit + 1) operation params none options context w).2.1.messages.head? =
        some t' ∧ t'.method = t.method ∧ t'.url = t.url ∧ t'.body = body ∧
      t'.headers.get? "content-type" = some "application/json".toList := by
  obtain ⟨s, -, hempty, hfirst, hsent⟩ := h.exists_bare ht
  have hmade := (Session.madeOf_firstMessage? hfirst).2.2
  obtain ⟨merged, hmerged, -⟩ := hmade.type
  have hmerges := Headers.exists_update?_set ⟨merged, hmerged⟩ "Content-Type" "application/json"
    (by decide)
  obtain ⟨t', ht', hmade'⟩ := Session.firstMessage?_encoded hfirst hempty (some body) hmerges
  obtain ⟨merged', hmerged', htype⟩ := hmade'.type
  have hset : (s.request.headers.set "Content-Type" "application/json").fieldsOf
      "content-type".toList = [⟨"content-type".toList, "application/json".toList⟩] :=
    s.request.headers.fieldsOf_set_self "Content-Type" "application/json"
  have hwins := (Headers.fieldsOf_update? hmerged' (hset ▸ List.cons_ne_nil _ _)).trans hset
  exact ⟨t', (hsent (.json hvalue hdata hwritten)).trans ht', hmade'.method.trans hmade.method.symm,
    hmade.url_eq hmade', hmade'.body, htype.trans (Headers.get?_of_single hwins)⟩

/-- Input that is refused ends the call before anything is sent. -/
theorem IsIdle.call_refused {params : Value} {fault : Failure.EncodingFault}
    (hvalue : params ≠ .null) (hdata : ∀ bytes, params ≠ .bytes bytes)
    (hrefused : Json.body params = .error fault) :
    ∃ e f w', ((c.call perform (limit + 1) operation params none options context w).1,
        (c.call perform (limit + 1) operation params none options context w).2.1) =
          (.error (.raised e), w') ∧
      w'.messages = [] ∧ w'.failures.get? e = some f ∧ f.exitCode? = some 4 := by
  have hsome : (c.call perform (limit + 1) operation .null none options context
      w).2.1.messages ≠ [] := by
    intro hnone
    simp [hnone] at ht
  obtain ⟨s, hnew, hclean⟩ := h.made_of_messages hsome
  have hnew' : c.newRequest operation params none options w = (.ok (), s.withParams params) := by
    rw [newRequest_withParams, hnew]
  have hfresh := h.isFresh operation params options
  rw [hnew'] at hfresh
  obtain ⟨e, f, houtcome, hcalls, hf, hcode⟩ :=
    Drive.run_send_of_refused (hfresh hclean) hvalue hdata hrefused (limit + 1)
  refine ⟨e, f, _, ?_, ?_, hf, hcode⟩
  · rw [run_call, hnew']
    dsimp only
    rw [houtcome]
  · rw [World.messages_eq_nil_iff]
    exact hcalls.trans (hfresh hclean).silent

end Sent

end Client

end RequestPipeline
