import RequestPipeline.Proofs.Endpoint
import RequestPipeline.Proofs.Frames
import RequestPipeline.Proofs.Rebuild
import RequestPipeline.Proofs.SentBody

/-!
# The message of a run

The build makes a request what it is to be sent as.  Behind it nothing changes the method, the
target, the header fields or the body any more: neither the hooks of an attempt nor what happens
between two attempts.  So all messages of a run say the same, as long as no answer leads elsewhere.
Only the cookie may differ, since an answer may set one for the next message; it does not if the jar
is empty and no answer sets any, or if the request brings a cookie of its own.
-/

namespace RequestPipeline

variable {κ μ : Type}

/-! ## Messages of the same parts -/

namespace Transmission

open Headers

/-- The message says the same as another one, but for the cookie. -/
structure Repeats (t t' : Transmission) : Prop where
  method : t.method = t'.method
  url : t.url = t'.url
  headers : t.headers.erase "cookie" = t'.headers.erase "cookie"
  body : t.body = t'.body

variable {defaults h : Headers} {cookie? cookie?' : Url → Option (List Char)}
  {method target : String} {body : Option Text.Bytes} {timeout timeout' : Float}
  {t t' : Transmission}

/-- Messages of the same parts say the same, but for the cookie. -/
theorem repeats_ofParts (ht : ofParts defaults cookie? method target h body timeout = .ok t)
    (ht' : ofParts defaults cookie?' method target h body timeout' = .ok t') : t.Repeats t' := by
  obtain ⟨url, merged, brought, hurl, hmerged, hcookie, rfl⟩ := ofParts_eq_ok ht
  obtain ⟨url', merged', brought', hurl', hmerged', hcookie', rfl⟩ := ofParts_eq_ok ht'
  obtain rfl := Except.ok.inj (hurl.symm.trans hurl')
  obtain rfl := Except.ok.inj (hmerged.symm.trans hmerged')
  have hsame : brought.SameButCookie brought' :=
    (sameButCookie_withCookie hcookie).trans (sameButCookie_withCookie hcookie').symm
  exact ⟨rfl, rfl, erase_completed _ _ (SameButCookie.withLength hsame _), rfl⟩

/-- A cookie from the jar finds no place if there is none, or if the request brings one. -/
theorem headers_ofParts (ht : ofParts defaults cookie? method target h body timeout = .ok t)
    (ht' : ofParts defaults cookie?' method target h body timeout' = .ok t')
    (hfree : (∀ url, cookie? url = none ∧ cookie?' url = none) ∨
      h.fieldsOf "cookie".toList ≠ []) : t.headers = t'.headers := by
  obtain ⟨url, merged, brought, hurl, hmerged, hcookie, rfl⟩ := ofParts_eq_ok ht
  obtain ⟨url', merged', brought', hurl', hmerged', hcookie', rfl⟩ := ofParts_eq_ok ht'
  obtain rfl := Except.ok.inj (hurl.symm.trans hurl')
  obtain rfl := Except.ok.inj (hmerged.symm.trans hmerged')
  have hthere : h.fieldsOf "cookie".toList ≠ [] → merged.contains "cookie" = true := by
    intro hgiven
    rw [contains_eq, fieldsOf_update? hmerged hgiven]
    simpa using hgiven
  have hbrought : brought.fields = merged.fields :=
    fields_withCookie hcookie (hfree.imp (fun h => (h _).1) hthere)
  have hbrought' : brought'.fields = merged.fields :=
    fields_withCookie hcookie' (hfree.imp (fun h => (h _).2) hthere)
  exact completed_of_fields (hbrought.trans hbrought'.symm) _ _ _

theorem Repeats.authorized (h : t.Repeats t') : t.authorized.Repeats t'.authorized := by
  have hheaders : t.authorized.headers.erase "cookie" = t'.authorized.headers.erase "cookie" := by
    simp only [Transmission.authorized, h.url]
    rcases t'.url.credentials? with _ | ⟨user, password⟩
    · exact h.headers
    · have hne : "authorization".toList ≠ "cookie".toList := by decide
      have hfields := congrArg Headers.fields h.headers
      have hsettled := congrArg Headers.settled h.headers
      simp only [erase] at hfields hsettled
      have hput := fun fields => filter_ne_put fields
        ⟨"authorization".toList, basicAuth user password⟩ hne
      simp only [erase, hput, hfields, hsettled]
  refine ⟨?_, ?_, hheaders, ?_⟩
  · rw [method_authorized, method_authorized, h.method]
  · rw [url_authorized, url_authorized, h.url]
  · rw [body_authorized, body_authorized, h.body]

end Transmission

namespace Request

open Transmission

variable {r r' : Request κ} {defaults : Headers} {cookie cookie' : Option (List Char)}
  {t t' : Transmission}

/-- The message of the request with a cookie, in whatever time it is to be answered. -/
def Makes (r : Request κ) (defaults : Headers) (cookie : Option (List Char)) (t : Transmission) :
    Prop :=
  ∃ timeout made, Transmission.ofParts defaults (fun _ => cookie) r.method r.url r.headers r.body
    timeout = .ok made ∧ t = made.authorized

theorem Makes.repeats (h : r.Makes defaults cookie t) (h' : r.Makes defaults cookie' t') :
    t.Repeats t' := by
  obtain ⟨_, _, hmade, rfl⟩ := h
  obtain ⟨_, _, hmade', rfl⟩ := h'
  exact (repeats_ofParts hmade hmade').authorized

theorem Makes.headers_eq (h : r.Makes defaults cookie t) (h' : r.Makes defaults cookie' t')
    (hfree : cookie = none ∧ cookie' = none ∨ r.headers.fieldsOf "cookie".toList ≠ []) :
    t.headers = t'.headers := by
  obtain ⟨_, made, hmade, rfl⟩ := h
  obtain ⟨_, made', hmade', rfl⟩ := h'
  have hheaders := headers_ofParts hmade hmade' (hfree.imp (fun h _ => h) id)
  have hurl := (repeats_ofParts hmade hmade').url
  simp only [Transmission.authorized, hurl]
  rcases made'.url.credentials? with _ | ⟨user, password⟩
  · exact hheaders
  · simp only [hheaders]

/-- Only the method, the target, the fields and the body of a request become its message. -/
theorem Makes.of_same (h : r.Makes defaults cookie t) (hmethod : r.method = r'.method)
    (hurl : r.url = r'.url) (hfields : r.headers.fields = r'.headers.fields)
    (hbody : r.body = r'.body) : r'.Makes defaults cookie t := by
  obtain ⟨timeout, made, hmade, rfl⟩ := h
  refine ⟨timeout, made, ?_, rfl⟩
  rw [← hmade, hmethod, hurl, hbody]
  exact (Transport.ofParts_congr _ _ _ _ _ hfields timeout).symm

end Request

/-- The message of a request in its session, with the cookie for its target. -/
theorem Session.makes_of_message {s : Session κ μ} {timeout : Float} {t : Transmission}
    (h : s.message timeout = .ok t) :
    s.request.Makes s.world.network.defaults (s.cookie? t.url) t.authorized := by
  obtain ⟨url, merged, brought, hurl, hmerged, hcookie, rfl⟩ := Transmission.ofParts_eq_ok h
  refine ⟨timeout, _, ?_, rfl⟩
  simp only [Transmission.ofParts, hurl, hmerged, hcookie, bind, Except.bind, Except.mapError]
  rfl

/-! ## Attempts -/

theorem Transport.mem_of_mem_afterCall {tape : List Outcome} {outcome : Outcome}
    (h : outcome ∈ afterCall tape) : outcome ∈ tape := by
  rcases tape with _ | ⟨first, _ | ⟨second, rest⟩⟩
  · exact h
  · exact h
  · exact List.mem_cons_of_mem first h

/-- No answer on the tape is a redirect. -/
def World.IsDirect (w : World μ) : Prop :=
  ∀ outcome ∈ w.tape, ∀ a, outcome.answer = .response a → a.location? = none

/-- No answer on the tape sets a cookie. -/
def World.SetsNoCookie (w : World μ) : Prop :=
  ∀ outcome ∈ w.tape, ∀ a, outcome.answer = .response a → a.headers.contains "set-cookie" = false

namespace Session

/-- No cookie comes to the messages of the request: if it goes over connections that others use too,
their jar is empty, and no answer will set one. -/
def IsCookieless (s : Session κ μ) : Prop :=
  ∀ id, s.request.config.connection = some id →
    s.world.jar (some id) = [] ∧ s.world.SetsNoCookie

/-- A request over the core hooks without redirects on its tape, and without cookies for its
messages if they are to be `plain`. -/
structure IsDirect (plain : Prop) (s : Session CoreHook μ) : Prop where
  hooks : s.request.hooks = CoreHook.template id
  world : s.world.IsDirect
  cookieless : plain → s.IsCookieless

/-- Nothing but the message of the request goes out, and it stays the message of the request.  If
messages are to be `plain`, no cookie comes to them. -/
structure Conveys (plain : Prop) (s s' : Session κ μ) : Prop where
  method : s'.request.method = s.request.method
  url : s'.request.url = s.request.url
  fields : s'.request.headers.fields = s.request.headers.fields
  body : s'.request.body = s.request.body
  hooks : s'.request.hooks = s.request.hooks
  connection : s'.request.config.connection = s.request.config.connection
  network : s'.world.network = s.world.network
  tape : ∀ outcome ∈ s'.world.tape, outcome ∈ s.world.tape
  cookieless : plain → s.IsCookieless → s'.IsCookieless
  messages : ∃ sent, s'.world.messages = s.world.messages ++ sent ∧
    ∀ t ∈ sent, ∃ cookie, (plain → s.IsCookieless → cookie = none) ∧
      s.request.Makes s.world.network.defaults cookie t

section Conveys

variable {plain : Prop} {s s₁ s₂ : Session κ μ}

theorem IsCookieless.of_same (h : s.IsCookieless)
    (hconnection : s₁.request.config.connection = s.request.config.connection)
    (hcookies : s₁.world.cookies = s.world.cookies)
    (htape : ∀ outcome ∈ s₁.world.tape, outcome ∈ s.world.tape) : s₁.IsCookieless := by
  intro id hid
  obtain ⟨hjar, hsets⟩ := h id (hconnection ▸ hid)
  refine ⟨?_, fun o ho => hsets o (htape o ho)⟩
  rw [World.jar, hcookies]
  exact hjar

theorem IsCookieless.cookie?_eq_none (h : s.IsCookieless) (url : Url) : s.cookie? url = none := by
  rw [cookie?]
  cases hconnection : s.request.config.connection with
  | none => rfl
  | some id =>
    rw [Option.bind_some, World.cookie?, (h id hconnection).1]
    exact s.world.network.fresh _ _

/-- Changes to the request that have no part in its messages. -/
theorem conveys_of_request (hmethod : s₁.request.method = s.request.method)
    (hurl : s₁.request.url = s.request.url)
    (hfields : s₁.request.headers.fields = s.request.headers.fields)
    (hbody : s₁.request.body = s.request.body) (hhooks : s₁.request.hooks = s.request.hooks)
    (hconnection : s₁.request.config.connection = s.request.config.connection)
    (hworld : s₁.world = s.world) : s.Conveys plain s₁ :=
  ⟨hmethod, hurl, hfields, hbody, hhooks, hconnection, by rw [hworld], fun _ => hworld ▸ id,
    fun _ h => h.of_same hconnection (by rw [hworld]) fun _ => hworld ▸ id, [],
    by simp [hworld], nofun⟩

theorem Conveys.trans (h : s.Conveys plain s₁) (h' : s₁.Conveys plain s₂) : s.Conveys plain s₂ := by
  obtain ⟨sent, hmessages, hsent⟩ := h.messages
  obtain ⟨sent', hmessages', hsent'⟩ := h'.messages
  refine ⟨h'.method.trans h.method, h'.url.trans h.url, h'.fields.trans h.fields,
    h'.body.trans h.body, h'.hooks.trans h.hooks, h'.connection.trans h.connection,
    h'.network.trans h.network, fun o ho => h.tape o (h'.tape o ho),
    fun hplain hs => h'.cookieless hplain (h.cookieless hplain hs), sent ++ sent', ?_, ?_⟩
  · rw [hmessages', hmessages, List.append_assoc]
  · intro t ht
    rcases List.mem_append.1 ht with ht | ht
    · exact hsent t ht
    · obtain ⟨cookie, hnone, hmakes⟩ := hsent' t ht
      rw [h.network] at hmakes
      exact ⟨cookie, fun hplain hs => hnone hplain (h.cookieless hplain hs),
        hmakes.of_same h.method h.url h.fields h.body⟩

theorem frame_conveys : Frame (Conveys plain : Session κ μ → Session κ μ → Prop) where
  refl _ := conveys_of_request rfl rfl rfl rfl rfl rfl rfl
  trans := .trans
  request _ _ h := conveys_of_request h.method h.url h.fields h.body h.hooks h.connection rfl
  world _ _ htape hmessages hnetwork hcookies :=
    ⟨rfl, rfl, rfl, rfl, rfl, rfl, hnetwork, fun _ => htape ▸ id,
      fun _ h => h.of_same rfl hcookies fun _ => htape ▸ id, [], by simp [hmessages], nofun⟩

theorem conveys_called {cookie : Option (List Char)} {t : Transmission}
    (hnone : plain → s.IsCookieless → cookie = none)
    (ht : s.request.Makes s.world.network.defaults cookie t) : s.Conveys plain (s.called t) := by
  have htape : ∀ o ∈ (s.called t).world.tape, o ∈ s.world.tape :=
    fun _ => Transport.mem_of_mem_afterCall
  refine ⟨rfl, rfl, rfl, rfl, rfl, rfl, rfl, htape, fun _ h => h.of_same rfl rfl htape, [t], ?_,
    ?_⟩
  · simp [World.messages, called, Event.message?]
  · intro t' ht'
    obtain rfl := List.mem_singleton.1 ht'
    exact ⟨cookie, hnone, ht⟩

/-- An answer that sets no cookie leaves the jar as it is. -/
theorem conveys_keeping (client : Option ConnectionId) (url : Url) {a : Response}
    (hsets : plain → ∀ id, s.request.config.connection = some id →
      a.headers.contains "set-cookie" = false) : s.Conveys plain (s.keeping client url a) := by
  have hworld : (s.keeping client url a).world = s.world.keepCookies client url a := rfl
  refine ⟨rfl, rfl, rfl, rfl, rfl, rfl, ?_, fun o ho => ?_, fun hplain h id hid => ?_, [],
    ?_, nofun⟩
  · rw [hworld, World.keepCookies]
    split <;> rfl
  · simpa [hworld] using ho
  · have hnothing : s.keeping client url a = s := by
      rw [keeping, World.keepCookies, if_neg (by simp [hsets hplain id hid])]
    rw [hnothing]
    exact h id hid
  · simp [hworld]

theorem conveys_dialled (s : Session κ μ) : s.Conveys plain s.dialled := by
  rw [dialled]
  split
  · rename_i hnone
    refine ⟨rfl, rfl, rfl, rfl, rfl, rfl, rfl, fun _ => id, fun _ _ id hid => ?_, [], ?_,
      fun _ ht => absurd ht List.not_mem_nil⟩
    · cases hnone.symm.trans hid
    · rw [List.append_nil]
      exact World.messages_of_events rfl rfl
  · exact frame_conveys.refl s

theorem conveys_hungUp (connection : Option ConnectionId) (s : Session κ μ) :
    s.Conveys plain (s.hungUp connection) := by
  cases connection with
  | none => exact frame_conveys.within_record (by rfl) s
  | some _ => exact frame_conveys.refl s

end Conveys

variable {plain : Prop}

theorem IsDirect.of_conveys {s s' : Session CoreHook μ} (h : s.IsDirect plain)
    (hconveys : s.Conveys plain s') : s'.IsDirect plain where
  hooks := hconveys.hooks.trans h.hooks
  world outcome hmem := h.world outcome (hconveys.tape outcome hmem)
  cookieless hplain := hconveys.cookieless hplain (h.cookieless hplain)

/-- What runs over direct answers keep to. -/
theorem frame_guarded : Frame (Guarded (IsDirect plain)
    (Conveys plain : Session CoreHook μ → Session CoreHook μ → Prop)) :=
  frame_conveys.guarded IsDirect.of_conveys

end Session

namespace Transport

open Step Session

/-- What holds of all answers that are still to come holds of the next one. -/
theorem answer_outcomeAt {P : Response → Prop} {tape : List Outcome} {a : Response}
    (hsilence : P (.received 200 .empty []))
    (h : ∀ outcome ∈ tape, ∀ a, outcome.answer = .response a → P a)
    (hanswer : (outcomeAt tape 0).answer = .response a) : P a := by
  match tape with
  | [] =>
    cases hanswer
    exact hsilence
  | [last] => exact h last List.mem_cons_self a hanswer
  | first :: _ :: _ => exact h first List.mem_cons_self a hanswer

variable {plain : Prop}

/-- Answers that do not lead elsewhere are the end of an attempt. -/
theorem conveys_deliver {s : Session CoreHook μ} {cookie : Option (List Char)} {t : Transmission}
    (client : Option ConnectionId) (hdirect : s.IsDirect plain)
    (hnone : plain → s.IsCookieless → cookie = none)
    (ht : s.request.Makes s.world.network.defaults cookie t.authorized) (follows : Bool) :
    s.Conveys plain ((deliver client t follows).run s).2 := by
  have hexchange : s.Conveys plain ((exchange client t.authorized).run s).2 := by
    refine (conveys_called hnone ht).trans
      (frame_conveys.keeps_exchange client _ s fun a s₁ hanswer hs₁ => ?_)
    refine conveys_keeping client _ fun hplain id hid => ?_
    have hsets := (hdirect.cookieless hplain id (hs₁.connection ▸ hid)).2
    exact answer_outcomeAt (P := fun a => a.headers.contains "set-cookie" = false) rfl hsets hanswer
  rw [deliver, redirectLimit, follow, run_bind]
  rcases hrun : (exchange client t.authorized).run s with ⟨stop | a, s₁⟩ <;>
    rw [hrun] at hexchange
  · exact hexchange
  · have hstays : a.location? = none := answer_outcomeAt (P := fun a => a.location? = none) rfl
      hdirect.world (answer_of_run_exchange client hrun)
    simp only [hstays, run_pure]
    exact hexchange

end Transport

namespace CoreHook

open Step Session Transport

theorem conveys_call {plain : Prop} (timeout : Float) :
    (call timeout : Step CoreHook μ Response).Within
      (Guarded (IsDirect plain) (Conveys plain)) := by
  intro s hdirect
  have hdialled : s.Conveys plain s.dialled := conveys_dialled s
  rw [run_call, run_send_dialled]
  refine .trans ?_ (conveys_hungUp _ _)
  cases hmessage : s.message timeout with
  | error reason => exact hdialled.trans (frame_conveys.within_fail reason _)
  | ok t =>
    have haddressed : s.Conveys plain (s.dialled.addressed t) :=
      hdialled.trans (conveys_of_request rfl rfl rfl rfl rfl rfl rfl)
    have hmakes : (s.dialled.addressed t).request.Makes
        (s.dialled.addressed t).world.network.defaults (s.cookie? t.url) t.authorized := by
      rw [haddressed.network]
      exact (makes_of_message hmessage).of_same haddressed.method.symm haddressed.url.symm
        haddressed.fields.symm haddressed.body.symm
    have hdeliver := conveys_deliver s.request.config.connection (hdirect.of_conveys haddressed)
      (fun hplain _ => (hdirect.cookieless hplain).cookie?_eq_none t.url) hmakes
      (!s.request.config.disableFollowRedirects)
    dsimp only
    split
    · exact haddressed.trans hdeliver
    · exact haddressed.trans (frame_conveys.within_fail .closedConnection _)

end CoreHook

namespace Drive

open CoreHook Request Session

/-- After the build, the attempts of a request over the core hooks send its message and do not
change it. -/
theorem conveys_attempts {plain : Prop} (limit : Nat) :
    (attempts perform limit).Within (Guarded (IsDirect plain)
      (Conveys plain : Session CoreHook μ → Session CoreHook μ → Prop)) := by
  have hprepared : ∀ s : Session CoreHook μ,
      Guarded (IsDirect plain) (Conveys plain) s s.prepared := by
    intro s _
    have hannounced : s.Conveys plain s.announced := by
      rw [announced]
      split
      · exact frame_conveys.keeps_logged _ s
      · exact frame_conveys.refl s
    exact hannounced.trans (conveys_of_request (by simp [prepared]) (by simp [prepared])
      (by simp [prepared]) (by simp [prepared]) (by simp [prepared]) (by simp [prepared]) rfl)
  refine frame_guarded.within_attempts (fun p hvalidate hbuild s hdirect => ?_) hprepared limit
  refine frame_guarded.keeps_runPhase (fun callback hcallback => ?_) hdirect
  rw [hdirect.hooks] at hcallback
  have hsend : (perform .send).Within (Guarded (IsDirect plain)
      (Conveys plain : Session CoreHook μ → Session CoreHook μ → Prop)) :=
    frame_guarded.within_transmit conveys_call fun a s _ =>
      conveys_of_request rfl rfl rfl rfl rfl rfl rfl
  cases p with
  | validate => exact absurd rfl hvalidate
  | build => exact absurd rfl hbuild
  | send =>
    rcases List.mem_pair.1 hcallback with rfl | rfl
    · exact frame_guarded.within_logRequestLines
    · exact hsend
  | unmarshal =>
    rcases List.mem_pair.1 hcallback with rfl | rfl
    · exact frame_guarded.within_logResponseLines
    · exact frame_guarded.within_decode
  | retry => cases hcallback
  | complete =>
    obtain rfl := List.mem_singleton.1 hcallback
    exact frame_guarded.within_pure ()

end Drive

/-! ## Builds -/

/-- Input that can be encoded becomes a body. -/
theorem Request.CanEncode.encodes {r : Request κ} (h : r.CanEncode) :
    ∃ body headers, r.Encodes body headers := by
  by_cases hnull : r.params = .null
  · exact ⟨_, _, .nothing hnull⟩
  · by_cases hbytes : ∃ body, r.params = .bytes body
    · obtain ⟨body, hbytes⟩ := hbytes
      exact ⟨_, _, .bytes hbytes⟩
    · have hdata : ∀ bytes, r.params ≠ .bytes bytes := fun bytes heq => hbytes ⟨bytes, heq⟩
      obtain ⟨body, hbody⟩ := (canEncode_iff hnull hdata).1 h
      exact ⟨_, _, .json hnull hdata hbody⟩

namespace Session

/-- Nothing has been sent, no cookie has come or gone, and the request has the hooks and the
connections that it had. -/
structure Rebuilds (s s' : Session κ μ) : Prop extends s.Idles s' where
  connection : s'.request.config.connection = s.request.config.connection
  network : s'.world.network = s.world.network
  cookies : s'.world.cookies = s.world.cookies

theorem frame_rebuilds : BuildFrame (Rebuilds : Session κ μ → Session κ μ → Prop) where
  refl s := ⟨frame_idles.refl s, rfl, rfl, rfl⟩
  trans h h' := ⟨h.toIdles.trans h'.toIdles, h'.connection.trans h.connection,
    h'.network.trans h.network, h'.cookies.trans h.cookies⟩
  request s _ h := ⟨frame_idles.request s h, h.connection, rfl, rfl⟩
  world s _ htape hmessages hnetwork hcookies :=
    ⟨frame_idles.world s htape hmessages hnetwork hcookies, rfl, hnetwork, hcookies⟩
  rewritten s _ h := ⟨frame_idles.rewritten s h, h.connection, rfl, rfl⟩

end Session

namespace Drive

open CoreHook Request Session

variable {s : Session CoreHook μ}

/-- The build of a request over the core hooks sends nothing. -/
theorem rebuilds_build : (Drive.build perform).Within
    (Guarded (fun s : Session CoreHook μ => s.request.hooks = template id) Rebuilds) := by
  have hframe : Frame
      (Guarded (fun s : Session CoreHook μ => s.request.hooks = template id) Rebuilds) :=
    frame_rebuilds.guarded fun hhooks h => h.hooks.trans hhooks
  refine hframe.within_build (fun s hhooks => ?_) (fun s hhooks => ?_)
  · refine frame_rebuilds.keeps_runPhase fun callback hcallback => ?_
    rw [hhooks] at hcallback
    obtain rfl := List.mem_singleton.1 hcallback
    exact frame_rebuilds.within_perform nofun
  · refine frame_rebuilds.keeps_runPhase fun callback hcallback => ?_
    rw [hhooks] at hcallback
    rcases List.mem_pair.1 hcallback with rfl | rfl
    · exact frame_rebuilds.within_perform nofun
    · exact frame_rebuilds.within_perform nofun

theorem run_validatePhase_template (hhooks : s.request.hooks = template id) :
    ∃ s₁ error, (runPhase perform .validate).run s = (.ok (), s₁) ∧
      s₁.request = { s.request with error } := by
  have hvalidate : (s.request.hooks.get .validate).callbacks = [.validateEndpoint] := by
    rw [hhooks]
    rfl
  rw [run_single hvalidate]
  by_cases hendpoint : s.request.config.endpoint = ""
  · refine ⟨(s.recorded (.phase .validate)).rejecting
      (.missingEndpoint s.request.operation.name), _, ?_, rfl⟩
    simp [perform, checkEndpoint, hendpoint]
  · refine ⟨s.recorded (.phase .validate), _, ?_, rfl⟩
    simp [perform, checkEndpoint, hendpoint]

/-- A build phase that leaves no error has encoded the input. -/
theorem run_buildPhase_template (hhooks : s.request.hooks = template id) :
    ∃ s₁, (runPhase perform .build).run s = (.ok (), s₁) ∧
      (s₁.request.error = none → ∃ body, s.request.Encodes body s₁.request.headers) := by
  have hlist : (s.request.hooks.get .build).callbacks = [.resolveEndpoint, .encodeBody] := by
    rw [hhooks]
    rfl
  have hresolve : (perform .resolveEndpoint).run (s.recorded (.phase .build)) =
      (.ok (), (s.recorded (.phase .build)).resolved) := rfl
  rw [run_pair hlist hresolve]
  by_cases hcan : (s.recorded (.phase .build)).resolved.request.CanEncode
  · obtain ⟨body, headers, hencodes⟩ := hcan.encodes
    exact ⟨_, run_encode_of_encodes hencodes, fun _ => ⟨body, hencodes.of_same rfl rfl rfl⟩⟩
  · obtain ⟨operation, fault, hencode⟩ := run_encode_of_not_canEncode hcan
    exact ⟨_, hencode, nofun⟩

/-- The hooks of a build raise nothing. -/
theorem returns_of_isBuild {c : Course CoreHook μ Unit} (hhooks : s.request.hooks = template id)
    (h : IsBuild perform s c) : ∀ m ∈ c.marks, m.Returns := by
  obtain ⟨s₁, error, hvalidate, hrequest⟩ := run_validatePhase_template hhooks
  have hhooks₁ : (s₁.atStage .validated).request.hooks = template id := by
    simp [hrequest, hhooks]
  obtain ⟨s₂, hbuild, -⟩ := run_buildPhase_template hhooks₁
  cases h with
  | failedBefore => exact fun _ hm => absurd hm List.not_mem_nil
  | builtBefore => exact fun _ hm => absurd hm List.not_mem_nil
  | validateStopped _ _ hvalidate' => cases hvalidate.symm.trans hvalidate'
  | validateFailed => simp [Mark.Returns]
  | buildStopped _ _ hvalidate' _ hbuild' =>
    cases hvalidate.symm.trans hvalidate'
    cases hbuild.symm.trans hbuild'
  | buildFailed => simp [Mark.Returns]
  | built => simp [Mark.Returns]

/-! ## Whole runs -/

/-- A run sends the message that the request has after the build, with some cookie or without one,
or it sends nothing.  There is no cookie if messages are to be `plain`. -/
theorem messages_send {plain : Prop} (hdirect : s.IsDirect plain) (limit : Nat) :
    ∃ sent, ((send perform limit).run s).after.world.messages = s.world.messages ++ sent ∧
      (sent = [] ∨ ∃ s' ms, (Drive.build perform).run s = ⟨.ok (), s', ms⟩ ∧
        ∀ t ∈ sent, ∃ cookie, (plain → cookie = none) ∧
          s'.request.Makes s.world.network.defaults cookie t) := by
  have hrebuilds := rebuilds_build s hdirect.hooks
  rcases hbuild : (Drive.build perform).run s with ⟨stop | _, s', ms⟩ <;> rw [hbuild] at hrebuilds
  · have hdeliver : (deliver perform limit).run s = ⟨.error stop, s', ms⟩ := by
      simp [deliver, run_bind, hbuild]
    have hhooks : ((deliver perform limit).run s).after.request.hooks = template id := by
      rw [hdeliver]
      exact hrebuilds.hooks.trans hdirect.hooks
    refine ⟨[], ?_, .inl rfl⟩
    rw [send, messages_closedBy_finish hhooks, hdeliver, List.append_nil]
    exact hrebuilds.messages
  · have htape : ∀ o ∈ s'.begun.world.tape, o ∈ s.world.tape := fun o ho => hrebuilds.tape ▸ ho
    have hdirect' : s'.begun.IsDirect plain :=
      ⟨hrebuilds.hooks.trans hdirect.hooks, fun o ho => hdirect.world o (htape o ho),
        fun hplain => (hdirect.cookieless hplain).of_same hrebuilds.connection hrebuilds.cookies
          htape⟩
    have hconveys := conveys_attempts limit s'.begun hdirect'
    have hdeliver : (deliver perform limit).run s =
        ⟨((attempts perform limit).run s'.begun).outcome,
          ((attempts perform limit).run s'.begun).after,
          ms ++ ((attempts perform limit).run s'.begun).marks⟩ := by
      simp [deliver, run_bind, hbuild]
    have hhooks : ((deliver perform limit).run s).after.request.hooks = template id := by
      rw [hdeliver]
      exact hconveys.hooks.trans hdirect'.hooks
    obtain ⟨sent, hmessages, hmakes⟩ := hconveys.messages
    refine ⟨sent, ?_, .inr ⟨s', ms, rfl, fun t ht => ?_⟩⟩
    · rw [send, messages_closedBy_finish hhooks, hdeliver]
      exact hmessages.trans (congrArg (· ++ sent) hrebuilds.messages)
    · obtain ⟨cookie, hnone, hmade⟩ := hmakes t ht
      have hnetwork : s'.begun.world.network = s.world.network := hrebuilds.network
      rw [hnetwork] at hmade
      exact ⟨cookie, fun hplain => hnone hplain (hdirect'.cookieless hplain),
        hmade.of_same rfl rfl rfl rfl⟩

/-- A request that was built ahead is sent as it would have been. -/
theorem after_send_of_buildAhead (hhooks : s.request.hooks = template id) (times limit : Nat) :
    ((do buildAhead perform times; send perform limit : Drive CoreHook μ Value).run s).after =
      ((send perform limit).run s).after := by
  have hreturns := returns_of_isBuild hhooks (isBuild_run perform s)
  cases times with
  | zero => simp [buildAhead, run_bind]
  | succ times =>
    rw [run_send_of_build limit (build_again (isBuild_run perform s) hreturns), run_bind,
      run_buildAhead hreturns]
    rfl

end Drive

end RequestPipeline
