import RequestPipeline.Proofs.MessageOfRun
import RequestPipeline.Proofs.TypedBody

/-!
# Header fields that callers give

What callers say under a name goes out under that name in each message of a run, and of two values
under one name the later one.  Two names are not theirs to give: input that is written as JSON
brings its own content type, and credentials in the target take the place of an authorization.  The
messages of a run are alike, but for the cookie that an answer may set for those after it.
-/

namespace RequestPipeline

variable {κ μ : Type}

/-! ## What is given -/

namespace RequestOption

/-- The value that the option gives under a name, which is in lower case. -/
def value? (name : List Char) : RequestOption → Option (List Char)
  | .header given value => if Headers.fold given.toList = name then some value.toList else none
  | _ => none

/-- The last value that options give under a name, which is in lower case. -/
def lastValue? (options : List RequestOption) (name : List Char) : Option (List Char) :=
  options.reverse.findSome? (value? name)

theorem lastValue?_cons (option : RequestOption) (rest : List RequestOption) (name : List Char) :
    lastValue? (option :: rest) name = (lastValue? rest name).or (option.value? name) := by
  simp [lastValue?, List.findSome?_append]

end RequestOption

/-- The value is written as JSON where it is the input of a request. -/
def Value.IsWrittenAsJson (v : Value) : Prop := v ≠ .null ∧ ∀ bytes, v ≠ .bytes bytes

/-- The message carries the value that was given under a name, except that its content type is that
of JSON where the input is written as JSON, and that its authorization is made of the credentials in
the URL where there are some. -/
structure Transmission.Heeds (t : Transmission) (json : Prop) (name value : List Char) : Prop where
  given : (name = "content-type".toList → ¬ json) →
    (name = "authorization".toList → t.url.credentials? = none) →
    t.headers.fieldsOf name = [⟨name, value⟩]
  json : name = "content-type".toList → json →
    t.headers.fieldsOf name = [⟨name, "application/json".toList⟩]
  authorization : name = "authorization".toList → ∀ user password,
    t.url.credentials? = some (user, password) →
    t.headers.fieldsOf name = [⟨name, Transmission.basicAuth user password⟩]

/-- The messages of a run carry the header fields that options give, and have the same method, URL,
body and fields but for the cookie.  They have the same cookie as well if no jar has any for them,
or if the options give one. -/
structure RequestOption.AreSent (options : List RequestOption) (json cookieless : Prop)
    (sent : List Transmission) : Prop where
  heeds : ∀ t ∈ sent, ∀ name value, lastValue? options name = some value → t.Heeds json name value
  repeats : ∀ t ∈ sent, ∀ t' ∈ sent, t.Repeats t'
  alike : cookieless ∨ (lastValue? options "cookie".toList).isSome →
    ∀ t ∈ sent, ∀ t' ∈ sent, t.headers = t'.headers

theorem RequestOption.areSent_nil (options : List RequestOption) (json cookieless : Prop) :
    AreSent options json cookieless [] := ⟨nofun, nofun, fun _ => nofun⟩

/-! ## From the fields of a request to those of its message -/

namespace Transmission

variable {t : Transmission} {name : List Char}

theorem fieldsOf_authorized_of_none (hnone : t.url.credentials? = none) :
    t.authorized.headers.fieldsOf name = t.headers.fieldsOf name := by
  rw [authorized, hnone]

theorem fieldsOf_authorized_self {user password : List Char}
    (hsome : t.url.credentials? = some (user, password)) :
    t.authorized.headers.fieldsOf "authorization".toList =
      [⟨"authorization".toList, basicAuth user password⟩] := by
  rw [authorized, hsome]
  exact Headers.filter_put_self t.headers.fields ⟨"authorization".toList, basicAuth user password⟩

end Transmission

open Transmission in
/-- A message carries what its request has under a name. -/
theorem Request.Makes.heeds {r : Request κ} {defaults : Headers} {cookie : Option (List Char)}
    {t : Transmission} {name value : List Char} {json : Prop} (h : r.Makes defaults cookie t)
    (hgiven : (name = "content-type".toList → ¬ json) → r.headers.fieldsOf name = [⟨name, value⟩])
    (hjson : name = "content-type".toList → json →
      r.headers.fieldsOf name = [⟨name, "application/json".toList⟩]) : t.Heeds json name value := by
  obtain ⟨timeout, made, hmade, rfl⟩ := h
  have hkept : ∀ {fields}, r.headers.fieldsOf name = fields → fields ≠ [] →
      made.headers.fieldsOf name = fields := by
    rintro fields rfl hsome
    exact fieldsOf_ofParts_of_given hmade hsome
  refine ⟨fun hother hbare => ?_, fun htype hwritten => ?_, fun hauth user password hsome => ?_⟩
  · have hfields := hkept (hgiven hother) (by simp)
    by_cases hname : name = "authorization".toList
    · have hnone := hbare hname
      rw [url_authorized] at hnone
      exact (fieldsOf_authorized_of_none hnone).trans hfields
    · exact (fieldsOf_authorized_of_ne made hname).trans hfields
  · have hname : name ≠ "authorization".toList := by
      rw [htype]
      decide
    exact (fieldsOf_authorized_of_ne made hname).trans (hkept (hjson htype hwritten) (by simp))
  · subst hauth
    rw [url_authorized] at hsome
    exact fieldsOf_authorized_self hsome

/-! ## Options -/

namespace Step

variable {s s' : Session κ μ} {name : List Char}

/-- After an option there is the value that it gives, and all else as before. -/
theorem fieldsOf_withOption {r r' : Request κ} {option : RequestOption}
    (h : r.withOption option = .ok r') : r'.headers.fieldsOf name =
      ((option.value? name).map fun value => [⟨name, value⟩]).getD (r.headers.fieldsOf name) := by
  cases option with
  | header given value =>
    simp only [Request.withOption, Headers.set?] at h
    split at h
    · cases h
    · cases h
      by_cases hname : Headers.fold given.toList = name
      · subst hname
        simp only [RequestOption.value?, if_true, Option.map_some, Option.getD_some]
        exact r.headers.fieldsOf_set_self given value
      · simp only [RequestOption.value?, if_neg hname, Option.map_none, Option.getD_none]
        exact r.headers.fieldsOf_set_of_ne hname
  | _ =>
    cases h
    rfl

/-- Options that can be applied are applied one after the other. -/
theorem exists_withOption_of_applyOptions {option : RequestOption} {rest : List RequestOption}
    (h : (applyOptions (option :: rest)).run s = (.ok (), s')) : ∃ r,
      s.request.withOption option = .ok r ∧
        (applyOptions rest).run { s with request := r } = (.ok (), s') := by
  simp only [applyOptions, run_bind, run_getRequest] at h
  cases hchanged : s.request.withOption option with
  | error fault =>
    rw [hchanged] at h
    simp only [mapError_error, run_orFail_error, run_fail] at h
    cases h
  | ok r =>
    simp only [hchanged, mapError_ok, run_orFail_ok, run_modifyRequest] at h
    exact ⟨r, rfl, h⟩

/-- After options there are the last values that they give, and all else as before. -/
theorem fieldsOf_applyOptions {options : List RequestOption}
    (h : (applyOptions options).run s = (.ok (), s')) : s'.request.headers.fieldsOf name =
      ((RequestOption.lastValue? options name).map fun value => [⟨name, value⟩]).getD
        (s.request.headers.fieldsOf name) := by
  induction options generalizing s with
  | nil =>
    cases h
    rfl
  | cons option rest ih =>
    obtain ⟨r, hchanged, hrest⟩ := exists_withOption_of_applyOptions h
    rw [ih hrest, fieldsOf_withOption hchanged, RequestOption.lastValue?_cons]
    cases RequestOption.lastValue? rest name <;> rfl

end Step

/-! ## Whole runs -/

/-- Only the content type changes, and only for input that is written as JSON. -/
theorem Request.Encodes.fieldsOf {r : Request κ} {body : Option Text.Bytes} {headers : Headers}
    {name : List Char} (h : r.Encodes body headers) :
    ((name = "content-type".toList → ¬ r.params.IsWrittenAsJson) →
      headers.fieldsOf name = r.headers.fieldsOf name) ∧
    (name = "content-type".toList → r.params.IsWrittenAsJson →
      headers.fieldsOf name = [⟨name, "application/json".toList⟩]) := by
  cases h with
  | nothing hparams => exact ⟨fun _ => rfl, fun _ hjson => absurd hparams hjson.1⟩
  | bytes hparams => exact ⟨fun _ => rfl, fun _ hjson => absurd hparams (hjson.2 _)⟩
  | json hvalue hdata hbody =>
    have hfold : Headers.fold "Content-Type".toList = "content-type".toList := by decide
    refine ⟨fun hother => r.headers.fieldsOf_set_of_ne fun hname => ?_, ?_⟩
    · exact hother (hname.symm.trans hfold) ⟨hvalue, hdata⟩
    · rintro rfl -
      rw [← hfold]
      exact r.headers.fieldsOf_set_self "Content-Type" "application/json"

namespace Drive

open CoreHook Request Session

variable {s : Session CoreHook μ} {options : List RequestOption}

/-- A build changes the content type at most, and that for input that is written as JSON. -/
theorem fieldsOf_build {s' : Session CoreHook μ} {ms : List (Mark CoreHook μ)} (name : List Char)
    (hhooks : s.request.hooks = template id)
    (h : (Drive.build perform).run s = ⟨.ok (), s', ms⟩) :
    ((name = "content-type".toList →
        ¬ (s.request.built = false ∧ s.request.params.IsWrittenAsJson)) →
      s'.request.headers.fieldsOf name = s.request.headers.fieldsOf name) ∧
    (name = "content-type".toList → s.request.built = false ∧ s.request.params.IsWrittenAsJson →
      s'.request.headers.fieldsOf name = [⟨name, "application/json".toList⟩]) := by
  have hrun := isBuild_run perform s
  rw [h] at hrun
  cases hrun with
  | builtBefore _ hbuilt =>
    exact ⟨fun _ => rfl, fun _ hjson => by simp [hbuilt] at hjson⟩
  | @built s₁ s₂ _ hbuilt hvalidate _ hbuild hdone =>
    obtain ⟨_, error, hvalidate', hrequest⟩ := run_validatePhase_template hhooks
    cases hvalidate.symm.trans hvalidate'
    have hhooks₁ : (s₁.atStage .validated).request.hooks = template id := by
      simp [hrequest, hhooks]
    obtain ⟨_, hbuild', hencodes⟩ := run_buildPhase_template hhooks₁
    cases hbuild.symm.trans hbuild'
    obtain ⟨body, hencodes⟩ := hencodes hdone
    have hkept : s.request.Encodes body s₂.request.headers :=
      hencodes.of_same (by simp [hrequest]) (by simp [hrequest]) (by simp [hrequest])
    simp only [hbuilt, true_and]
    exact hkept.fieldsOf

/-- What a request has under the names that options give is sent. -/
theorem areSent_send {cookieless : Prop} (hdirect : s.IsDirect cookieless)
    (hgiven : ∀ name value, RequestOption.lastValue? options name = some value →
      s.request.headers.fieldsOf name = [⟨name, value⟩]) (limit : Nat) :
    ∃ sent, ((send perform limit).run s).after.world.messages = s.world.messages ++ sent ∧
      RequestOption.AreSent options (s.request.built = false ∧ s.request.params.IsWrittenAsJson)
        cookieless sent := by
  obtain ⟨sent, hmessages, rfl | ⟨s', ms, hbuild, hmakes⟩⟩ := messages_send hdirect limit
  · exact ⟨[], hmessages, RequestOption.areSent_nil _ _ _⟩
  · refine ⟨sent, hmessages, fun t ht name value hvalue => ?_, fun t ht t' ht' => ?_,
      fun hfree t ht t' ht' => ?_⟩
    · obtain ⟨_, -, hmade⟩ := hmakes t ht
      obtain ⟨hkept, hjson⟩ := fieldsOf_build name hdirect.hooks hbuild
      exact hmade.heeds (fun hother => (hkept hother).trans (hgiven name value hvalue)) hjson
    · obtain ⟨_, -, hmade⟩ := hmakes t ht
      obtain ⟨_, -, hmade'⟩ := hmakes t' ht'
      exact hmade.repeats hmade'
    · obtain ⟨_, hnone, hmade⟩ := hmakes t ht
      obtain ⟨_, hnone', hmade'⟩ := hmakes t' ht'
      refine hmade.headers_eq hmade' (hfree.imp (fun h => ⟨hnone h, hnone' h⟩) fun hcookie => ?_)
      obtain ⟨value, hvalue⟩ := Option.isSome_iff_exists.1 hcookie
      have hother : "cookie".toList ≠ "content-type".toList := by decide
      have hkept := (fieldsOf_build "cookie".toList hdirect.hooks hbuild).1 (absurd · hother)
      rw [hkept, hgiven _ _ hvalue]
      exact List.cons_ne_nil _ _

end Drive

/-- What options give a request of an idle client is sent. -/
theorem Client.IsIdle.areSent_call {c : Client CoreHook} {context : Option Context} {w : World μ}
    (h : c.IsIdle context w) (hdirect : w.IsDirect) (limit : Nat) (operation : Operation)
    (params : Value) (options : List RequestOption) :
    RequestOption.AreSent options params.IsWrittenAsJson w.SetsNoCookie
      (c.call CoreHook.perform limit operation params none options context w).2.1.messages := by
  have hsilent : w.messages = [] := (World.messages_eq_nil_iff w).2 h.silent
  have hblank := request_blankRequest c operation params w
  have hchanged := Step.optioned_applyOptions options (c.blankRequest operation params none w)
  have hunsent := h.isUnsent operation params options
  rw [world_call]
  rcases hnew : c.newRequest operation params none options w with ⟨stop | _, s⟩ <;>
    rw [newRequest] at hnew <;> rw [newRequest, hnew] at hunsent <;> rw [hnew] at hchanged
  · have hevents : s.world.events = w.events := hchanged.events
    have hnothing : s.world.messages = [] := by rw [World.messages, hevents]; exact hsilent
    dsimp only
    rw [hnothing]
    exact RequestOption.areSent_nil _ _ _
  · have htape : (c.ready context s).world.tape = w.tape := hchanged.tape
    have hjar : (c.ready context s).world.cookies = [] := hchanged.cookies.trans h.empty
    have hbuilt : (c.ready context s).request.built = false :=
      (congrArg Request.built hchanged.request :).trans (congrArg Request.built hblank :)
    have hparams : (c.ready context s).request.params = params :=
      (congrArg Request.params hchanged.request :).trans (congrArg Request.params hblank :)
    have hgiven : ∀ name value, RequestOption.lastValue? options name = some value →
        (c.ready context s).request.headers.fieldsOf name = [⟨name, value⟩] := by
      intro name value hvalue
      change s.request.headers.fieldsOf name = _
      rw [Step.fieldsOf_applyOptions hnew, hvalue]
      rfl
    have hdirect' : (c.ready context s).IsDirect w.SetsNoCookie :=
      ⟨hunsent.hooks, fun o ho => hdirect o (htape ▸ ho), fun hsets id _ =>
        ⟨by simp [World.jar, hjar], fun o ho => hsets o (htape ▸ ho)⟩⟩
    obtain ⟨sent, hmessages, hsent⟩ := Drive.areSent_send hdirect' hgiven limit
    have hbefore : (c.ready context s).world.messages = [] := by
      have hevents : (c.ready context s).world.events = w.events := hchanged.events
      rw [World.messages, hevents]
      exact hsilent
    rw [hbuilt, hparams] at hsent
    rw [hbefore, List.nil_append] at hmessages
    dsimp only
    rw [hmessages]
    simpa using hsent

/-! ## Calls from the command line -/

namespace CommandLine

/-- The body that was typed is JSON other than null. -/
def CallArguments.WritesJson (a : CallArguments) : Prop :=
  ∃ typed v, a.body = some typed ∧ Json.read typed = .ok v ∧ v ≠ .null

theorem isWrittenAsJson_of_parseBody {typed : String} {params : Value}
    (h : parseBody typed = .ok params) :
    params.IsWrittenAsJson ↔ ∃ v, Json.read typed = .ok v ∧ v ≠ .null := by
  cases hread : Json.read typed with
  | ok v =>
    rw [parseBody_of_json hread] at h
    obtain rfl := Except.ok.inj h
    simp [Value.IsWrittenAsJson, (isData_of_typed hread).ne_bytes]
  | error fault =>
    refine iff_of_false (fun hjson => ?_) (by simp)
    by_cases hplain : IsPlainText typed
    · obtain rfl := Except.ok.inj ((parseBody_of_text hplain).symm.trans h)
      exact hjson.2 _ rfl
    · cases (parseBody_of_unreadable hread hplain).symm.trans h

variable {s : Surroundings} {a : CallArguments} {c : Conditions} {d : Display}
  {options : List RequestOption}

/-- The options of a call are those of its header flags. -/
theorem options_ofArguments {now : Float} {prepared : Call}
    (h : Call.ofArguments s now a = .ok prepared) :
    Call.headerOptions a.headers = .ok prepared.options := by
  obtain ⟨v, -, h⟩ := Json.bind_eq_ok h
  dsimp only at h
  split at h
  · cases h
  · obtain ⟨options, hoptions, h⟩ := Json.bind_eq_ok h
    cases h
    exact hoptions

/-- What the header flags of a call give is sent. -/
theorem areSent_ofCall (hdirect : c.world.IsDirect)
    (hoptions : Call.headerOptions a.headers = .ok options) :
    RequestOption.AreSent options a.WritesJson c.world.SetsNoCookie
      (Ending.ofCall s d a c).world.messages := by
  by_cases hnone : (Ending.ofCall s d a c).world.messages = []
  · rw [hnone]
    exact RequestOption.areSent_nil _ _ _
  obtain ⟨prepared, client, hcall, hclient⟩ := prepared_of_messages hnone
  obtain rfl := Except.ok.inj (hoptions.symm.trans (options_ofArguments hcall))
  have hidle := isIdle_start hcall hclient (w := c.world) rfl rfl
  have htape := (switches_start client c.world).tape
  have hdirect' : (client.start c.world).2.IsDirect := fun o ho => hdirect o (htape ▸ ho)
  have hcookies : (client.start c.world).2.SetsNoCookie ↔ c.world.SetsNoCookie := by
    rw [World.SetsNoCookie, World.SetsNoCookie, htape]
  have hsent := hidle.areSent_call hdirect' prepared.attemptLimit prepared.operation
  rw [propext hcookies] at hsent
  rw [messages_ofCall hcall hclient]
  cases hbody : a.body with
  | none =>
    have hjson : a.WritesJson ↔ (Value.null).IsWrittenAsJson := by
      simp [CallArguments.WritesJson, Value.IsWrittenAsJson, hbody]
    rw [propext hjson]
    exact hsent .null prepared.options
  | some typed =>
    cases hparams : parseBody typed with
    | error reason =>
      have hnothing : (prepared.perform (some typed) (client.start c.world).1
          (client.start c.world).2).2.messages = [] := by
        simp only [Call.perform, hparams]
        exact messages_start client c.world
      rw [hnothing]
      exact RequestOption.areSent_nil _ _ _
    | ok params =>
      have hjson : a.WritesJson ↔ params.IsWrittenAsJson := by
        simp [CallArguments.WritesJson, hbody, isWrittenAsJson_of_parseBody hparams]
      rw [propext hjson]
      simp only [Call.perform, hparams]
      exact hsent params prepared.options

end CommandLine

/-! ## Requests and calls -/

open CommandLine Drive in
/-- The header fields that callers give are sent.  Where no answer leads elsewhere, each message of
a run carries, for each name that options give a request over the core hooks, the last value given,
except that input written as JSON brings its content type and that credentials in the target are the
authorization.  All messages of the run have the same method, target, fields and body, except for a
cookie that an answer has put into the jar of connections which others use too; a cookie that is
given is the same in all of them.  It makes no difference whether the request is built ahead, how
often it is attempted, and what its input is.  The same holds of the header flags of a call from the
command line. -/
theorem given_headers_are_sent :
    (∀ (s₀ s : Session CoreHook μ) (options : List RequestOption) (times limit : Nat),
      s₀.request.hooks = CoreHook.template id → s₀.world.IsDirect →
      (Step.applyOptions options).run s₀ = (.ok (), s) →
      ∃ sent, ((do buildAhead CoreHook.perform times; send CoreHook.perform limit :
          Drive CoreHook μ Value).run s).after.world.messages = s.world.messages ++ sent ∧
        RequestOption.AreSent options
          (s.request.built = false ∧ s.request.params.IsWrittenAsJson) s.IsCookieless sent) ∧
    ∀ (s : Surroundings) (terminal : Bool) (c : Conditions) (words : List String) (p : Preferences)
      (a : CallArguments) (options : List RequestOption), c.world.IsDirect →
      Invocation.parse words = .ok (.command p (.call a)) →
      Call.headerOptions a.headers = .ok options →
      RequestOption.AreSent options a.WritesJson c.world.SetsNoCookie
        (CommandLine.run s terminal c words).world.messages := by
  refine ⟨fun s₀ s options times limit hhooks hdirect hoptions => ?_,
    fun s terminal c words p a options hdirect hparse hoptions => ?_⟩
  · have hchanged : s₀.Optioned s := by
      have h := Step.optioned_applyOptions options s₀
      rwa [hoptions] at h
    have hkept : s.request.hooks = CoreHook.template id :=
      (congrArg Request.hooks hchanged.request :).trans hhooks
    have hdirect' : s.IsDirect s.IsCookieless :=
      ⟨hkept, fun o ho => hdirect o (hchanged.tape ▸ ho), id⟩
    rw [after_send_of_buildAhead hkept]
    refine areSent_send hdirect' (fun name value hvalue => ?_) limit
    rw [Step.fieldsOf_applyOptions hoptions, hvalue]
    rfl
  · rw [run_of_call hparse]
    exact areSent_ofCall hdirect hoptions

/-- A library that brings back the cookie which was set last. -/
def Network.returning : Network :=
  ⟨.empty, fun jar _ _ => jar.head?.bind fun set => set.headers.get? "set-cookie", fun _ _ => rfl⟩

/-- A request to an endpoint that is attempted twice.  The first answer is bad and sets a cookie;
the second one is good. -/
def twiceSent (endpoint : String) (params : Value) : Session CoreHook Unit :=
  let bad := .received 503 (.ofPairs [("set-cookie".toList, "sid=1".toList)]) []
  let s := (Session.plain endpoint (CoreHook.template id) (.ofPolicy .steady [])
    ⟨0, 1, 0, [], false⟩ [⟨0, none, .response bad⟩, Transport.silence] ()).withParams params
  { s with world := { s.world with network := .returning, connections := #[true] } }

/-- A call with a header that is given twice. -/
def flagged : List String :=
  ["call", "GET", "/t", "-e", "api.example.com", "-H", "X-Id: 1", "-H", "x-id: 2"]

theorem isDirect_twiceSent (endpoint : String) (params : Value) :
    (twiceSent endpoint params).world.IsDirect := by
  intro o ho a ha
  rcases List.mem_pair.1 ho with rfl | rfl <;> cases ha <;> rfl

open CommandLine Drive in
/-- The later of two values goes out with both attempts of a request, and with a call. -/
theorem later_value_is_sent :
    let options : List RequestOption := [.header "X-Id" "1", .header "x-id" "2"]
    let s₀ := twiceSent "https://api.io" .null
    let s := ((Step.applyOptions options).run s₀).2
    let sent := ((do buildAhead CoreHook.perform 1; send CoreHook.perform 2 :
      Drive CoreHook Unit Value).run s).after.world.messages
    let e := CommandLine.run unconfigured false silent flagged
    sent.length = 2 ∧ (∀ t ∈ sent, t.headers.fieldsOf "x-id".toList = [⟨"x-id".toList, ['2']⟩]) ∧
      (∀ t ∈ sent, ∀ t' ∈ sent, t.headers = t'.headers) ∧
      e.world.messages.length = 1 ∧
      ∀ t ∈ e.world.messages, t.headers.fieldsOf "x-id".toList = [⟨"x-id".toList, ['2']⟩] := by
  intro options s₀ s sent e
  obtain ⟨hrequests, hcalls⟩ := given_headers_are_sent (μ := Unit)
  have hvalue : RequestOption.lastValue? options "x-id".toList = some ['2'] := by decide
  have htype : "x-id".toList ≠ "content-type".toList := by decide
  have hauthorization : "x-id".toList ≠ "authorization".toList := by decide
  obtain ⟨sent', hmessages, hheeded⟩ := hrequests s₀ s options 1 2 rfl (isDirect_twiceSent _ _) rfl
  have hsent : sent = sent' := hmessages
  have hcookieless : s.IsCookieless := nofun
  refine ⟨by decide +kernel, fun t ht => ?_, ?_, by decide +kernel, fun t ht => ?_⟩
  · exact (hheeded.heeds t (hsent ▸ ht) _ _ hvalue).given (absurd · htype)
      (absurd · hauthorization)
  · rw [hsent]
    exact hheeded.alike (.inl hcookieless)
  · have hparse : ∃ p a, Invocation.parse flagged = .ok (.command p (.call a)) ∧
        Call.headerOptions a.headers = .ok options := ⟨_, _, rfl, rfl⟩
    obtain ⟨p, a, hparse, hoptions⟩ := hparse
    have hdirect : silent.world.IsDirect := by
      intro o ho a ha
      obtain rfl := List.mem_singleton.1 ho
      cases ha
      rfl
    exact ((hcalls unconfigured false silent flagged p a options hdirect hparse hoptions).heeds
      t ht _ _ hvalue).given (absurd · htype) (absurd · hauthorization)

/-- A content type that was given is replaced where input is written as JSON, and an authorization
where the target has credentials.  Over connections that others use too, the second attempt carries
the cookie that the first answer set. -/
theorem given_values_are_replaced :
    let typed : List RequestOption := [.header "Content-Type" "text/plain"]
    let s := ((Step.applyOptions typed).run
      (twiceSent "https://api.io" (.dict [(.str "a", .int 1)]))).2
    let authorized : List RequestOption := [.header "Authorization" "Bearer x"]
    let s' := ((Step.applyOptions authorized).run (twiceSent "https://u:p@api.io" .null)).2
    let shared := ((Step.applyOptions [.connection 0]).run (twiceSent "https://api.io" .null)).2
    RequestOption.lastValue? typed "content-type".toList = some "text/plain".toList ∧
      ((Drive.send CoreHook.perform 2).run s).after.world.messages.map
        (fun t => t.headers.fieldsOf "content-type".toList) =
          List.replicate 2 [⟨"content-type".toList, "application/json".toList⟩] ∧
      RequestOption.lastValue? authorized "authorization".toList = some "Bearer x".toList ∧
      ((Drive.send CoreHook.perform 2).run s').after.world.messages.map
        (fun t => t.headers.fieldsOf "authorization".toList) =
          List.replicate 2 [⟨"authorization".toList, "Basic dTpw".toList⟩] ∧
      ((Drive.send CoreHook.perform 2).run shared).after.world.messages.map
        (fun t => t.headers.fieldsOf "cookie".toList) =
          [[], [⟨"cookie".toList, "sid=1".toList⟩]] := by
  decide +kernel

end RequestPipeline
