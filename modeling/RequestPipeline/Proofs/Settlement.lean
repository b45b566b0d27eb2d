import RequestPipeline.Proofs.Answers

/-!
# What an answer settles

Unmarshalling settles an answer: it changes the data of the request, or its error, or nothing.  Two
things keep it from that, and each stops the hook with a failure that the request does not tell.  An
answer outside the successful ones whose body is no JSON has to give its text, and the codec that
goes with it may refuse; and the adapter of a successful answer may fail in a way of its own instead
of reporting what does not fit.
-/

namespace RequestPipeline

open Text (Str)

variable {κ μ : Type}

/-! ## The text of an answer -/

namespace Text

variable {charset : Charset} {bytes : Bytes}

/-- The text is in units of several bytes, and nothing says in which order they stand: neither the
name of the character set nor a mark at the beginning. -/
def Charset.LeavesOrderOpen (charset : Charset) (bytes : Bytes) : Prop :=
  (charset = .utf16 none ∧ ¬ Charset.utf16BigMark <+: bytes ∧ ¬ Charset.utf16LittleMark <+: bytes ∧
      2 ≤ bytes.length) ∨
    (charset = .utf32 none ∧ ¬ Charset.utf32BigMark <+: bytes ∧
      ¬ Charset.utf32LittleMark <+: bytes ∧ 4 ≤ bytes.length)

theorem exists_missingMark?_iff :
    (∃ mark, charset.missingMark? bytes = some mark) ↔ charset.LeavesOrderOpen bytes := by
  cases charset with
  | utf16 order =>
    cases order <;> simp [Charset.LeavesOrderOpen, Charset.missingMark?,
      ← List.isPrefixOf_iff_prefix, and_assoc, Nat.lt_iff_add_one_le]
  | utf32 order =>
    cases order <;> simp [Charset.LeavesOrderOpen, Charset.missingMark?,
      ← List.isPrefixOf_iff_prefix, and_assoc]
  | _ => simp [Charset.LeavesOrderOpen, Charset.missingMark?]

/-- The codec of a character set refuses only what leaves open the order of its bytes. -/
theorem decode_codec_eq_error_iff :
    (∃ fault, charset.codec.decode bytes = .error fault) ↔ charset.LeavesOrderOpen bytes := by
  rw [← exists_missingMark?_iff]
  cases hmark : charset.missingMark? bytes <;> simp [Charset.codec, hmark]

/-- Of the codecs in this library, those of the character sets refuse what leaves open the order of
its bytes, and the others refuse everything. -/
theorem decode_builtin_eq_error_iff {name : String} {codec : Codec}
    (h : Codec.builtin name = some codec) :
    (∃ fault, codec.decode bytes = .error fault) ↔
      ∀ charset, Charset.ofName? name = some charset → charset.LeavesOrderOpen bytes := by
  rw [Codec.builtin] at h
  cases hname : Charset.ofName? name with
  | some charset =>
    obtain rfl : charset.codec = codec := by simpa [hname] using h
    simp [decode_codec_eq_error_iff]
  | none =>
    obtain ⟨message, rfl⟩ : ∃ message, codec = Codec.refusing message := by
      rw [hname] at h
      simp only [Option.map_none, Option.none_or, Codec.strict, List.lookup_cons,
        List.lookup_nil] at h
      split at h
      · exact ⟨_, (Option.some.inj h).symm⟩
      · split at h
        · exact ⟨_, (Option.some.inj h).symm⟩
        · cases h
    simp [Codec.refusing]

end Text

/-! ## What an answer says -/

/-- What the body of an answer carries: nothing, the value of a JSON text, or any other text. -/
inductive Response.Carries (a : Response) : Value → Prop
  | nothing (hbody : a.body = []) : Carries a .null
  | json {v} (hbody : a.body ≠ []) (hjson : a.json = .ok v) : Carries a v
  | text {fault s} (hbody : a.body ≠ []) (hjson : a.json = .error fault) (htext : a.text = .ok s) :
    Carries a (.str s)

/-- What stands under a key, null if there is no such key. -/
def Value.under (entries : List (Value × Value)) (key : String) : Value :=
  (Value.lookupKey entries key).getD .null

/-- The code that a payload gives: the text of the first entry that is there and not null. -/
inductive GivesCode : Value → Option Str → Prop
  | first {entries before key behind}
      (hkeys : ["errorCode", "error_code", "code"] = before ++ key :: behind)
      (hbefore : ∀ k ∈ before, Value.under entries k = .null)
      (hkey : Value.under entries key ≠ .null) :
    GivesCode (.dict entries) (some (Value.under entries key).text)
  | none {entries}
    (hall : ∀ k ∈ ["errorCode", "error_code", "code"], Value.under entries k = .null) :
    GivesCode (.dict entries) none
  | other {payload} (hother : ∀ entries, payload ≠ .dict entries) : GivesCode payload none

/-- What the code of a mapping is made of: each key gives nothing or the text of its entry. -/
theorem exists_codeOf_dict (entries : List (Value × Value)) :
    ∃ f : String → Option Str, CoreHook.codeOf (.dict entries) = CoreHook.codeKeys.findSome? f ∧
      (∀ key, f key = none ↔ Value.under entries key = .null) ∧
      ∀ key code, f key = some code → code = (Value.under entries key).text := by
  rw [CoreHook.codeOf]
  refine ⟨_, rfl, fun key => ?_, fun key code h => ?_⟩
  · cases hkey : Value.lookupKey entries key with
    | none => simp [Value.under, hkey]
    | some v => cases v <;> simp [Value.under, hkey]
  · cases hkey : Value.lookupKey entries key with
    | none => simp [hkey] at h
    | some v => cases v <;> simp_all [Value.under]

theorem givesCode_codeOf (payload : Value) : GivesCode payload (CoreHook.codeOf payload) := by
  cases payload with
  | dict entries =>
    obtain ⟨f, hf, hnone, hsome⟩ := exists_codeOf_dict entries
    rw [hf]
    cases hcode : CoreHook.codeKeys.findSome? f with
    | none =>
      exact .none fun key hkey => (hnone key).1 (List.findSome?_eq_none_iff.1 hcode key hkey)
    | some code =>
      obtain ⟨before, key, behind, hkeys, hkey, hbefore⟩ := List.findSome?_eq_some_iff.1 hcode
      obtain rfl := hsome key code hkey
      refine .first hkeys (fun k hk => (hnone k).1 (hbefore k hk)) fun hnull => ?_
      rw [(hnone key).2 hnull] at hkey
      cases hkey
  | _ =>
    refine .other fun entries hdict => ?_
    cases hdict

namespace CoreHook

open Step

variable {s : Session κ μ} {a : Response}

theorem carries_payloadOf {payload : Value} (h : payloadOf a = .ok payload) :
    a.Carries payload := by
  rw [payloadOf] at h
  split at h
  · rename_i hempty
    obtain rfl := Except.ok.inj h
    exact .nothing (List.isEmpty_iff.1 hempty)
  · rename_i hsome
    have hbody : a.body ≠ [] := fun hnil => hsome (List.isEmpty_iff.2 hnil)
    split at h
    · rename_i v hjson
      obtain rfl := Except.ok.inj h
      exact .json hbody hjson
    · rename_i fault hjson
      cases htext : a.text with
      | error fault => simp [htext, Except.map] at h
      | ok text =>
        rw [htext] at h
        obtain rfl := Except.ok.inj h
        exact .text hbody hjson htext

/-! ## Settling -/

/-- The data that the request makes of a JSON value: the value itself, or what its output type makes
of it. -/
def IsDecoded (r : Request κ) (body data : Value) : Prop :=
  match r.output with
  | none => data = body
  | some output => output.adapt body = .ok data

/-- The body of an answer is no JSON, or the output type of the request reports that it does not
fit. -/
def IsUnfit (r : Request κ) (a : Response) : Prop :=
  (∃ fault, a.json = .error fault) ∨
    ∃ body output report, a.json = .ok body ∧ r.output = some output ∧
      output.adapt body = .error (.report report)

/-- The ways in which an answer is settled, of which no two go together.  Nothing of the request
changes but what is said. -/
inductive Settles (s : Session κ μ) (a : Response) : Session κ μ → Prop
  /-- An answer outside the successful ones becomes the error, with what it carries and its code. -/
  | refused {payload code id failures} (hstatus : a.status < 200 ∨ 299 < a.status)
      (hpayload : a.Carries payload) (hcode : GivesCode payload code)
      (hkept : s.world.failures.Grows failures)
      (hfailure : failures.get? id = some
        (.ofAnswer a.status payload (answerMessage a.status payload) (code.map .str))) :
    Settles s a ((s.withFailures failures).withError (some id))
  /-- A successful answer without a body changes nothing. -/
  | empty (hstatus : 200 ≤ a.status ∧ a.status ≤ 299) (hbody : a.body = []) : Settles s a s
  /-- A body that is no JSON or not what is expected leads to an error. -/
  | undecodable {id failures} (hstatus : 200 ≤ a.status ∧ a.status ≤ 299) (hbody : a.body ≠ [])
      (hunfit : IsUnfit s.request a)
      (hkept : s.world.failures.Grows failures) (hkind : failures.kindAt? id = some .decode) :
    Settles s a ((s.withFailures failures).withError (some id))
  /-- Any other body becomes the data. -/
  | decoded {body data} (hstatus : 200 ≤ a.status ∧ a.status ≤ 299) (hbody : a.body ≠ [])
      (hjson : a.json = .ok body) (hdata : IsDecoded s.request body data) :
    Settles s a (s.withData data)

/-- What keeps an answer from being settled, with the reason that stops the hook. -/
inductive Thwarts (r : Request κ) (a : Response) : Failure.Reason → Prop
  /-- The text is needed, and its codec refuses. -/
  | text {unread fault} (hstatus : a.status < 200 ∨ 299 < a.status) (hbody : a.body ≠ [])
      (hjson : a.json = .error unread) (htext : a.text = .error fault) : Thwarts r a (.codec fault)
  /-- The output type fails in a way of its own. -/
  | adapter {body output kind message} (hstatus : 200 ≤ a.status ∧ a.status ≤ 299)
      (hbody : a.body ≠ []) (hjson : a.json = .ok body) (houtput : r.output = some output)
      (hadapt : output.adapt body = .error (.raised kind message)) :
    Thwarts r a (.told kind message)

theorem isSuccess_iff : a.isSuccess = true ↔ 200 ≤ a.status ∧ a.status ≤ 299 := by
  simp [Response.isSuccess, Status.isSuccess]

theorem isSuccess_eq_false_iff : a.isSuccess = false ↔ a.status < 200 ∨ 299 < a.status := by
  rw [← Bool.not_eq_true, isSuccess_iff]
  omega

/-! ### Successful answers -/

theorem thwarts_of_adapterFails (h : adapterFails s.request a = true) :
    ∃ reason, Thwarts s.request a reason := by
  simp only [adapterFails] at h
  split at h
  · rename_i output body houtput hjson
    split at h
    · rename_i kind message hadapt
      obtain ⟨hsuccess, hbody⟩ := Bool.and_eq_true_iff.1 h
      exact ⟨_, .adapter (isSuccess_iff.1 hsuccess) (by simpa using hbody) hjson houtput hadapt⟩
    · cases h
  · cases h

/-- What is made of a body that is there: data, or a failure to decode it. -/
theorem dataOf_of_body (hbody : a.body ≠ []) (hstatus : 200 ≤ a.status ∧ a.status ≤ 299)
    (hadapts : adapterFails s.request a = false) :
    (∃ body data, a.json = .ok body ∧ IsDecoded s.request body data ∧
        dataOf s.request a = .ok data) ∨
      IsUnfit s.request a ∧
        ∃ reason, dataOf s.request a = .error reason ∧ reason.kind = .decode := by
  have hsome : a.body.isEmpty = false := by simpa using hbody
  simp only [adapterFails, isSuccess_iff.2 hstatus, hsome] at hadapts
  simp only [dataOf, IsDecoded, IsUnfit, hsome, Bool.false_eq_true, if_false]
  cases hjson : a.json with
  | error fault => exact .inr ⟨.inl ⟨fault, rfl⟩, _, rfl, rfl⟩
  | ok body =>
    cases houtput : s.request.output with
    | none => exact .inl ⟨body, body, rfl, rfl, rfl⟩
    | some output =>
      dsimp only
      cases hadapt : output.adapt body with
      | ok data => exact .inl ⟨body, data, rfl, hadapt, rfl⟩
      | error fault =>
        cases fault with
        | report report => exact .inr ⟨.inr ⟨body, output, report, rfl, rfl, hadapt⟩, _, rfl, rfl⟩
        | raised kind message => simp [houtput, hjson, hadapt] at hadapts

theorem settles_of_success (hresponse : s.request.response = some a)
    (hstatus : 200 ≤ a.status ∧ a.status ≤ 299) (hadapts : adapterFails s.request a = false) :
    ∃ s', (decode : Step κ μ Unit).run s = (.ok (), s') ∧ Settles s a s' := by
  rw [run_decode_of_success hresponse (isSuccess_iff.2 hstatus) hadapts]
  refine ⟨_, rfl, ?_⟩
  by_cases hbody : a.body = []
  · have hdata : dataOf s.request a = .ok s.request.data := by simp [dataOf, hbody]
    rw [hdata]
    exact .empty hstatus hbody
  · obtain ⟨body, data, hjson, hdecoded, hdata⟩ | ⟨hunfit, reason, hdata, hkind⟩ :=
      dataOf_of_body hbody hstatus hadapts
    · rw [hdata]
      exact .decoded hstatus hbody hjson hdecoded
    · rw [hdata]
      have hadded := Failures.kindAt?_of_reasonAt?
        (Failures.reasonAt?_addReason_self s.world.failures reason)
      exact .undecodable hstatus hbody hunfit (Failures.grows_addReason _ reason) (hkind ▸ hadded)

/-! ### Other answers -/

theorem settles_of_failure {failure : Failure} (hresponse : s.request.response = some a)
    (hstatus : a.status < 200 ∨ 299 < a.status) (hfailure : answerFailure a = .ok failure) :
    ∃ s', (decode : Step κ μ Unit).run s = (.ok (), s') ∧ Settles s a s' := by
  rw [run_decode_of_failure hresponse (isSuccess_eq_false_iff.2 hstatus), hfailure]
  refine ⟨_, rfl, ?_⟩
  rw [answerFailure] at hfailure
  cases hpayload : payloadOf a with
  | error fault => simp [hpayload, Except.map] at hfailure
  | ok payload =>
    rw [hpayload] at hfailure
    obtain rfl := Except.ok.inj hfailure
    exact .refused hstatus (carries_payloadOf hpayload) (givesCode_codeOf payload)
      (Failures.grows_add _ _) (Failures.get?_add_self _ _)

/-- Only an answer whose text is needed and cannot be had has no failure. -/
theorem thwarts_of_answerFailure {fault : Text.CodecFault} (r : Request κ)
    (hstatus : a.status < 200 ∨ 299 < a.status) (h : answerFailure a = .error fault) :
    Thwarts r a (.codec fault) := by
  rw [answerFailure, payloadOf] at h
  split at h
  · cases h
  · rename_i hsome
    have hbody : a.body ≠ [] := fun hnil => hsome (List.isEmpty_iff.2 hnil)
    split at h
    · cases h
    · rename_i unread hjson
      cases htext : a.text with
      | error fault' =>
        rw [htext] at h
        obtain rfl : fault' = fault := by simpa [Except.map] using h
        exact .text hstatus hbody hjson htext
      | ok text => simp [htext, Except.map] at h

/-! ### All answers -/

/-- What keeps an answer from being settled stops the hook. -/
theorem Thwarts.run_decode {reason : Failure.Reason} (h : Thwarts s.request a reason)
    (hresponse : s.request.response = some a) :
    (decode : Step κ μ Unit).run s = (fail reason : Step κ μ Unit).run s := by
  cases h with
  | text hstatus hbody hjson htext =>
    have hsuccess := isSuccess_eq_false_iff.2 hstatus
    have hsome : a.body.isEmpty = false := by simpa using hbody
    have htells : tellsInText a = true := by
      simp [tellsInText, hsuccess, hsome, hjson, Except.isOk, Except.toBool]
    rw [run_decode_of_failure hresponse hsuccess, answerFailure_of_tellsInText htells htext]
  | adapter hstatus hbody hjson houtput hadapt =>
    have hsome : a.body.isEmpty = false := by simpa using hbody
    simp only [decode, run_bind, run_getRequest, hresponse, isSuccess_iff.2 hstatus, hsome, hjson,
      houtput, hadapt]
    rfl

/-- Unmarshalling comes to an end and settles the answer, unless the codec of the answer refuses a
text that is needed or the adapter of the request fails by itself: then a failure for that reason
stops the hook, and nothing of the request changes. -/
theorem unmarshal_settles_iff (s : Session κ μ) {a : Response}
    (hresponse : s.request.response = some a) :
    ((∃ s', (perform .unmarshal).run s = (.ok (), s') ∧ Settles s a s') ↔
      ¬ ∃ reason, Thwarts s.request a reason) ∧
    ∀ reason, Thwarts s.request a reason → ∃ id failures,
      (perform .unmarshal).run s = (.error (.raised id), s.withFailures failures) ∧
      s.world.failures.Grows failures ∧ failures.reasonAt? id = some reason := by
  have hstops : ∀ reason, Thwarts s.request a reason → ∃ id failures,
      (perform .unmarshal).run s = (.error (.raised id), s.withFailures failures) ∧
      s.world.failures.Grows failures ∧ failures.reasonAt? id = some reason := by
    intro reason hthwarts
    have hrun := hthwarts.run_decode hresponse
    rw [run_fail] at hrun
    exact ⟨_, _, hrun, Failures.grows_addReason _ _, Failures.reasonAt?_addReason_self _ _⟩
  refine ⟨⟨?_, fun hfree => ?_⟩, hstops⟩
  · rintro ⟨s', hsettled, -⟩ ⟨reason, hthwarts⟩
    obtain ⟨id, failures, hrun, -⟩ := hstops reason hthwarts
    cases hsettled.symm.trans hrun
  · by_cases hstatus : 200 ≤ a.status ∧ a.status ≤ 299
    · cases hadapts : adapterFails s.request a with
      | false => exact settles_of_success hresponse hstatus hadapts
      | true => exact absurd (thwarts_of_adapterFails hadapts) hfree
    · have hother : a.status < 200 ∨ 299 < a.status := by omega
      cases hfailure : answerFailure a with
      | ok failure => exact settles_of_failure hresponse hother hfailure
      | error fault => exact absurd ⟨_, thwarts_of_answerFailure s.request hother hfailure⟩ hfree

/-- A request without input that has got an answer. -/
def answeredWith (a : Response) : Session CoreHook Unit :=
  let s : Session CoreHook Unit :=
    Session.plain "https://api.io" (template id) .never .none [] ()
  { s with request := { s.request with response := some a } }

theorem coded_answer_settles :
    let a : Response := .received 402 .empty
      (Text.encodeUtf8 "\x7b\"errorCode\": null, \"code\": 7\x7d".toList)
    (answeredWith a).request.response = some a ∧
      (¬ ∃ reason, Thwarts (answeredWith a).request a reason) ∧
      ∃ s', (perform .unmarshal).run (answeredWith a) = (.ok (), s') ∧
        Settles (answeredWith a) a s' := by
  intro a
  have hfree : ¬ ∃ reason, Thwarts (answeredWith a).request a reason := by
    rintro ⟨reason, hthwarts⟩
    cases hthwarts with
    | text hstatus hbody hjson htext =>
      have hopen : Text.Charset.utf8.LeavesOrderOpen a.body :=
        Text.decode_codec_eq_error_iff.1 ⟨_, htext⟩
      simp [Text.Charset.LeavesOrderOpen] at hopen
    | adapter hstatus => exact absurd hstatus.2 (by decide)
  exact ⟨rfl, hfree, (unmarshal_settles_iff (answeredWith a) rfl).1.2 hfree⟩

/-- Two bytes that are declared as UTF-16 and are no JSON stop the hook: nothing says in which order
they stand. -/
theorem unordered_answer_is_not_settled :
    let a : Response := .received 503
      (.ofPairs [("content-type".toList, "text/plain; charset=utf-16".toList)]) [110, 111]
    (∃ id, ((perform .unmarshal).run (answeredWith a)).1 = .error (.raised id)) ∧
      ((perform .unmarshal).run (answeredWith a)).2.request.error = none ∧
      ¬ ∃ s', (perform .unmarshal).run (answeredWith a) = (.ok (), s') ∧
        Settles (answeredWith a) a s' := by
  intro a
  obtain ⟨unread, hjson⟩ : ∃ unread, a.json = .error unread := by
    have hfails : a.json.isOk = false := by decide +kernel
    cases hjson : a.json with
    | error unread => exact ⟨unread, rfl⟩
    | ok v => simp [hjson, Except.isOk, Except.toBool] at hfails
  have hthwarts : Thwarts (answeredWith a).request a (.codec (.missingMark ⟨16⟩)) :=
    .text (.inr (by decide)) (by decide) hjson rfl
  have hrun := hthwarts.run_decode (s := answeredWith a) rfl
  rw [run_fail] at hrun
  refine ⟨⟨_, congrArg Prod.fst hrun⟩, congrArg (·.2.request.error) hrun, ?_⟩
  rintro ⟨s', hsettled, -⟩
  cases hsettled.symm.trans hrun

end CoreHook

end RequestPipeline
