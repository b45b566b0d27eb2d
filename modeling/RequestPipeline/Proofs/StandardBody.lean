import RequestPipeline.Proofs.BodyRoundTrip
import RequestPipeline.Proofs.StandardText

/-!
# Bodies in standard JSON

The hook that writes the input as JSON first has the input made ready, which may fail in any way: an
object of the caller's is asked for its value.  A failure about a value or a type is recorded and
nothing is written; a failure of another kind leaves the hook by itself.  What is written is a text
of ASCII under its content type, and it is a JSON text but for the fields of records: a float there
that is not finite is written as a word that JSON does not have.
-/

namespace RequestPipeline

namespace Text

/-- Outside of ASCII a character begins with a byte that is not ASCII. -/
theorem exists_mem_encodeChar {c : Char} (h : 0x80 ≤ c.toNat) :
    ∃ b ∈ encodeChar c, 0x80 ≤ b.toNat := by
  have hbound : c.toNat < 0x110000 := by
    rcases c.valid with hlow | hhigh
    · exact Nat.lt_trans hlow (by decide)
    · exact hhigh.2
  simp only [encodeChar]
  split_ifs with hone htwo hthree
  · omega
  all_goals exact ⟨_, List.mem_cons_self, by simp only [Nat.toUInt8_eq, UInt8.toNat_ofNat']; omega⟩

/-- A text of ASCII can be had from its bytes. -/
theorem eq_map_of_ascii {text : List Char} (h : ∀ b ∈ encodeUtf8 text, b.toNat < 0x80) :
    text = (encodeUtf8 text).map fun b => Char.ofNat b.toNat := by
  induction text with
  | nil => rfl
  | cons c rest ih =>
    have hcons : encodeUtf8 (c :: rest) = encodeChar c ++ encodeUtf8 rest := List.flatMap_cons
    rw [hcons] at h ⊢
    obtain ⟨hc, hrest⟩ := List.forall_mem_append.1 h
    have hascii : c.toNat < 0x80 := by
      by_contra hnot
      obtain ⟨b, hb, hlarge⟩ := exists_mem_encodeChar (Nat.le_of_not_lt hnot)
      have := hc b hb
      omega
    have hbyte : encodeChar c = [c.toNat.toUInt8] := by rw [encodeChar, if_pos hascii]
    have hback : Char.ofNat c.toNat.toUInt8.toNat = c := by
      have hsame : c.toNat.toUInt8.toNat = c.toNat := by
        simp only [Nat.toUInt8_eq, UInt8.toNat_ofNat']
        omega
      rw [hsame, Char.ofNat_toNat]
    rw [hbyte, List.map_append, ← ih hrest, List.map_singleton, hback, List.singleton_append]

end Text

namespace Json

open Failure (EncodingFault)

/-- A body is the text of what the input is made ready as. -/
theorem bodyBy_eq_ok {dump : Value → Except EncodingFault Value} {v : Value} {body : Text.Bytes}
    (h : bodyBy dump v = .ok body) :
    ∃ ready text, dump v = .ok ready ∧ body = Text.encodeUtf8 text ∧
      Reflects text (floats ready) := by
  obtain ⟨ready, hready, h⟩ := bind_eq_ok h
  obtain ⟨text, htext, h⟩ := bind_eq_ok h
  cases h
  refine ⟨ready, text, hready, rfl, ?_⟩
  cases hcompact : compact ready with
  | error fault =>
    rw [hcompact] at htext
    cases htext
  | ok written =>
    rw [hcompact] at htext
    cases htext
    exact reflects_write ready hcompact

/-- The text of what has been made ready fails for its values and types only. -/
theorem dump_of_bodyBy {dump : Value → Except EncodingFault Value} {v : Value}
    {fault : EncodingFault} (h : bodyBy dump v = .error fault)
    (hother : fault.kind.isBadArgument = false) : dump v = .error fault := by
  rw [bodyBy] at h
  cases hready : dump v with
  | error fault' =>
    rw [hready] at h
    cases h
    rfl
  | ok ready =>
    rw [hready] at h
    cases hcompact : compact ready with
    | ok text =>
      simp only [bind, Except.bind, hcompact, Except.mapError] at h
      cases h
    | error unwritable =>
      simp only [bind, Except.bind, hcompact, Except.mapError] at h
      cases h
      cases unwritable <;> cases hother

end Json

namespace CoreHook

open Failure (EncodingFault)
open Step

variable {κ μ : Type}

/-- A failure of the build is recorded, and body and header fields are as they were. -/
structure Refuses (s s' : Session κ μ) : Prop where
  error : ∃ id, s'.request.error = some id ∧ s.world.failures.get? id = none ∧
    s'.world.failures.kindAt? id = some .build
  body : s'.request.body = s.request.body
  headers : s'.request.headers = s.request.headers

/-- A text of ASCII is written, with the type of its content, and no failure is recorded. -/
structure Writes (s s' : Session κ μ) (text : List Char) : Prop where
  error : s'.request.error = s.request.error
  failures : s'.world.failures = s.world.failures
  body : s'.request.body = some (Text.encodeUtf8 text)
  ascii : ∀ b ∈ Text.encodeUtf8 text, b.toNat < 0x80
  type : s'.request.headers.values "content-type" = ["application/json".toList]

/-- All or nothing: the hook returns, and either refuses the input or writes it in standard JSON. -/
def IsWhole (s : Session κ μ) (run : Except Stop Unit × Session κ μ) : Prop :=
  run.1 = .ok () ∧ Xor (Refuses s run.2) (∃ text, Writes s run.2 text ∧ Json.IsText text)

/-- The ways in which the hook can end when `dump` makes the input ready. -/
inductive Encoding (dump : Value → Except EncodingFault Value) (s : Session κ μ) :
    Except Stop Unit × Session κ μ → Prop where
  | refused {fault s'} (hbody : Json.bodyBy dump s.request.params = .error fault)
      (hargument : fault.kind.isBadArgument = true) (hrefuses : Refuses s s') :
    Encoding dump s (.ok (), s')
  /-- The failure is that of `dump`, and the request is left alone. -/
  | escaped {fault id s'} (hdump : dump s.request.params = .error fault)
      (hother : fault.kind.isBadArgument = false)
      (hreason : s'.world.failures.reasonAt? id = some (.encoding fault))
      (hrequest : s'.request = s.request) : Encoding dump s (.error (.raised id), s')
  | written {ready text s'} (hdump : dump s.request.params = .ok ready)
      (hbody : Json.bodyBy dump s.request.params = .ok (Text.encodeUtf8 text))
      (hwrites : Writes s s' text)
      (hstandard : Json.IsText text ↔ Json.AreFinite (Json.floats ready)) :
    Encoding dump s (.ok (), s')

variable {s s' : Session κ μ} {dump : Value → Except EncodingFault Value}

/-- What is written does not record a failure as well. -/
theorem Refuses.not_writes (h : Refuses s s') (text : List Char) : ¬ Writes s s' text := by
  intro hwrites
  obtain ⟨id, -, hnew, hkind⟩ := h.error
  rw [hwrites.failures, Failures.kindAt?, Failures.reasonAt?, hnew] at hkind
  cases hkind

/-- There is one text that is written. -/
theorem Writes.unique {text text' : List Char} (h : Writes s s' text) (h' : Writes s s' text') :
    text = text' := by
  have hsame : Text.encodeUtf8 text = Text.encodeUtf8 text' :=
    Option.some.inj (h.body.symm.trans h'.body)
  rw [Text.eq_map_of_ascii h.ascii, hsame, ← Text.eq_map_of_ascii h'.ascii]

theorem refuses_rejecting (s : Session κ μ) (operation : String) (fault : EncodingFault) :
    Refuses s (s.rejecting (.cannotEncode operation fault)) := by
  have hreason := Failures.reasonAt?_addReason_self s.world.failures
    (.cannotEncode operation fault)
  exact ⟨⟨_, rfl, Failures.get?_addReason_new _ _, Failures.kindAt?_of_reasonAt? hreason⟩, rfl, rfl⟩

theorem writes_encoded (s : Session κ μ) {text : List Char} (h : ∀ c ∈ text, Json.IsVisible c) :
    Writes s (s.encoded (some (Text.encodeUtf8 text))
      (s.request.headers.set "Content-Type" "application/json")) text :=
  ⟨rfl, rfl, rfl, Json.ascii_of_visible h,
    Headers.values_of_single (s.request.headers.fieldsOf_set_self _ _)⟩

/-- The hook ends in one of these ways, whatever makes the input ready. -/
theorem encoding_run (dump : Value → Except EncodingFault Value)
    (hvalue : s.request.params ≠ .null) (hdata : ∀ bytes, s.request.params ≠ .bytes bytes) :
    Encoding dump s ((encodeWith (Json.bodyBy dump) : Step κ μ Unit).run s) := by
  rw [run_encodeWith (Json.bodyBy dump) hvalue hdata]
  cases hbody : Json.bodyBy dump s.request.params with
  | ok body =>
    obtain ⟨ready, text, hdump, rfl, hreflects⟩ := Json.bodyBy_eq_ok hbody
    exact .written hdump hbody (writes_encoded s hreflects.visible) hreflects.isText_iff
  | error fault =>
    dsimp only
    split
    · rename_i hargument
      exact .refused hbody hargument (refuses_rejecting s _ fault)
    · rename_i hother
      have hother : fault.kind.isBadArgument = false := by simpa using hother
      exact .escaped (Json.dump_of_bodyBy hbody hother) hother (Failures.reasonAt?_add_self _ _) rfl

/-- It does all or nothing, unless a failure escapes or a float is left that is not finite. -/
theorem Encoding.isWhole_iff {run : Except Stop Unit × Session κ μ} (h : Encoding dump s run) :
    IsWhole s run ↔
      (∀ fault, dump s.request.params = .error fault → fault.kind.isBadArgument = true) ∧
        ∀ body ready, Json.bodyBy dump s.request.params = .ok body →
          dump s.request.params = .ok ready → Json.AreFinite (Json.floats ready) := by
  cases h with
  | @refused fault s' hbody hargument hrefuses =>
    refine iff_of_true ⟨rfl, .inl ⟨hrefuses, fun ⟨text, hwrites, _⟩ =>
      hrefuses.not_writes text hwrites⟩⟩ ⟨fun fault' hdump => ?_, fun body ready hwritten _ => ?_⟩
    · rw [Json.bodyBy, hdump] at hbody
      cases hbody
      exact hargument
    · cases hbody.symm.trans hwritten
  | @escaped fault id s' hdump hother hreason hrequest =>
    refine iff_of_false (fun hwhole => ?_) fun hall => ?_
    · cases hwhole.1
    · rw [hall.1 fault hdump] at hother
      cases hother
  | @written ready text s' hdump hbody hwrites hstandard =>
    constructor
    · rintro ⟨-, ⟨hrefuses, -⟩ | ⟨⟨text', hwrites', htext⟩, -⟩⟩
      · exact absurd hwrites (hrefuses.not_writes text)
      · refine ⟨fun fault hfailed => ?_, fun body ready' _ hdump' => ?_⟩
        · cases hdump.symm.trans hfailed
        · obtain rfl := Except.ok.inj (hdump.symm.trans hdump')
          obtain rfl := hwrites.unique hwrites'
          exact hstandard.1 htext
    · rintro ⟨-, hfinite⟩
      have htext := hstandard.2 (hfinite _ ready hbody hdump)
      exact ⟨rfl, .inr ⟨⟨text, hwrites, htext⟩, fun hrefuses => hrefuses.not_writes text hwrites⟩⟩

/-- Writing the input does all of it or nothing, whatever makes the input ready, unless that fails
in a way that is not about a value or a type: then the failure escapes and the request is left
alone; or unless a float is left that is not finite: then a text is written that is no JSON.  In the
input as the library makes it ready such floats are left in the fields of records only. -/
theorem encodes_all_or_nothing (dump : Value → Except EncodingFault Value) (s : Session κ μ)
    (hvalue : s.request.params ≠ .null) (hdata : ∀ bytes, s.request.params ≠ .bytes bytes) :
    let run := (encodeWith (Json.bodyBy dump) : Step κ μ Unit).run s
    (Encoding dump s run ∧
      (IsWhole s run ↔
        (∀ fault, dump s.request.params = .error fault → fault.kind.isBadArgument = true) ∧
          ∀ body ready, Json.bodyBy dump s.request.params = .ok body →
            dump s.request.params = .ok ready → Json.AreFinite (Json.floats ready))) ∧
    (perform .encodeBody : Step κ μ Unit) = encodeWith (Json.bodyBy (Json.plain false 0)) ∧
    ∀ ready, Json.plain false 0 s.request.params = .ok ready →
      Json.AreFinite (Json.fieldFloats false s.request.params) →
        Json.AreFinite (Json.floats ready) := by
  have hencodes := encoding_run dump hvalue hdata
  exact ⟨⟨hencodes, hencodes.isWhole_iff⟩, rfl, fun ready => Json.areFinite_plain s.request.params⟩

/-- A request with some input, before anything is written. -/
def given (params : Value) : Session CoreHook Unit :=
  let s := Session.plain "https://api.io" (template id) .never .none [] ()
  { s with request := { s.request with params } }

/-- A mapping of texts is written in standard JSON. -/
theorem texts_are_standard :
    let params : Value := .dict [(.str "a", .str "b")]
    let run := (perform .encodeBody).run (given params)
    params ≠ .null ∧ (∀ bytes, params ≠ .bytes bytes) ∧ IsWhole (given params) run ∧
      ∃ text, Writes (given params) run.2 text ∧ Json.IsText text := by
  intro params run
  obtain ⟨⟨hencodes, hwhole⟩, hperform, hfinite⟩ := encodes_all_or_nothing (Json.plain false 0)
    (given params) nofun nofun
  have hplain : Json.plain false 0 params = .ok params := by rfl
  have hbody : Json.bodyBy (Json.plain false 0) params =
      .ok (Text.encodeUtf8 "\x7b\"a\": \"b\"\x7d".toList) := by rfl
  have hall : IsWhole (given params) run := by
    refine hwhole.2 ⟨fun fault hfailed => ?_, fun _ ready _ hready => hfinite ready hready nofun⟩
    cases hplain.symm.trans hfailed
  refine ⟨nofun, nofun, hall, ?_⟩
  rcases hall.2 with ⟨hrefuses, -⟩ | ⟨hwrites, -⟩
  · have hnone : run.2.request.body = none := hrefuses.body
    cases hnone
  · exact hwrites

/-- Two ways in which neither all nor nothing is done: a float that is not finite is written in the
field of a record, in a word that standard JSON does not have, and an object of the caller's that
misses a key makes the hook fail. -/
theorem infinite_field_is_written :
    (let params : Value := .record "User" [("name", .str "x"), ("score", .float (0 / 0))]
      let run := (perform .encodeBody).run (given params)
      Writes (given params) run.2 "\x7b\"name\": \"x\", \"score\": NaN\x7d".toList ∧
        ¬ IsWhole (given params) run) ∧
      let params : Value := .record "User" [("name", .str "x")]
      let dump (_ : Value) : Except EncodingFault Value := .error (.raised (.outside .key) "name")
      ¬ IsWhole (given params) ((encodeWith (Json.bodyBy dump)).run (given params)) := by
  refine ⟨?_, ?_⟩
  · intro params run
    have hvalue : params ≠ .null := by simp [params]
    have hdata : ∀ bytes, params ≠ .bytes bytes := by simp [params]
    have hplain : Json.plain false 0 params =
        .ok (.dict [(.str "name", .str "x"), (.str "score", .float (0 / 0))]) := by rfl
    have hbody : Json.bodyBy (Json.plain false 0) (given params).request.params =
        .ok (Text.encodeUtf8 "\x7b\"name\": \"x\", \"score\": NaN\x7d".toList) := by rfl
    have hvisible : ∀ c ∈ "\x7b\"name\": \"x\", \"score\": NaN\x7d".toList, Json.IsVisible c := by
      simp [Json.IsVisible]
    have hwhole_iff :=
      (encoding_run (s := given params) (Json.plain false 0) hvalue hdata).isWhole_iff
    refine ⟨?_, fun hwhole => ?_⟩
    · have hrun : run = (.ok (), (given params).encoded
          (some (Text.encodeUtf8 "\x7b\"name\": \"x\", \"score\": NaN\x7d".toList))
          ((given params).request.headers.set "Content-Type" "application/json")) := by
        have hencode :=
          run_encodeWith (s := given params) (Json.bodyBy (Json.plain false 0)) hvalue hdata
        rwa [hbody] at hencode
      rw [hrun]
      exact writes_encoded (given params) hvisible
    · have hfinite := (hwhole_iff.1 hwhole).2 _ _ hbody hplain (0 / 0)
        (by simp [Json.floats, Json.entryFloats])
      exact absurd hfinite (by decide)
  · intro params dump hwhole
    have hvalue : params ≠ .null := by simp [params]
    have hdata : ∀ bytes, params ≠ .bytes bytes := by simp [params]
    have hargument :=
      ((encoding_run (s := given params) dump hvalue hdata).isWhole_iff.1 hwhole).1 _ rfl
    cases hargument

end CoreHook

end RequestPipeline
