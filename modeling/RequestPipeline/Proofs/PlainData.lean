import RequestPipeline.Json.Plain
import RequestPipeline.Proofs.JsonRoundTrip

/-!
# Data made ready

Data is made ready before it is written as a body.  What is not a number, or infinite, becomes null,
and so null is what the body says there.  A name with a surrogate is refused, and so is a value
inside too many collections; then there is no body at all.
-/

namespace RequestPipeline

open Failure (EncodingFault)
open Text (Str)

namespace Value

mutual

/-- The number of collections that the innermost parts of a value stand inside. -/
def height : Value → ℕ
  | .list items => itemsHeight items
  | .dict entries => entriesHeight entries
  | _ => 0

def itemsHeight : List Value → ℕ
  | [] => 0
  | v :: rest => max (height v + 1) (itemsHeight rest)

def entriesHeight : List (Value × Value) → ℕ
  | [] => 0
  | (_, v) :: rest => max (height v + 1) (entriesHeight rest)

end

/-- The name that a key is. -/
def keyNames : Value → List Str
  | .str name => [name]
  | _ => []

mutual

/-- The names in a value, at any depth. -/
def names : Value → List Str
  | .list items => itemNames items
  | .dict entries => entryNames entries
  | _ => []

def itemNames : List Value → List Str
  | [] => []
  | v :: rest => names v ++ itemNames rest

def entryNames : List (Value × Value) → List Str
  | [] => []
  | (k, v) :: rest => keyNames k ++ (names v ++ entryNames rest)

end

end Value

namespace Json

open Value

variable {v : Value} {depth : ℕ}

/-! ## Data that fits -/

/-- Data that can be made ready inside so many collections: its innermost parts do not stand too
deep, and each name in it has a form in UTF-8. -/
structure Fits (depth : ℕ) (v : Value) : Prop where
  height : depth + v.height < depthLimit
  names : ∀ name ∈ v.names, name.IsEncodable

theorem itemsHeight_lt_iff {items : List Value} :
    depth + itemsHeight items < depthLimit ↔
      depth < depthLimit ∧ ∀ v ∈ items, depth + 1 + v.height < depthLimit := by
  induction items with
  | nil => simp [itemsHeight]
  | cons v rest ih =>
    rw [List.forall_mem_cons, and_left_comm, ← ih, itemsHeight]
    omega

theorem entriesHeight_lt_iff {entries : List (Value × Value)} :
    depth + entriesHeight entries < depthLimit ↔
      depth < depthLimit ∧ ∀ e ∈ entries, depth + 1 + e.2.height < depthLimit := by
  induction entries with
  | nil => simp [entriesHeight]
  | cons entry rest ih =>
    rw [List.forall_mem_cons, and_left_comm, ← ih, entriesHeight]
    omega

theorem forall_itemNames {P : Str → Prop} {items : List Value} :
    (∀ name ∈ itemNames items, P name) ↔ ∀ v ∈ items, ∀ name ∈ v.names, P name := by
  induction items with
  | nil => simp [itemNames]
  | cons v rest ih => rw [itemNames, List.forall_mem_append, ih, List.forall_mem_cons]

theorem forall_entryNames {P : Str → Prop} {entries : List (Value × Value)} :
    (∀ name ∈ entryNames entries, P name) ↔
      ∀ e ∈ entries, (∀ name ∈ keyNames e.1, P name) ∧ ∀ name ∈ e.2.names, P name := by
  induction entries with
  | nil => simp [entryNames]
  | cons entry rest ih =>
    rw [entryNames, List.forall_mem_append, List.forall_mem_append, ih, List.forall_mem_cons,
      and_assoc]

theorem fits_list_iff {items : List Value} :
    Fits depth (.list items) ↔ depth < depthLimit ∧ ∀ v ∈ items, Fits (depth + 1) v := by
  constructor
  · intro h
    obtain ⟨hdepth, hheights⟩ := itemsHeight_lt_iff.1 h.height
    exact ⟨hdepth, fun v hv => ⟨hheights v hv, forall_itemNames.1 h.names v hv⟩⟩
  · rintro ⟨hdepth, hitems⟩
    exact ⟨itemsHeight_lt_iff.2 ⟨hdepth, fun v hv => (hitems v hv).height⟩,
      forall_itemNames.2 fun v hv => (hitems v hv).names⟩

theorem fits_dict_iff {entries : List (Value × Value)} :
    Fits depth (.dict entries) ↔ depth < depthLimit ∧
      ∀ e ∈ entries, (∀ name ∈ keyNames e.1, name.IsEncodable) ∧ Fits (depth + 1) e.2 := by
  constructor
  · intro h
    obtain ⟨hdepth, hheights⟩ := entriesHeight_lt_iff.1 h.height
    have hnames := forall_entryNames.1 h.names
    exact ⟨hdepth, fun e he => ⟨(hnames e he).1, hheights e he, (hnames e he).2⟩⟩
  · rintro ⟨hdepth, hentries⟩
    exact ⟨entriesHeight_lt_iff.2 ⟨hdepth, fun e he => (hentries e he).2.height⟩,
      forall_entryNames.2 fun e he => ⟨(hentries e he).1, (hentries e he).2.names⟩⟩

/-- A scalar fits wherever anything does. -/
theorem fits_scalar_iff (hheight : v.height = 0) (hnames : v.names = []) :
    Fits depth v ↔ depth < depthLimit := by
  refine ⟨fun h => ?_, fun h => ⟨by rwa [hheight], by simp [hnames]⟩⟩
  have := h.height
  omega

/-! ## Finite parts -/

mutual

/-- Data with null in the place of numbers that are not finite. -/
def finitePart : Value → Value
  | .float x => if x.isFinite then .float x else .null
  | .list items => .list (finiteItems items)
  | .dict entries => .dict (finiteEntries entries)
  | v => v

def finiteItems : List Value → List Value
  | [] => []
  | v :: rest => finitePart v :: finiteItems rest

def finiteEntries : List (Value × Value) → List (Value × Value)
  | [] => []
  | (k, v) :: rest => (k, finitePart v) :: finiteEntries rest

end

theorem finiteItems_eq (items : List Value) : finiteItems items = items.map finitePart := by
  induction items with
  | nil => rfl
  | cons v rest ih => rw [finiteItems, ih, List.map_cons]

theorem finiteEntries_eq (entries : List (Value × Value)) :
    finiteEntries entries = entries.map fun e => (e.1, finitePart e.2) := by
  induction entries with
  | nil => rfl
  | cons entry rest ih =>
    obtain ⟨k, v⟩ := entry
    rw [finiteEntries, ih, List.map_cons]

theorem named_finiteEntries {entries : List (Value × Value)} (h : Named entries) :
    Named (finiteEntries entries) := by
  rw [finiteEntries_eq]
  refine ⟨fun e he => ?_, by simpa [List.map_map, Function.comp_def] using h.distinct⟩
  obtain ⟨e', he', rfl⟩ := List.mem_map.1 he
  exact h.names e' he'

/-- A key is left as it is. -/
theorem isFinite_key {entries : List (Value × Value)} (hnamed : Named entries)
    (hkeys : ∀ e ∈ entries, IsData e.1) : ∀ e ∈ entries, IsFinite e.1 := by
  intro e he
  obtain ⟨name, hname⟩ := hnamed.names e he
  have hkey := hkeys e he
  rw [hname] at hkey ⊢
  cases hkey with
  | str hs => exact .str hs

theorem isFinite_finitePart (h : IsData v) : IsFinite (finitePart v) := by
  induction h with
  | null => exact .null
  | bool b => exact .bool b
  | int hshort => exact .int hshort
  | float x =>
    rw [finitePart]
    split
    · exact .float (by assumption)
    · exact .null
  | str hs => exact .str hs
  | list hitems ih =>
    rw [finitePart, finiteItems_eq]
    exact .list (List.forall_mem_map.2 ih)
  | dict hnamed hkeys hvalues _ ih =>
    rw [finitePart]
    refine .dict (named_finiteEntries hnamed) ?_ ?_
    all_goals rw [finiteEntries_eq]
    · exact List.forall_mem_map.2 (isFinite_key hnamed hkeys)
    · exact List.forall_mem_map.2 ih

/-- Finite data is left as it is. -/
theorem finitePart_of_isFinite (h : IsFinite v) : finitePart v = v := by
  induction h with
  | null => rfl
  | bool b => rfl
  | int hshort => rfl
  | float hx => rw [finitePart, if_pos hx]
  | str hs => rfl
  | list hitems ih => rw [finitePart, finiteItems_eq, List.map_congr_left (g := id) ih, List.map_id]
  | @dict entries hnamed hkeys hvalues _ ih =>
    have hsame : ∀ e ∈ entries, (fun e : Value × Value => (e.1, finitePart e.2)) e = id e := by
      intro e he
      simp only [ih e he]
      rfl
    rw [finitePart, finiteEntries_eq, List.map_congr_left hsame, List.map_id]

/-- Data is left as it is if it is finite, and only then. -/
theorem finitePart_eq_self_iff (h : IsData v) : finitePart v = v ↔ IsFinite v :=
  ⟨fun heq => heq ▸ isFinite_finitePart h, finitePart_of_isFinite⟩

/-! ## Making data ready -/

/-- What fits gives a result, and what does not is refused. -/
def Settles {α : Type} (fits : Prop) (result : α) (x : Except EncodingFault α) : Prop :=
  fits ∧ x = .ok result ∨ ¬ fits ∧ ∃ fault, x = .error fault

namespace Settles

variable {α β γ : Type} {p q : Prop} {a : α} {b : β} {x : Except EncodingFault α}
  {y : Except EncodingFault β}

theorem ok (h : p) : Settles p a (.ok a) := .inl ⟨h, rfl⟩

theorem congr (h : Settles p a x) (hpq : p ↔ q) : Settles q a x := by
  rwa [Settles, ← hpq]

theorem map (h : Settles p a x) (f : α → β) : Settles p (f a) (x.map f) := by
  rcases h with ⟨hp, rfl⟩ | ⟨hp, fault, rfl⟩
  · exact .inl ⟨hp, rfl⟩
  · exact .inr ⟨hp, fault, rfl⟩

/-- What comes after a part is looked at only if the part fits. -/
theorem bind {next : α → Except EncodingFault β} (hx : Settles p a x)
    (hnext : p → Settles q b (next a)) : Settles (p ∧ q) b (x >>= next) := by
  rcases hx with ⟨hp, rfl⟩ | ⟨hp, fault, rfl⟩
  · exact (hnext hp).congr (and_iff_right hp).symm
  · exact .inr ⟨fun h => hp h.1, fault, rfl⟩

theorem bind_pure (hx : Settles p a x) (f : α → β) :
    Settles p (f a) (x >>= fun a => pure (f a)) := by
  have hend : p → Settles True (f a) (pure (f a)) := fun _ => .ok trivial
  exact (hx.bind hend).congr (by rw [and_true])

end Settles

theorem plain_of_tooDeep (h : depthLimit ≤ depth) (v : Value) :
    plain false depth v = .error .tooDeep := by
  rw [plain.eq_def, isTooDeep, decide_eq_true h]
  rfl

/-- Inside too many collections nothing fits, and nothing is looked at. -/
theorem settles_of_depth {p : Prop} {result : Value} (hp : p → depth < depthLimit)
    (h : depth < depthLimit → Settles p result (plain false depth v)) :
    Settles p result (plain false depth v) := by
  rcases Nat.lt_or_ge depth depthLimit with hdepth | hdepth
  · exact h hdepth
  · exact .inr ⟨fun hfits => absurd (hp hfits) (Nat.not_lt.2 hdepth), .tooDeep,
      plain_of_tooDeep hdepth v⟩

theorem isTooDeep_of_lt (h : depth < depthLimit) : isTooDeep false depth = false := by
  simp [isTooDeep, h]

/-- A scalar is made ready as it is, unless it stands too deep. -/
theorem settles_scalar {result : Value} (hheight : v.height = 0) (hnames : v.names = [])
    (hplain : isTooDeep false depth = false → plain false depth v = .ok result) :
    Settles (Fits depth v) result (plain false depth v) := by
  refine settles_of_depth (fits_scalar_iff hheight hnames).1 fun hdepth => ?_
  rw [hplain (isTooDeep_of_lt hdepth)]
  exact .ok ((fits_scalar_iff hheight hnames).2 hdepth)

theorem plainItems_settles {items : List Value}
    (h : ∀ v ∈ items, Settles (Fits depth v) (finitePart v) (plain false depth v)) :
    Settles (∀ v ∈ items, Fits depth v) (finiteItems items) (plainItems false depth items) := by
  induction items with
  | nil => exact .ok nofun
  | cons v rest ih =>
    obtain ⟨hv, hrest⟩ := List.forall_mem_cons.1 h
    have hall : Settles (Fits depth v ∧ ∀ w ∈ rest, Fits depth w) (finiteItems (v :: rest))
        (plainItems false depth (v :: rest)) := by
      rw [plainItems]
      exact hv.bind fun _ => (ih hrest).bind_pure _
    exact hall.congr List.forall_mem_cons.symm

/-- A name is left as it is, or refused for its surrogates. -/
theorem plainKey_settles (name : Str) :
    Settles (∀ n ∈ keyNames (.str name), n.IsEncodable) name.chars (plainKey (.str name)) := by
  simp only [keyNames, List.forall_mem_singleton, plainKey]
  by_cases h : name.IsEncodable
  · obtain ⟨cs, rfl⟩ := Str.isEncodable_iff.1 h
    exact .inl ⟨h, by simp [Except.mapError]⟩
  · obtain ⟨fault, hfault⟩ := Str.exists_encodable_eq_error h
    exact .inr ⟨h, .torn fault, by rw [hfault]; rfl⟩

theorem plainEntries_settles {entries : List (Value × Value)}
    (hnames : ∀ e ∈ entries, ∃ name, e.1 = .str name)
    (h : ∀ e ∈ entries, Settles (Fits depth e.2) (finitePart e.2) (plain false depth e.2)) :
    Settles (∀ e ∈ entries, (∀ name ∈ keyNames e.1, name.IsEncodable) ∧ Fits depth e.2)
      (finiteEntries entries) (plainEntries false depth entries) := by
  induction entries with
  | nil => exact .ok nofun
  | cons entry rest ih =>
    obtain ⟨k, v⟩ := entry
    obtain ⟨⟨name, rfl⟩, hnames'⟩ := List.forall_mem_cons.1 hnames
    obtain ⟨hv, hrest⟩ := List.forall_mem_cons.1 h
    have hall : Settles ((∀ n ∈ keyNames (.str name), n.IsEncodable) ∧ Fits depth v ∧
        ∀ e ∈ rest, (∀ n ∈ keyNames e.1, n.IsEncodable) ∧ Fits depth e.2)
        (finiteEntries ((.str name, v) :: rest))
        (plainEntries false depth ((.str name, v) :: rest)) := by
      rw [plainEntries]
      refine (plainKey_settles name).bind fun hname => ?_
      obtain ⟨cs, rfl⟩ := Str.isEncodable_iff.1 (hname name List.mem_cons_self)
      rw [Str.chars_ofChars]
      exact hv.bind fun _ => (ih hnames' hrest).bind_pure _
    exact hall.congr (by rw [← and_assoc, List.forall_mem_cons])

/-- Data is made ready as its finite part where it fits, and refused elsewhere. -/
theorem plain_settles (h : IsData v) (depth : ℕ) :
    Settles (Fits depth v) (finitePart v) (plain false depth v) := by
  induction h generalizing depth with
  | null => exact settles_scalar rfl rfl fun hdepth => by simp [plain, hdepth, finitePart]
  | bool b => exact settles_scalar rfl rfl fun hdepth => by simp [plain, hdepth, finitePart]
  | int hshort => exact settles_scalar rfl rfl fun hdepth => by simp [plain, hdepth, finitePart]
  | float x =>
    exact settles_scalar rfl rfl fun hdepth => by simp [plain, hdepth, finitePart, plainFloat]
  | str hs => exact settles_scalar rfl rfl fun hdepth => by simp [plain, hdepth, finitePart]
  | @list items hitems ih =>
    refine settles_of_depth (fun hfits => (fits_list_iff.1 hfits).1) fun hdepth => ?_
    have hitems := (plainItems_settles fun v hv => ih v hv (depth + 1)).map Value.list
    rw [plain, isTooDeep_of_lt hdepth, finitePart]
    exact hitems.congr (by rw [fits_list_iff, and_iff_right hdepth])
  | @dict entries hnamed hkeys hvalues _ ih =>
    refine settles_of_depth (fun hfits => (fits_dict_iff.1 hfits).1) fun hdepth => ?_
    have hentries :=
      (plainEntries_settles hnamed.names fun e he => ih e he (depth + 1)).map ofEntries
    rw [plain, isTooDeep_of_lt hdepth, finitePart,
      ← ofEntries_of_named (named_finiteEntries hnamed)]
    exact hentries.congr (by rw [fits_dict_iff, and_iff_right hdepth])

/-! ## The body -/

/-- The body for data that fits says its finite part. -/
theorem body_says (h : IsData v) (hfits : Fits 0 v) :
    ∃ text, body v = .ok (Text.encodeUtf8 text) ∧ Says text (finitePart v) := by
  obtain ⟨text, htext, hsays⟩ := write_says (isFinite_finitePart h) 0
  refine ⟨text, ?_, hsays⟩
  rcases plain_settles h 0 with ⟨-, hplain⟩ | ⟨hnot, -⟩
  · rw [body, bodyBy, hplain]
    simp only [compact, htext, bind, Except.bind, Except.mapError]
    rfl
  · exact absurd hfits hnot

/-- The body for data that fits is read as its finite part. -/
theorem readBytes_body (h : IsData v) (hfits : Fits 0 v) :
    ∃ bytes, body v = .ok bytes ∧ readBytes bytes = .ok (finitePart v) := by
  obtain ⟨text, hbody, hsays⟩ := body_says h hfits
  exact ⟨Text.encodeUtf8 text, hbody, hsays.readBytes⟩

/-- Data that does not fit has no body. -/
theorem body_refuses (h : IsData v) (hfits : ¬ Fits 0 v) : ∃ fault, body v = .error fault := by
  rcases plain_settles h 0 with ⟨hfits', -⟩ | ⟨-, fault, hplain⟩
  · exact absurd hfits' hfits
  · exact ⟨fault, by rw [body, bodyBy, hplain]; rfl⟩

/-! ## Refusals -/

/-- Failures are such that the hook which writes a body takes care of them. -/
def Refuses {α : Type} (x : Except EncodingFault α) : Prop :=
  ∀ fault, x = .error fault → fault.kind.isBadArgument = true

namespace Refuses

variable {α β : Type} {x : Except EncodingFault α}

theorem ok (a : α) : Refuses (.ok a) := nofun

theorem error {fault : EncodingFault} (h : fault.kind.isBadArgument = true) :
    Refuses (.error fault : Except EncodingFault α) := by
  rintro _ ⟨⟩
  exact h

theorem bind {next : α → Except EncodingFault β} (hx : Refuses x)
    (hnext : ∀ a, Refuses (next a)) : Refuses (x >>= next) := by
  cases x with
  | error fault => exact .error (hx fault rfl)
  | ok a => exact hnext a

theorem map (hx : Refuses x) (f : α → β) : Refuses (x.map f) := by
  cases x with
  | error fault => exact .error (hx fault rfl)
  | ok a => exact .ok (f a)

end Refuses

theorem refuses_heldText (b : Text.Bytes) : Refuses (heldText b) := by
  rw [heldText]
  split
  · exact .ok _
  · exact .error rfl

theorem refuses_encodable (s : Str) : Refuses (s.encodable.mapError EncodingFault.torn) := by
  cases s.encodable with
  | ok cs => exact .ok cs
  | error fault => exact .error rfl

mutual

theorem refuses_plainKey : (v : Value) → Refuses (plainKey v)
  | .null | .bool _ | .int _ | .float _ => by rw [plainKey]; exact .ok _
  | .str s => by rw [plainKey]; exact refuses_encodable s
  | .bytes b => by rw [plainKey]; exact refuses_heldText b
  | .tuple parts => by
    rw [plainKey]
    exact (refuses_plainKeys parts).bind fun texts => .ok _
  | .list _ | .dict _ | .record _ _ | .opaqueObject _ => by rw [plainKey.eq_def]; exact .error rfl

theorem refuses_plainKeys : (parts : List Value) → Refuses (plainKeys parts)
  | [] => .ok []
  | v :: rest => by
    rw [plainKeys]
    exact (refuses_plainKey v).bind fun text => (refuses_plainKeys rest).bind fun more => .ok _

end

mutual

/-- A value is refused for its place or looked at. -/
theorem refuses_plain (inRecord : Bool) (depth : ℕ) (v : Value) :
    Refuses (plain inRecord depth v) := by
  rw [plain.eq_def]
  split
  · exact .error rfl
  · match v with
    | .null | .bool _ | .int _ | .str _ | .float _ => exact .ok _
    | .bytes b => exact (refuses_heldText b).map _
    | .list items | .tuple items => exact (refuses_plainItems inRecord (depth + 1) items).map _
    | .dict entries => exact (refuses_plainEntries inRecord (depth + 1) entries).map _
    | .record _ fields => exact (refuses_plainFields (depth + 1) fields).map _
    | .opaqueObject name => exact .error rfl

theorem refuses_plainItems (inRecord : Bool) (depth : ℕ) :
    (items : List Value) → Refuses (plainItems inRecord depth items)
  | [] => .ok []
  | v :: rest => by
    rw [plainItems]
    exact (refuses_plain inRecord depth v).bind fun first =>
      (refuses_plainItems inRecord depth rest).bind fun more => .ok _

theorem refuses_plainEntries (inRecord : Bool) (depth : ℕ) :
    (entries : List (Value × Value)) → Refuses (plainEntries inRecord depth entries)
  | [] => .ok []
  | (k, v) :: rest => by
    rw [plainEntries]
    exact (refuses_plainKey k).bind fun key => (refuses_plain inRecord depth v).bind fun value =>
      (refuses_plainEntries inRecord depth rest).bind fun more => .ok _

theorem refuses_plainFields (depth : ℕ) :
    (fields : List (String × Value)) → Refuses (plainFields depth fields)
  | [] => .ok []
  | (name, v) :: rest => by
    rw [plainFields]
    exact (refuses_plain true depth v).bind fun value =>
      (refuses_plainFields depth rest).bind fun more => .ok _

end

/-- Whatever has no body is refused for its value or its type. -/
theorem refuses_body (v : Value) : Refuses (body v) := by
  refine (refuses_plain false 0 v).bind fun ready => ?_
  cases compact ready with
  | ok text => exact .ok _
  | error fault => cases fault <;> exact .error rfl

end Json

end RequestPipeline
