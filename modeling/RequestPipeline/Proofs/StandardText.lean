import RequestPipeline.Json.Plain
import RequestPipeline.Proofs.JsonGrammar

/-!
# When a written text is standard JSON

A value that is written on one line becomes a text of the grammar if its floats are finite, and only
then: the words for floats that are not finite show outside of strings, where the grammar has no
such characters.  Values made ready for JSON keep such floats in the fields of records alone.
-/

namespace RequestPipeline

namespace Json

open Decimal
open Text (Str)

/-! ## Floats in values -/

mutual

/-- The floats that are written as numbers of a JSON text; those of keys become names. -/
def floats : Value → List Float
  | .float x => [x]
  | .list items => itemFloats items
  | .tuple items => itemFloats items
  | .dict entries => entryFloats entries
  | _ => []

def itemFloats : List Value → List Float
  | [] => []
  | v :: rest => floats v ++ itemFloats rest

def entryFloats : List (Value × Value) → List Float
  | [] => []
  | (_, v) :: rest => floats v ++ entryFloats rest

end

mutual

/-- The floats that stand in fields of records, at any depth. -/
def fieldFloats (inRecord : Bool) : Value → List Float
  | .float x => if inRecord then [x] else []
  | .list items => fieldFloatsOfItems inRecord items
  | .tuple items => fieldFloatsOfItems inRecord items
  | .dict entries => fieldFloatsOfEntries inRecord entries
  | .record _ fields => fieldFloatsOfFields fields
  | _ => []

def fieldFloatsOfItems (inRecord : Bool) : List Value → List Float
  | [] => []
  | v :: rest => fieldFloats inRecord v ++ fieldFloatsOfItems inRecord rest

def fieldFloatsOfEntries (inRecord : Bool) : List (Value × Value) → List Float
  | [] => []
  | (_, v) :: rest => fieldFloats inRecord v ++ fieldFloatsOfEntries inRecord rest

def fieldFloatsOfFields : List (String × Value) → List Float
  | [] => []
  | (_, v) :: rest => fieldFloats true v ++ fieldFloatsOfFields rest

end

def AreFinite (xs : List Float) : Prop := ∀ x ∈ xs, x.isFinite = true

variable {xs xs' : List Float} {x : Float} {text : List Char}

theorem areFinite_append : AreFinite (xs ++ xs') ↔ AreFinite xs ∧ AreFinite xs' :=
  List.forall_mem_append

theorem areFinite_entryFloats {entries : List (Value × Value)} :
    AreFinite (entryFloats entries) ↔ ∀ e ∈ entries, AreFinite (floats e.2) := by
  induction entries with
  | nil => simp [entryFloats, AreFinite]
  | cons e rest ih => rw [entryFloats, areFinite_append, ih, List.forall_mem_cons]

theorem itemFloats_eq (items : List Value) : itemFloats items = (items.map floats).flatten := by
  induction items with
  | nil => rfl
  | cons v rest ih => rw [itemFloats, ih, List.map_cons, List.flatten_cons]

theorem entryFloats_eq (entries : List (Value × Value)) :
    entryFloats entries = (entries.map fun e => floats e.2).flatten := by
  induction entries with
  | nil => rfl
  | cons e rest ih => rw [entryFloats, ih, List.map_cons, List.flatten_cons]

/-! ### Made ready -/

theorem areFinite_ofEntries {entries : List (Value × Value)} (h : AreFinite (entryFloats entries)) :
    AreFinite (floats (Value.ofEntries entries)) := by
  obtain ⟨made, hmade, hfloats⟩ := exists_ofEntries (P := fun v => AreFinite (floats v))
    (areFinite_entryFloats.1 h)
  rw [hmade, floats]
  exact areFinite_entryFloats.2 hfloats

mutual

/-- A float that is not finite stays only in a field of a record, by recursion on the value. -/
theorem areFinite_plain {inRecord : Bool} {depth : ℕ} (v : Value) {ready : Value}
    (h : plain inRecord depth v = .ok ready) (hfields : AreFinite (fieldFloats inRecord v)) :
    AreFinite (floats ready) := by
  have hlooked : ¬ isTooDeep inRecord depth = true := by
    intro htooDeep
    rw [plain.eq_def, if_pos htooDeep] at h
    cases h
  rw [plain.eq_def, if_neg hlooked] at h
  cases v with
  | float x =>
    cases h
    rw [plainFloat]
    split
    · rename_i hkept
      intro y hy
      obtain rfl := List.mem_singleton.1 hy
      cases inRecord with
      | true => exact hfields y (List.mem_singleton.2 rfl)
      | false => simpa using hkept
    · exact nofun
  | bytes b =>
    obtain ⟨s, -, rfl⟩ := map_eq_ok h
    exact nofun
  | list items =>
    obtain ⟨ready, hitems, rfl⟩ := map_eq_ok h
    exact areFinite_plainItems items hitems hfields
  | tuple items =>
    obtain ⟨ready, hitems, rfl⟩ := map_eq_ok h
    exact areFinite_plainItems items hitems hfields
  | dict entries =>
    obtain ⟨ready, hentries, rfl⟩ := map_eq_ok h
    exact areFinite_ofEntries (areFinite_plainEntries entries hentries hfields)
  | record _ fields =>
    obtain ⟨ready, hready, rfl⟩ := map_eq_ok h
    exact areFinite_plainFields fields hready hfields
  | opaqueObject _ => cases h
  | _ =>
    cases h
    exact nofun
termination_by structural v

theorem areFinite_plainItems {inRecord : Bool} {depth : ℕ} (items : List Value)
    {ready : List Value} (h : plainItems inRecord depth items = .ok ready)
    (hfields : AreFinite (fieldFloatsOfItems inRecord items)) : AreFinite (itemFloats ready) := by
  cases items with
  | nil =>
    cases h
    exact nofun
  | cons v rest =>
    obtain ⟨first, hfirst, h⟩ := bind_eq_ok h
    obtain ⟨more, hmore, h⟩ := bind_eq_ok h
    cases h
    obtain ⟨hv, hrest⟩ := areFinite_append.1 hfields
    exact areFinite_append.2 ⟨areFinite_plain v hfirst hv, areFinite_plainItems rest hmore hrest⟩
termination_by structural items

theorem areFinite_plainEntries {inRecord : Bool} {depth : ℕ} (entries : List (Value × Value))
    {ready : List (Value × Value)} (h : plainEntries inRecord depth entries = .ok ready)
    (hfields : AreFinite (fieldFloatsOfEntries inRecord entries)) :
    AreFinite (entryFloats ready) := by
  match entries with
  | [] =>
    cases h
    exact nofun
  | (k, v) :: rest =>
    obtain ⟨key, -, h⟩ := bind_eq_ok h
    obtain ⟨value, hvalue, h⟩ := bind_eq_ok h
    obtain ⟨more, hmore, h⟩ := bind_eq_ok h
    cases h
    obtain ⟨hv, hrest⟩ := areFinite_append.1 hfields
    exact areFinite_append.2 ⟨areFinite_plain v hvalue hv, areFinite_plainEntries rest hmore hrest⟩
termination_by structural entries

theorem areFinite_plainFields {depth : ℕ} (fields : List (String × Value))
    {ready : List (Value × Value)} (h : plainFields depth fields = .ok ready)
    (hfields : AreFinite (fieldFloatsOfFields fields)) :
    AreFinite (entryFloats ready) := by
  match fields with
  | [] =>
    cases h
    exact nofun
  | (name, v) :: rest =>
    obtain ⟨value, hvalue, h⟩ := bind_eq_ok h
    obtain ⟨more, hmore, h⟩ := bind_eq_ok h
    cases h
    obtain ⟨hv, hrest⟩ := areFinite_append.1 hfields
    exact areFinite_append.2 ⟨areFinite_plain v hvalue hv, areFinite_plainFields rest hmore hrest⟩
termination_by structural fields

end

/-! ## What a text reveals -/

/-- Outside of strings the text shows if some of the numbers are not finite. -/
def Reveals (text : List Char) (xs : List Float) : Prop :=
  ∃ marks, Shows text marks ∧ ((∃ x ∈ xs, x.isFinite = false) → 'N' ∈ marks ∨ 'I' ∈ marks)

/-- The text is in the grammar if the numbers are finite, and otherwise it shows. -/
structure Reflects (text : List Char) (xs : List Float) : Prop where
  visible : ∀ c ∈ text, IsVisible c
  isText : AreFinite xs → IsText text
  reveals : Reveals text xs

/-- The text is in the grammar if the numbers are finite, and only then. -/
theorem Reflects.isText_iff (h : Reflects text xs) : IsText text ↔ AreFinite xs := by
  refine ⟨fun htext => ?_, h.isText⟩
  by_contra hsome
  obtain ⟨marks, hmarks, hseen⟩ := h.reveals
  obtain ⟨marks', hmarks', hclear⟩ := htext.isClear
  obtain rfl := hmarks.unique hmarks'
  have hinfinite : ∃ x ∈ xs, x.isFinite = false := by simpa [AreFinite] using hsome
  rcases hseen hinfinite with hmem | hmem
  · exact (hclear _ hmem).1 rfl
  · exact (hclear _ hmem).2 rfl

theorem reflects_of_isText (h : IsText text) (hvisible : ∀ c ∈ text, IsVisible c)
    (hfinite : AreFinite xs) : Reflects text xs := by
  obtain ⟨marks, hmarks, -⟩ := h.isClear
  refine ⟨hvisible, fun _ => h, marks, hmarks, ?_⟩
  rintro ⟨x, hx, hnot⟩
  rw [hfinite x hx] at hnot
  cases hnot

/-- The words for what is not finite show. -/
theorem reflects_floatText (x : Float) : Reflects (floatText x) [x] := by
  cases hx : x.isFinite with
  | true =>
    have hnumeral := isNumeral_floatText hx
    exact reflects_of_isText hnumeral.isText hnumeral.visible (by simpa [AreFinite] using hx)
  | false =>
    have hwords : floatText x ∈ ["NaN".toList, "Infinity".toList, "-Infinity".toList] := by
      rcases partsOf_of_not_isFinite hx with hnan | ⟨negative, hinfinite⟩
      · simp [floatText, Layout.write, hnan, json]
      · cases negative <;> simp [floatText, Layout.write, hinfinite, json, Layout.signed]
    have hshown : (∀ c ∈ floatText x, IsVisible c ∧ c ≠ '"') ∧
        ('N' ∈ floatText x ∨ 'I' ∈ floatText x) := by
      revert hwords
      generalize floatText x = word
      simp only [List.mem_cons, List.not_mem_nil, or_false]
      rintro (rfl | rfl | rfl) <;> simp [IsVisible]
    refine ⟨fun c hc => (hshown.1 c hc).1, fun hfinite => ?_, floatText x,
      shows_of_ne_quote fun c hc => (hshown.1 c hc).2, fun _ => hshown.2⟩
    rw [hfinite x (List.mem_singleton.2 rfl)] at hx
    cases hx

/-! ### Collections -/

theorem reveals_enclose {texts : List (List Char)} {xss : List (List Float)}
    (h : List.Forall₂ Reveals texts xss) {opening closing : Char} (hopening : opening ≠ '"')
    (hclosing : closing ≠ '"') (level : ℕ) :
    Reveals (enclose compactLayout level opening closing texts) xss.flatten := by
  have hmarks : ∃ markss, List.Forall₂ Shows texts markss ∧
      ((∃ x ∈ xss.flatten, x.isFinite = false) → ∃ marks ∈ markss, 'N' ∈ marks ∨ 'I' ∈ marks) := by
    induction h with
    | nil => exact ⟨[], .nil, fun ⟨_, hx, _⟩ => nomatch hx⟩
    | cons hfirst _ ih =>
      obtain ⟨marks, hshows, hseen⟩ := hfirst
      obtain ⟨markss, hall, hsome⟩ := ih
      refine ⟨marks :: markss, .cons hshows hall, ?_⟩
      rintro ⟨x, hx, hnot⟩
      rcases List.mem_append.1 hx with hx | hx
      · exact ⟨marks, List.mem_cons_self, hseen ⟨x, hx, hnot⟩⟩
      · obtain ⟨more, hmore, hmem⟩ := hsome ⟨x, hx, hnot⟩
        exact ⟨more, List.mem_cons_of_mem _ hmore, hmem⟩
  obtain ⟨markss, hall, hsome⟩ := hmarks
  refine ⟨_, shows_enclose hall hopening hclosing level, fun hinfinite => ?_⟩
  obtain ⟨marks, hmarks, hmem⟩ := hsome hinfinite
  have hsub : ∀ c ∈ marks, c ∈ enclose compactLayout level opening closing markss := by
    intro c hc
    cases markss with
    | nil => cases hmarks
    | cons first rest =>
      rw [enclose_compact]
      simp only [List.mem_cons, List.mem_append, followed, List.mem_flatMap]
      rcases List.mem_cons.1 hmarks with rfl | hmarks
      · exact .inr (.inl hc)
      · exact .inr (.inr (.inl ⟨marks, hmarks, .inr (.inr hc)⟩))
  exact hmem.imp (hsub _) (hsub _)

theorem Reveals.entryText (h : Reveals text xs) (name : Str) :
    Reveals (entryText name text) xs := by
  obtain ⟨marks, hmarks, hseen⟩ := h
  refine ⟨':' :: ' ' :: marks, ?_, fun hinfinite => ?_⟩
  · exact (shows_string (isString_quoted name)).append
      (.cons (by decide) (.cons (by decide) hmarks))
  · exact (hseen hinfinite).imp (fun hmem => by simp [hmem]) fun hmem => by simp [hmem]

theorem areFinite_of_mem_flatten {xss : List (List Float)} (h : AreFinite xss.flatten)
    (hxs : xs ∈ xss) : AreFinite xs :=
  fun x hx => h x (List.mem_flatten.2 ⟨xs, hxs, hx⟩)

theorem reflects_array {texts : List (List Char)} {xss : List (List Float)}
    (h : List.Forall₂ Reflects texts xss) (level : ℕ) :
    Reflects (enclose compactLayout level '[' ']' texts) xss.flatten where
  visible := isVisible_enclose (by decide) (by decide)
    (forall_of_forall₂ h fun _ _ _ htext => htext.visible) level
  isText hfinite := isText_array (forall_of_forall₂ h fun _ _ hxs htext =>
    htext.isText (areFinite_of_mem_flatten hfinite hxs)) level
  reveals := reveals_enclose (h.imp fun _ _ htext => htext.reveals) (by decide) (by decide) level

theorem reflects_object {entries : List (Str × List Char)} {xss : List (List Float)}
    (h : List.Forall₂ (fun e xs => Reflects e.2 xs) entries xss) (level : ℕ) :
    Reflects (enclose compactLayout level '\x7b' '\x7d' (entries.map fun e => entryText e.1 e.2))
      xss.flatten where
  visible := isVisible_enclose (by decide) (by decide) (List.forall_mem_map.2
    (forall_of_forall₂ h fun e _ _ htext => isVisible_entry e.1 htext.visible)) level
  isText hfinite := isText_object (forall_of_forall₂ h fun _ _ hxs htext =>
    htext.isText (areFinite_of_mem_flatten hfinite hxs)) level
  reveals := reveals_enclose (List.forall₂_map_left_iff.2
    (h.imp fun e _ htext => htext.reveals.entryText e.1)) (by decide) (by decide) level

/-! ### Values -/

theorem reflects_word {word : List Char}
    (h : word ∈ ["null".toList, "true".toList, "false".toList]) : Reflects word [] := by
  refine reflects_of_isText (.word h) ?_ nofun
  simp only [List.mem_cons, List.not_mem_nil, or_false] at h
  rcases h with rfl | rfl | rfl <;> simp [IsVisible]

mutual

/-- What is written for a value reflects its floats, by recursion on the value. -/
theorem reflects_write (v : Value) {level : ℕ} {text : List Char}
    (h : write compactLayout level v = .ok text) : Reflects text (floats v) := by
  cases v with
  | null =>
    cases h
    exact reflects_word (by simp)
  | bool b =>
    cases h
    cases b <;> exact reflects_word (by simp [boolText])
  | int n =>
    rw [write] at h
    obtain ⟨digits, hdigits, rfl⟩ := map_eq_ok h
    have hnumeral := isNumeral_intText hdigits
    rw [plainly_compactLayout]
    exact reflects_of_isText hnumeral.isText hnumeral.visible nofun
  | float x =>
    cases h
    rw [plainly_compactLayout]
    exact reflects_floatText x
  | str s =>
    cases h
    exact reflects_of_isText (.string (isString_quoted _)) (isVisible_quoted _) nofun
  | list items =>
    obtain ⟨texts, htexts, rfl⟩ := map_eq_ok h
    rw [floats, itemFloats_eq]
    exact reflects_array (reflects_writeItems items htexts) level
  | tuple items =>
    obtain ⟨texts, htexts, rfl⟩ := map_eq_ok h
    rw [floats, itemFloats_eq]
    exact reflects_array (reflects_writeItems items htexts) level
  | dict entries =>
    obtain ⟨texts, htexts, rfl⟩ := map_eq_ok h
    obtain ⟨written, rfl, hwritten⟩ := reflects_writeEntries entries htexts
    rw [floats, entryFloats_eq]
    exact reflects_object hwritten level
  | bytes _ => cases h
  | record _ _ => cases h
  | opaqueObject _ => cases h

theorem reflects_writeItems (items : List Value) {level : ℕ} {texts : List (List Char)}
    (h : writeItems compactLayout level items = .ok texts) :
    List.Forall₂ Reflects texts (items.map floats) := by
  cases items with
  | nil =>
    cases h
    exact .nil
  | cons v rest =>
    obtain ⟨first, hfirst, h⟩ := bind_eq_ok h
    obtain ⟨more, hmore, h⟩ := bind_eq_ok h
    cases h
    exact .cons (reflects_write v hfirst) (reflects_writeItems rest hmore)

theorem reflects_writeEntries (entries : List (Value × Value)) {level : ℕ}
    {texts : List (List Char)} (h : writeEntries compactLayout level entries = .ok texts) :
    ∃ written : List (Str × List Char), texts = written.map (fun e => entryText e.1 e.2) ∧
      List.Forall₂ (fun e xs => Reflects e.2 xs) written (entries.map fun e => floats e.2) := by
  match entries with
  | [] =>
    cases h
    exact ⟨[], rfl, .nil⟩
  | (k, v) :: rest =>
    obtain ⟨name, -, h⟩ := bind_eq_ok h
    obtain ⟨value, hvalue, h⟩ := bind_eq_ok h
    obtain ⟨more, hmore, h⟩ := bind_eq_ok h
    cases h
    obtain ⟨written, rfl, hwritten⟩ := reflects_writeEntries rest hmore
    exact ⟨(name, value) :: written, rfl, .cons (reflects_write v hvalue) hwritten⟩

end

end Json

end RequestPipeline
