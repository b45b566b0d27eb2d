import Mathlib.Data.List.Forall2
import RequestPipeline.Proofs.JsonData
import RequestPipeline.Proofs.NumberText

/-!
# From a value to its text and back

Data without infinite numbers is written as a text that is read as the same data, in any layout
whose strings are.  On one line the text is made of visible characters, and so its bytes are taken
for what they are.
-/

namespace RequestPipeline.Json

open Value Decimal Text

/-- Data whose numbers are all finite. -/
inductive IsFinite : Value → Prop where
  | null : IsFinite .null
  | bool (b : Bool) : IsFinite (.bool b)
  | int {n : ℤ} (hshort : n.natAbs < 10 ^ digitLimit) : IsFinite (.int n)
  | float {x : Float} (hx : x.isFinite = true) : IsFinite (.float x)
  | str {s : Str} (hs : Unpaired s) : IsFinite (.str s)
  | list {items : List Value} (hitems : ∀ v ∈ items, IsFinite v) : IsFinite (.list items)
  | dict {entries : List (Value × Value)} (hnamed : Named entries)
      (hkeys : ∀ e ∈ entries, IsFinite e.1) (hvalues : ∀ e ∈ entries, IsFinite e.2) :
    IsFinite (.dict entries)

/-- The text is read as the value, whatever stands behind it.  Each code point is worth one call. -/
structure IsReadAs (text : Str) (v : Value) : Prop where
  begins : ∃ c rest, text = .char c :: rest ∧ isSpace (.char c) = false ∧ c ≠ ']' ∧ IsVisible c
  reads : ∀ fuel tail, text.length ≤ fuel → Stops (numberFront tail) →
    readValue fuel (text ++ tail) = .ok (v, tail)

/-- The text is read as the value, and made of visible characters, as text on one line is. -/
structure Says (text : List Char) (v : Value) : Prop extends IsReadAs (.ofChars text) v where
  visible : ∀ c ∈ text, IsVisible c

variable {text : List Char} {tail : Str} {v : Value} {fuel : ℕ} {layout : Layout CodePoint}

theorem skipSpace_cons {p : CodePoint} (h : isSpace p = false) (rest : Str) :
    skipSpace (p :: rest) = p :: rest := by
  rw [skipSpace, List.dropWhile_cons_of_neg (by simp [h])]

theorem IsReadAs.skipSpace {text : Str} (h : IsReadAs text v) (tail : Str) :
    skipSpace (text ++ tail) = text ++ tail := by
  obtain ⟨c, rest, rfl, hspace, -⟩ := h.begins
  exact skipSpace_cons hspace _

/-- No number goes on with a mark. -/
theorem stops_cons {p : CodePoint} (hp : ∀ c, p = .char c → isNumberChar c = false) (rest : Str) :
    Stops (numberFront (p :: rest)) := by
  cases p with
  | half h => simp [numberFront, Stops]
  | char c => simp [numberFront, hp c rfl, Stops]

theorem stops_nil : Stops (numberFront []) := by simp [numberFront, Stops]

/-! ## Scalars -/

theorem says_null : Says "null".toList .null := by
  refine ⟨⟨⟨'n', _, rfl, rfl, by decide⟩, fun fuel tail hfuel _ => ?_⟩, by simp [IsVisible]⟩
  obtain ⟨fuel, rfl⟩ : ∃ k, fuel = k + 1 := ⟨fuel - 1, by simp at hfuel; omega⟩
  simp [readValue, readWord?, words]

theorem says_bool (b : Bool) : Says (boolText b) (.bool b) := by
  cases b
  all_goals
    refine ⟨⟨⟨_, _, rfl, rfl, by decide⟩, fun fuel tail hfuel _ => ?_⟩,
      by simp [boolText, IsVisible]⟩
    obtain ⟨fuel, rfl⟩ : ∃ k, fuel = k + 1 := ⟨fuel - 1, by simp [boolText] at hfuel; omega⟩
    simp [boolText, readValue, readWord?, words]

theorem isVisible_digit {c : Char} (h : c.isDigit = true) : IsVisible c := by
  have hrange : 48 ≤ c.toNat ∧ c.toNat ≤ 57 := Char.isDigit_iff_toNat.1 h
  exact ⟨by omega, by omega⟩

theorem isVisible_text {n : Numeral} (h : n.IsProper) : ∀ c ∈ n.text, IsVisible c := by
  have hexponent : ∀ e, ∀ c ∈ exponentText e, IsVisible c := by
    intro e c hc
    have hdigits := areDigits_exponentDigits e
    rw [exponentText] at hc
    rcases List.mem_cons.1 hc with rfl | hc
    · split <;> decide
    · exact isVisible_digit (hdigits c hc)
  intro c hc
  rw [Numeral.text, Numeral.fractionText, Numeral.exponentText, List.mem_append,
    List.mem_append] at hc
  rcases hc with hc | hc | hc
  · exact isVisible_digit (h.whole.1 c hc)
  · split at hc
    · cases hc
    · rcases List.mem_cons.1 hc with rfl | hc
      · decide
      · exact isVisible_digit (h.fraction c hc)
  · split at hc
    · cases hc
    · rcases List.mem_cons.1 hc with rfl | hc
      · decide
      · exact hexponent _ c hc

/-- The text of a number begins with a digit, perhaps behind a sign. -/
theorem IsNumeral.begins (h : IsNumeral text) :
    ∃ d rest, d.isDigit = true ∧ (text = d :: rest ∨ text = '-' :: d :: rest) := by
  obtain ⟨negative, n, hproper, rfl⟩ := h
  obtain ⟨d, rest, hdigit, htext⟩ := Numeral.text_begins hproper
  refine ⟨d, rest, hdigit, ?_⟩
  rw [htext]
  cases negative with
  | false => exact .inl rfl
  | true => exact .inr rfl

/-- A number is no word. -/
theorem readWord?_numeral (h : IsNumeral text) (tail : Str) :
    readWord? (.ofChars text ++ tail) = none := by
  obtain ⟨d, rest, hdigit, rfl | rfl⟩ := h.begins
  all_goals
    simp only [readWord?, words]
    simp
    and_intros
    all_goals
      rintro rfl
      cases hdigit

/-- A number is no other kind of value. -/
theorem readValue_numeral (h : IsNumeral text) (tail : Str) (fuel : ℕ) :
    readValue (fuel + 1) (.ofChars text ++ tail) = readNumber (.ofChars text ++ tail) := by
  have hword := readWord?_numeral h tail
  obtain ⟨d, rest, hdigit, htext⟩ := h.begins
  have hfirst : ∀ c behind, Str.ofChars text ++ tail = .char c :: behind → c = d ∨ c = '-' := by
    intro c behind heq
    rcases htext with rfl | rfl
    · exact .inl (CodePoint.char.inj (List.cons.inj heq).1).symm
    · exact .inr (CodePoint.char.inj (List.cons.inj heq).1).symm
  have hother : ∀ c behind, c.isDigit = false → c ≠ '-' →
      Str.ofChars text ++ tail ≠ .char c :: behind := by
    intro c behind hc hminus heq
    rcases hfirst c behind heq with rfl | rfl
    · rw [hdigit] at hc
      cases hc
    · exact hminus rfl
  unfold readValue
  split
  · rename_i heq
    exact absurd heq (hother '"' _ rfl (by decide))
  · rename_i heq
    exact absurd heq (hother '[' _ rfl (by decide))
  · rename_i heq
    exact absurd heq (hother '\x7b' _ rfl (by decide))
  · rw [hword]

theorem IsNumeral.begins_value (h : IsNumeral text) :
    ∃ c rest, Str.ofChars text = .char c :: rest ∧ isSpace (.char c) = false ∧ c ≠ ']' ∧
      IsVisible c := by
  obtain ⟨d, rest, hdigit, rfl | rfl⟩ := h.begins
  · refine ⟨d, _, rfl, ?_, ?_, isVisible_digit hdigit⟩
    · by_contra hspace
      simp only [isSpace, Bool.not_eq_false, Bool.or_eq_true, beq_iff_eq, CodePoint.char.injEq]
        at hspace
      rcases hspace with ((rfl | rfl) | rfl) | rfl <;> cases hdigit
    · rintro rfl
      cases hdigit
  · exact ⟨'-', _, rfl, rfl, by decide⟩

theorem IsNumeral.visible (h : IsNumeral text) : ∀ c ∈ text, IsVisible c := by
  obtain ⟨negative, n, hproper, rfl⟩ := h
  intro c hc
  cases negative with
  | false => exact isVisible_text hproper c hc
  | true =>
    rcases List.mem_cons.1 hc with rfl | hc
    · decide
    · exact isVisible_text hproper c hc

theorem says_numeral (h : IsNumeral text)
    (hread : ∀ tail, Stops (numberFront tail) →
      readNumber (.ofChars text ++ tail) = .ok (v, tail)) : Says text v := by
  refine ⟨⟨h.begins_value, fun fuel tail hfuel htail => ?_⟩, h.visible⟩
  obtain ⟨fuel, rfl⟩ : ∃ k, fuel = k + 1 := by
    obtain ⟨d, rest, -, rfl | rfl⟩ := h.begins
    all_goals exact ⟨fuel - 1, by simp at hfuel; omega⟩
  rw [readValue_numeral h, hread tail htail]

/-- A whole number that is short enough is written and read. -/
theorem intText_says {n : ℤ} (hshort : n.natAbs < 10 ^ digitLimit) :
    ∃ text, intText n = .ok text ∧ Says text (.int n) := by
  have htext : intText n = .ok (toString n).toList := by
    unfold intText
    generalize digitLimit = k at hshort ⊢
    exact if_pos hshort
  exact ⟨_, htext, says_numeral (isNumeral_intText htext) fun _ => readNumber_intText htext⟩

theorem says_float {x : Float} (hx : x.isFinite = true) : Says (floatText x) (.float x) :=
  says_numeral (isNumeral_floatText hx) fun _ => readNumber_floatText hx

theorem isReadAs_str (h : layout.IsFaithful) {s : Str} (hs : Unpaired s) :
    IsReadAs (quoted layout s) (.str s) := by
  refine ⟨⟨'"', _, by rw [quoted, h.mark], rfl, by decide⟩, fun fuel tail hfuel _ => ?_⟩
  obtain ⟨fuel, rfl⟩ : ∃ k, fuel = k + 1 := ⟨fuel - 1, by simp [quoted] at hfuel; omega⟩
  have hstring := readString_quoted h hs tail
  simp only [quoted, h.mark, List.cons_append, List.append_assoc, List.nil_append, readValue,
    hstring]
  rfl

/-- The text of a string on one line, as a text of code points. -/
theorem quoted_wide (layout : Layout Char) (s : Str) :
    quoted layout.wide s = Str.ofChars (quoted layout s) := by
  simp [quoted, Layout.wide, Str.ofChars, List.map_flatMap]

theorem isVisible_quoted (name : Str) : ∀ c ∈ quoted compactLayout name, IsVisible c := by
  intro c hc
  simp only [quoted, List.mem_cons, List.mem_append, List.not_mem_nil, or_false] at hc
  rcases hc with rfl | hc | rfl
  · decide
  · exact isVisible_flatMap _ c hc
  · decide

theorem says_str {s : Str} (hs : Unpaired s) : Says (quoted compactLayout s) (.str s) where
  toIsReadAs := quoted_wide compactLayout s ▸ isReadAs_str isFaithful_compactLayout hs
  visible := isVisible_quoted s

/-! ## Blanks -/

def AreSpaces (s : Str) : Prop := ∀ p ∈ s, isSpace p = true

theorem skipSpace_append {blanks : Str} (h : AreSpaces blanks) (s : Str) :
    skipSpace (blanks ++ s) = skipSpace s := List.dropWhile_append_of_pos h

theorem stops_append {blanks s : Str} (h : AreSpaces blanks) (hs : Stops (numberFront s)) :
    Stops (numberFront (blanks ++ s)) := by
  cases blanks with
  | nil => exact hs
  | cons p rest =>
    have hspace := h p List.mem_cons_self
    simp only [isSpace, Bool.or_eq_true, beq_iff_eq] at hspace
    refine stops_cons ?_ _
    rcases hspace with ((rfl | rfl) | rfl) | rfl
    all_goals
      rintro c ⟨⟩
      rfl

section Blanks

variable (hmark : layout.mark = .char)

include hmark

theorem areSpaces_breakAt (level : ℕ) : AreSpaces (breakAt layout level) := by
  intro p hp
  rw [breakAt, Layout.plainly, hmark] at hp
  obtain ⟨c, hc, rfl⟩ := List.mem_map.1 hp
  split at hc
  · rcases List.mem_cons.1 hc with rfl | hc
    · rfl
    · obtain rfl := List.eq_of_mem_replicate hc
      rfl
  · cases hc

/-- What stands behind a comma. -/
def gap (layout : Layout α) (level : ℕ) : List α :=
  if layout.broken then breakAt layout level else [layout.mark ' ']

theorem areSpaces_gap (level : ℕ) : AreSpaces (gap layout level) := by
  rw [gap]
  split
  · exact areSpaces_breakAt hmark level
  · simp [AreSpaces, isSpace, hmark]

end Blanks

/-! ## Lists -/

/-- On one line characters stand for themselves. -/
@[simp] theorem plainly_compactLayout (s : List Char) : compactLayout.plainly s = s := List.map_id s

/-- Texts behind the first one of a collection. -/
def followed (texts : List (List Char)) : List Char := texts.flatMap fun text => ',' :: ' ' :: text

/-- Texts behind the first one of a collection, each behind a comma and blanks. -/
def spaced (blanks : Str) (texts : List Str) : Str :=
  texts.flatMap fun text => .char ',' :: (blanks ++ text)

theorem enclose_compact (level : ℕ) (opening closing : Char) (first : List Char)
    (rest : List (List Char)) :
    enclose compactLayout level opening closing (first :: rest) =
      opening :: (first ++ (followed rest ++ [closing])) := by
  simp [enclose, breakAt, separator, compactLayout, followed, Layout.plainly]

/-- The text of a collection on one line, as a text of code points. -/
theorem enclose_wide (layout : Layout Char) (level : ℕ) (opening closing : Char)
    (texts : List (List Char)) :
    enclose layout.wide level opening closing (texts.map Str.ofChars) =
      Str.ofChars (enclose layout level opening closing texts) := by
  have hbreak : ∀ level, breakAt layout.wide level = Str.ofChars (breakAt layout level) := by
    intro level
    rw [breakAt, breakAt, Layout.plainly, Layout.plainly, Str.ofChars, List.map_map]
    rfl
  have hseparator : ∀ level,
      separator layout.wide level = Str.ofChars (separator layout level) := by
    intro level
    simp only [separator, hbreak]
    by_cases hbroken : layout.broken <;> simp [Layout.wide, Str.ofChars, hbroken]
  cases texts with
  | nil => simp [enclose, Layout.plainly, Layout.wide, Str.ofChars]
  | cons first rest =>
    simp only [enclose, List.map_cons, hbreak, hseparator]
    simp [Layout.wide, Str.ofChars, List.map_flatMap, List.flatMap_map]

theorem enclose_cons (hmark : layout.mark = .char) (level : ℕ) (opening closing : Char)
    (first : Str) (rest : List Str) :
    enclose layout level opening closing (first :: rest) =
      .char opening :: (breakAt layout (level + 1) ++ (first ++
        (spaced (gap layout (level + 1)) rest ++ (breakAt layout level ++ [.char closing])))) := by
  simp [enclose, separator, gap, spaced, hmark]

theorem readItems_isReadAs {blanks ending : Str} (hblanks : AreSpaces blanks)
    (hending : AreSpaces ending) (tail : Str) {first : Str} {texts : List Str}
    {vs : List Value} (hfirst : IsReadAs first v) (htexts : List.Forall₂ IsReadAs texts vs)
    (hfuel : first.length + (spaced blanks texts).length < fuel) :
    readItems fuel (first ++ (spaced blanks texts ++ (ending ++ .char ']' :: tail))) =
      .ok (v :: vs, tail) := by
  have hbracket : Stops (numberFront (ending ++ .char ']' :: tail)) :=
    stops_append hending (stops_cons (by rintro c ⟨⟩; rfl) _)
  induction htexts generalizing first v fuel with
  | nil =>
    obtain ⟨fuel, rfl⟩ : ∃ k, fuel = k + 1 := ⟨fuel - 1, by omega⟩
    have hread := hfirst.reads fuel (ending ++ .char ']' :: tail) (by omega) hbracket
    have hskip : skipSpace (ending ++ .char ']' :: tail) = .char ']' :: tail :=
      (skipSpace_append hending _).trans (skipSpace_cons rfl _)
    simp only [spaced, List.flatMap_nil, List.nil_append, readItems, hread, bind, Except.bind,
      hskip]
    rfl
  | @cons second v' texts vs hsecond htexts ih =>
    obtain ⟨fuel, rfl⟩ : ∃ k, fuel = k + 1 := ⟨fuel - 1, by omega⟩
    simp only [spaced, List.flatMap_cons, List.length_append, List.length_cons] at hfuel
    have hread := hfirst.reads fuel
        (spaced blanks (second :: texts) ++ (ending ++ .char ']' :: tail))
      (by omega) (stops_cons (by rintro c ⟨⟩; rfl) _)
    have hlength : second.length + (spaced blanks texts).length < fuel := by
      simp only [spaced]
      omega
    have hrest := ih hsecond hlength
    have hskip : skipSpace (blanks ++
        (second ++ (spaced blanks texts ++ (ending ++ .char ']' :: tail)))) =
          second ++ (spaced blanks texts ++ (ending ++ .char ']' :: tail)) :=
      (skipSpace_append hblanks _).trans (hsecond.skipSpace _)
    simp only [spaced, List.flatMap_cons, List.cons_append, List.append_assoc]
      at hread hrest hskip ⊢
    simp only [readItems, hread, bind, Except.bind]
    simp only [skipSpace_cons (p := .char ',') rfl, hskip, hrest]
    rfl

/-- The parts of a collection are visible if its entries are. -/
theorem isVisible_enclose {opening closing : Char} {texts : List (List Char)}
    (hopening : IsVisible opening) (hclosing : IsVisible closing)
    (htexts : ∀ text ∈ texts, ∀ c ∈ text, IsVisible c) (level : ℕ) :
    ∀ c ∈ enclose compactLayout level opening closing texts, IsVisible c := by
  have hcomma : IsVisible ',' := by decide
  have hblank : IsVisible ' ' := by decide
  cases texts with
  | nil => simp [enclose, hopening, hclosing]
  | cons first rest =>
    rw [enclose_compact]
    intro c hc
    simp only [List.mem_cons, List.mem_append, followed, List.mem_flatMap, List.not_mem_nil,
      or_false] at hc
    rcases hc with rfl | hc | ⟨text, htext, rfl | rfl | hc⟩ | rfl
    · exact hopening
    · exact htexts first List.mem_cons_self c hc
    · exact hcomma
    · exact hblank
    · exact htexts text (List.mem_cons_of_mem _ htext) c hc
    · exact hclosing

theorem forall_of_forall₂ {α β : Type} {R : α → β → Prop} {P : α → Prop} {as : List α} {bs : List β}
    (h : List.Forall₂ R as bs) (hP : ∀ a, ∀ b ∈ bs, R a b → P a) : ∀ a ∈ as, P a := by
  induction h with
  | nil => exact nofun
  | cons hfirst _ ih =>
    exact List.forall_mem_cons.2 ⟨hP _ _ List.mem_cons_self hfirst,
      ih fun a b hb => hP a b (List.mem_cons_of_mem _ hb)⟩

theorem isReadAs_list (hlayout : layout.IsFaithful) {texts : List Str} {vs : List Value}
    (htexts : List.Forall₂ IsReadAs texts vs) (level : ℕ) :
    IsReadAs (enclose layout level '[' ']' texts) (.list vs) := by
  have hmark := hlayout.mark
  refine ⟨?_, fun fuel tail hfuel _ => ?_⟩
  · cases texts with
    | nil => exact ⟨'[', [.char ']'], by simp [enclose, Layout.plainly, hmark], rfl, by decide⟩
    | cons first rest => exact ⟨'[', _, enclose_cons hmark level _ _ first rest, rfl, by decide⟩
  · cases htexts with
    | nil =>
      obtain ⟨fuel, rfl⟩ : ∃ k, fuel = k + 1 :=
        ⟨fuel - 1, by simp [enclose, Layout.plainly] at hfuel; omega⟩
      simp [enclose, Layout.plainly, hmark, readValue, skipSpace_cons (p := .char ']') rfl]
    | @cons first v rest vs hfirst hrest =>
      rw [enclose_cons hmark] at hfuel ⊢
      simp only [List.length_cons, List.length_append, List.length_nil] at hfuel
      obtain ⟨fuel, rfl⟩ : ∃ k, fuel = k + 1 := ⟨fuel - 1, by omega⟩
      have hlength : first.length + (spaced (gap layout (level + 1)) rest).length < fuel := by omega
      have hitems := readItems_isReadAs (areSpaces_gap hmark (level + 1))
        (areSpaces_breakAt hmark level) tail hfirst hrest hlength
      have hskip := hfirst.skipSpace (spaced (gap layout (level + 1)) rest ++
        (breakAt layout level ++ .char ']' :: tail))
      obtain ⟨c, behind, rfl, -, hbracket, -⟩ := hfirst.begins
      simp only [List.cons_append, List.append_assoc, List.nil_append] at hitems hskip ⊢
      simp only [readValue, skipSpace_append (areSpaces_breakAt hmark (level + 1)), hskip]
      split
      · rename_i heq
        exact absurd (CodePoint.char.inj (List.cons.inj heq).1) hbracket
      · rw [hitems]
        rfl

theorem says_list {texts : List (List Char)} {vs : List Value}
    (htexts : List.Forall₂ Says texts vs) (level : ℕ) :
    Says (enclose compactLayout level '[' ']' texts) (.list vs) where
  toIsReadAs := by
    rw [← enclose_wide]
    refine isReadAs_list isFaithful_compactLayout ?_ level
    exact List.forall₂_map_left_iff.2 (htexts.imp fun _ _ h => h.toIsReadAs)
  visible := isVisible_enclose (by decide) (by decide)
    (forall_of_forall₂ htexts fun _ _ _ h => h.visible) level

/-! ## Mappings -/

/-- The text of an entry in some layout: its name, a colon, and the text of its value. -/
def IsReadAsEntry (layout : Layout CodePoint) (text : Str) (entry : Value × Value) : Prop :=
  ∃ name value, entry.1 = .str name ∧ Unpaired name ∧ IsReadAs value entry.2 ∧
    text = quoted layout name ++ .char ':' :: .char ' ' :: value

/-- The text of an entry on one line. -/
def SaysEntry (text : List Char) (entry : Value × Value) : Prop :=
  ∃ name value, entry.1 = .str name ∧ Unpaired name ∧ Says value entry.2 ∧
    text = quoted compactLayout name ++ ':' :: ' ' :: value

theorem SaysEntry.isReadAsEntry {entry : Value × Value} (h : SaysEntry text entry) :
    IsReadAsEntry compactLayout.wide (.ofChars text) entry := by
  obtain ⟨name, value, hname, hunpaired, hvalue, rfl⟩ := h
  exact ⟨name, _, hname, hunpaired, hvalue.toIsReadAs, by simp [quoted_wide]⟩

theorem isVisible_entry (name : Str) {value : List Char} (h : ∀ c ∈ value, IsVisible c) :
    ∀ c ∈ quoted compactLayout name ++ ':' :: ' ' :: value, IsVisible c := by
  refine List.forall_mem_append.2 ⟨isVisible_quoted name, ?_⟩
  exact List.forall_mem_cons.2 ⟨by decide, List.forall_mem_cons.2 ⟨by decide, h⟩⟩

section Entries

variable {first : Str} {entry : Value × Value}

/-- What the reader does with the text of an entry. -/
theorem readEntries_entry (hlayout : layout.IsFaithful) {behind : Str}
    (hfirst : IsReadAsEntry layout first entry) (hfuel : first.length ≤ fuel)
    (hbehind : Stops (numberFront behind)) :
    readEntries (fuel + 1) (first ++ behind) =
      match skipSpace behind with
      | .char '\x7d' :: tail => .ok ([entry], tail)
      | .char ',' :: more => do
        let (entries, tail) ← readEntries fuel (skipSpace more)
        pure (entry :: entries, tail)
      | other => .error (.badSyntax .expectingComma other) := by
  obtain ⟨k, v⟩ := entry
  obtain ⟨name, value, rfl, hunpaired, hvalue, rfl⟩ := hfirst
  simp only [quoted, List.length_append, List.length_cons] at hfuel
  have hread := hvalue.reads fuel behind (by omega) hbehind
  have hskip : skipSpace (.char ' ' :: (value ++ behind)) = value ++ behind := hvalue.skipSpace _
  have hstring := readString_quoted hlayout hunpaired (.char ':' :: .char ' ' :: (value ++ behind))
  simp only [quoted, hlayout.mark, List.nil_append, List.cons_append, List.append_assoc,
    readEntries, hstring, bind, Except.bind]
  simp only [skipSpace_cons (p := .char ':') rfl, hskip, hread]
  rfl

theorem skipSpace_entry (hlayout : layout.IsFaithful) (h : IsReadAsEntry layout first entry)
    (tail : Str) : skipSpace (first ++ tail) = first ++ tail := by
  obtain ⟨name, value, -, -, -, rfl⟩ := h
  rw [quoted, hlayout.mark]
  exact skipSpace_cons rfl _

theorem readEntries_isReadAs (hlayout : layout.IsFaithful) {blanks ending : Str}
    (hblanks : AreSpaces blanks) (hending : AreSpaces ending) (tail : Str)
    {texts : List Str} {entries : List (Value × Value)}
    (hfirst : IsReadAsEntry layout first entry)
    (htexts : List.Forall₂ (IsReadAsEntry layout) texts entries)
    (hfuel : first.length + (spaced blanks texts).length < fuel) :
    readEntries fuel (first ++ (spaced blanks texts ++ (ending ++ .char '\x7d' :: tail))) =
      .ok (entry :: entries, tail) := by
  induction htexts generalizing first entry fuel with
  | nil =>
    obtain ⟨fuel, rfl⟩ : ∃ k, fuel = k + 1 := ⟨fuel - 1, by omega⟩
    have hstops : Stops (numberFront (ending ++ .char '\x7d' :: tail)) :=
      stops_append hending (stops_cons (by rintro c ⟨⟩; rfl) _)
    have hskip : skipSpace (ending ++ .char '\x7d' :: tail) = .char '\x7d' :: tail :=
      (skipSpace_append hending _).trans (skipSpace_cons rfl _)
    rw [spaced, List.flatMap_nil, List.nil_append,
      readEntries_entry hlayout hfirst (by omega) hstops, hskip]
    rfl
  | @cons second entry' texts entries hsecond htexts ih =>
    obtain ⟨fuel, rfl⟩ : ∃ k, fuel = k + 1 := ⟨fuel - 1, by omega⟩
    simp only [spaced, List.flatMap_cons, List.length_append, List.length_cons] at hfuel
    have hlength : second.length + (spaced blanks texts).length < fuel := by
      simp only [spaced]
      omega
    have hrest := ih hsecond hlength
    have hskip : skipSpace (blanks ++ (second ++ (spaced blanks texts ++
        (ending ++ .char '\x7d' :: tail)))) =
          second ++ (spaced blanks texts ++ (ending ++ .char '\x7d' :: tail)) :=
      (skipSpace_append hblanks _).trans (skipSpace_entry hlayout hsecond _)
    have hcomma : Stops (numberFront
        (spaced blanks (second :: texts) ++ (ending ++ .char '\x7d' :: tail))) :=
      stops_cons (by rintro c ⟨⟩; rfl) _
    rw [readEntries_entry hlayout hfirst (by omega) hcomma]
    simp only [spaced, List.flatMap_cons, List.cons_append, List.append_assoc,
      skipSpace_cons (p := .char ',') rfl] at hrest hskip ⊢
    rw [hskip, hrest]
    rfl

end Entries

/-- Entries under different names make the mapping that they are. -/
theorem ofEntries_of_named {entries : List (Value × Value)} (h : Named entries) :
    ofEntries entries = .dict entries := by
  suffices ∀ front back, Named (front ++ back) →
      back.foldl (fun acc e => putEntry acc e.1 e.2) front = front ++ back by
    rw [ofEntries_eq, this [] entries h, List.nil_append]
  intro front back hnamed
  induction back generalizing front with
  | nil => simp
  | cons entry rest ih =>
    obtain ⟨k, v⟩ := entry
    obtain ⟨name, rfl⟩ : ∃ name, k = .str name := hnamed.names (k, v) (by simp)
    have hfresh : ¬ front.any (fun e => same e.1 (.str name)) = true := by
      intro hany
      obtain ⟨e, he, hsame⟩ := List.any_eq_true.1 hany
      have hdistinct := hnamed.distinct
      rw [List.map_append, List.nodup_append] at hdistinct
      exact hdistinct.2.2 e.1 (List.mem_map_of_mem he) (.str name) (by simp)
        ((same_str _ _).1 hsame)
    have hall : front ++ (Value.str name, v) :: rest = (front ++ [(.str name, v)]) ++ rest := by
      simp
    rw [List.foldl_cons, hall]
    simp only [putEntry_of_not_any v hfresh]
    exact ih _ (hall ▸ hnamed)

theorem isReadAs_dict (hlayout : layout.IsFaithful) {texts : List Str}
    {entries : List (Value × Value)} (htexts : List.Forall₂ (IsReadAsEntry layout) texts entries)
    (hnamed : Named entries) (level : ℕ) :
    IsReadAs (enclose layout level '\x7b' '\x7d' texts) (.dict entries) := by
  have hmark := hlayout.mark
  refine ⟨?_, fun fuel tail hfuel _ => ?_⟩
  · cases texts with
    | nil =>
      exact ⟨'\x7b', [.char '\x7d'], by simp [enclose, Layout.plainly, hmark], rfl, by decide⟩
    | cons first rest =>
      exact ⟨'\x7b', _, enclose_cons hmark level _ _ first rest, rfl, by decide⟩
  · cases htexts with
    | nil =>
      obtain ⟨fuel, rfl⟩ : ∃ k, fuel = k + 1 :=
        ⟨fuel - 1, by simp [enclose, Layout.plainly] at hfuel; omega⟩
      simp [enclose, Layout.plainly, hmark, readValue, skipSpace_cons (p := .char '\x7d') rfl]
    | @cons first entry rest entries hfirst hrest =>
      rw [enclose_cons hmark] at hfuel ⊢
      simp only [List.length_cons, List.length_append, List.length_nil] at hfuel
      obtain ⟨fuel, rfl⟩ : ∃ k, fuel = k + 1 := ⟨fuel - 1, by omega⟩
      have hlength : first.length + (spaced (gap layout (level + 1)) rest).length < fuel := by omega
      have hentries := readEntries_isReadAs hlayout (areSpaces_gap hmark (level + 1))
        (areSpaces_breakAt hmark level) tail hfirst hrest hlength
      have hskip := skipSpace_entry hlayout hfirst (spaced (gap layout (level + 1)) rest ++
        (breakAt layout level ++ .char '\x7d' :: tail))
      obtain ⟨name, value, -, -, -, rfl⟩ := hfirst
      simp only [quoted, hmark, List.cons_append, List.append_assoc, List.nil_append]
        at hentries hskip ⊢
      simp only [readValue, skipSpace_append (areSpaces_breakAt hmark (level + 1)), hskip]
      split
      · rename_i heq
        cases (List.cons.inj heq).1
      · rw [hentries, ← ofEntries_of_named hnamed]
        rfl

theorem says_dict {texts : List (List Char)} {entries : List (Value × Value)}
    (htexts : List.Forall₂ SaysEntry texts entries) (hnamed : Named entries) (level : ℕ) :
    Says (enclose compactLayout level '\x7b' '\x7d' texts) (.dict entries) where
  toIsReadAs := by
    rw [← enclose_wide]
    refine isReadAs_dict isFaithful_compactLayout ?_ hnamed level
    exact List.forall₂_map_left_iff.2 (htexts.imp fun _ _ h => h.isReadAsEntry)
  visible := by
    refine isVisible_enclose (by decide) (by decide) (forall_of_forall₂ htexts ?_) level
    rintro text entry - ⟨name, value, -, -, hvalue, rfl⟩
    exact isVisible_entry _ hvalue.visible

/-! ## All values -/

section Writing

variable {α : Type} {layout : Layout α}

/-- What holds of the text of each item holds of the texts that are written for all of them. -/
theorem writeItems_forall₂ {R : List α → Value → Prop} {items : List Value} {level : ℕ}
    (h : ∀ v ∈ items, ∃ text, write layout level v = .ok text ∧ R text v) :
    ∃ texts, writeItems layout level items = .ok texts ∧ List.Forall₂ R texts items := by
  induction items with
  | nil => exact ⟨[], rfl, .nil⟩
  | cons v rest ih =>
    obtain ⟨text, htext, hv⟩ := h v List.mem_cons_self
    obtain ⟨texts, htexts, hall⟩ := ih fun w hw => h w (List.mem_cons_of_mem _ hw)
    exact ⟨text :: texts, by simp only [writeItems, htext, htexts]; rfl, .cons hv hall⟩

/-- What holds of the names and of the text of each value holds of them in the texts that are
written for all entries. -/
theorem writeEntries_forall₂ {P : Str → Prop} {R : List α → Value → Prop}
    {entries : List (Value × Value)} {level : ℕ}
    (hnames : ∀ e ∈ entries, ∃ name, e.1 = .str name ∧ P name)
    (h : ∀ e ∈ entries, ∃ text, write layout level e.2 = .ok text ∧ R text e.2) :
    ∃ texts, writeEntries layout level entries = .ok texts ∧
      List.Forall₂ (fun text e => ∃ name value, e.1 = .str name ∧ P name ∧ R value e.2 ∧
        text = quoted layout name ++ layout.mark ':' :: layout.mark ' ' :: value)
      texts entries := by
  induction entries with
  | nil => exact ⟨[], rfl, .nil⟩
  | cons entry rest ih =>
    obtain ⟨k, v⟩ := entry
    obtain ⟨name, rfl, hname⟩ := hnames _ List.mem_cons_self
    obtain ⟨text, htext, hv⟩ := h _ List.mem_cons_self
    obtain ⟨texts, htexts, hall⟩ := ih (fun e he => hnames e (List.mem_cons_of_mem _ he))
      fun e he => h e (List.mem_cons_of_mem _ he)
    exact ⟨_, by simp only [writeEntries, keyText, htext, htexts]; rfl,
      .cons ⟨name, text, rfl, hname, hv, rfl⟩ hall⟩

end Writing

/-- The keys of finite data are strings without pairs of surrogates. -/
theorem unpaired_names {entries : List (Value × Value)} (hnamed : Named entries)
    (hkeys : ∀ e ∈ entries, IsFinite e.1) :
    ∀ e ∈ entries, ∃ name, e.1 = .str name ∧ Unpaired name := by
  intro e he
  obtain ⟨name, hname⟩ := hnamed.names e he
  have hkey := hkeys e he
  rw [hname] at hkey
  cases hkey with
  | str hs => exact ⟨name, hname, hs⟩

/-- What is written for data says it. -/
theorem write_says (h : IsFinite v) (level : ℕ) :
    ∃ text, write compactLayout level v = .ok text ∧ Says text v := by
  induction h generalizing level with
  | null => exact ⟨_, by rw [write, plainly_compactLayout], says_null⟩
  | bool b => exact ⟨_, by rw [write, plainly_compactLayout], says_bool b⟩
  | int hshort =>
    obtain ⟨text, htext, hsays⟩ := intText_says hshort
    exact ⟨text, by rw [write, htext, Except.map, plainly_compactLayout], hsays⟩
  | float hx => exact ⟨_, by rw [write, plainly_compactLayout], says_float hx⟩
  | str hs => exact ⟨_, by rw [write], says_str hs⟩
  | list hitems ih =>
    obtain ⟨texts, htexts, hall⟩ := writeItems_forall₂ fun v hv => ih v hv (level + 1)
    exact ⟨_, by rw [write, htexts]; rfl, says_list hall level⟩
  | dict hnamed hkeys hvalues _ ih =>
    obtain ⟨texts, htexts, hall⟩ :=
      writeEntries_forall₂ (unpaired_names hnamed hkeys) fun e he => ih e he (level + 1)
    exact ⟨_, by rw [write, htexts]; rfl, says_dict hall hnamed level⟩

/-- A text that begins with a visible character does not begin with a byte order mark. -/
theorem head?_ne_mark {c : Char} (h : IsVisible c) (rest : Str) :
    (CodePoint.char c :: rest).head? ≠ some (.char (Char.ofNat 0xfeff)) := by
  rw [List.head?_cons, ne_eq, Option.some_inj, CodePoint.char.injEq]
  rintro rfl
  revert h
  decide

section Reading

variable {text : Str}

/-- A text that is read as a value is so with blanks behind it, too. -/
theorem IsReadAs.valueOf (h : IsReadAs text v) {blanks : Str} (hblanks : AreSpaces blanks) :
    valueOf (text ++ blanks) = .ok v := by
  have hread := h.reads (2 * (text ++ blanks).length + 2) (blanks ++ [])
    (by simp only [List.length_append]; omega) (stops_append hblanks stops_nil)
  rw [List.append_nil] at hread
  have hend : Json.skipSpace blanks = [] := by
    rw [← List.append_nil blanks, skipSpace_append hblanks]
    rfl
  have hall : readAll (text ++ blanks) = .ok v := by
    simp only [readAll, h.skipSpace blanks, hread, bind, Except.bind, hend]
    rfl
  rw [Json.valueOf, hall]

theorem IsReadAs.read (h : IsReadAs text v) {blanks : Str} (hblanks : AreSpaces blanks) :
    read (text ++ blanks) = .ok v := by
  have hvalue := h.valueOf hblanks
  obtain ⟨c, rest, rfl, -, -, hvisible⟩ := h.begins
  rw [Json.read, List.cons_append, if_neg (head?_ne_mark hvisible _)]
  exact hvalue

end Reading

/-- A text that says a value is read as it. -/
theorem Says.valueOf (h : Says text v) : valueOf (.ofChars text) = .ok v := by
  rw [← List.append_nil (Str.ofChars text)]
  exact h.toIsReadAs.valueOf nofun

/-- A text of nothing but digits, more than are read, has no value. -/
theorem read_tooManyDigits {digits : List Char} (h : IsWhole digits)
    (hlong : digitLimit < digits.length) :
    read (.ofChars digits) = .error (.tooManyDigits digits.length) := by
  let n : Numeral := ⟨digits, [], none⟩
  have hproper : n.IsProper := ⟨h, by simp [n, AreDigits], by simp [n]⟩
  have htext : n.text = digits := by
    simp [Numeral.text, Numeral.fractionText, Numeral.exponentText, n]
  have hnumeral : IsNumeral digits := ⟨false, n, hproper, htext.symm⟩
  have hfront : numberFront (.ofChars digits) = digits := by
    simpa [numberFront] using numberFront_append hnumeral.isNumberChar []
  have hnumber : readNumber (.ofChars digits) = .error (.tooManyDigits digits.length) := by
    have hnothing : Stops [] := by simp [Stops]
    have hread := n.numberOf_eq_error hproper ⟨rfl, rfl⟩ hlong hnothing false
    simp only [Decimal.Layout.signed, htext, List.append_nil, Bool.false_eq_true, if_false] at hread
    simp only [readNumber, hfront, hread, n]
  have hvalue := readValue_numeral hnumeral [] (2 * (Str.ofChars digits).length + 1)
  rw [List.append_nil, hnumber] at hvalue
  obtain ⟨c, rest, hbegins, hspace, -, hvisible⟩ := hnumeral.begins_value
  have hskip : skipSpace (.ofChars digits) = Str.ofChars digits := by
    rw [hbegins, skipSpace_cons hspace]
  have hall : readAll (.ofChars digits) = .error (.tooManyDigits digits.length) := by
    simp only [readAll, hskip, hvalue, bind, Except.bind]
  have hlocated : valueOf (.ofChars digits) = .error (.tooManyDigits digits.length) := by
    rw [valueOf, hall]
    rfl
  rw [read, hbegins, if_neg (head?_ne_mark hvisible rest), ← hbegins]
  exact hlocated

/-! ## Bytes -/

/-- The byte of a character of ASCII. -/
def byteOf (c : Char) : UInt8 := c.toNat.toUInt8

theorem toNat_byteOf {c : Char} (h : IsVisible c) : (byteOf c).toNat = c.toNat := by
  have hlt : c.toNat < 256 := lt_trans h.2 (by norm_num)
  simpa [byteOf, Nat.toUInt8] using hlt

theorem encodeUtf8_of_visible (h : ∀ c ∈ text, IsVisible c) :
    encodeUtf8 text = text.map byteOf := by
  rw [encodeUtf8, List.map_eq_flatMap]
  refine List.flatMap_congr fun c hc => ?_
  have hlt : c.toNat < 0x80 := lt_trans (h c hc).2 (by norm_num)
  simp only [encodeChar, if_pos hlt, byteOf]

/-- No surrogate begins with the byte of a character. -/
theorem spelledHalf?_of_visible {c : Char} (h : IsVisible c) (rest : Bytes) :
    spelledHalf? (byteOf c :: rest) = none := by
  have hne : byteOf c ≠ 0xed := by
    rw [ne_eq, ← UInt8.toNat_inj, toNat_byteOf h]
    exact ne_of_lt (lt_trans h.2 (by decide))
  unfold spelledHalf?
  split
  · rename_i heq
    obtain ⟨rfl, -⟩ := List.cons.inj heq
    exact if_neg fun hspelled => hne hspelled.1
  · rfl

theorem looseUtf8Pieces_of_visible (h : ∀ c ∈ text, IsVisible c) :
    looseUtf8Pieces (text.map byteOf) = text.map fun c => .strict (.char c 1) := by
  induction text with
  | nil => rw [List.map_nil, looseUtf8Pieces]; rfl
  | cons c rest ih =>
    obtain ⟨hc, hrest⟩ := List.forall_mem_cons.1 h
    have hbyte := toNat_byteOf hc
    have hfirst : firstPiece (byteOf c) (rest.map byteOf) = .char c 1 := by
      have hlt : c.toNat < 0x80 := lt_trans hc.2 (by norm_num)
      simp only [firstPiece, hbyte, if_pos hlt, Char.ofNat_toNat]
    rw [List.map_cons, looseUtf8Pieces, spelledHalf?_of_visible hc, hfirst]
    simp only [Piece.size, Nat.sub_self, List.drop_zero, ih hrest, List.map_cons]

theorem decodeLoosePieces_chars (codec : String) (position : ℕ) (text : List Char) :
    decodeLoosePieces codec position (text.map fun c => .strict (.char c 1)) =
      .ok (.ofChars text) := by
  induction text generalizing position with
  | nil => rfl
  | cons c rest ih => rw [List.map_cons, decodeLoosePieces, ih]; rfl

/-- The byte of a character is neither zero nor part of a mark. -/
theorem byteOf_bounds {c : Char} (h : IsVisible c) : byteOf c ≠ 0 ∧ (byteOf c).toNat < 0x80 := by
  rw [toNat_byteOf h, ne_eq, ← UInt8.toNat_inj, toNat_byteOf h]
  exact ⟨fun hzero => absurd h.1 (by rw [hzero]; decide), lt_trans h.2 (by norm_num)⟩

/-- Visible bytes are taken for UTF-8: no mark begins with one of them. -/
theorem encodingOf_of_visible (h : ∀ c ∈ text, IsVisible c) :
    encodingOf (text.map byteOf) = .utf8 := by
  have hbounds : ∀ b ∈ text.map byteOf, b ≠ 0 ∧ b.toNat < 0x80 := by
    intro b hb
    obtain ⟨c, hc, rfl⟩ := List.mem_map.1 hb
    exact byteOf_bounds (h c hc)
  generalize text.map byteOf = bytes at hbounds
  cases bytes with
  | nil => rfl
  | cons first rest =>
    obtain ⟨hzero, hsmall⟩ := hbounds first List.mem_cons_self
    have hmark : ∀ mark b behind, mark = b :: behind → b = 0 ∨ 0x80 ≤ b.toNat →
        mark.isPrefixOf (first :: rest) = false := by
      rintro _ b behind rfl hb
      have hne : b ≠ first := by
        rintro rfl
        rcases hb with hb | hb
        · exact hzero hb
        · omega
      simp [List.isPrefixOf, hne]
    unfold encodingOf
    rw [hmark Charset.utf32BigMark _ _ rfl (by decide),
      hmark Charset.utf32LittleMark _ _ rfl (by decide),
      hmark Charset.utf16BigMark _ _ rfl (by decide),
      hmark Charset.utf16LittleMark _ _ rfl (by decide), hmark Charset.utf8Mark _ _ rfl (by decide)]
    simp only [Bool.or_self, Bool.false_eq_true, if_false]
    split
    · rename_i heq
      obtain ⟨rfl, rfl⟩ := List.cons.inj heq
      rw [if_neg hzero, if_neg (hbounds _ (by simp)).1]
    · rename_i heq
      obtain ⟨rfl, rfl⟩ := List.cons.inj heq
      rw [if_neg hzero, if_neg (hbounds _ (by simp)).1]
    · rfl

/-- Bytes of visible characters are read as the text that they are. -/
theorem readBytes_of_visible (h : ∀ c ∈ text, IsVisible c) :
    readBytes (encodeUtf8 text) = valueOf (.ofChars text) := by
  rw [encodeUtf8_of_visible h, readBytes, encodingOf_of_visible h]
  simp only [Charset.decode, Charset.loosePieces, looseUtf8Pieces_of_visible h,
    decodeLoosePieces_chars]

/-- The bytes of a text that says a value are read as that value. -/
theorem Says.readBytes (h : Says text v) : readBytes (encodeUtf8 text) = .ok v := by
  rw [readBytes_of_visible h.visible, h.valueOf]

end RequestPipeline.Json
