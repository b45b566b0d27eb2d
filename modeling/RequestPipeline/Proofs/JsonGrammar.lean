import Mathlib.Tactic.IntervalCases
import RequestPipeline.Proofs.JsonRoundTrip

/-!
# The grammar of JSON

What a JSON text is, apart from any reader.  The texts of scalars and strings, and collections of
such texts, are of this form; the words for numbers that are not finite are not, and they stay
visible wherever they stand outside of strings.
-/

namespace RequestPipeline.Json

open Decimal
open Text (Str)

/-! ## Texts -/

/-- The blanks that may stand around values. -/
def AreBlanks (s : List Char) : Prop := ∀ c ∈ s, c ∈ [' ', '\t', '\n', '\r']

/-- The digits behind a point, which may be missing. -/
inductive IsFraction : List Char → Prop where
  | none : IsFraction []
  | some {digits} (hdigits : AreDigits digits) (hsome : digits ≠ []) : IsFraction ('.' :: digits)

/-- The power of ten, which may be missing. -/
inductive IsExponent : List Char → Prop where
  | none : IsExponent []
  | some {letter sign digits} (hletter : letter ∈ ['e', 'E']) (hsign : sign ∈ [[], ['+'], ['-']])
      (hdigits : AreDigits digits) (hsome : digits ≠ []) : IsExponent (letter :: (sign ++ digits))

inductive IsNumber : List Char → Prop where
  | parts {sign whole fraction exponent} (hsign : sign ∈ [[], ['-']]) (hwhole : IsWhole whole)
      (hfraction : IsFraction fraction) (hexponent : IsExponent exponent) :
    IsNumber (sign ++ (whole ++ (fraction ++ exponent)))

def IsHexDigit (c : Char) : Prop := c ∈ "0123456789abcdefABCDEF".toList

/-- What stands between the quotes of a string. -/
inductive AreCharacters : List Char → Prop where
  | nil : AreCharacters []
  | plain {c rest} (hc : 0x20 ≤ c.toNat ∧ c ≠ '"' ∧ c ≠ '\\') (hrest : AreCharacters rest) :
    AreCharacters (c :: rest)
  | letter {c rest} (hc : c ∈ ['"', '\\', '/', 'b', 'f', 'n', 'r', 't'])
      (hrest : AreCharacters rest) : AreCharacters ('\\' :: c :: rest)
  | unit {digits rest} (hlength : digits.length = 4) (hdigits : ∀ c ∈ digits, IsHexDigit c)
      (hrest : AreCharacters rest) : AreCharacters ('\\' :: 'u' :: (digits ++ rest))

inductive IsString : List Char → Prop where
  | quoted {inner} (hinner : AreCharacters inner) : IsString ('"' :: (inner ++ ['"']))

/-- A name of a mapping with blanks around it. -/
inductive IsName : List Char → Prop where
  | padded {before name after} (hbefore : AreBlanks before) (hname : IsString name)
      (hafter : AreBlanks after) : IsName (before ++ (name ++ after))

/-- A value, perhaps with blanks around it. -/
inductive IsText : List Char → Prop where
  | word {s} (hs : s ∈ ["null".toList, "true".toList, "false".toList]) : IsText s
  | number {s} (hs : IsNumber s) : IsText s
  | string {s} (hs : IsString s) : IsText s
  | emptyArray {blanks} (hblanks : AreBlanks blanks) : IsText ('[' :: (blanks ++ [']']))
  | array {items : List (List Char)} (hitems : ∀ item ∈ items, IsText item) :
    IsText ('[' :: ([','].intercalate items ++ [']']))
  | emptyObject {blanks} (hblanks : AreBlanks blanks) :
    IsText ('\x7b' :: (blanks ++ ['\x7d']))
  | object {members : List (List Char × List Char)} (hnames : ∀ m ∈ members, IsName m.1)
      (hvalues : ∀ m ∈ members, IsText m.2) :
    IsText ('\x7b' :: ([','].intercalate (members.map fun m => m.1 ++ ':' :: m.2) ++ ['\x7d']))
  | padded {before s after} (hbefore : AreBlanks before) (hs : IsText s)
      (hafter : AreBlanks after) : IsText (before ++ (s ++ after))

theorem areBlanks_nil : AreBlanks [] := nofun

theorem areBlanks_blank : AreBlanks [' '] := by simp [AreBlanks]

theorem IsText.behindBlank {s : List Char} (hs : IsText s) : IsText (' ' :: s) := by
  simpa using IsText.padded areBlanks_blank hs areBlanks_nil

/-! ## Scalars -/

theorem isExponent_exponentText (e : ℤ) : IsExponent ('e' :: exponentText e) := by
  have hsome : exponentDigits e ≠ [] := by
    have := length_digitsOf_pos e.natAbs
    intro hnil
    rw [exponentDigits, List.append_eq_nil_iff] at hnil
    simp [hnil.2] at this
  have hsign : [if e < 0 then '-' else '+'] ∈ [[], ['+'], ['-']] := by split <;> simp
  exact .some (by simp) hsign (areDigits_exponentDigits e) hsome

theorem isNumber_numeral {n : Numeral} (hn : n.IsProper) (negative : Bool) :
    IsNumber (Layout.signed negative n.text) := by
  have hfraction : IsFraction n.fractionText := by
    rw [Numeral.fractionText]
    split
    · exact .none
    · rename_i hsome
      exact .some hn.fraction (by simpa using hsome)
  have hexponent : IsExponent n.exponentText := by
    rw [Numeral.exponentText]
    split
    · exact .none
    · exact isExponent_exponentText _
  have hparts : ∀ sign ∈ [[], ['-']], IsNumber (sign ++ n.text) := fun sign hsign =>
    .parts hsign hn.whole hfraction hexponent
  cases negative with
  | false => exact hparts [] (by simp)
  | true => exact hparts ['-'] (by simp)

theorem IsNumeral.isText {s : List Char} (hs : IsNumeral s) : IsText s := by
  obtain ⟨negative, n, hn, rfl⟩ := hs
  exact .number (isNumber_numeral hn negative)

/-! ## Strings -/

theorem isHexDigit_hexDigit {n : ℕ} (hn : n < 16) : IsHexDigit (Text.hexDigit n) := by
  interval_cases n <;> simp [IsHexDigit, Text.hexDigit]

theorem areCharacters_unitEscape (n : ℕ) {rest : List Char} (hrest : AreCharacters rest) :
    AreCharacters (unitEscape n ++ rest) := by
  have hlt : ∀ k : ℕ, k % 16 < 16 := fun k => Nat.mod_lt _ (by norm_num)
  rw [unitEscape, hexDigits_four]
  refine .unit (by rfl) (fun c hc => ?_) hrest
  simp only [List.mem_cons, List.not_mem_nil, or_false] at hc
  rcases hc with rfl | rfl | rfl | rfl <;> exact isHexDigit_hexDigit (hlt _)

/-- What is written for a character stands in a string as one or two characters. -/
theorem areCharacters_asciiChar (c : Char) {rest : List Char} (hrest : AreCharacters rest) :
    AreCharacters (asciiChar c ++ rest) := by
  unfold asciiChar
  cases hshared : sharedEscape? c with
  | some escape =>
    obtain ⟨letter, rfl, hletter, -⟩ := letter_of_sharedEscape? hshared
    refine .letter ?_ hrest
    unfold letterEscape? at hletter
    split at hletter <;> simp_all
  | none =>
    obtain ⟨hquote, hescape⟩ := ne_of_sharedEscape?_eq_none hshared
    simp only
    split
    · rename_i hprintable
      exact .plain ⟨hprintable.1, hquote, hescape⟩ hrest
    · split
      · exact areCharacters_unitEscape _ hrest
      · rw [List.append_assoc]
        exact areCharacters_unitEscape _ (areCharacters_unitEscape _ hrest)

theorem areCharacters_asciiPoint (p : Text.CodePoint) {rest : List Char}
    (hrest : AreCharacters rest) : AreCharacters (asciiPoint p ++ rest) := by
  cases p with
  | char c => exact areCharacters_asciiChar c hrest
  | half h => exact areCharacters_unitEscape h.unit hrest

theorem isString_quoted (s : Str) : IsString (quoted compactLayout s) := by
  refine .quoted ?_
  induction s with
  | nil => exact .nil
  | cons p rest ih => exact areCharacters_asciiPoint p ih

/-! ## Collections -/

theorem intercalate_followed (first : List Char) (rest : List (List Char)) :
    [','].intercalate (first :: rest.map (' ' :: ·)) = first ++ followed rest := by
  induction rest generalizing first with
  | nil => simp [List.intercalate, followed]
  | cons second rest ih =>
    rw [List.map_cons, List.intercalate_cons_cons, ih]
    simp [followed]

theorem isText_array {texts : List (List Char)} (h : ∀ text ∈ texts, IsText text) (level : ℕ) :
    IsText (enclose compactLayout level '[' ']' texts) := by
  cases texts with
  | nil => exact .emptyArray areBlanks_nil
  | cons first rest =>
    obtain ⟨hfirst, hrest⟩ := List.forall_mem_cons.1 h
    rw [enclose_compact, ← List.append_assoc, ← intercalate_followed]
    exact .array (List.forall_mem_cons.2
      ⟨hfirst, List.forall_mem_map.2 fun text htext => (hrest text htext).behindBlank⟩)

/-- The text of an entry on one line. -/
def entryText (name : Str) (value : List Char) : List Char :=
  quoted compactLayout name ++ ':' :: ' ' :: value

theorem isText_object {entries : List (Str × List Char)}
    (h : ∀ e ∈ entries, IsText e.2) (level : ℕ) :
    IsText (enclose compactLayout level '\x7b' '\x7d'
      (entries.map fun e => entryText e.1 e.2)) := by
  cases entries with
  | nil => exact .emptyObject areBlanks_nil
  | cons first rest =>
    -- every member but the first one has a blank in front of its name
    let members := (quoted compactLayout first.1, ' ' :: first.2) ::
      rest.map fun e => (' ' :: quoted compactLayout e.1, ' ' :: e.2)
    have hmembers : [','].intercalate (members.map fun m => m.1 ++ ':' :: m.2) =
        entryText first.1 first.2 ++ followed (rest.map fun e => entryText e.1 e.2) := by
      rw [← intercalate_followed]
      simp [members, entryText, Function.comp_def]
    obtain ⟨hfirst, hrest⟩ := List.forall_mem_cons.1 h
    rw [List.map_cons, enclose_compact, ← List.append_assoc, ← hmembers]
    refine .object (List.forall_mem_cons.2 ⟨?_, List.forall_mem_map.2 fun e _ => ?_⟩)
      (List.forall_mem_cons.2 ⟨hfirst.behindBlank, List.forall_mem_map.2 fun e he => ?_⟩)
    · simpa using IsName.padded areBlanks_nil (isString_quoted first.1) areBlanks_nil
    · simpa using IsName.padded areBlanks_blank (isString_quoted e.1) areBlanks_nil
    · exact (hrest e he).behindBlank

/-! ## Outside of strings -/

/-- The characters of a text that stand outside of strings; quotes belong to strings. -/
def outside : (inString : Bool) → List Char → List Char
  | _, [] => []
  | false, c :: rest => if c = '"' then outside true rest else c :: outside false rest
  | true, ['\\'] => []
  | true, '\\' :: _ :: rest => outside true rest
  | true, c :: rest => if c = '"' then outside false rest else outside true rest

/-- A piece of text adds marks outside of strings, and leaves no string open. -/
def Shows (text marks : List Char) : Prop :=
  ∀ tail, outside false (text ++ tail) = marks ++ outside false tail

variable {text text' marks marks' : List Char}

theorem Shows.append (h : Shows text marks) (h' : Shows text' marks') :
    Shows (text ++ text') (marks ++ marks') := fun tail => by
  rw [List.append_assoc, h, h', List.append_assoc]

theorem Shows.unique (h : Shows text marks) (h' : Shows text marks') : marks = marks' :=
  List.append_cancel_right ((h []).symm.trans (h' []))

theorem shows_of_ne_quote (h : ∀ c ∈ text, c ≠ '"') : Shows text text := by
  intro tail
  induction text with
  | nil => rfl
  | cons c rest ih =>
    obtain ⟨hc, hrest⟩ := List.forall_mem_cons.1 h
    rw [List.cons_append, outside, if_neg hc, ih hrest, List.cons_append]

theorem Shows.cons {c : Char} (hc : c ≠ '"') (h : Shows text marks) :
    Shows (c :: text) (c :: marks) := by
  have hfirst : Shows [c] [c] := shows_of_ne_quote (by simpa using hc)
  exact hfirst.append h

theorem outside_plain {c : Char} (hquote : c ≠ '"') (hescape : c ≠ '\\') (rest : List Char) :
    outside true (c :: rest) = outside true rest := by
  rw [outside, if_neg hquote]
  · rintro rfl
    exact fun _ => hescape rfl
  · exact fun _ _ heq => absurd heq hescape

theorem outside_hexDigits {digits : List Char} (h : ∀ c ∈ digits, IsHexDigit c) (tail : List Char) :
    outside true (digits ++ tail) = outside true tail := by
  induction digits with
  | nil => rfl
  | cons c rest ih =>
    obtain ⟨hc, hrest⟩ := List.forall_mem_cons.1 h
    have hquote : c ≠ '"' := by
      rintro rfl
      simp [IsHexDigit] at hc
    have hescape : c ≠ '\\' := by
      rintro rfl
      simp [IsHexDigit] at hc
    rw [List.cons_append, outside_plain hquote hescape, ih hrest]

/-- The characters of a string stay in the string. -/
theorem outside_characters {inner : List Char} (h : AreCharacters inner) (tail : List Char) :
    outside true (inner ++ tail) = outside true tail := by
  induction h with
  | nil => rfl
  | plain hc _ ih => rw [List.cons_append, outside_plain hc.2.1 hc.2.2, ih]
  | letter _ _ ih => rw [List.cons_append, List.cons_append, outside, ih]
  | unit _ hdigits _ ih =>
    rw [List.cons_append, List.cons_append, List.append_assoc, outside,
      outside_hexDigits hdigits, ih]

theorem shows_string {s : List Char} (h : IsString s) : Shows s [] := by
  cases h with
  | quoted hinner =>
    intro tail
    rw [List.cons_append, List.append_assoc, outside, if_pos rfl, outside_characters hinner]
    rfl

/-- A collection shows its brackets and commas, and what its entries show. -/
theorem shows_enclose {texts markss : List (List Char)} (h : List.Forall₂ Shows texts markss)
    {opening closing : Char} (hopening : opening ≠ '"') (hclosing : closing ≠ '"') (level : ℕ) :
    Shows (enclose compactLayout level opening closing texts)
      (enclose compactLayout level opening closing markss) := by
  have hlast : Shows [closing] [closing] := shows_of_ne_quote (by simpa using hclosing)
  cases h with
  | nil => exact .cons hopening hlast
  | cons hfirst hrest =>
    rw [enclose_compact, enclose_compact]
    refine .cons hopening (hfirst.append (.append ?_ hlast))
    induction hrest with
    | nil => exact fun _ => rfl
    | cons hsecond _ ih => exact (Shows.cons (by decide) (.cons (by decide) hsecond)).append ih

/-! ## Texts of the grammar -/

/-- Outside of strings there is no capital `N` or `I`. -/
def IsClear (text : List Char) : Prop :=
  ∃ marks, Shows text marks ∧ ∀ c ∈ marks, c ≠ 'N' ∧ c ≠ 'I'

theorem IsClear.append (h : IsClear text) (h' : IsClear text') : IsClear (text ++ text') := by
  obtain ⟨marks, hmarks, hclear⟩ := h
  obtain ⟨marks', hmarks', hclear'⟩ := h'
  exact ⟨marks ++ marks', hmarks.append hmarks', List.forall_mem_append.2 ⟨hclear, hclear'⟩⟩

theorem isClear_of_forall (h : ∀ c ∈ text, c ≠ '"' ∧ c ≠ 'N' ∧ c ≠ 'I') : IsClear text :=
  ⟨text, shows_of_ne_quote fun c hc => (h c hc).1, fun c hc => (h c hc).2⟩

theorem IsClear.cons {c : Char} (hc : c ≠ '"' ∧ c ≠ 'N' ∧ c ≠ 'I') (h : IsClear text) :
    IsClear (c :: text) := by
  have hfirst : IsClear [c] := isClear_of_forall (by simpa using hc)
  exact hfirst.append h

theorem isClear_intercalate {items : List (List Char)} (h : ∀ item ∈ items, IsClear item) :
    IsClear ([','].intercalate items) := by
  induction items with
  | nil => exact isClear_of_forall nofun
  | cons first rest ih =>
    obtain ⟨hfirst, hrest⟩ := List.forall_mem_cons.1 h
    cases rest with
    | nil => simpa [List.intercalate] using hfirst
    | cons second rest =>
      rw [List.intercalate_cons_cons]
      exact (hfirst.append (isClear_of_forall (by simp))).append (ih hrest)

theorem AreBlanks.isClear (h : AreBlanks text) : IsClear text := by
  refine isClear_of_forall fun c hc => ?_
  have hblank := h c hc
  simp only [List.mem_cons, List.not_mem_nil, or_false] at hblank
  rcases hblank with rfl | rfl | rfl | rfl <;> decide

theorem areDigits_isClear (h : AreDigits text) : IsClear text := by
  refine isClear_of_forall fun c hc => ?_
  have hdigit := h c hc
  refine ⟨?_, ?_, ?_⟩
  all_goals
    rintro rfl
    cases hdigit

theorem IsString.isClear (h : IsString text) : IsClear text := ⟨[], shows_string h, nofun⟩

theorem IsNumber.isClear (h : IsNumber text) : IsClear text := by
  cases h with
  | parts hsign hwhole hfraction hexponent =>
    refine .append ?_ (.append (areDigits_isClear hwhole.1) (.append ?_ ?_))
    · simp only [List.mem_cons, List.not_mem_nil, or_false] at hsign
      rcases hsign with rfl | rfl <;> exact isClear_of_forall (by simp)
    · cases hfraction with
      | none => exact isClear_of_forall nofun
      | some hdigits _ => exact .cons (by decide) (areDigits_isClear hdigits)
    · cases hexponent with
      | none => exact isClear_of_forall nofun
      | some hletter hsign hdigits _ =>
        simp only [List.mem_cons, List.not_mem_nil, or_false] at hletter hsign
        refine .cons ?_ (.append ?_ (areDigits_isClear hdigits))
        · rcases hletter with rfl | rfl <;> decide
        · rcases hsign with rfl | rfl | rfl <;> exact isClear_of_forall (by simp)

theorem IsName.isClear (h : IsName text) : IsClear text := by
  cases h with
  | padded hbefore hname hafter =>
    exact hbefore.isClear.append (hname.isClear.append hafter.isClear)

/-- Outside of its strings a text of the grammar has no capital `N` or `I`, by induction on the
text. -/
theorem IsText.isClear (h : IsText text) : IsClear text := by
  have hlast : ∀ c : Char, c ≠ '"' ∧ c ≠ 'N' ∧ c ≠ 'I' → IsClear [c] := fun c hc =>
    isClear_of_forall (by simpa using hc)
  induction h with
  | word hs =>
    simp only [List.mem_cons, List.not_mem_nil, or_false] at hs
    rcases hs with rfl | rfl | rfl <;> exact isClear_of_forall (by simp)
  | number hs => exact hs.isClear
  | string hs => exact hs.isClear
  | emptyArray hblanks => exact .cons (by decide) (hblanks.isClear.append (hlast _ (by decide)))
  | array _ ih => exact .cons (by decide) ((isClear_intercalate ih).append (hlast _ (by decide)))
  | emptyObject hblanks => exact .cons (by decide) (hblanks.isClear.append (hlast _ (by decide)))
  | object hnames _ ih =>
    refine .cons (by decide) (.append (isClear_intercalate ?_) (hlast _ (by decide)))
    exact List.forall_mem_map.2 fun m hm =>
      (hnames m hm).isClear.append (.cons (by decide) (ih m hm))
  | padded hbefore _ hafter ih => exact hbefore.isClear.append (ih.append hafter.isClear)

end RequestPipeline.Json
