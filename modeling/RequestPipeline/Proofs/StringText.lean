import Mathlib.Algebra.Order.BigOperators.Group.List
import Mathlib.Data.List.Chain
import Mathlib.Tactic.IntervalCases
import RequestPipeline.Json.Writer

/-!
# The text of a string

On one line a string is written in ASCII: what is neither a printable character of ASCII nor has an
escape of its own becomes an escape of its code units, two of them beyond the first plane.  The
reader joins them again.  Over several lines only control characters become escapes.

Surrogates are written as the units that they are, or left as they are over several lines.  The
reader joins two escapes that make a pair, and so a string comes back from one line if no first half
of a pair stands in front of a second half.  Strings that have been read from characters are of this
kind.
-/

namespace RequestPipeline

/-! ## Hexadecimal digits -/

namespace Text

theorem hexValue?_hexDigit {n : ℕ} (hn : n < 16) : hexValue? (hexDigit n) = some n := by
  interval_cases n <;> rfl

end Text

namespace Json

open Text

variable {n : ℕ} {tail : Str}

theorem hexDigits_four (n : ℕ) :
    hexDigits 4 n = [hexDigit (n / 16 / 16 / 16 % 16), hexDigit (n / 16 / 16 % 16),
      hexDigit (n / 16 % 16), hexDigit (n % 16)] := rfl

theorem fourHex?_hexDigits (hn : n < 0x10000) (tail : Str) :
    fourHex? (.ofChars (hexDigits 4 n) ++ tail) = some (n, tail) := by
  simp only [hexDigits_four, Str.ofChars_cons, Str.ofChars_nil, List.cons_append, List.nil_append,
    fourHex?, hexValue?_hexDigit (Nat.mod_lt _ (by decide : 0 < 16)), bind, Option.bind, pure]
  congr 2
  omega

/-! ## Escapes of code units -/

/-- A character is none of the halves of a pair. -/
theorem not_isHalf (c : Char) : ¬ (0xd800 ≤ c.toNat ∧ c.toNat < 0xe000) := by
  have hvalid : c.toNat < 0xd800 ∨ 0xdfff < c.toNat ∧ c.toNat < 0x110000 := c.valid
  omega

theorem toNat_lt (c : Char) : c.toNat < 0x110000 := by
  have hvalid : c.toNat < 0xd800 ∨ 0xdfff < c.toNat ∧ c.toNat < 0x110000 := c.valid
  omega

theorem ofNat_toNat (p : CodePoint) : CodePoint.ofNat p.toNat = p := by
  cases p with
  | char c => rw [CodePoint.toNat, CodePoint.ofNat, dif_neg (not_isHalf c), Char.ofNat_toNat]
  | half h => rw [CodePoint.toNat, CodePoint.ofNat, dif_pos h.isSurrogate]

theorem isHighHalf_char (c : Char) : isHighHalf c.toNat = false := by
  have := not_isHalf c
  simp only [isHighHalf, decide_eq_false_iff_not]
  omega

theorem isLowHalf_char (c : Char) : isLowHalf c.toNat = false := by
  have := not_isHalf c
  simp only [isLowHalf, decide_eq_false_iff_not]
  omega

/-- The text does not go on with the escape of a second half. -/
def EndsPair (tail : Str) : Prop :=
  ∀ second, tail = .char '\\' :: .char 'u' :: second →
    ∃ unit rest, fourHex? second = some (unit, rest) ∧ isLowHalf unit = false

theorem endsPair_of_ne {p : CodePoint} (hp : p ≠ .char '\\') (rest : Str) : EndsPair (p :: rest) :=
  fun _ heq => absurd (List.cons.inj heq).1 hp

/-- A code point of the first plane is read from the escape of its only unit. -/
theorem codeEscape_unit {p : CodePoint} (hplane : p.toNat < 0x10000) (escape : Str)
    (htail : tail ≠ []) (hpair : isHighHalf p.toNat = true → EndsPair tail) :
    codeEscape escape (.ofChars (hexDigits 4 p.toNat) ++ tail) = .ok (p, tail) := by
  have hlength : ¬ (Str.ofChars (hexDigits 4 p.toNat) ++ tail).length ≤ 4 := by
    have := List.length_pos_iff.2 htail
    simp only [hexDigits_four, Str.ofChars_cons, Str.ofChars_nil, List.length_append,
      List.length_cons, List.length_nil]
    omega
  simp only [codeEscape, if_neg hlength, fourHex?_hexDigits hplane, ofNat_toNat]
  split
  · rename_i hhigh
    have hends := hpair (Bool.and_eq_true_iff.1 hhigh).1
    split
    · rename_i second
      obtain ⟨unit, rest, hunit, hlow⟩ := hends _ rfl
      simp [hunit, hlow]
    · rfl
  · rfl

/-- The two units of a character beyond the first plane. -/
def highHalf (n : ℕ) : ℕ := 0xd800 + (n - 0x10000) / 0x400

/-- The second of them. -/
def lowHalf (n : ℕ) : ℕ := 0xdc00 + (n - 0x10000) % 0x400

/-- A character beyond the first plane is read from the escapes of its two units. -/
theorem codeEscape_pair {c : Char} (hplane : 0x10000 ≤ c.toNat) (escape : Str)
    (htail : tail ≠ []) :
    codeEscape escape
        (.ofChars (hexDigits 4 (highHalf c.toNat) ++ unitEscape (lowHalf c.toNat)) ++ tail) =
      .ok (.char c, tail) := by
  have hrange := toNat_lt c
  have hhigh : highHalf c.toNat < 0x10000 ∧ isHighHalf (highHalf c.toNat) = true := by
    rw [isHighHalf, decide_eq_true_eq, highHalf]
    omega
  have hlow : lowHalf c.toNat < 0x10000 ∧ isLowHalf (lowHalf c.toNat) = true := by
    rw [isLowHalf, decide_eq_true_eq, lowHalf]
    omega
  have hpair : 0x10000 + (highHalf c.toNat - 0xd800) * 0x400 + (lowHalf c.toNat - 0xdc00) =
      c.toNat := by
    rw [highHalf, lowHalf]
    omega
  generalize highHalf c.toNat = high at hhigh hpair ⊢
  generalize lowHalf c.toNat = low at hlow hpair ⊢
  have hlength : ¬ (Str.ofChars (hexDigits 4 high) ++
      (Str.ofChars (unitEscape low) ++ tail)).length ≤ 4 := by
    simp only [unitEscape, hexDigits_four, Str.ofChars_cons, Str.ofChars_nil, List.length_append,
      List.length_cons]
    omega
  have hbehind : 6 < (Str.ofChars (unitEscape low) ++ tail).length := by
    have := List.length_pos_iff.2 htail
    simp only [unitEscape, hexDigits_four, Str.ofChars_cons, Str.ofChars_nil, List.length_append,
      List.length_cons, List.length_nil]
    omega
  rw [Str.ofChars_append, List.append_assoc]
  simp only [codeEscape, if_neg hlength, fourHex?_hexDigits hhigh.1, hhigh.2, hbehind, decide_true,
    Bool.and_self, if_true]
  simp only [unitEscape, Str.ofChars_cons, List.cons_append, fourHex?_hexDigits hlow.1, hlow.2,
    if_true, hpair, Char.ofNat_toNat]

/-! ## Characters -/

/-- A visible character of ASCII, or a blank. -/
def IsVisible (c : Char) : Prop := 0x20 ≤ c.toNat ∧ c.toNat < 0x7f

instance (c : Char) : Decidable (IsVisible c) := inferInstanceAs (Decidable (_ ∧ _))

section Characters

variable {opening more rest : Str} {fuel : ℕ} {c : Char} {p : CodePoint}

theorem readChars_unit {unit : Str}
    (hunit : codeEscape (.char 'u' :: (unit ++ tail)) (unit ++ tail) = .ok (p, tail))
    (hmore : readChars opening fuel tail = .ok (more, rest)) :
    readChars opening (fuel + 1) (.char '\\' :: .char 'u' :: (unit ++ tail)) =
      .ok (p :: more, rest) := by
  simp [readChars, hunit, hmore, bind, Except.bind, pure, Except.pure]

theorem readChars_letter {letter : Char} (hletter : letterEscape? letter = some c)
    (hmore : readChars opening fuel tail = .ok (more, rest)) :
    readChars opening (fuel + 1) (.char '\\' :: .char letter :: tail) =
      .ok (.char c :: more, rest) := by
  have hu : letter ≠ 'u' := by
    rintro rfl
    cases hletter
  have hdecoded : (CodePoint.char letter).char?.bind letterEscape? = some c := hletter
  simp only [readChars, CodePoint.char.injEq, if_false, if_true, Char.reduceEq]
  split
  · rename_i heq
    cases heq
  · rename_i heq
    exact absurd (CodePoint.char.inj (List.cons.inj heq).1) hu
  · rename_i heq
    obtain ⟨rfl, rfl⟩ := List.cons.inj heq
    simp only [hdecoded, hmore, bind, Except.bind, pure, Except.pure]

theorem readChars_plain (hquote : p ≠ .char '"') (hescape : p ≠ .char '\\') (hp : 0x20 ≤ p.toNat)
    (hmore : readChars opening fuel tail = .ok (more, rest)) :
    readChars opening (fuel + 1) (p :: tail) = .ok (p :: more, rest) := by
  simp [readChars, hquote, hescape, Nat.not_lt.2 hp, hmore, bind, Except.bind, pure, Except.pure]

/-- An escape that both layouts share is one letter, which stands for the character. -/
theorem letter_of_sharedEscape? {escape : List Char} (h : sharedEscape? c = some escape) :
    ∃ letter, escape = ['\\', letter] ∧ letterEscape? letter = some c ∧ IsVisible letter := by
  unfold sharedEscape? at h
  split at h
  any_goals
    obtain rfl := Option.some.inj h
    exact ⟨_, rfl, rfl, by decide⟩
  split at h
  · rename_i hback
    obtain rfl := Option.some.inj h
    exact ⟨'b', rfl, by rw [← Char.ofNat_toNat c, hback]; rfl, by decide⟩
  · split at h
    · rename_i hfeed
      obtain rfl := Option.some.inj h
      exact ⟨'f', rfl, by rw [← Char.ofNat_toNat c, hfeed]; rfl, by decide⟩
    · cases h

/-- Quotes and backslashes have an escape that both layouts share. -/
theorem ne_of_sharedEscape?_eq_none (h : sharedEscape? c = none) : c ≠ '"' ∧ c ≠ '\\' := by
  refine ⟨?_, ?_⟩
  all_goals
    rintro rfl
    cases h

/-- A code point is read from what is written for it on one line, unless it makes a pair with what
follows. -/
theorem readChars_asciiPoint (htail : tail ≠ []) (hpair : isHighHalf p.toNat = true → EndsPair tail)
    (hmore : readChars opening fuel tail = .ok (more, rest)) :
    readChars opening (fuel + 1) (.ofChars (asciiPoint p) ++ tail) = .ok (p :: more, rest) := by
  cases p with
  | half h =>
    have hplane : (CodePoint.half h).toNat < 0x10000 :=
      lt_trans h.isSurrogate.2 (by norm_num)
    exact readChars_unit (codeEscape_unit hplane _ htail hpair) hmore
  | char c =>
    simp only [asciiPoint]
    unfold asciiChar
    cases hshared : sharedEscape? c with
    | some escape =>
      obtain ⟨letter, rfl, hletter, -⟩ := letter_of_sharedEscape? hshared
      exact readChars_letter hletter hmore
    | none =>
      obtain ⟨hquote, hescape⟩ := ne_of_sharedEscape?_eq_none hshared
      simp only
      split
      · rename_i hprintable
        exact readChars_plain (by simpa using hquote) (by simpa using hescape) hprintable.1 hmore
      · split
        · rename_i hplane
          exact readChars_unit (codeEscape_unit (p := .char c) hplane _ htail hpair) hmore
        · rename_i hplane
          exact readChars_unit (codeEscape_pair (Nat.le_of_not_lt hplane) _ htail) hmore

/-- A code point is read from what is written for it over several lines. -/
theorem readChars_widePoint (htail : tail ≠ [])
    (hmore : readChars opening fuel tail = .ok (more, rest)) :
    readChars opening (fuel + 1) (widePoint p ++ tail) = .ok (p :: more, rest) := by
  cases p with
  | half h =>
    refine readChars_plain nofun nofun ?_ hmore
    exact le_trans (by norm_num) h.isSurrogate.1
  | char c =>
    simp only [widePoint]
    unfold wideChar
    cases hshared : sharedEscape? c with
    | some escape =>
      obtain ⟨letter, rfl, hletter, -⟩ := letter_of_sharedEscape? hshared
      exact readChars_letter hletter hmore
    | none =>
      obtain ⟨hquote, hescape⟩ := ne_of_sharedEscape?_eq_none hshared
      simp only
      split
      · rename_i hcontrol
        have hplane : (CodePoint.char c).toNat < 0x10000 := lt_trans hcontrol (by norm_num)
        refine readChars_unit (codeEscape_unit hplane _ htail fun hhigh => ?_) hmore
        cases (isHighHalf_char c).symm.trans hhigh
      · rename_i hprintable
        exact readChars_plain (by simpa using hquote) (by simpa using hescape)
          (Nat.le_of_not_lt hprintable) hmore

end Characters

/-! ## Strings -/

theorem isVisible_hexDigits (width n : ℕ) : ∀ c ∈ hexDigits width n, IsVisible c := by
  induction width generalizing n with
  | zero => simp [hexDigits]
  | succ width ih =>
    intro c hc
    rcases List.mem_append.1 hc with hc | hc
    · exact ih _ c hc
    · obtain rfl := List.mem_singleton.1 hc
      have hdigit : n % 16 < 16 := Nat.mod_lt _ (by norm_num)
      generalize n % 16 = d at hdigit
      interval_cases d <;> decide

theorem isVisible_unitEscape (n : ℕ) : ∀ c ∈ unitEscape n, IsVisible c := by
  intro c hc
  rw [unitEscape, List.mem_cons, List.mem_cons] at hc
  rcases hc with rfl | rfl | hc
  · decide
  · decide
  · exact isVisible_hexDigits 4 n c hc

/-- Something visible is written for every character. -/
theorem asciiChar_spec (c : Char) : asciiChar c ≠ [] ∧ ∀ d ∈ asciiChar c, IsVisible d := by
  unfold asciiChar
  cases hshared : sharedEscape? c with
  | some escape =>
    obtain ⟨letter, rfl, -, hvisible⟩ := letter_of_sharedEscape? hshared
    refine ⟨by simp, ?_⟩
    simpa using ⟨by decide, hvisible⟩
  | none =>
    simp only
    split
    · rename_i hprintable
      exact ⟨by simp, by simpa [IsVisible] using hprintable⟩
    · split
      · exact ⟨by simp [unitEscape], isVisible_unitEscape _⟩
      · exact ⟨by simp [unitEscape], List.forall_mem_append.2
          ⟨isVisible_unitEscape _, isVisible_unitEscape _⟩⟩

/-- Something visible is written for every code point. -/
theorem asciiPoint_spec (p : CodePoint) : asciiPoint p ≠ [] ∧ ∀ d ∈ asciiPoint p, IsVisible d := by
  cases p with
  | char c => exact asciiChar_spec c
  | half h => exact ⟨by simp [asciiPoint, unitEscape], isVisible_unitEscape h.unit⟩

/-- The escape that is written for a code point is that of a second half only if it is one. -/
theorem endsPair_asciiPoint {q : CodePoint} (hq : isLowHalf q.toNat = false) (more : Str) :
    EndsPair (.ofChars (asciiPoint q) ++ more) := by
  have hunit : ∀ n, n < 0x10000 → isLowHalf n = false → ∀ more : Str,
      EndsPair (.ofChars (unitEscape n) ++ more) := by
    intro n hn hlow more second heq
    obtain ⟨-, heq⟩ := List.cons.inj heq
    obtain ⟨-, rfl⟩ := List.cons.inj heq
    exact ⟨n, more, fourHex?_hexDigits hn more, hlow⟩
  cases q with
  | half h => exact hunit h.unit (lt_trans h.isSurrogate.2 (by norm_num)) hq more
  | char c =>
    simp only [asciiPoint]
    unfold asciiChar
    cases hshared : sharedEscape? c with
    | some escape =>
      obtain ⟨letter, rfl, hletter, -⟩ := letter_of_sharedEscape? hshared
      intro second heq
      obtain ⟨-, heq⟩ := List.cons.inj heq
      obtain ⟨hu, -⟩ := List.cons.inj heq
      obtain rfl : letter = 'u' := CodePoint.char.inj hu
      cases hletter
    | none =>
      have hescape := (ne_of_sharedEscape?_eq_none hshared).2
      simp only
      split
      · exact endsPair_of_ne (by simpa using hescape) more
      · split
        · rename_i hplane
          exact hunit c.toNat hplane hq more
        · -- the first of two units is a first half
          rename_i hplane
          have hrange := toNat_lt c
          rw [Str.ofChars_append, List.append_assoc]
          refine hunit _ (by omega) ?_ _
          simp only [isLowHalf, decide_eq_false_iff_not]
          omega

/-- No first half of a pair stands in front of a second half. -/
def Unpaired (s : Str) : Prop :=
  s.IsChain fun p q => isHighHalf p.toNat = true → isLowHalf q.toNat = false

theorem unpaired_nil : Unpaired [] := .nil

/-- Characters are no halves of a pair. -/
theorem unpaired_ofChars (s : List Char) : Unpaired (.ofChars s) := by
  induction s with
  | nil => exact .nil
  | cons c rest ih =>
    refine List.isChain_cons.2 ⟨fun q _ hhigh => ?_, ih⟩
    cases (isHighHalf_char c).symm.trans hhigh

/-- The layout with code points for its symbols. -/
def Layout.wide (layout : Layout Char) : Layout CodePoint where
  mark c := .char (layout.mark c)
  point p := Str.ofChars (layout.point p)
  broken := layout.broken
  substitute := layout.substitute

/-- Characters stand for themselves, something is written for every code point, and a string without
pairs is read from what is written for its code points. -/
structure Layout.IsFaithful (layout : Layout CodePoint) : Prop where
  mark : layout.mark = .char
  ne_nil : ∀ p, layout.point p ≠ []
  reads : ∀ (opening : Str) {s : Str} (tail : Str) {fuel : ℕ}, Unpaired s → s.length < fuel →
    readChars opening fuel (s.flatMap layout.point ++ .char '"' :: tail) = .ok (s, tail)

theorem readChars_quote (opening tail : Str) (fuel : ℕ) :
    readChars opening (fuel + 1) (.char '"' :: tail) = .ok ([], tail) := by
  simp [readChars]

theorem isFaithful_compactLayout : compactLayout.wide.IsFaithful where
  mark := rfl
  ne_nil p := by simpa [Layout.wide, compactLayout, Str.ofChars] using (asciiPoint_spec p).1
  reads opening s tail fuel hs hfuel := by
    induction s generalizing fuel with
    | nil =>
      obtain ⟨fuel, rfl⟩ : ∃ k, fuel = k + 1 := ⟨fuel - 1, by simp at hfuel; omega⟩
      exact readChars_quote opening tail fuel
    | cons p rest ih =>
      obtain ⟨fuel, rfl⟩ : ∃ k, fuel = k + 1 := ⟨fuel - 1, by simp at hfuel; omega⟩
      obtain ⟨hnext, hrest⟩ := List.isChain_cons.1 hs
      rw [List.flatMap_cons, List.append_assoc]
      refine readChars_asciiPoint (by simp) (fun hhigh => ?_) (ih fuel hrest (by simpa using hfuel))
      cases rest with
      | nil => exact endsPair_of_ne (by simp) tail
      | cons q rest =>
        rw [List.flatMap_cons, List.append_assoc]
        exact endsPair_asciiPoint (hnext q rfl hhigh) _

theorem widePoint_ne_nil (p : CodePoint) : widePoint p ≠ [] := by
  cases p with
  | half h => exact List.cons_ne_nil _ _
  | char c =>
    simp only [widePoint]
    unfold wideChar
    cases hshared : sharedEscape? c with
    | some escape =>
      obtain ⟨letter, rfl, -⟩ := letter_of_sharedEscape? hshared
      exact List.cons_ne_nil _ _
    | none =>
      simp only
      split <;> exact List.cons_ne_nil _ _

theorem isFaithful_indentedLayout : indentedLayout.IsFaithful where
  mark := rfl
  ne_nil := widePoint_ne_nil
  reads opening s tail fuel hs hfuel := by
    clear hs
    induction s generalizing fuel with
    | nil =>
      obtain ⟨fuel, rfl⟩ : ∃ k, fuel = k + 1 := ⟨fuel - 1, by simp at hfuel; omega⟩
      exact readChars_quote opening tail fuel
    | cons p rest ih =>
      obtain ⟨fuel, rfl⟩ : ∃ k, fuel = k + 1 := ⟨fuel - 1, by simp at hfuel; omega⟩
      rw [List.flatMap_cons, List.append_assoc]
      exact readChars_widePoint (by simp) (ih fuel (by simpa using hfuel))

/-- The text of a string is read as that string. -/
theorem readString_quoted {layout : Layout CodePoint} (h : layout.IsFaithful) {s : Str}
    (hs : Unpaired s) (tail : Str) :
    readString (s.flatMap layout.point ++ .char '"' :: tail) = .ok (s, tail) := by
  have hlength : s.length ≤ (s.flatMap layout.point).length := by
    rw [List.length_flatMap]
    calc s.length = (s.map fun _ => 1).sum := by simp
      _ ≤ (s.map fun p => (layout.point p).length).sum :=
        List.sum_le_sum fun p _ => List.length_pos_iff.2 (h.ne_nil p)
  have hfuel : s.length < (s.flatMap layout.point ++ .char '"' :: tail).length + 1 := by
    rw [List.length_append]
    omega
  rw [readString, h.reads _ _ hs hfuel]

theorem isVisible_flatMap (s : Str) : ∀ c ∈ s.flatMap asciiPoint, IsVisible c := by
  intro c hc
  obtain ⟨p, -, hp⟩ := List.mem_flatMap.1 hc
  exact (asciiPoint_spec p).2 c hp

end Json

end RequestPipeline
