import Mathlib.Data.List.TakeWhile
import Mathlib.Tactic.IntervalCases
import Mathlib.Tactic.Tauto
import RequestPipeline.Json.Writer
import RequestPipeline.Proofs.ShortestDigits

/-!
# The text of a number

A number is written as a whole part, perhaps with digits behind a point and with an exponent, and it
is read in these parts.  Whole numbers come back as they are, and finite floats too: wherever the
point is placed, the digits and the exponent make a decimal of the same value.  In a text a number
is read from the characters at its front that numbers are made of, up to where no number goes on.
-/

namespace RequestPipeline

/-! ## Digits -/

namespace Decimal

/-- All characters are digits. -/
def AreDigits (s : List Char) : Prop := ∀ c ∈ s, c.isDigit = true

variable {s t : List Char}

theorem AreDigits.append (hs : AreDigits s) (ht : AreDigits t) : AreDigits (s ++ t) := by
  intro c hc
  rcases List.mem_append.1 hc with hc | hc
  · exact hs c hc
  · exact ht c hc

theorem AreDigits.sublist (ht : AreDigits t) (h : s.Sublist t) : AreDigits s :=
  fun c hc => ht c (h.subset hc)

theorem areDigits_zeros (n : ℕ) : AreDigits (List.replicate n '0') := by
  intro c hc
  rw [(List.mem_replicate.1 hc).2]
  rfl

theorem areDigits_digitsOf (n : ℕ) : AreDigits (digitsOf n) :=
  fun _ hc => Nat.isDigit_of_mem_toDigits (by norm_num) (by norm_num) hc

theorem natOfDigits_eq (s : List Char) : natOfDigits s = Nat.ofDigitChars 10 s 0 := by
  simp only [natOfDigits, Nat.ofDigitChars, mul_comm 10]
  rfl

@[simp] theorem natOfDigits_digitsOf (n : ℕ) : natOfDigits (digitsOf n) = n := by
  rw [natOfDigits_eq, digitsOf, Nat.ofDigitChars_ten_toDigits]

theorem natOfDigits_append (s t : List Char) :
    natOfDigits (s ++ t) = natOfDigits s * 10 ^ t.length + natOfDigits t := by
  simp only [natOfDigits_eq]
  rw [Nat.ofDigitChars_append, Nat.ofDigitChars_eq_ofDigitChars_zero, mul_comm]

@[simp] theorem natOfDigits_zeros (n : ℕ) : natOfDigits (List.replicate n '0') = 0 := by
  simp [natOfDigits_eq]

/-- Zeros in front do not count. -/
theorem natOfDigits_dropZeros (s : List Char) :
    natOfDigits (s.dropWhile (· == '0')) = natOfDigits s := by
  induction s with
  | nil => rfl
  | cons c rest ih =>
    by_cases hc : c = '0'
    · subst hc
      rw [List.dropWhile_cons_of_pos (by rfl), ih]
      rfl
    · rw [List.dropWhile_cons_of_neg (by simpa using hc)]

/-- The digits of a positive number do not begin with a zero. -/
theorem head_digitsOf {n : ℕ} (hn : 0 < n) :
    ∃ c rest, digitsOf n = c :: rest ∧ c.isDigit = true ∧ c ≠ '0' := by
  induction n using Nat.strongRecOn with
  | ind n ih =>
    by_cases hsmall : n < 10
    · refine ⟨n.digitChar, [], Nat.toDigits_of_lt_base hsmall, ?_, ?_⟩
      · interval_cases n <;> rfl
      · interval_cases n <;> decide
    · obtain ⟨c, rest, hdigits, hc⟩ := ih (n / 10) (by omega) (by omega)
      refine ⟨c, rest ++ [(n % 10).digitChar], ?_, hc⟩
      rw [digitsOf] at hdigits ⊢
      rw [Nat.toDigits_of_base_le (by norm_num) (by omega), hdigits, List.cons_append]

theorem length_digitsOf_pos (n : ℕ) : 0 < (digitsOf n).length := Nat.length_toDigits_pos

end Decimal

namespace Json

open Decimal

/-! ## Reading the parts of a number -/

/-- No number goes on in the text. -/
def Stops (s : List Char) : Prop :=
  ∀ c ∈ s.head?, c.isDigit = false ∧ c ≠ '.' ∧ c ≠ 'e' ∧ c ≠ 'E'

/-- The text does not go on with a digit. -/
def EndsDigits (s : List Char) : Prop := ∀ c ∈ s.head?, c.isDigit = false

variable {digits tail : List Char}

theorem Stops.endsDigits (h : Stops tail) : EndsDigits tail := fun c hc => (h c hc).1

theorem takeWhile_digits (hdigits : AreDigits digits) (htail : EndsDigits tail) :
    (digits ++ tail).takeWhile Char.isDigit = digits := by
  rw [List.takeWhile_append_of_pos hdigits]
  cases tail with
  | nil => simp
  | cons c rest =>
    rw [List.takeWhile_cons_of_neg (by simpa using htail c rfl), List.append_nil]

theorem dropWhile_digits (hdigits : AreDigits digits) (htail : EndsDigits tail) :
    (digits ++ tail).dropWhile Char.isDigit = tail := by
  rw [List.dropWhile_append_of_pos hdigits]
  cases tail with
  | nil => simp
  | cons c rest => rw [List.dropWhile_cons_of_neg (by simpa using htail c rfl)]

/-- A whole part as it is written: a zero, or digits of which the first one is none. -/
def IsWhole (digits : List Char) : Prop :=
  AreDigits digits ∧ (digits = ['0'] ∨ ∃ c rest, digits = c :: rest ∧ c ≠ '0')

theorem wholePart?_eq (hdigits : IsWhole digits) (htail : EndsDigits tail) :
    wholePart? (digits ++ tail) = some (digits, tail) := by
  obtain ⟨hall, rfl | ⟨c, rest, rfl, hc⟩⟩ := hdigits
  · rfl
  · have hrest : AreDigits rest := fun d hd => hall d (List.mem_cons_of_mem _ hd)
    have hdigit : c.isDigit = true := hall c List.mem_cons_self
    rw [List.cons_append]
    unfold wholePart?
    split
    · rename_i heq
      exact absurd (List.cons.inj heq).1 hc
    · rename_i heq
      obtain ⟨rfl, rfl⟩ := List.cons.inj heq
      rw [if_pos hdigit, takeWhile_digits hrest htail, dropWhile_digits hrest htail]
    · rename_i heq
      cases heq

theorem fractionPart_of_point (hdigits : AreDigits digits) (hsome : digits ≠ [])
    (htail : EndsDigits tail) : fractionPart ('.' :: (digits ++ tail)) = (some digits, tail) := by
  simp only [fractionPart, takeWhile_digits hdigits htail, dropWhile_digits hdigits htail]
  rw [if_neg (by simpa using hsome)]

theorem fractionPart_of_stops (h : ∀ c ∈ tail.head?, c ≠ '.') :
    fractionPart tail = (none, tail) := by
  unfold fractionPart
  split
  · exact absurd rfl (h '.' rfl)
  · rfl

theorem exponentPart_of_stops (h : Stops tail) : exponentPart tail = (none, tail) := by
  cases tail with
  | nil => rfl
  | cons c rest =>
    obtain ⟨-, -, he, hE⟩ := h c rfl
    simp only [exponentPart]
    rw [if_neg (by tauto)]

/-- The digits of an exponent, at least two of them. -/
def exponentDigits (e : ℤ) : List Char :=
  List.replicate (2 - (digitsOf e.natAbs).length) '0' ++ digitsOf e.natAbs

theorem areDigits_exponentDigits (e : ℤ) : AreDigits (exponentDigits e) :=
  (areDigits_zeros _).append (areDigits_digitsOf _)

theorem exponentPart_exponentText (e : ℤ) (htail : EndsDigits tail) :
    exponentPart ('e' :: (exponentText e ++ tail)) =
      (some (decide (e < 0), exponentDigits e), tail) := by
  have hsome : exponentDigits e ≠ [] := by
    have := length_digitsOf_pos e.natAbs
    intro hnil
    rw [exponentDigits, List.append_eq_nil_iff] at hnil
    simp [hnil.2] at this
  have hsign : splitSign (exponentText e ++ tail) = (decide (e < 0), exponentDigits e ++ tail) := by
    unfold exponentText
    by_cases he : e < 0
    · simp [he, splitSign, exponentDigits]
    · simp [he, splitSign, exponentDigits]
  simp only [exponentPart, true_or, if_true, hsign,
    takeWhile_digits (areDigits_exponentDigits e) htail,
    dropWhile_digits (areDigits_exponentDigits e) htail]
  rw [if_neg (by simpa using hsome)]

/-- An exponent of few digits is read as it is. -/
theorem natOfDigits_exponentDigits {e : ℤ} (he : e.natAbs < 10 ^ 12) :
    natOfDigits (((exponentDigits e).dropWhile (· == '0')).take 12) = e.natAbs := by
  have hlength : (digitsOf e.natAbs).length ≤ 12 :=
    (Nat.length_toDigits_le_iff (by norm_num) (by norm_num)).2 he
  have hshort : ((exponentDigits e).dropWhile (· == '0')).length ≤ 12 := by
    refine (List.dropWhile_sublist _).length_le.trans ?_
    rw [exponentDigits, List.length_append, List.length_replicate]
    omega
  rw [List.take_of_length_le hshort, natOfDigits_dropZeros, exponentDigits, natOfDigits_append,
    natOfDigits_zeros, natOfDigits_digitsOf, zero_mul, zero_add]

end Json

/-! ## Numbers in parts -/

/-- The parts of a number as it is written; without digits behind it there is no point. -/
structure Numeral where
  whole : List Char
  fraction : List Char
  exponent : Option ℤ

namespace Numeral

open Decimal Json

variable {n : Numeral} {tail : List Char}

def fractionText (n : Numeral) : List Char := if n.fraction.isEmpty then [] else '.' :: n.fraction

def exponentText (n : Numeral) : List Char :=
  match n.exponent with
  | none => []
  | some e => 'e' :: Decimal.exponentText e

def text (n : Numeral) : List Char := n.whole ++ (n.fractionText ++ n.exponentText)

/-- The decimal that the digits and the exponent make. -/
def decimal (n : Numeral) : Scientific :=
  ⟨natOfDigits (n.whole ++ n.fraction), n.exponent.getD 0 - n.fraction.length⟩

structure IsProper (n : Numeral) : Prop where
  whole : IsWhole n.whole
  fraction : AreDigits n.fraction
  exponent : ∀ e ∈ n.exponent, e.natAbs < 10 ^ 12

theorem endsDigits_exponentText (htail : EndsDigits tail) :
    EndsDigits (n.exponentText ++ tail) := by
  unfold exponentText
  split
  · exact htail
  · intro c hc
    obtain rfl : 'e' = c := by simpa using hc
    rfl

theorem endsDigits_fractionText (htail : EndsDigits tail) :
    EndsDigits (n.fractionText ++ (n.exponentText ++ tail)) := by
  unfold fractionText
  split
  · exact endsDigits_exponentText htail
  · intro c hc
    obtain rfl : '.' = c := by simpa using hc
    rfl

theorem fractionPart_eq (h : n.IsProper) (htail : Stops tail) :
    fractionPart (n.fractionText ++ (n.exponentText ++ tail)) =
      (if n.fraction.isEmpty then none else some n.fraction, n.exponentText ++ tail) := by
  by_cases hnone : n.fraction = []
  · have hpoint : ∀ c ∈ (n.exponentText ++ tail).head?, c ≠ '.' := by
      unfold exponentText
      split
      · exact fun c hc => (htail c hc).2.1
      · intro c hc
        obtain rfl : 'e' = c := by simpa using hc
        decide
    simp only [fractionText, hnone, List.isEmpty_nil, if_true, List.nil_append]
    exact fractionPart_of_stops hpoint
  · have hsome : n.fraction.isEmpty = false := by simpa using hnone
    simp only [fractionText, hsome, Bool.false_eq_true, if_false, List.cons_append]
    exact fractionPart_of_point h.fraction hnone (endsDigits_exponentText htail.endsDigits)

theorem exponentPart_eq (htail : Stops tail) :
    exponentPart (n.exponentText ++ tail) =
      (n.exponent.map fun e => (decide (e < 0), exponentDigits e), tail) := by
  unfold exponentText
  split
  · rename_i hnone
    rw [hnone]
    exact exponentPart_of_stops htail
  · rename_i e hsome
    rw [hsome]
    exact exponentPart_exponentText e htail.endsDigits

/-- The exponent that is read is the one that was written. -/
theorem exponent_eq {e : ℤ} (he : e.natAbs < 10 ^ 12) :
    (if e < 0 then -(natOfDigits (((exponentDigits e).dropWhile (· == '0')).take 12) : ℤ)
      else natOfDigits (((exponentDigits e).dropWhile (· == '0')).take 12)) = e := by
  rw [natOfDigits_exponentDigits he, Int.natCast_natAbs]
  split
  · rw [abs_of_neg (by assumption), neg_neg]
  · rw [abs_of_nonneg (by omega)]

/-- A number begins with a digit. -/
theorem text_begins (h : n.IsProper) : ∃ d rest, d.isDigit = true ∧ n.text = d :: rest := by
  obtain ⟨d, behind, hwhole⟩ : ∃ d behind, n.whole = d :: behind := by
    rcases h.whole.2 with hzero | ⟨d, behind, hwhole, -⟩
    · exact ⟨_, _, hzero⟩
    · exact ⟨d, behind, hwhole⟩
  exact ⟨d, _, h.whole.1 d (by simp [hwhole]), by rw [text, hwhole, List.cons_append]⟩

/-- A number does not begin with a sign of its own. -/
theorem text_ne_minus (h : n.IsProper) (tail rest : List Char) :
    n.text ++ tail ≠ '-' :: rest := by
  obtain ⟨d, behind, hdigit, htext⟩ := text_begins h
  intro heq
  rw [htext] at heq
  obtain rfl := (List.cons.inj heq).1
  cases hdigit

theorem wholePart?_text (h : n.IsProper) (htail : Stops tail) :
    wholePart? (n.text ++ tail) = some (n.whole, n.fractionText ++ (n.exponentText ++ tail)) := by
  rw [text, List.append_assoc, List.append_assoc]
  exact wholePart?_eq h.whole (endsDigits_fractionText htail.endsDigits)

variable (n) in
/-- The digits behind the point as the reader gives them. -/
theorem fraction_getD :
    (if n.fraction = [] then none else some n.fraction).getD [] = n.fraction := by
  split
  · rename_i hnone
    exact hnone.symm
  · rfl

/-- A number with a point or an exponent is read as the float of its decimal. -/
theorem numberOf_eq_float (h : n.IsProper) (hfloat : n.fraction ≠ [] ∨ n.exponent ≠ none)
    (htail : Stops tail) (negative : Bool) :
    numberOf (Layout.signed negative n.text ++ tail) =
      .ok (.float (if negative then -n.decimal.toFloat else n.decimal.toFloat), tail) := by
  have hwhole := wholePart?_text h htail
  have hminus := text_ne_minus h tail
  cases hexponent : n.exponent with
  | none =>
    have hpoint : n.fraction.isEmpty = false := by simpa [hexponent] using hfloat
    cases negative <;>
      simp [numberOf, Layout.signed, hwhole, fractionPart_eq h htail, exponentPart_eq htail,
        hexponent, decimal, hpoint]
  | some e =>
    have he := exponent_eq (h.exponent e hexponent)
    cases negative <;>
      simp [numberOf, Layout.signed, hwhole, fractionPart_eq h htail, exponentPart_eq htail,
        hexponent, decimal, fraction_getD, he]

/-- A number without a point and an exponent is read as a whole number. -/
theorem numberOf_eq_int (h : n.IsProper) (hint : n.fraction = [] ∧ n.exponent = none)
    (hshort : n.whole.length ≤ digitLimit) (htail : Stops tail) (negative : Bool) :
    numberOf (Layout.signed negative n.text ++ tail) =
      .ok (.int (if negative then -natOfDigits n.whole else natOfDigits n.whole), tail) := by
  have hwhole := wholePart?_text h htail
  have hminus := text_ne_minus h tail
  cases negative <;>
    simp [numberOf, Layout.signed, hwhole, fractionPart_eq h htail, exponentPart_eq htail,
      hint.1, hint.2, Nat.not_lt.2 hshort]

/-- A whole number with too many digits is not read. -/
theorem numberOf_eq_error (h : n.IsProper) (hint : n.fraction = [] ∧ n.exponent = none)
    (hlong : digitLimit < n.whole.length) (htail : Stops tail) (negative : Bool) :
    numberOf (Layout.signed negative n.text ++ tail) = .error (.tooManyDigits n.whole.length) := by
  have hwhole := wholePart?_text h htail
  have hminus := text_ne_minus h tail
  cases negative <;>
    simp [numberOf, Layout.signed, hwhole, fractionPart_eq h htail, exponentPart_eq htail,
      hint.1, hint.2, hlong]

end Numeral

namespace Json

open Decimal

/-! ## Whole numbers -/

/-- The digits of a whole number as the whole part of a number. -/
theorem isWhole_digitsOf (m : ℕ) : IsWhole (digitsOf m) := by
  refine ⟨areDigits_digitsOf m, ?_⟩
  rcases Nat.eq_zero_or_pos m with rfl | hm
  · exact .inl rfl
  · obtain ⟨c, rest, hdigits, -, hc⟩ := head_digitsOf hm
    exact .inr ⟨c, rest, hdigits, hc⟩

theorem toList_toString_int (m : ℤ) :
    (toString m).toList = Layout.signed (decide (m < 0)) (digitsOf m.natAbs) := by
  cases m with
  | ofNat k =>
    have hnonneg : ¬ (Int.ofNat k < 0) := by simp
    simp only [hnonneg, decide_false, Layout.signed, Bool.false_eq_true, if_false]
    exact Nat.toList_repr
  | negSucc k =>
    have hneg : Int.negSucc k < 0 := Int.negSucc_lt_zero k
    simp only [hneg, decide_true, Layout.signed, if_true]
    change ("-" ++ (k + 1).repr).toList = _
    rw [String.toList_append, Nat.toList_repr]
    rfl

/-- A text is that of a number, perhaps behind a sign. -/
def IsNumeral (text : List Char) : Prop :=
  ∃ (negative : Bool) (n : Numeral), n.IsProper ∧ text = Layout.signed negative n.text

/-- The digits of a whole number by themselves. -/
def wholeNumeral (m : ℕ) : Numeral := ⟨digitsOf m, [], none⟩

theorem isProper_wholeNumeral (m : ℕ) : (wholeNumeral m).IsProper :=
  ⟨isWhole_digitsOf m, by simp [wholeNumeral, AreDigits], by simp [wholeNumeral]⟩

theorem intText_eq {m : ℤ} {text : List Char} (h : intText m = .ok text) :
    text = Layout.signed (decide (m < 0)) (wholeNumeral m.natAbs).text ∧
      (digitsOf m.natAbs).length ≤ digitLimit := by
  unfold intText at h
  split at h
  · rename_i hshort
    obtain rfl := Except.ok.inj h
    refine ⟨?_, ?_⟩
    · rw [toList_toString_int]
      simp [wholeNumeral, Numeral.text, Numeral.fractionText, Numeral.exponentText]
    · rw [digitsOf, Nat.length_toDigits_le_iff (by norm_num) (by decide)]
      generalize digitLimit = k at hshort ⊢
      exact hshort
  · cases h

theorem isNumeral_intText {m : ℤ} {text : List Char} (h : intText m = .ok text) :
    IsNumeral text :=
  ⟨_, _, isProper_wholeNumeral _, (intText_eq h).1⟩

/-- The text of a whole number is read as that number. -/
theorem numberOf_intText {m : ℤ} {text tail : List Char} (h : intText m = .ok text)
    (htail : Stops tail) : numberOf (text ++ tail) = .ok (.int m, tail) := by
  obtain ⟨rfl, hlength⟩ := intText_eq h
  rw [Numeral.numberOf_eq_int (isProper_wholeNumeral _) ⟨rfl, rfl⟩ hlength htail]
  simp only [wholeNumeral, natOfDigits_digitsOf, Int.natCast_natAbs, decide_eq_true_eq]
  split
  · rw [abs_of_neg (by assumption), neg_neg]
  · rw [abs_of_nonneg (by omega)]

/-! ## Floats -/

/-- A numeral for a decimal: its parts make a decimal of the same value. -/
structure Writes (n : Numeral) (s : Scientific) : Prop where
  proper : n.IsProper
  float : n.fraction ≠ [] ∨ n.exponent ≠ none
  value : n.decimal.value = s.value
  pos : 0 < n.decimal.coefficient

variable {s : Scientific}

theorem Writes.of_decimal {n : Numeral} (hproper : n.IsProper)
    (hfloat : n.fraction ≠ [] ∨ n.exponent ≠ none) (hpos : 0 < s.coefficient)
    (hdecimal : n.decimal = s) : Writes n s :=
  ⟨hproper, hfloat, by rw [hdecimal], by rw [hdecimal]; exact hpos⟩

theorem natOfDigits_take_drop (m k : ℕ) :
    natOfDigits ((digitsOf m).take k ++ (digitsOf m).drop k) = m := by
  rw [List.take_append_drop, natOfDigits_digitsOf]

/-- A beginning of the digits is a whole part. -/
theorem isWhole_take (hpos : 0 < s.coefficient) {k : ℕ} (hk : 0 < k) (zeros : ℕ) :
    IsWhole ((digitsOf s.coefficient).take k ++ List.replicate zeros '0') := by
  obtain ⟨c, rest, hdigits, -, hc⟩ := head_digitsOf hpos
  refine ⟨((areDigits_digitsOf _).sublist (List.take_sublist _ _)).append (areDigits_zeros _),
    .inr ?_⟩
  obtain ⟨j, rfl⟩ : ∃ j, k = j + 1 := ⟨k - 1, by omega⟩
  exact ⟨c, rest.take j ++ List.replicate zeros '0', by rw [hdigits]; rfl, hc⟩

theorem positional_writes_in_front (hpos : 0 < s.coefficient) {point : ℤ}
    (hpoint : s.exponent + ((digitsOf s.coefficient).length : ℤ) = point) (hfront : point ≤ 0) :
    ∃ n, Writes n s ∧ positional (digitsOf s.coefficient) point = n.text := by
  have hlength := length_digitsOf_pos s.coefficient
  let n : Numeral := ⟨['0'], List.replicate (-point).toNat '0' ++ digitsOf s.coefficient, none⟩
  have hsome : n.fraction ≠ [] := by
    intro hnil
    have := congrArg List.length hnil
    simp only [n, List.length_append, List.length_nil] at this
    omega
  have hdecimal : n.decimal = s := by
    have hzero : natOfDigits ['0'] = 0 := rfl
    simp only [n, Numeral.decimal, natOfDigits_append, hzero, natOfDigits_zeros,
      natOfDigits_digitsOf, List.length_append, List.length_replicate, Option.getD_none]
    congr 1
    · omega
    · push_cast
      omega
  refine ⟨n, .of_decimal ⟨⟨by simp [n, AreDigits], .inl rfl⟩,
    (areDigits_zeros _).append (areDigits_digitsOf _), by simp [n]⟩ (.inl hsome) hpos hdecimal, ?_⟩
  rw [positional, if_pos hfront, Numeral.text, Numeral.fractionText, if_neg (by simpa using hsome)]
  simp [n, Numeral.exponentText]

theorem positional_writes_behind (hpos : 0 < s.coefficient) {point : ℤ}
    (hpoint : s.exponent + ((digitsOf s.coefficient).length : ℤ) = point) (hfront : ¬point ≤ 0)
    (hback : (digitsOf s.coefficient).length ≤ point.toNat) :
    ∃ n, Writes n s ∧ positional (digitsOf s.coefficient) point = n.text := by
  let n : Numeral := ⟨(digitsOf s.coefficient).take point.toNat ++
    List.replicate (point.toNat - (digitsOf s.coefficient).length) '0', ['0'], none⟩
  have hwhole : natOfDigits n.whole =
      s.coefficient * 10 ^ (point.toNat - (digitsOf s.coefficient).length) := by
    simp only [n]
    rw [List.take_of_length_le hback, natOfDigits_append, natOfDigits_digitsOf,
      natOfDigits_zeros, List.length_replicate, add_zero]
  have hcoefficient : n.decimal.coefficient =
      s.coefficient * 10 ^ (point.toNat - (digitsOf s.coefficient).length) * 10 := by
    simp only [Numeral.decimal]
    rw [natOfDigits_append, hwhole]
    rfl
  have hvalue : n.decimal.value = s.value := by
    have hexponent : n.decimal.exponent = -1 := by simp [n, Numeral.decimal]
    have hplace : s.exponent = (point.toNat - (digitsOf s.coefficient).length : ℕ) := by omega
    rw [Scientific.value, Scientific.value, hcoefficient, hexponent, hplace, zpow_natCast]
    push_cast
    norm_num
    ring
  refine ⟨n, ⟨⟨isWhole_take hpos (by omega) _, by simp [n, AreDigits], by simp [n]⟩,
    .inl (by simp [n]), hvalue, ?_⟩, ?_⟩
  · rw [hcoefficient]
    positivity
  · rw [positional, if_neg hfront, Numeral.text, Numeral.fractionText]
    simp [n, Numeral.exponentText, List.drop_eq_nil_of_le hback]

theorem positional_writes_among (hpos : 0 < s.coefficient) {point : ℤ}
    (hpoint : s.exponent + ((digitsOf s.coefficient).length : ℤ) = point) (hfront : ¬point ≤ 0)
    (hback : ¬(digitsOf s.coefficient).length ≤ point.toNat) :
    ∃ n, Writes n s ∧ positional (digitsOf s.coefficient) point = n.text := by
  let n : Numeral :=
    ⟨(digitsOf s.coefficient).take point.toNat, (digitsOf s.coefficient).drop point.toNat, none⟩
  have hsome : n.fraction ≠ [] := by
    intro hnil
    have := congrArg List.length hnil
    simp only [n, List.length_drop, List.length_nil] at this
    omega
  have hdecimal : n.decimal = s := by
    simp only [n, Numeral.decimal, natOfDigits_take_drop, List.length_drop, Option.getD_none]
    congr 1
    omega
  have hwhole := isWhole_take hpos (k := point.toNat) (by omega) 0
  rw [List.replicate_zero, List.append_nil] at hwhole
  refine ⟨n, .of_decimal ⟨hwhole, (areDigits_digitsOf _).sublist (List.drop_sublist _ _),
    by simp [n]⟩ (.inl hsome) hpos hdecimal, ?_⟩
  have hzeros : point.toNat - (digitsOf s.coefficient).length = 0 := by omega
  rw [positional, if_neg hfront, Numeral.text, Numeral.fractionText]
  simp only [n] at hsome
  simp [n, Numeral.exponentText, hzeros, hsome]

/-- With the point among the digits, in front of them or behind them. -/
theorem positional_writes (hpos : 0 < s.coefficient) :
    ∃ n, Writes n s ∧
      positional (digitsOf s.coefficient) (s.exponent + (digitsOf s.coefficient).length) =
        n.text := by
  by_cases hfront : s.exponent + ((digitsOf s.coefficient).length : ℤ) ≤ 0
  · exact positional_writes_in_front hpos rfl hfront
  by_cases hback : (digitsOf s.coefficient).length ≤
      (s.exponent + ((digitsOf s.coefficient).length : ℤ)).toNat
  · exact positional_writes_behind hpos rfl hfront hback
  · exact positional_writes_among hpos rfl hfront hback

/-- One digit in front of the point, and an exponent. -/
theorem exponential_writes (hpos : 0 < s.coefficient)
    (hshort : (s.exponent + (digitsOf s.coefficient).length - 1).natAbs < 10 ^ 12) :
    ∃ n, Writes n s ∧
      exponential (digitsOf s.coefficient) (s.exponent + (digitsOf s.coefficient).length) =
        n.text := by
  have hlength := length_digitsOf_pos s.coefficient
  generalize hpoint : s.exponent + ((digitsOf s.coefficient).length : ℤ) = point at hshort ⊢
  let n : Numeral :=
    ⟨(digitsOf s.coefficient).take 1, (digitsOf s.coefficient).drop 1, some (point - 1)⟩
  have hdecimal : n.decimal = s := by
    simp only [n, Numeral.decimal, natOfDigits_take_drop, List.length_drop, Option.getD_some]
    congr 1
    omega
  have hwhole := isWhole_take hpos one_pos 0
  rw [List.replicate_zero, List.append_nil] at hwhole
  refine ⟨n, .of_decimal ⟨hwhole, (areDigits_digitsOf _).sublist (List.drop_sublist _ _),
    by simpa [n] using hshort⟩ (.inr (by simp [n])) hpos hdecimal, ?_⟩
  have hpart : (if 1 < (digitsOf s.coefficient).length then '.' :: (digitsOf s.coefficient).drop 1
      else []) = n.fractionText := by
    by_cases hmore : 1 < (digitsOf s.coefficient).length
    · have hsome : (digitsOf s.coefficient).tail ≠ [] := by
        intro hnil
        have := congrArg List.length hnil
        simp only [List.length_tail, List.length_nil] at this
        omega
      simp [n, Numeral.fractionText, hmore, hsome]
    · have hnone : (digitsOf s.coefficient).drop 1 = [] :=
        List.drop_eq_nil_of_le (by omega)
      simp [n, Numeral.fractionText, hmore, hnone]
  rw [exponential, hpart, List.append_assoc]
  rfl

/-- Every layout of the digits writes a numeral for the decimal. -/
theorem writeScientific_writes (hpos : 0 < s.coefficient)
    (hshort : (s.exponent + digitCount s.coefficient - 1).natAbs < 10 ^ 12)
    (layout : Decimal.Layout) :
    ∃ n, Writes n s ∧ layout.writeScientific s = n.text := by
  simp only [Layout.writeScientific]
  split
  · exact positional_writes hpos
  · exact exponential_writes hpos hshort

/-- The text of a finite float is a numeral for it, with a point or an exponent. -/
theorem floatText_eq {x : Float} (hx : x.isFinite = true) :
    ∃ (negative : Bool) (n : Numeral), floatText x = Layout.signed negative n.text ∧ n.IsProper ∧
      (n.fraction ≠ [] ∨ n.exponent ≠ none) ∧
      (if negative then -n.decimal.toFloat else n.decimal.toFloat) = x := by
  rcases partsOf_of_isFinite hx with ⟨negative, hzero⟩ | ⟨negative, d, hfinite⟩
  · refine ⟨negative, ⟨['0'], ['0'], none⟩, ?_, ?_, .inl (by simp), toFloat_of_zero hzero rfl⟩
    · rw [floatText, Layout.write, hzero]
      rfl
    · exact ⟨⟨by simp [AreDigits], .inl rfl⟩, by simp [AreDigits], by simp⟩
  · obtain ⟨hd, -⟩ := unpack_of_finite hfinite
    obtain ⟨hpos, hrounds⟩ := d.shortest_rounds hd.pos
    obtain ⟨hupper, hlower⟩ := point_bounds hd hpos hrounds
    obtain ⟨n, hwrites, htext⟩ := writeScientific_writes hpos (by omega) json
    refine ⟨negative, n, ?_, hwrites.proper, hwrites.float,
      toFloat_of_finite hfinite hwrites.pos (by rw [hwrites.value]; exact hrounds)⟩
    rw [floatText, Layout.write, hfinite]
    simp only [htext]

theorem isNumeral_floatText {x : Float} (hx : x.isFinite = true) : IsNumeral (floatText x) := by
  obtain ⟨negative, n, htext, hproper, -⟩ := floatText_eq hx
  exact ⟨negative, n, hproper, htext⟩

/-- The text of a finite float is read as that float. -/
theorem numberOf_floatText {x : Float} {tail : List Char} (hx : x.isFinite = true)
    (htail : Stops tail) : numberOf (floatText x ++ tail) = .ok (.float x, tail) := by
  obtain ⟨negative, n, htext, hproper, hfloat, hvalue⟩ := floatText_eq hx
  rw [htext, Numeral.numberOf_eq_float hproper hfloat htail, hvalue]

/-! ## Numbers at the front of a text -/

open Text (Str)

/-- The characters that a number can be made of, and what stands behind them, are the text. -/
theorem numberFront_append_drop (s : Str) :
    Str.ofChars (numberFront s) ++ s.drop (numberFront s).length = s := by
  induction s with
  | nil => rfl
  | cons p rest ih =>
    cases p with
    | half h => rfl
    | char c =>
      simp only [numberFront]
      split
      · simpa using ih
      · rfl

theorem numberFront_append {text : List Char} (h : ∀ c ∈ text, isNumberChar c = true) (tail : Str) :
    numberFront (.ofChars text ++ tail) = text ++ numberFront tail := by
  induction text with
  | nil => rfl
  | cons c rest ih =>
    obtain ⟨hc, hrest⟩ := List.forall_mem_cons.1 h
    simp only [Str.ofChars_cons, List.cons_append, numberFront, hc, if_true, ih hrest]

theorem isNumberChar_of_digits {digits : List Char} (h : AreDigits digits) :
    ∀ c ∈ digits, isNumberChar c = true := fun c hc => by simp [isNumberChar, h c hc]

theorem IsNumeral.isNumberChar {text : List Char} (h : IsNumeral text) :
    ∀ c ∈ text, isNumberChar c = true := by
  obtain ⟨negative, n, hn, rfl⟩ := h
  have hfraction : ∀ c ∈ n.fractionText, Json.isNumberChar c = true := by
    rw [Numeral.fractionText]
    split
    · simp
    · exact List.forall_mem_cons.2 ⟨rfl, isNumberChar_of_digits hn.fraction⟩
  have hexponent : ∀ c ∈ n.exponentText, Json.isNumberChar c = true := by
    rw [Numeral.exponentText]
    split
    · simp
    · rename_i e _
      refine List.forall_mem_cons.2 ⟨rfl, List.forall_mem_cons.2 ⟨?_, ?_⟩⟩
      · split <;> rfl
      · exact isNumberChar_of_digits (areDigits_exponentDigits e)
  have htext : ∀ c ∈ n.text, Json.isNumberChar c = true :=
    List.forall_mem_append.2 ⟨isNumberChar_of_digits hn.whole.1,
      List.forall_mem_append.2 ⟨hfraction, hexponent⟩⟩
  cases negative with
  | false => exact htext
  | true => exact List.forall_mem_cons.2 ⟨rfl, htext⟩

/-- A number is read as in the characters that numbers are made of. -/
theorem readNumber_append {text : List Char} (h : IsNumeral text) {tail : Str} {v : Value}
    (hv : numberOf (text ++ numberFront tail) = .ok (v, numberFront tail)) :
    readNumber (.ofChars text ++ tail) = .ok (v, tail) := by
  have hlength : (text ++ numberFront tail).length =
      (Str.ofChars text).length + (numberFront tail).length := by simp
  simp only [readNumber, numberFront_append h.isNumberChar, hv, hlength, List.drop_append,
    List.nil_append, Nat.add_sub_cancel_left, numberFront_append_drop,
    List.drop_eq_nil_of_le (Nat.le_add_right _ _)]

/-- The text of a whole number is read as that number. -/
theorem readNumber_intText {m : ℤ} {text : List Char} {tail : Str} (h : intText m = .ok text)
    (htail : Stops (numberFront tail)) :
    readNumber (.ofChars text ++ tail) = .ok (.int m, tail) :=
  readNumber_append (isNumeral_intText h) (numberOf_intText h htail)

/-- The text of a finite float is read as that float. -/
theorem readNumber_floatText {x : Float} {tail : Str} (hx : x.isFinite = true)
    (htail : Stops (numberFront tail)) :
    readNumber (.ofChars (floatText x) ++ tail) = .ok (.float x, tail) :=
  readNumber_append (isNumeral_floatText hx) (numberOf_floatText hx htail)

end Json

end RequestPipeline
