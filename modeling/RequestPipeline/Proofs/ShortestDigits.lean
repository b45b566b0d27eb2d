import Mathlib.Tactic.Positivity
import Mathlib.Tactic.Set
import RequestPipeline.Proofs.DecimalReading

/-!
# The digits of a float

A float is written with digits that lie nearer to it than to any other float
(`Decimal.Dyadic.shortest_rounds`).  So a decimal of the same value is read as the float again,
with the sign of the word it came from (`Decimal.toFloat_of_finite`).
-/

namespace RequestPipeline

open Float.Model Float.Model.UnpackedFloat

/-! ## Words -/

namespace Decimal

def signOf (negative : Bool) : Sign := if negative then .negative else .positive

theorem toNat_unpackMantissa (b : BitVec 64) :
    (@unpackMantissa .binary64 b).toNat = b.toNat % 2 ^ 52 := by
  simp [unpackMantissa, BitVec.extractLsb_toNat]

theorem toNat_unpackExponent (b : BitVec 64) :
    (@unpackExponent .binary64 b).toNat = b.toNat / 2 ^ 52 % 2 ^ 11 := by
  simp [unpackExponent, BitVec.extractLsb_toNat, Nat.shiftRight_eq_div_pow]

theorem ofBitVec_unpackSign (b : BitVec 64) :
    Sign.ofBitVec (@unpackSign .binary64 b) = signOf (decide (2 ^ 63 ≤ b.toNat)) := by
  have hbit : (@unpackSign .binary64 b).toNat = b.toNat / 2 ^ 63 := by
    have hlt := b.isLt
    simp only [unpackSign, BitVec.toNat_cast, BitVec.extractLsb_toNat, Nat.shiftRight_eq_div_pow]
    exact Nat.mod_eq_of_lt (by norm_num; omega)
  have hzero : @unpackSign .binary64 b = 0#1 ↔ ¬ 2 ^ 63 ≤ b.toNat := by
    rw [← BitVec.toNat_inj, hbit, BitVec.toNat_zero]
    omega
  rw [Sign.ofBitVec, signOf]
  by_cases hsign : 2 ^ 63 ≤ b.toNat
  · rw [if_neg (fun h => hzero.1 h hsign), if_pos (decide_eq_true hsign)]
  · rw [if_pos (hzero.2 hsign), if_neg (by simpa using hsign)]

variable {x : Float} {negative : Bool} {d : Dyadic}

/-- What the three parts of a word make. -/
theorem unpack_eq (b : BitVec 64) {biased fraction : ℕ} {negative : Bool}
    (hbiased : b.toNat / 2 ^ 52 % 2 ^ 11 = biased) (hfraction : b.toNat % 2 ^ 52 = fraction)
    (hnegative : decide (2 ^ 63 ≤ b.toNat) = negative) :
    (biased = 0 → fraction = 0 → UnpackedFloat.unpack .binary64 b = .zero (signOf negative)) ∧
    (biased = 0 → (h : 0 < fraction) →
      UnpackedFloat.unpack .binary64 b = .finite (signOf negative) fraction (-1074) h) ∧
    (0 < biased → biased < 2047 → (h : 0 < 2 ^ 52 + fraction) →
      UnpackedFloat.unpack .binary64 b =
        .finite (signOf negative) (2 ^ 52 + fraction) (biased - 1075) h) := by
  have hbias : (Format.binary64.exponentBias : ℤ) = 1023 := rfl
  have hmantissa := (toNat_unpackMantissa b).trans hfraction
  have hexponent := (toNat_unpackExponent b).trans hbiased
  have hlast : (@unpackExponent .binary64 b = -1#11) ↔ biased = 2047 := by
    rw [← BitVec.toNat_inj, hexponent]
    rfl
  have hleast : (@unpackExponent .binary64 b = 0#11) ↔ biased = 0 := by
    rw [← BitVec.toNat_inj, hexponent]
    rfl
  have hnone : (@unpackMantissa .binary64 b = 0#52) ↔ fraction = 0 := by
    rw [← BitVec.toNat_inj, hmantissa]
    rfl
  have himplicit := Reading.toNat_implicit (@unpackMantissa .binary64 b)
  rw [hmantissa] at himplicit
  simp only [UnpackedFloat.unpack, hbias, ofBitVec_unpackSign, hnegative, hlast, hleast, hnone,
    hmantissa, hexponent, himplicit]
  refine ⟨fun hb hf => ?_, fun hb hf => ?_, fun hb hb' hf => ?_⟩
  · subst hb hf
    rfl
  · subst hb
    rw [if_neg (by decide), if_pos rfl, dif_neg hf.ne']
    rfl
  · rw [if_neg (by omega), if_neg (by omega)]
    congr 1

/-- The parts of a word are those of the number that it says. -/
theorem unpack_of_finite (h : partsOf x = .finite negative d) :
    ∃ hd : d.IsFloat,
      x.toModel.unpack = .finite (signOf negative) d.significand d.exponent hd.pos := by
  obtain ⟨-, hshort, hfull⟩ := unpack_eq x.toModel.toBits.toBitVec rfl rfl rfl
  have hbits : x.toBits.toNat = x.toModel.toBits.toBitVec.toNat := rfl
  rw [partsOf, hbits, partsOfBits] at h
  change ∃ hd : d.IsFloat, UnpackedFloat.unpack .binary64 x.toModel.toBits.toBitVec = _
  generalize x.toModel.toBits.toBitVec = b at h hshort hfull ⊢
  simp only [Nat.pow_eq] at h
  split at h
  · split at h <;> cases h
  · split at h
    · rename_i hbiased
      split at h
      · cases h
      · rename_i hfraction
        obtain ⟨rfl, rfl⟩ := FloatParts.finite.inj h
        have hpos : 0 < b.toNat % 2 ^ 52 := Nat.pos_of_ne_zero hfraction
        exact ⟨⟨⟨by simp only; omega, le_rfl, .inr rfl⟩, hpos,
          by simp only [lowestExponent]; omega⟩, hshort hbiased hpos⟩
    · rename_i hlast hbiased
      obtain ⟨rfl, rfl⟩ := FloatParts.finite.inj h
      have hplace : lowestExponent + ((b.toNat / 2 ^ 52 % 2 ^ 11 - 1 : ℕ) : ℤ) =
          (b.toNat / 2 ^ 52 % 2 ^ 11 : ℕ) - 1075 := by
        rw [lowestExponent]
        omega
      have hbound : normalBound = 2 ^ 52 := rfl
      simp only [hplace, hbound]
      exact ⟨⟨⟨by simp only; omega, by simp only; omega, .inl (by simp only; omega)⟩,
        by simp only; omega, by simp only; omega⟩, hfull (by omega) (by omega) (by omega)⟩

theorem unpack_of_zero (h : partsOf x = .zero negative) :
    x.toModel.unpack = .zero (signOf negative) := by
  obtain ⟨hzero, -⟩ := unpack_eq x.toModel.toBits.toBitVec rfl rfl rfl
  have hbits : x.toBits.toNat = x.toModel.toBits.toBitVec.toNat := rfl
  rw [partsOf, hbits, partsOfBits] at h
  change UnpackedFloat.unpack .binary64 x.toModel.toBits.toBitVec = _
  generalize x.toModel.toBits.toBitVec = b at h hzero ⊢
  simp only [Nat.pow_eq] at h
  split at h
  · split at h <;> cases h
  · split at h
    · rename_i hbiased
      split at h
      · rename_i hfraction
        obtain rfl := FloatParts.zero.inj h
        exact hzero hbiased hfraction
      · cases h
    · cases h

/-- A number whose exponent has all bits set is not finite. -/
theorem isFinite_unpack_of_last {b : BitVec 64} (hlast : b.toNat / 2 ^ 52 % 2 ^ 11 = 2047) :
    (UnpackedFloat.unpack .binary64 b).isFinite = false := by
  have hexponent : @unpackExponent .binary64 b = -1#11 := by
    rw [← BitVec.toNat_inj, toNat_unpackExponent, hlast]
    rfl
  rw [UnpackedFloat.unpack]
  simp only [hexponent, if_true]
  split <;> rfl

/-- A finite number is a zero, or it has digits. -/
theorem partsOf_of_isFinite (hx : x.isFinite = true) :
    (∃ negative, partsOf x = .zero negative) ∨ ∃ negative d, partsOf x = .finite negative d := by
  have hunpack : (UnpackedFloat.unpack .binary64 x.toModel.toBits.toBitVec).isFinite = true := hx
  have hbits : x.toBits.toNat = x.toModel.toBits.toBitVec.toNat := rfl
  rw [partsOf, hbits, partsOfBits]
  generalize x.toModel.toBits.toBitVec = b at hunpack ⊢
  simp only [Nat.pow_eq]
  split
  · rename_i hlast
    rw [isFinite_unpack_of_last hlast] at hunpack
    cases hunpack
  · split
    · split
      · exact .inl ⟨_, rfl⟩
      · exact .inr ⟨_, _, rfl⟩
    · exact .inr ⟨_, _, rfl⟩

/-- What is not finite is no number, or infinite. -/
theorem partsOf_of_not_isFinite (hx : x.isFinite = false) :
    partsOf x = .nan ∨ ∃ negative, partsOf x = .infinite negative := by
  have hunpack : x.toModel.unpack.isFinite = false := hx
  cases hparts : partsOf x with
  | nan => exact .inl rfl
  | infinite negative => exact .inr ⟨negative, rfl⟩
  | zero negative =>
    rw [unpack_of_zero hparts] at hunpack
    cases hunpack
  | finite negative d =>
    obtain ⟨hd, hfinite⟩ := unpack_of_finite hparts
    rw [hfinite] at hunpack
    cases hunpack

/-! ## The digits of a float -/

namespace Dyadic

theorem pow_toNat {b : ℚ} (hb : b ≠ 0) (e : ℤ) : b ^ e.toNat = b ^ e * b ^ (-e).toNat := by
  rw [← zpow_natCast, ← zpow_natCast, ← zpow_add₀ hb]
  congr 1
  omega

/-- On the common scale two whole numbers compare as the numbers they stand for. -/
theorem compare_scales (q e : ℤ) (k c : ℕ) :
    (k * (scales q e).2 ≤ c * (scales q e).1 ↔ (k : ℚ) * 2 ^ q ≤ c * 10 ^ e) ∧
      (c * (scales q e).1 ≤ k * (scales q e).2 ↔ (c : ℚ) * 10 ^ e ≤ k * 2 ^ q) := by
  have hunit : (0 : ℚ) < 2 ^ (-q).toNat * 10 ^ (-e).toNat := by positivity
  have hbinary : ((k * (scales q e).2 : ℕ) : ℚ) =
      k * 2 ^ q * (2 ^ (-q).toNat * 10 ^ (-e).toNat) := by
    simp only [scales, Nat.pow_eq]
    push_cast
    rw [pow_toNat two_ne_zero q]
    ring
  have hdecimal : ((c * (scales q e).1 : ℕ) : ℚ) =
      c * 10 ^ e * (2 ^ (-q).toNat * 10 ^ (-e).toNat) := by
    simp only [scales, Nat.pow_eq]
    push_cast
    rw [pow_toNat (by norm_num) e]
    ring
  constructor
  · rw [← Nat.cast_le (α := ℚ), hbinary, hdecimal, mul_le_mul_iff_of_pos_right hunit]
  · rw [← Nat.cast_le (α := ℚ), hbinary, hdecimal, mul_le_mul_iff_of_pos_right hunit]

/-- Reading back is lying nearest. -/
theorem rounds_of_readsBack {c : ℕ} {e : ℤ} (h : d.readsBack c e = true) :
    d.Rounds (c * 10 ^ e) := by
  obtain ⟨hlower, hlower'⟩ := compare_scales (d.exponent - 2) e d.lowerEnd c
  obtain ⟨hupper, hupper'⟩ := compare_scales (d.exponent - 2) e d.upperEnd c
  simp only [readsBack] at h
  split at h
  · rename_i heven
    obtain ⟨hlow, hhigh⟩ := of_decide_eq_true h
    exact ⟨hlower.1 hlow, hupper'.1 hhigh, fun hodd => absurd hodd (by omega)⟩
  · obtain ⟨hlow, hhigh⟩ := of_decide_eq_true h
    refine ⟨hlower.1 hlow.le, hupper'.1 hhigh.le, fun _ => ⟨fun heq => ?_, fun heq => ?_⟩⟩
    · exact absurd (hlower'.2 heq.le) hlow.not_ge
    · exact absurd (hupper.2 heq.ge) hhigh.not_ge

theorem onGrid?_rounds {e : ℤ} {s : Scientific} (h : d.onGrid? e = some s) :
    0 < s.coefficient ∧ d.Rounds s.value := by
  simp only [onGrid?] at h
  generalize d.centre * (scales (d.exponent - 2) e).2 / (scales (d.exponent - 2) e).1 = below at h
  have hlow : (decide (0 < below) && d.readsBack below e) = true →
      0 < below ∧ d.Rounds (Scientific.value ⟨below, e⟩) := by
    intro hreads
    rw [Bool.and_eq_true, decide_eq_true_iff] at hreads
    exact ⟨hreads.1, rounds_of_readsBack hreads.2⟩
  have hhigh : d.readsBack (below + 1) e = true →
      0 < below + 1 ∧ d.Rounds (Scientific.value ⟨below + 1, e⟩) :=
    fun hreads => ⟨Nat.succ_pos below, rounds_of_readsBack hreads⟩
  split at h
  · rename_i hboth
    rw [Bool.and_eq_true] at hboth
    split at h
    · exact Option.some.inj h ▸ hlow hboth.1
    · split at h
      · exact Option.some.inj h ▸ hhigh hboth.2
      · split at h
        · exact Option.some.inj h ▸ hlow hboth.1
        · exact Option.some.inj h ▸ hhigh hboth.2
  · split at h
    · rename_i hreads
      exact Option.some.inj h ▸ hlow hreads
    · split at h
      · rename_i hreads
        exact Option.some.inj h ▸ hhigh hreads
      · cases h

theorem firstGrid_rounds {fuel : ℕ} {e : ℤ} {s : Scientific} (h : d.firstGrid fuel e = some s) :
    0 < s.coefficient ∧ d.Rounds s.value := by
  induction fuel generalizing e with
  | zero => cases h
  | succ fuel ih =>
    rw [firstGrid] at h
    split at h
    · rename_i found hgrid
      obtain rfl := Option.some.inj h
      exact onGrid?_rounds hgrid
    · exact ih h

theorem value_exact (d : Dyadic) : d.exact.value = d.value := by
  simp only [Scientific.value, exact, value, Nat.pow_eq]
  push_cast
  rcases le_total 0 d.exponent with he | he
  · obtain ⟨n, hn⟩ := Int.eq_ofNat_of_zero_le he
    simp [hn]
  · obtain ⟨n, hn⟩ : ∃ n : ℕ, d.exponent = -n := ⟨(-d.exponent).toNat, by omega⟩
    have hten : (10 : ℚ) ^ n = 5 ^ n * 2 ^ n := by rw [← mul_pow]; norm_num
    rw [hn, min_eq_left (by omega), zpow_neg, zpow_neg, zpow_natCast, zpow_natCast, hten]
    simp only [neg_neg, Int.toNat_natCast, Int.toNat_neg_natCast, pow_zero, mul_one]
    field_simp

/-- The digits of a float lie nearest to it. -/
theorem shortest_rounds (hpos : 0 < d.significand) :
    0 < d.shortest.coefficient ∧ d.Rounds d.shortest.value := by
  rw [shortest]
  cases hgrid : d.firstGrid 24 d.decimalBound with
  | some s => exact firstGrid_rounds hgrid
  | none =>
    refine ⟨?_, ?_⟩
    · have htwo : 0 < 2 ^ d.exponent.toNat := Nat.two_pow_pos _
      have hfive : 0 < 5 ^ (-d.exponent).toNat := Nat.pow_pos (by norm_num)
      exact Nat.mul_pos (Nat.mul_pos hpos htwo) hfive
    · have hvalue : d.Rounds d.value := rounds_value hpos
      rwa [← value_exact] at hvalue

end Dyadic

/-! ## Reading the digits -/

theorem eq_of_unpack {y : Float} {u : UnpackedFloat} (hx : x.toModel.unpack = u)
    (hy : y.toModel = Float.Model.pack u) : y = x := by
  have hmodel : y.toModel = x.toModel := by rw [hy, ← hx, Reading.pack_unpack]
  cases x
  cases y
  exact congrArg Float.ofModel hmodel

/-- A decimal that lies nearest to a float is read as that float, up to the sign. -/
theorem toFloat_of_finite {s : Scientific} (h : partsOf x = .finite negative d)
    (hpos : 0 < s.coefficient) (hs : d.Rounds s.value) :
    (if negative then -s.toFloat else s.toFloat) = x := by
  obtain ⟨hd, hunpack⟩ := unpack_of_finite h
  have hmodel := Scientific.toModel_toFloat hd hpos hs
  refine eq_of_unpack hunpack ?_
  cases negative with
  | false => exact hmodel
  | true =>
    have hneg : (-s.toFloat).toModel =
        Float.Model.pack (UnpackedFloat.neg s.toFloat.toModel.unpack) := rfl
    rw [if_pos rfl, hneg, hmodel, Reading.unpack_pack .positive hd]
    rfl

theorem toFloat_of_zero {s : Scientific} (h : partsOf x = .zero negative)
    (hzero : s.coefficient = 0) : (if negative then -s.toFloat else s.toFloat) = x := by
  have hfloat : s.toFloat = 0 := by
    unfold Scientific.toFloat
    exact if_pos hzero
  refine eq_of_unpack (unpack_of_zero h) ?_
  rw [hfloat]
  cases negative
  · rfl
  · decide

end Decimal

end RequestPipeline
