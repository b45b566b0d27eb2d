import Mathlib.Algebra.Order.Floor.Ring
import Mathlib.Algebra.Order.Field.Rat
import Mathlib.Data.Rat.Cast.Order
import Mathlib.Tactic.FieldSimp
import Mathlib.Tactic.Linarith
import Mathlib.Tactic.NormNum
import Mathlib.Tactic.Ring
import RequestPipeline.Decimal.Reading
import RequestPipeline.Proofs.Readings

/-!
# Rounding to the nearest float

A number is rounded by cutting off bits of its mantissa, with a record of what was cut off
(`Reading.Locates`).  `Reading.roundWithAccuracy_eq` proves that every number that lies nearer to a
float than to its neighbours is rounded to that float, and so is a midpoint beside an even
mantissa.
-/

namespace RequestPipeline

/-! ## The numbers nearest to a float -/

namespace Decimal.Dyadic

/-- The number that a significand and an exponent stand for. -/
def value (d : Dyadic) : ℚ := d.significand * 2 ^ d.exponent

/-- The numbers that lie nearest to a float: both midpoints are among them if the significand is
even. -/
structure Rounds (d : Dyadic) (x : ℚ) : Prop where
  above : d.lowerEnd * (2 : ℚ) ^ (d.exponent - 2) ≤ x
  below : x ≤ d.upperEnd * (2 : ℚ) ^ (d.exponent - 2)
  odd : d.significand % 2 = 1 → x ≠ d.lowerEnd * (2 : ℚ) ^ (d.exponent - 2) ∧
    x ≠ d.upperEnd * (2 : ℚ) ^ (d.exponent - 2)

theorem rounds_value {d : Dyadic} (hpos : 0 < d.significand) : d.Rounds d.value := by
  have hscale : d.value = (4 * d.significand : ℕ) * (2 : ℚ) ^ (d.exponent - 2) := by
    rw [value, zpow_sub₀ two_ne_zero]
    push_cast
    ring
  have hunit : (0 : ℚ) < 2 ^ (d.exponent - 2) := zpow_pos two_pos _
  have hlower : d.lowerEnd < 4 * d.significand := by
    unfold lowerEnd
    split <;> omega
  have hupper : 4 * d.significand < d.upperEnd := by
    unfold upperEnd
    omega
  have habove : d.lowerEnd * (2 : ℚ) ^ (d.exponent - 2) < d.value := by
    rw [hscale]
    exact mul_lt_mul_of_pos_right (by exact_mod_cast hlower) hunit
  have hbelow : d.value < d.upperEnd * (2 : ℚ) ^ (d.exponent - 2) := by
    rw [hscale]
    exact mul_lt_mul_of_pos_right (by exact_mod_cast hupper) hunit
  exact ⟨habove.le, hbelow.le, fun _ => ⟨habove.ne', hbelow.ne⟩⟩

theorem upperEnd_eq (d : Dyadic) :
    d.upperEnd * (2 : ℚ) ^ (d.exponent - 2) = (d.significand + 1 / 2) * 2 ^ d.exponent := by
  rw [upperEnd, zpow_sub₀ two_ne_zero]
  push_cast
  ring

/-- The gap below a float is as wide as the gap above, but for the least significand. -/
theorem lowerEnd_eq {d : Dyadic} (hpos : 0 < d.significand)
    (h : ¬ (d.significand = normalBound ∧ d.exponent ≠ lowestExponent)) :
    d.lowerEnd * (2 : ℚ) ^ (d.exponent - 2) = (d.significand - 1 / 2) * 2 ^ d.exponent := by
  rw [lowerEnd, if_neg h, Nat.cast_sub (by omega), zpow_sub₀ two_ne_zero]
  push_cast
  ring

theorem lowerEnd_of_bound {d : Dyadic} (h : d.significand = normalBound)
    (h' : d.exponent ≠ lowestExponent) :
    d.lowerEnd * (2 : ℚ) ^ (d.exponent - 2) = (2 ^ 52 - 1 / 4) * 2 ^ d.exponent := by
  rw [lowerEnd, if_pos ⟨h, h'⟩, h, zpow_sub₀ two_ne_zero]
  norm_num [normalBound]
  ring

namespace Rounds

variable {d : Dyadic} {x : ℚ}

theorem le_half (h : d.Rounds x) : x ≤ (d.significand + 1 / 2) * 2 ^ d.exponent :=
  h.below.trans_eq (upperEnd_eq d)

theorem half_le (h : d.Rounds x) (hpos : 0 < d.significand) :
    (d.significand - 1 / 2 : ℚ) * 2 ^ d.exponent ≤ x := by
  by_cases hbound : d.significand = normalBound ∧ d.exponent ≠ lowestExponent
  · have habove := h.above
    rw [lowerEnd_of_bound hbound.1 hbound.2] at habove
    refine le_trans (mul_le_mul_of_nonneg_right ?_ (zpow_pos two_pos _).le) habove
    rw [hbound.1]
    norm_num [normalBound]
  · rw [← lowerEnd_eq hpos hbound]
    exact h.above

theorem ne_half (h : d.Rounds x) (hodd : d.significand % 2 = 1) :
    x ≠ (d.significand - 1 / 2) * 2 ^ d.exponent ∧
      x ≠ (d.significand + 1 / 2) * 2 ^ d.exponent := by
  have hbound : ¬ (d.significand = normalBound ∧ d.exponent ≠ lowestExponent) := by
    rintro ⟨hbound, -⟩
    rw [hbound] at hodd
    exact absurd hodd (by decide)
  rw [← lowerEnd_eq (by omega) hbound, ← upperEnd_eq]
  exact h.odd hodd

end Rounds

end Decimal.Dyadic

namespace Reading

open Float.Model Float.Model.UnpackedFloat

/-! ## Mantissas and what is cut off them -/

/-- What a mantissa, the bit behind it and the presence of others say of a number. -/
def Locates (em : ExtendedMantissa) (x : ℚ) : Prop :=
  match em.roundBit, em.stickyBit with
  | false, false => x = em.mantissa
  | false, true => (em.mantissa : ℚ) < x ∧ x < em.mantissa + 1 / 2
  | true, false => x = em.mantissa + 1 / 2
  | true, true => (em.mantissa : ℚ) + 1 / 2 < x ∧ x < em.mantissa + 1

variable {em : ExtendedMantissa} {x : ℚ}

theorem locates_exact (n : ℕ) : Locates (.ofMantissaAndAccuracy n .exact) n := rfl

theorem Locates.le (h : Locates em x) : (em.mantissa : ℚ) ≤ x := by
  rcases em with ⟨n, _ | _, _ | _⟩ <;> simp only [Locates] at h <;> linarith

theorem Locates.lt (h : Locates em x) : x < em.mantissa + 1 := by
  rcases em with ⟨n, _ | _, _ | _⟩ <;> simp only [Locates] at h <;> linarith

/-- A quotient and the comparison of twice the rest with the divisor locate a fraction. -/
theorem locates_fraction (n : ℕ) {d : ℕ} (hd : 0 < d) :
    Locates (.ofMantissaAndAccuracy (n / d) (accuracyOfFraction (n % d) d)) (n / d : ℚ) := by
  have hpos : (0 : ℚ) < d := by exact_mod_cast hd
  have hsum : (n : ℚ) = d * (n / d : ℕ) + (n % d : ℕ) := by
    exact_mod_cast (Nat.div_add_mod n d).symm
  have hquotient : (n / d : ℚ) = (n / d : ℕ) + (n % d : ℕ) / d := by
    rw [hsum]
    field_simp
  have hrest : ((n % d : ℕ) : ℚ) / d < 1 := by
    rw [div_lt_one hpos]
    exact_mod_cast Nat.mod_lt n hd
  rw [hquotient, accuracyOfFraction]
  split
  case isTrue hzero =>
    rw [hzero]
    simp [Locates, ExtendedMantissa.ofMantissaAndAccuracy]
  case isFalse hzero =>
    have hsome : (0 : ℚ) < (n % d : ℕ) / d :=
      div_pos (by exact_mod_cast Nat.pos_of_ne_zero hzero) hpos
    rcases hcompare : compare (2 * (n % d)) d with _ | _ | _
    · have hlt : ((n % d : ℕ) : ℚ) / d < 1 / 2 := by
        have hnat : (2 * (n % d : ℕ) : ℚ) < d := by exact_mod_cast compare_lt_iff_lt.1 hcompare
        rw [div_lt_iff₀ hpos]
        linarith
      exact ⟨by simpa [ExtendedMantissa.ofMantissaAndAccuracy] using hsome,
        by simpa [ExtendedMantissa.ofMantissaAndAccuracy] using hlt⟩
    · have heq : ((n % d : ℕ) : ℚ) / d = 1 / 2 := by
        have hnat : (2 * (n % d : ℕ) : ℚ) = d := by exact_mod_cast compare_eq_iff_eq.1 hcompare
        rw [div_eq_iff hpos.ne']
        linarith
      simp [Locates, ExtendedMantissa.ofMantissaAndAccuracy, heq]
    · have hgt : 1 / 2 < ((n % d : ℕ) : ℚ) / d := by
        have hnat : (d : ℚ) < 2 * (n % d : ℕ) := by exact_mod_cast compare_gt_iff_gt.1 hcompare
        rw [lt_div_iff₀ hpos]
        linarith
      exact ⟨by simpa [ExtendedMantissa.ofMantissaAndAccuracy] using hgt,
        by simpa [ExtendedMantissa.ofMantissaAndAccuracy] using hrest⟩

/-- Cutting off one bit halves the number. -/
theorem Locates.shiftRightOne (h : Locates em x) : Locates em.shiftRightOne (x / 2) := by
  rcases em with ⟨n, r, s⟩
  have hsum : (n : ℚ) = 2 * (n / 2 : ℕ) + (n % 2 : ℕ) := by
    exact_mod_cast (Nat.div_add_mod n 2).symm
  rcases Nat.mod_two_eq_zero_or_one n with hbit | hbit <;> rw [hbit] at hsum <;>
    cases r <;> cases s <;>
    simp only [Locates, ExtendedMantissa.shiftRightOne, hbit, Nat.reduceBNe] at h ⊢ <;>
    norm_num at h hsum ⊢ <;> first | linarith | (constructor <;> linarith)

theorem Locates.shiftRight (h : Locates em x) (k : ℕ) : Locates (em >>> k) (x / 2 ^ k) := by
  change Locates (k.repeat ExtendedMantissa.shiftRightOne em) _
  induction k with
  | zero => simpa [Nat.repeat] using h
  | succ k ih =>
    rw [Nat.repeat, pow_succ, ← div_div]
    exact ih.shiftRightOne

/-- The mantissa is rounded to the whole number nearest to the number, the even one of two. -/
theorem Locates.roundedMantissa_eq {n : ℕ} (h : Locates em x) (habove : (n : ℚ) - 1 / 2 ≤ x)
    (hbelow : x ≤ n + 1 / 2) (hodd : n % 2 = 1 → x ≠ n - 1 / 2 ∧ x ≠ n + 1 / 2) :
    em.roundedMantissa = n := by
  rcases em with ⟨m, _ | _, _ | _⟩ <;>
    simp only [Locates, ExtendedMantissa.roundedMantissa, ExtendedMantissa.accuracy,
      Accuracy.roundToNearestEven] at h ⊢
  · have hlow : (2 * n : ℚ) ≤ 2 * m + 1 := by linarith
    have hhigh : (2 * m : ℚ) ≤ 2 * n + 1 := by linarith
    norm_cast at hlow hhigh
    omega
  · have hlow : (n : ℚ) < m + 1 := by linarith
    have hhigh : (2 * m : ℚ) < 2 * n + 1 := by linarith
    norm_cast at hlow hhigh
    omega
  · have hlow : (n : ℚ) ≤ m + 1 := by linarith
    have hhigh : (m : ℚ) ≤ n := by linarith
    norm_cast at hlow hhigh
    -- an even neighbour on either side is the one that a midpoint is rounded to
    rcases (show n = m ∨ n = m + 1 by omega) with rfl | rfl
    · have heven : n % 2 ≠ 1 := fun hn => (hodd hn).2 h
      omega
    · have heven : (m + 1) % 2 ≠ 1 := fun hn => (hodd hn).1 (by push_cast; linarith)
      omega
  · have hlow : (2 * n : ℚ) < 2 * m + 3 := by linarith
    have hhigh : (m : ℚ) < n := by linarith
    norm_cast at hlow hhigh
    omega

/-! ## The exponent of the result -/

theorem targetExponent_eq (n : ℕ) (e : ℤ) :
    Format.binary64.targetExponent (totalExponent n e) = max (n.log2 + e - 52) (-1074) := by
  simp only [Format.targetExponent, totalExponent, Format.mantissaBits, Format.minExponent]
  norm_num
  omega

theorem log2_le_of_lt {n k : ℕ} (h : n < 2 ^ (k + 1)) : n.log2 ≤ k := by
  by_cases hn : n = 0
  · simp [hn]
  · have := (Nat.log2_lt hn).2 h
    omega

/-- A mantissa with few enough bits stays as it is. -/
theorem shiftToTargetExponent_short {n : ℕ} {e : ℤ} (hn : n < 2 ^ 53) (he : -1074 ≤ e) :
    shiftToTargetExponent .binary64 n e .exact = (⟨n, false, false⟩, e) := by
  have hlog := log2_le_of_lt hn
  have hnone : (Format.binary64.targetExponent (totalExponent n e) - e).toNat = 0 := by
    rw [targetExponent_eq]
    omega
  simp [shiftToTargetExponent, shiftToExponent, hnone, HShiftRight.hShiftRight, Nat.repeat,
    ExtendedMantissa.ofMantissaAndAccuracy]

/-- A mantissa that rounding has made too long loses its last bit. -/
theorem shiftToTargetExponent_carry {e : ℤ} (he : -1074 ≤ e) :
    shiftToTargetExponent .binary64 (2 ^ 53) e .exact = (⟨2 ^ 52, false, false⟩, e + 1) := by
  have htarget : Format.binary64.targetExponent (totalExponent (2 ^ 53) e) = e + 1 := by
    rw [targetExponent_eq, Nat.log2_two_pow]
    omega
  unfold shiftToTargetExponent
  rw [htarget]
  simp [shiftToExponent, HShiftRight.hShiftRight, Nat.repeat,
    ExtendedMantissa.ofMantissaAndAccuracy, ExtendedMantissa.shiftRightOne]

theorem zpow_lt_zpow_iff {a b : ℤ} : (2 : ℚ) ^ a < 2 ^ b ↔ a < b :=
  zpow_lt_zpow_iff_right₀ one_lt_two

/-- The powers of two around a number, from its mantissa. -/
theorem Locates.bounds {n : ℕ} {e : ℤ} (h : (n : ℚ) * 2 ^ e ≤ x) (h' : x < (n + 1) * 2 ^ e)
    (hn : 0 < n) : (2 : ℚ) ^ (n.log2 + e) ≤ x ∧ x < 2 ^ (n.log2 + e + 1) := by
  have hunit : (0 : ℚ) < 2 ^ e := zpow_pos two_pos _
  have hlow : ((2 ^ n.log2 : ℕ) : ℚ) ≤ n := by exact_mod_cast Nat.log2_self_le hn.ne'
  have hhigh : (n : ℚ) + 1 ≤ ((2 ^ (n.log2 + 1) : ℕ) : ℚ) := by exact_mod_cast Nat.lt_log2_self
  constructor
  · calc (2 : ℚ) ^ (n.log2 + e) = ((2 ^ n.log2 : ℕ) : ℚ) * 2 ^ e := by
          rw [zpow_add₀ two_ne_zero]
          norm_cast
      _ ≤ n * 2 ^ e := mul_le_mul_of_nonneg_right hlow hunit.le
      _ ≤ x := h
  · calc x < (n + 1) * 2 ^ e := h'
      _ ≤ ((2 ^ (n.log2 + 1) : ℕ) : ℚ) * 2 ^ e := mul_le_mul_of_nonneg_right hhigh hunit.le
      _ = 2 ^ (n.log2 + e + 1) := by
          rw [add_right_comm, zpow_add₀ two_ne_zero]
          norm_cast

variable {d : Decimal.Dyadic} {n : ℕ} {e : ℤ}

theorem pow_mul_zpow (k : ℕ) (e : ℤ) : (2 : ℚ) ^ k * 2 ^ e = 2 ^ (k + e) := by
  rw [zpow_add₀ two_ne_zero, zpow_natCast]

/-- The numbers nearest to a float are no longer than it is. -/
theorem lt_zpow_of_rounds (hshort : d.significand < 2 ^ 53) (hx : d.Rounds x) :
    x < 2 ^ (53 + d.exponent) := by
  have hunit : (0 : ℚ) < 2 ^ d.exponent := zpow_pos two_pos _
  have hhalf : (d.significand : ℚ) + 1 / 2 < 2 ^ 53 := by
    have hnat : (d.significand : ℚ) + 1 ≤ 2 ^ 53 := by exact_mod_cast hshort
    linarith
  calc x ≤ (d.significand + 1 / 2) * 2 ^ d.exponent := hx.le_half
    _ < 2 ^ 53 * 2 ^ d.exponent := mul_lt_mul_of_pos_right hhalf hunit
    _ = 2 ^ (53 + d.exponent) := pow_mul_zpow 53 d.exponent

/-- The numbers nearest to a float of full length are at most one place shorter. -/
theorem zpow_lt_of_rounds (hfull : 2 ^ 52 ≤ d.significand) (hx : d.Rounds x) :
    (2 : ℚ) ^ (51 + d.exponent) < x := by
  have hunit : (0 : ℚ) < 2 ^ d.exponent := zpow_pos two_pos _
  have hhalf : (2 : ℚ) ^ 51 < d.significand - 1 / 2 := by
    have hnat : (2 ^ 52 : ℚ) ≤ d.significand := by exact_mod_cast hfull
    linarith
  calc (2 : ℚ) ^ (51 + d.exponent) = 2 ^ 51 * 2 ^ d.exponent := (pow_mul_zpow 51 d.exponent).symm
    _ < (d.significand - 1 / 2) * 2 ^ d.exponent := mul_lt_mul_of_pos_right hhalf hunit
    _ ≤ x := hx.half_le (by omega)

/-- In the gap below a power of two lies nothing but what is rounded up to it. -/
theorem significand_of_gap (hfull : 2 ^ 52 ≤ d.significand) (hx : d.Rounds x)
    (hgap : x < 2 ^ 52 * 2 ^ d.exponent) : d.significand = 2 ^ 52 := by
  have hunit : (0 : ℚ) < 2 ^ d.exponent := zpow_pos two_pos _
  have hhalf := lt_of_mul_lt_mul_right ((hx.half_le (by omega)).trans_lt hgap) hunit.le
  have hless : (d.significand : ℚ) < 2 ^ 52 + 1 := by linarith
  norm_cast at hless
  omega

/-- The number is cut off at the exponent of the float, or one place below it if it lies in the gap
below a power of two. -/
theorem exponent_cases (hd : Normal d.significand d.exponent)
    (hlow : (n : ℚ) * 2 ^ e ≤ x) (hhigh : x < (n + 1) * 2 ^ e)
    (he : e ≤ max (n.log2 + e - 52) (-1074)) (hx : d.Rounds x) :
    max (n.log2 + e - 52) (-1074) = d.exponent ∨
      max (n.log2 + e - 52) (-1074) + 1 = d.exponent ∧ d.significand = 2 ^ 52 ∧
        x < 2 ^ 52 * 2 ^ d.exponent := by
  have hleast := hd.low
  have hupper := lt_zpow_of_rounds hd.short hx
  by_cases hbottom : d.exponent = -1074
  · left
    by_cases hn : n = 0
    · subst hn
      simp only [Nat.log2_zero] at he ⊢
      omega
    · have hlog := zpow_lt_zpow_iff.1 ((Locates.bounds hlow hhigh (by omega)).1.trans_lt hupper)
      omega
  have hfull : 2 ^ 52 ≤ d.significand := hd.full.resolve_right hbottom
  have hlower := zpow_lt_of_rounds hfull hx
  have hn : 0 < n := by
    by_contra hzero
    obtain rfl : n = 0 := by omega
    have hlt : x < 2 ^ e := by simpa using hhigh
    have := zpow_lt_zpow_iff.1 (hlower.trans hlt)
    simp only [Nat.log2_zero] at he
    omega
  obtain ⟨hbelow, habove⟩ := Locates.bounds hlow hhigh hn
  have hlog := zpow_lt_zpow_iff.1 (hbelow.trans_lt hupper)
  have hlog' := zpow_lt_zpow_iff.1 (hlower.trans habove)
  by_cases hexponent : n.log2 + e - 52 = d.exponent
  · left
    omega
  right
  have hgap : x < 2 ^ 52 * 2 ^ d.exponent := by
    refine habove.trans_le (le_of_le_of_eq ?_ (pow_mul_zpow 52 d.exponent).symm)
    exact zpow_le_zpow_right₀ one_le_two (by omega)
  exact ⟨by omega, significand_of_gap hfull hx hgap, hgap⟩

/-- Cut off at the exponent of the float, the number is rounded to its significand. -/
theorem roundedMantissa_on_grid (hpos : 0 < d.significand) (hx : d.Rounds x)
    (hem : Locates em (x / 2 ^ d.exponent)) : em.roundedMantissa = d.significand := by
  have hunit : (0 : ℚ) < 2 ^ d.exponent := zpow_pos two_pos _
  refine hem.roundedMantissa_eq ((le_div_iff₀ hunit).2 (hx.half_le hpos))
    ((div_le_iff₀ hunit).2 hx.le_half) fun hodd => ⟨fun h => ?_, fun h => ?_⟩
  · exact (hx.ne_half hodd).1 ((div_eq_iff hunit.ne').1 h)
  · exact (hx.ne_half hodd).2 ((div_eq_iff hunit.ne').1 h)

/-- Cut off one place below it, the number is rounded up to the power of two. -/
theorem roundedMantissa_in_gap {target : ℤ} (hleast : -1074 ≤ target)
    (hgap : target + 1 = d.exponent) (hbound : d.significand = 2 ^ 52) (hx : d.Rounds x)
    (hless : x < 2 ^ 52 * 2 ^ d.exponent) (hem : Locates em (x / 2 ^ target)) :
    em.roundedMantissa = 2 ^ 53 := by
  have hdouble : (2 : ℚ) ^ d.exponent = 2 * 2 ^ target := by
    rw [← hgap, zpow_add₀ two_ne_zero, zpow_one, mul_comm]
  have hunit : (0 : ℚ) < 2 ^ target := zpow_pos two_pos _
  have hmore : d.exponent ≠ Decimal.lowestExponent := by
    rw [Decimal.lowestExponent]
    omega
  have habove : (2 ^ 53 - 1 / 2 : ℚ) * 2 ^ target ≤ x := by
    have hx' := hx.above
    rw [Decimal.Dyadic.lowerEnd_of_bound hbound hmore, hdouble] at hx'
    linarith
  have hbelow : x ≤ (2 ^ 53 + 1 / 2 : ℚ) * 2 ^ target := by
    rw [hdouble] at hless
    linarith
  refine hem.roundedMantissa_eq (n := 2 ^ 53) ?_ ?_ (by norm_num)
  · rw [le_div_iff₀ hunit]
    exact_mod_cast habove
  · rw [div_le_iff₀ hunit]
    exact_mod_cast hbelow

/-- A mantissa is cut, rounded, and cut once more. -/
theorem roundWithAccuracy_of_shifts {accuracy : Accuracy} {target f : ℤ} {r m : ℕ} (s : Sign)
    (hfirst : shiftToTargetExponent .binary64 n e accuracy = (em, target))
    (hrounded : em.roundedMantissa = r)
    (hsecond : shiftToTargetExponent .binary64 r target .exact = (⟨m, false, false⟩, f))
    (hm : 0 < m) : roundWithAccuracy .binary64 s n e accuracy = .finite s m f hm := by
  simp only [roundWithAccuracy, hfirst, hrounded, hsecond, hm.ne', dite_false]

/-- A number is rounded to the float it lies nearest to. -/
theorem roundWithAccuracy_eq {accuracy : Accuracy} (s : Sign)
    (hd : Normal d.significand d.exponent) (hpos : 0 < d.significand)
    (hn : Locates (.ofMantissaAndAccuracy n accuracy) (x / 2 ^ e))
    (he : e ≤ max (n.log2 + e - 52) (-1074)) (hx : d.Rounds x) :
    roundWithAccuracy .binary64 s n e accuracy = .finite s d.significand d.exponent hpos := by
  have hunit : (0 : ℚ) < 2 ^ e := zpow_pos two_pos _
  have hmantissa : (ExtendedMantissa.ofMantissaAndAccuracy n accuracy).mantissa = n := by
    rcases accuracy with _ | _ | _ | _ <;> rfl
  have hlow : (n : ℚ) * 2 ^ e ≤ x := by
    have hle := hn.le
    rwa [hmantissa, le_div_iff₀ hunit] at hle
  have hhigh : x < (n + 1) * 2 ^ e := by
    have hlt := hn.lt
    rwa [hmantissa, div_lt_iff₀ hunit] at hlt
  generalize htarget : max (n.log2 + e - 52) (-1074) = target at he
  have hleast : -1074 ≤ target := htarget ▸ le_max_right _ _
  have hcases := exponent_cases hd hlow hhigh (by omega) hx
  rw [htarget] at hcases
  have hplace : e + ((target - e).toNat : ℤ) = target := by omega
  have hfirst : shiftToTargetExponent .binary64 n e accuracy =
      (ExtendedMantissa.ofMantissaAndAccuracy n accuracy >>> (target - e).toNat, target) := by
    simp only [shiftToTargetExponent, shiftToExponent, targetExponent_eq, htarget, hplace]
  have hshifted : Locates (ExtendedMantissa.ofMantissaAndAccuracy n accuracy >>> (target - e).toNat)
      (x / 2 ^ target) := by
    have hshift := hn.shiftRight (target - e).toNat
    rwa [div_div, ← zpow_natCast, ← zpow_add₀ two_ne_zero, hplace] at hshift
  rcases hcases with rfl | ⟨hgap, hbound, hless⟩
  · exact roundWithAccuracy_of_shifts s hfirst (roundedMantissa_on_grid hpos hx hshifted)
      (shiftToTargetExponent_short hd.short hd.low) hpos
  · have hsecond := shiftToTargetExponent_carry hleast
    rw [hgap, ← hbound] at hsecond
    exact roundWithAccuracy_of_shifts s hfirst
      (roundedMantissa_in_gap hleast hgap hbound hx hless hshifted) hsecond hpos

end Reading

end RequestPipeline
