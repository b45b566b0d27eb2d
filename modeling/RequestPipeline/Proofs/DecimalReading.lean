import Mathlib.Algebra.Order.Field.Power
import Mathlib.Tactic.Lift
import Mathlib.Tactic.Positivity
import RequestPipeline.Proofs.Rounding

/-!
# Reading decimal numbers

`Decimal.Scientific.toModel_toFloat` proves that a decimal number is read as the float it lies
nearest to.  Small coefficients and exponents go through one product or one quotient of two floats,
which are exact as floats themselves, and all others through a product or a quotient of whole
numbers; either is rounded once.
-/

namespace RequestPipeline

open Float.Model Float.Model.UnpackedFloat

/-! ## Words of floats -/

namespace Decimal.Dyadic

/-- A positive number that a float can be. -/
structure IsFloat (d : Dyadic) : Prop where
  normal : Reading.Normal d.significand d.exponent
  pos : 0 < d.significand
  bounded : d.exponent ≤ 971

end Decimal.Dyadic

namespace Reading

variable {d : Decimal.Dyadic}

theorem unpackSign_packComponents (s : Sign) (e : BitVec 11) (m : BitVec 52) :
    Sign.ofBitVec (@unpackSign .binary64 (packComponents .binary64 s e m)) = s := by
  have hsign : @unpackSign .binary64 (packComponents .binary64 s e m) = s.toBitVec := by
    simp only [unpackSign, packComponents, BitVec.extractLsb]
    rw [BitVec.extractLsb'_append_eq_of_le (by omega),
      BitVec.extractLsb'_append_eq_of_le (by omega)]
    cases s <;> rfl
  rw [hsign]
  cases s <;> rfl

theorem unpack_packComponents_full (s : Sign) {m b : ℕ} (hm : 2 ^ 52 ≤ m) (hm' : m < 2 ^ 53)
    (hb : 0 < b) (hb' : b < 2047) (hpos : 0 < m) :
    UnpackedFloat.unpack .binary64
        (packComponents .binary64 s (BitVec.ofNat 11 b) (BitVec.ofNat 52 m)) =
      .finite s m (b - 1075) hpos := by
  have hplace : (BitVec.ofNat 11 b).toNat = b := by
    rw [BitVec.toNat_ofNat, Nat.mod_eq_of_lt (by omega)]
  have hlast : BitVec.ofNat 11 b ≠ -1#11 := by
    intro h
    have := congrArg BitVec.toNat h
    rw [hplace] at this
    exact absurd this (by simp; omega)
  have hleast : BitVec.ofNat 11 b ≠ 0#11 := by
    intro h
    have := congrArg BitVec.toNat h
    rw [hplace] at this
    exact absurd this (by simp; omega)
  have hmantissa : (1#1 ++ BitVec.ofNat 52 m).toNat = m := by
    rw [toNat_implicit, BitVec.toNat_ofNat]
    omega
  simp only [UnpackedFloat.unpack, unpackExponent_packComponents, unpackMantissa_packComponents,
    unpackSign_packComponents, hplace, hmantissa]
  rw [if_neg hlast, if_neg hleast]
  rfl

theorem unpack_packComponents_short (s : Sign) {m : ℕ} (hm : m < 2 ^ 52) (hpos : 0 < m) :
    UnpackedFloat.unpack .binary64 (packComponents .binary64 s 0#11 (BitVec.ofNat 52 m)) =
      .finite s m (-1074) hpos := by
  have hmantissa : (BitVec.ofNat 52 m).toNat = m := by
    rw [BitVec.toNat_ofNat, Nat.mod_eq_of_lt hm]
  have hsome : BitVec.ofNat 52 m ≠ 0#52 := by
    intro h
    have := congrArg BitVec.toNat h
    rw [hmantissa] at this
    exact absurd this (by simp; omega)
  simp only [UnpackedFloat.unpack, unpackExponent_packComponents, unpackMantissa_packComponents,
    unpackSign_packComponents, hmantissa]
  rw [if_neg (by decide), if_pos trivial, dif_neg hsome]
  rfl

/-- A number in its normal form is what its word says. -/
theorem unpack_pack (s : Sign) (hd : d.IsFloat) :
    (Float.Model.pack (.finite s d.significand d.exponent hd.pos)).unpack =
      .finite s d.significand d.exponent hd.pos := by
  rcases d with ⟨m, e⟩
  obtain ⟨⟨hshort, hlow, hfull⟩, hpos, hbounded⟩ := hd
  simp only at hshort hlow hfull hpos hbounded ⊢
  have hbias : (Format.binary64.exponentBias : ℤ) = 1023 := rfl
  have hbits : Format.binary64.mantissaBits = 53 := rfl
  change UnpackedFloat.unpack .binary64 (UnpackedFloat.pack .binary64 _) = _
  simp only [UnpackedFloat.pack, hbias, hbits]
  rw [if_neg (by push_cast; omega)]
  by_cases hm : 2 ^ 52 ≤ m
  · have hlog : m.log2 = 52 := (Nat.log2_eq_iff hpos.ne').2 ⟨hm, hshort⟩
    rw [if_pos (by omega)]
    have hunpack := unpack_packComponents_full s (b := (e + 1023 + 52).toNat) hm hshort
      (by omega) (by omega) hpos
    have hplace : (((e + 1023 + 52).toNat : ℕ) : ℤ) - 1075 = e := by omega
    rw [hplace] at hunpack
    exact hunpack
  · have hlog : m.log2 < 52 := (Nat.log2_lt hpos.ne').2 (by omega)
    obtain rfl : e = -1074 := hfull.resolve_left hm
    rw [if_neg (by omega)]
    exact unpack_packComponents_short s (by omega) hpos

/-! ## Products and quotients -/

section Arithmetic

variable {m₁ m₂ : ℕ} {e₁ e₂ : ℤ}

/-- A product with enough bits is the float that the exact product lies nearest to. -/
theorem mul_eq (hd : d.IsFloat) (h₁ : 0 < m₁) (h₂ : 0 < m₂) (hlong : 2 ^ 52 ≤ m₁ * m₂)
    (hx : d.Rounds (m₁ * 2 ^ e₁ * (m₂ * 2 ^ e₂))) :
    UnpackedFloat.mul .binary64 (.finite .positive m₁ e₁ h₁) (.finite .positive m₂ e₂ h₂) =
      .finite .positive d.significand d.exponent hd.pos := by
  have hvalue : (m₁ * 2 ^ e₁ * (m₂ * 2 ^ e₂) : ℚ) = (m₁ * m₂ : ℕ) * 2 ^ (e₁ + e₂) := by
    rw [zpow_add₀ two_ne_zero]
    push_cast
    ring
  have hlog : 52 ≤ (m₁ * m₂).log2 := (Nat.le_log2 (by omega)).2 hlong
  rw [hvalue] at hx
  refine roundWithAccuracy_eq (.positive * .positive) hd.normal hd.pos ?_ ?_ hx
  · rw [mul_div_cancel_right₀ _ (zpow_pos two_pos _).ne']
    exact locates_exact _
  · omega

theorem log2_mul_two_pow (h₁ : 0 < m₁) (k : ℕ) : (m₁ * 2 ^ k).log2 = m₁.log2 + k := by
  have hk := Nat.two_pow_pos k
  rw [Nat.log2_eq_iff (Nat.mul_pos h₁ hk).ne', add_right_comm, pow_add, pow_add]
  exact ⟨Nat.mul_le_mul_right _ (Nat.log2_self_le h₁.ne'),
    Nat.mul_lt_mul_of_pos_right Nat.lt_log2_self hk⟩

/-- The quotient of whole numbers has as many bits as their lengths differ, or one more. -/
theorem log2_div_ge (h₁ : 0 < m₁) (h₂ : 0 < m₂) {k : ℕ} (h : m₂.log2 + 1 + k ≤ m₁.log2) :
    k ≤ (m₁ / m₂).log2 := by
  have hquotient : 2 ^ k ≤ m₁ / m₂ := by
    rw [Nat.le_div_iff_mul_le h₂]
    calc 2 ^ k * m₂ ≤ 2 ^ k * 2 ^ (m₂.log2 + 1) := Nat.mul_le_mul_left _ Nat.lt_log2_self.le
      _ = 2 ^ (m₂.log2 + 1 + k) := by rw [← pow_add, add_comm]
      _ ≤ 2 ^ m₁.log2 := Nat.pow_le_pow_right two_pos h
      _ ≤ m₁ := Nat.log2_self_le h₁.ne'
  exact (Nat.le_log2 (by have := Nat.two_pow_pos k; omega)).2 hquotient

/-- A quotient is the float that the exact quotient lies nearest to. -/
theorem div_eq (hd : d.IsFloat) (h₁ : 0 < m₁) (h₂ : 0 < m₂)
    (hx : d.Rounds (m₁ * 2 ^ e₁ / (m₂ * 2 ^ e₂))) :
    UnpackedFloat.div .binary64 (.finite .positive m₁ e₁ h₁) (.finite .positive m₂ e₂ h₂) =
      .finite .positive d.significand d.exponent hd.pos := by
  simp only [UnpackedFloat.div, divCore]
  generalize htarget : min (e₁ - e₂)
    (Format.binary64.targetExponent (totalExponent m₁ e₁ - totalExponent m₂ e₂)) = target
  have htarget' : min (e₁ - e₂) (max (m₁.log2 + e₁ - (m₂.log2 + e₂) - 53) (-1074)) = target := by
    rw [← htarget]
    simp only [Format.targetExponent, totalExponent, Format.mantissaBits, Format.minExponent]
    norm_num
    omega
  rw [Nat.shiftLeft_eq]
  generalize hshift : (e₁ - e₂ - target).toNat = k
  have hplace : e₁ = e₂ + target + k := by omega
  have hpos₂ : (0 : ℚ) < m₂ := by exact_mod_cast h₂
  have hvalue : (m₁ * 2 ^ e₁ / (m₂ * 2 ^ e₂) : ℚ) / 2 ^ target = ((m₁ * 2 ^ k : ℕ) : ℚ) / m₂ := by
    rw [hplace, zpow_add₀ two_ne_zero, zpow_add₀ two_ne_zero, zpow_natCast]
    have h2 : (2 : ℚ) ^ e₂ ≠ 0 := (zpow_pos two_pos _).ne'
    have ht : (2 : ℚ) ^ target ≠ 0 := (zpow_pos two_pos _).ne'
    push_cast
    field_simp
  refine roundWithAccuracy_eq (.positive / .positive) hd.normal hd.pos ?_ ?_ hx
  · rw [hvalue]
    exact locates_fraction _ h₂
  · by_cases hleast : target ≤ -1074
    · omega
    -- the quotient has been given at least as many bits as a float keeps
    have hlog := log2_mul_two_pow h₁ k
    have hbits := log2_div_ge (k := 52) (Nat.mul_pos h₁ (Nat.two_pow_pos k)) h₂
      (by rw [hlog]; omega)
    omega

end Arithmetic

/-! ## Whole numbers and powers of ten -/

theorem rounds_lt (hd : d.IsFloat) {x : ℚ} (hx : d.Rounds x) : x < 2 ^ (1024 : ℤ) := by
  have hshort : (d.significand : ℚ) + 1 ≤ 2 ^ 53 := by exact_mod_cast hd.normal.short
  have hunit : (0 : ℚ) < 2 ^ d.exponent := zpow_pos two_pos _
  calc x ≤ (d.significand + 1 / 2) * 2 ^ d.exponent := hx.le_half
    _ < 2 ^ 53 * 2 ^ d.exponent := mul_lt_mul_of_pos_right (by linarith) hunit
    _ ≤ 2 ^ 53 * 2 ^ (971 : ℤ) :=
      mul_le_mul_of_nonneg_left (zpow_le_zpow_right₀ one_le_two hd.bounded) (by positivity)
    _ = 2 ^ (1024 : ℤ) := by
      rw [show (1024 : ℤ) = (53 : ℕ) + 971 from rfl, zpow_add₀ two_ne_zero, zpow_natCast]

theorem rounds_ge (hd : d.IsFloat) {x : ℚ} (hx : d.Rounds x) : (2 : ℚ) ^ (-1075 : ℤ) ≤ x := by
  have hpos : (1 : ℚ) ≤ d.significand := by exact_mod_cast hd.pos
  have hleast : (2 : ℚ) ^ (-1074 : ℤ) ≤ 2 ^ d.exponent :=
    zpow_le_zpow_right₀ one_le_two hd.normal.low
  calc (2 : ℚ) ^ (-1075 : ℤ) = 1 / 2 * 2 ^ (-1074 : ℤ) := by
        rw [show (-1075 : ℤ) = -1 + -1074 from rfl, zpow_add₀ two_ne_zero, zpow_neg_one, one_div]
    _ ≤ (d.significand - 1 / 2) * 2 ^ d.exponent :=
      mul_le_mul (by linarith) hleast (by positivity) (by linarith)
    _ ≤ x := hx.half_le hd.pos

theorem two_zpow_le_ten_zpow {e : ℤ} (he : 0 ≤ e) : (2 : ℚ) ^ e ≤ 10 ^ e := by
  lift e to ℕ using he
  simpa using pow_le_pow_left₀ (by norm_num) (by norm_num : (2 : ℚ) ≤ 10) e

theorem ten_zpow_le_two_zpow {e : ℤ} (he : e ≤ 0) : (10 : ℚ) ^ e ≤ 2 ^ e := by
  have hinv := two_zpow_le_ten_zpow (neg_nonneg.2 he)
  rw [zpow_neg, zpow_neg] at hinv
  exact (inv_le_inv₀ (zpow_pos two_pos _) (zpow_pos (by norm_num) _)).1 hinv

/-- The exponents that are told apart from the start are those of numbers that are too large or too
small anyway. -/
theorem exponent_bounds (hd : d.IsFloat) {c : ℕ} {e : ℤ} (hc : 0 < c) (hx : d.Rounds (c * 10 ^ e)) :
    e < 1024 ∧ -(1076 + c.log2 : ℤ) ≤ e := by
  have hc' : (1 : ℚ) ≤ c := by exact_mod_cast hc
  have hupper := rounds_lt hd hx
  have hlower := rounds_ge hd hx
  constructor
  · by_contra hlarge
    have hpower : (2 : ℚ) ^ (1024 : ℤ) ≤ c * 10 ^ e := calc
      (2 : ℚ) ^ (1024 : ℤ) ≤ 2 ^ e := zpow_le_zpow_right₀ one_le_two (by omega)
      _ ≤ 10 ^ e := two_zpow_le_ten_zpow (by omega)
      _ ≤ c * 10 ^ e := le_mul_of_one_le_left (by positivity) hc'
    exact absurd hpower hupper.not_ge
  · by_contra hsmall
    have hlog : (c : ℚ) < 2 ^ (c.log2 + 1 : ℤ) := by exact_mod_cast Nat.lt_log2_self
    have hpower : (c * 10 ^ e : ℚ) < 2 ^ (-1075 : ℤ) := calc
      (c * 10 ^ e : ℚ) < 2 ^ (c.log2 + 1 : ℤ) * 10 ^ e :=
        mul_lt_mul_of_pos_right hlog (by positivity)
      _ ≤ 2 ^ (c.log2 + 1 : ℤ) * 2 ^ e :=
        mul_le_mul_of_nonneg_left (ten_zpow_le_two_zpow (by omega)) (by positivity)
      _ = 2 ^ (c.log2 + 1 + e : ℤ) := (zpow_add₀ two_ne_zero _ _).symm
      _ ≤ 2 ^ (-1075 : ℤ) := zpow_le_zpow_right₀ one_le_two (by omega)
    exact absurd hlower hpower.not_ge

/-- A decimal is rounded to the float it lies nearest to. -/
theorem ofScientific_eq (hd : d.IsFloat) {c : ℕ} {e : ℤ} (hc : 0 < c)
    (hx : d.Rounds (c * 10 ^ e)) :
    UnpackedFloat.ofScientific .binary64 c e =
      .finite .positive d.significand d.exponent hd.pos := by
  obtain ⟨hlarge, hsmall⟩ := exponent_bounds hd hc hx
  have hbits : Format.binary64.mantissaBits = 53 := rfl
  unfold UnpackedFloat.ofScientific
  rw [dif_neg hc.ne', if_neg (by norm_num; omega), if_neg (by norm_num; omega)]
  split
  · rename_i he
    refine mul_eq hd _ _ ?_ ?_
    · rw [hbits, Nat.shiftLeft_eq]
      have := Nat.pow_pos (n := e.toNat) (show 0 < 10 by norm_num)
      nlinarith
    · have hvalue : ((c <<< Format.binary64.mantissaBits : ℕ) *
          2 ^ (-Format.binary64.mantissaBits : ℤ) * ((10 ^ e.toNat : ℕ) * 2 ^ (0 : ℤ)) : ℚ) =
            c * 10 ^ e := by
        obtain ⟨n, rfl⟩ := Int.eq_ofNat_of_zero_le he
        rw [hbits, Nat.shiftLeft_eq]
        push_cast
        rw [Int.toNat_natCast]
        norm_num
        ring
      rwa [hvalue]
  · rename_i he
    refine div_eq hd _ _ ?_
    have hvalue : (c * 2 ^ (0 : ℤ) / ((10 ^ (-e).toNat : ℕ) * 2 ^ (0 : ℤ)) : ℚ) = c * 10 ^ e := by
      obtain ⟨n, hn⟩ : ∃ n : ℕ, e = -n := ⟨(-e).toNat, by omega⟩
      subst hn
      simp [div_eq_mul_inv]
    rwa [hvalue]

/-! ## Small coefficients -/

/-- The word says a positive number with all the bits that a float has. -/
def IsFull (u : UnpackedFloat) (x : ℚ) : Prop :=
  ∃ m e h, u = .finite .positive m e h ∧ 2 ^ 52 ≤ m ∧ (m : ℚ) * 2 ^ e = x

/-- A whole number of few enough bits is a float. -/
theorem isFull_ofNat {c : ℕ} (hc : 0 < c) (hshort : c < 2 ^ 53) :
    IsFull (c.toUInt64.toFloat).toModel.unpack c := by
  have hlog := log2_le_of_lt hshort
  obtain ⟨k, hk⟩ : ∃ k, c.log2 + k = 52 := ⟨52 - c.log2, by omega⟩
  have hlow : 2 ^ 52 ≤ c * 2 ^ k := by
    rw [← hk, pow_add]
    exact Nat.mul_le_mul_right _ (Nat.log2_self_le hc.ne')
  have hhigh : c * 2 ^ k < 2 ^ 53 := by
    rw [show 53 = c.log2 + 1 + k by omega, pow_add]
    exact Nat.mul_lt_mul_of_pos_right Nat.lt_log2_self (Nat.two_pow_pos k)
  have hd : (⟨c * 2 ^ k, -k⟩ : Decimal.Dyadic).IsFloat :=
    ⟨⟨hhigh, by simp only; omega, .inl hlow⟩, by simp only; omega, by simp only; omega⟩
  have hvalue : ((c * 2 ^ k : ℕ) : ℚ) * 2 ^ (-k : ℤ) = c := by
    rw [zpow_neg, zpow_natCast]
    push_cast
    exact mul_inv_cancel_right₀ (by positivity) _
  have hnat : c.toUInt64.toNat = c := by
    rw [Nat.toUInt64, UInt64.toNat_ofNat']
    exact Nat.mod_eq_of_lt (by omega)
  have hround : UnpackedFloat.ofNat .binary64 c = .finite .positive (c * 2 ^ k) (-k) hd.pos := by
    have hcompare : compare (c : ℤ) 0 = .gt := compare_gt_iff_gt.2 (by exact_mod_cast hc)
    have hplace : (-max ((c.log2 : ℤ) + 0 - 52) (-1074)).toNat = k := by omega
    simp only [UnpackedFloat.ofNat, UnpackedFloat.ofInt, UnpackedFloat.normalize, hcompare,
      UnpackedFloat.round, Int.toNat_natCast, targetExponent_eq, decreaseExponent, hplace,
      Nat.shiftLeft_eq, zero_sub]
    refine roundWithAccuracy_eq .positive hd.normal hd.pos ?_ ?_
      (Decimal.Dyadic.rounds_value hd.pos)
    · simp only [Decimal.Dyadic.value]
      rw [mul_div_cancel_right₀ _ (zpow_pos two_pos _).ne']
      exact locates_exact _
    · rw [log2_mul_two_pow hc]
      omega
  refine ⟨c * 2 ^ k, -k, hd.pos, ?_, hlow, hvalue⟩
  have hmodel : (c.toUInt64.toFloat).toModel =
      Float.Model.pack (UnpackedFloat.ofNat .binary64 c.toUInt64.toNat) := rfl
  rw [hmodel, hnat, hround]
  exact unpack_pack .positive hd

/-- The power of ten is what the word says, with all the bits that a float has. -/
def isPower (u : UnpackedFloat) (n : ℕ) : Bool :=
  match u with
  | .finite .positive m e _ =>
    decide (2 ^ 52 ≤ m ∧ m * 2 ^ e.toNat = 10 ^ n * 2 ^ (-e).toNat)
  | _ => false

theorem isFull_of_isPower {u : UnpackedFloat} {n : ℕ} (h : isPower u n = true) :
    IsFull u (10 ^ n) := by
  unfold isPower at h
  split at h
  · rename_i m e hm
    obtain ⟨hlong, hvalue⟩ := of_decide_eq_true h
    refine ⟨m, e, hm, rfl, hlong, ?_⟩
    have hcast : (m : ℚ) * 2 ^ e.toNat = 10 ^ n * 2 ^ (-e).toNat := by exact_mod_cast hvalue
    rcases le_total 0 e with he | he
    · lift e to ℕ using he
      simpa using hcast
    · obtain ⟨k, rfl⟩ : ∃ k : ℕ, e = -k := ⟨(-e).toNat, by omega⟩
      rw [zpow_neg, zpow_natCast, ← div_eq_mul_inv, div_eq_iff (by positivity)]
      simpa using hcast
  · cases h

/-- The table of powers of ten holds what it says. -/
theorem isFull_powerOfTen {n : ℕ} (h : n < Float.exactlyRepresentablePowersOfTen.size) :
    IsFull (Float.exactlyRepresentablePowersOfTen[n]).toModel.unpack (10 ^ n) := by
  have htable : ∀ i : Fin 23,
      isPower (Float.exactlyRepresentablePowersOfTen[i]).toModel.unpack i = true := by
    decide +kernel
  exact isFull_of_isPower (htable ⟨n, h⟩)

/-! ## Coefficients and exponents -/

variable {c : ℕ}

/-- One product or one quotient of floats that are exact. -/
theorem toModel_ofScientific_small (hd : d.IsFloat) {n : ℕ} (negative : Bool) (hc : 0 < c)
    (hsmall : c < 2 ^ 53 ∧ n ≤ 22) (hx : d.Rounds (if negative then c / 10 ^ n else c * 10 ^ n)) :
    (Float.ofScientific c negative n).toModel =
      Float.Model.pack (.finite .positive d.significand d.exponent hd.pos) := by
  have hsize : n < Float.exactlyRepresentablePowersOfTen.size := by
    have : Float.exactlyRepresentablePowersOfTen.size = 23 := rfl
    omega
  obtain ⟨m₁, e₁, h₁, hu₁, hlong₁, hvalue₁⟩ := isFull_ofNat hc hsmall.1
  obtain ⟨m₂, e₂, h₂, hu₂, hlong₂, hvalue₂⟩ := isFull_powerOfTen hsize
  simp only [Float.ofScientific, dif_pos hsmall]
  rw [← hvalue₁, ← hvalue₂] at hx
  cases negative with
  | true =>
    have hmodel : (c.toUInt64.toFloat / Float.exactlyRepresentablePowersOfTen[n]).toModel =
        Float.Model.pack (UnpackedFloat.div .binary64 c.toUInt64.toFloat.toModel.unpack
          Float.exactlyRepresentablePowersOfTen[n].toModel.unpack) := rfl
    rw [if_pos rfl] at hx
    rw [if_pos rfl, hmodel, hu₁, hu₂, div_eq hd h₁ h₂ hx]
  | false =>
    have hmodel : (c.toUInt64.toFloat * Float.exactlyRepresentablePowersOfTen[n]).toModel =
        Float.Model.pack (UnpackedFloat.mul .binary64 c.toUInt64.toFloat.toModel.unpack
          Float.exactlyRepresentablePowersOfTen[n].toModel.unpack) := rfl
    rw [if_neg (by decide)] at hx
    rw [if_neg (by decide), hmodel, hu₁, hu₂, mul_eq hd h₁ h₂ (by nlinarith) hx]

theorem toModel_ofScientific (hd : d.IsFloat) {n : ℕ} (negative : Bool) (hc : 0 < c)
    (hx : d.Rounds (if negative then c / 10 ^ n else c * 10 ^ n)) :
    (Float.ofScientific c negative n).toModel =
      Float.Model.pack (.finite .positive d.significand d.exponent hd.pos) := by
  by_cases hsmall : c < 2 ^ 53 ∧ n ≤ 22
  · exact toModel_ofScientific_small hd negative hc hsmall hx
  simp only [Float.ofScientific, dif_neg hsmall, Float.Model.ofScientific]
  rw [ofScientific_eq hd hc]
  cases negative with
  | true =>
    rw [if_pos rfl, div_eq_mul_inv] at hx
    simpa [Int.negOfNat_eq] using hx
  | false => simpa using hx

end Reading

/-! ## Decimals -/

namespace Decimal

/-- The number that a decimal stands for. -/
def Scientific.value (s : Scientific) : ℚ := s.coefficient * 10 ^ s.exponent

theorem lt_ten_pow_digitCount (n : ℕ) : n < 10 ^ digitCount n :=
  (Nat.length_toDigits_le_iff (by norm_num) Nat.length_toDigits_pos).1 le_rfl

theorem ten_pow_le_of_digitCount {n k : ℕ} (hn : 0 < n) (h : digitCount n = k + 1) :
    10 ^ k ≤ n := by
  rcases Nat.eq_zero_or_pos k with rfl | hk
  · exact hn
  · by_contra hlt
    have := (Nat.length_toDigits_le_iff (by norm_num) hk).2 (not_le.1 hlt)
    rw [digitCount] at h
    omega

variable {d : Dyadic} {s : Scientific}

theorem two_pow_le_ten_pow : 2 ^ 1024 ≤ 10 ^ 310 ∧ 2 ^ 1075 ≤ 10 ^ 330 := by decide +kernel

/-- The place of the point decides only about numbers that are too large or too small. -/
theorem point_bounds (hd : d.IsFloat) (hpos : 0 < s.coefficient) (hx : d.Rounds s.value) :
    s.exponent + digitCount s.coefficient ≤ 310 ∧
      -330 ≤ s.exponent + digitCount s.coefficient := by
  have hupper := Reading.rounds_lt hd hx
  have hlower := Reading.rounds_ge hd hx
  have hten : (0 : ℚ) < 10 ^ s.exponent := by positivity
  constructor
  · obtain ⟨k, hk⟩ : ∃ k, digitCount s.coefficient = k + 1 :=
      ⟨digitCount s.coefficient - 1, by
        have : 0 < digitCount s.coefficient := Nat.length_toDigits_pos
        omega⟩
    by_contra hlarge
    have hcoefficient : (10 : ℚ) ^ (k : ℤ) ≤ s.coefficient := by
      exact_mod_cast ten_pow_le_of_digitCount hpos hk
    have hpower : (2 : ℚ) ^ (1024 : ℤ) ≤ s.value := calc
      (2 : ℚ) ^ (1024 : ℤ) ≤ 10 ^ (310 : ℤ) := by exact_mod_cast two_pow_le_ten_pow.1
      _ ≤ 10 ^ (k + s.exponent) := zpow_le_zpow_right₀ (by norm_num) (by omega)
      _ = 10 ^ (k : ℤ) * 10 ^ s.exponent := zpow_add₀ (by norm_num) _ _
      _ ≤ s.coefficient * 10 ^ s.exponent := mul_le_mul_of_nonneg_right hcoefficient hten.le
    exact absurd hpower hupper.not_ge
  · by_contra hsmall
    have hcoefficient : (s.coefficient : ℚ) < 10 ^ (digitCount s.coefficient : ℤ) := by
      exact_mod_cast lt_ten_pow_digitCount s.coefficient
    have hpower : s.value < 2 ^ (-1075 : ℤ) := calc
      (s.coefficient * 10 ^ s.exponent : ℚ)
          < 10 ^ (digitCount s.coefficient : ℤ) * 10 ^ s.exponent :=
        mul_lt_mul_of_pos_right hcoefficient hten
      _ = 10 ^ (digitCount s.coefficient + s.exponent) := (zpow_add₀ (by norm_num) _ _).symm
      _ ≤ 10 ^ (-330 : ℤ) := zpow_le_zpow_right₀ (by norm_num) (by omega)
      _ ≤ 2 ^ (-1075 : ℤ) := by
        rw [zpow_neg, zpow_neg]
        exact inv_anti₀ (by positivity) (by exact_mod_cast two_pow_le_ten_pow.2)
    exact absurd hlower hpower.not_ge

/-- A decimal is read as the float it lies nearest to. -/
theorem Scientific.toModel_toFloat (hd : d.IsFloat) (hpos : 0 < s.coefficient)
    (hx : d.Rounds s.value) :
    s.toFloat.toModel = Float.Model.pack (.finite .positive d.significand d.exponent hd.pos) := by
  obtain ⟨hlarge, hsmall⟩ := point_bounds hd hpos hx
  rw [Scientific.value] at hx
  unfold Scientific.toFloat
  simp only
  rw [if_neg hpos.ne', if_neg (by omega), if_neg (by omega)]
  split
  · rename_i he
    refine Reading.toModel_ofScientific hd false hpos ?_
    obtain ⟨n, hn⟩ := Int.eq_ofNat_of_zero_le he
    rw [hn] at hx
    simpa [hn] using hx
  · rename_i he
    refine Reading.toModel_ofScientific hd true hpos ?_
    obtain ⟨n, hn⟩ : ∃ n : ℕ, s.exponent = -n := ⟨(-s.exponent).toNat, by omega⟩
    rw [hn, zpow_neg, zpow_natCast, ← div_eq_mul_inv] at hx
    simpa [hn] using hx

end Decimal

end RequestPipeline
