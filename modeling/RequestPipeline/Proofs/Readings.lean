import Mathlib

/-!
# Readings of the clock

The clock, the deadlines and the delays are floats.  A float that is a number amounts to a whole
number of the smallest steps between floats, or to an infinity (`Reading.amount?`), and floats are
ordered as these amounts are.  A deadline that has been reached stays reached, and leaves no time
to wait for.
-/

namespace RequestPipeline.Reading

open Float.Model Float.Model.UnpackedFloat

/-! ## Amounts -/

/-- The mantissa has all its bits, unless the exponent is the least one. -/
structure Normal (m : ℕ) (e : ℤ) : Prop where
  short : m < 2 ^ 53
  low : -1074 ≤ e
  full : 2 ^ 52 ≤ m ∨ e = -1074

/-- A number that is finite is written in its one normal form. -/
def IsNormal : UnpackedFloat → Prop
  | .finite _ m e _ => Normal m e
  | _ => True

/-- A number above zero in steps of the smallest size. -/
def steps (m : ℕ) (e : ℤ) : ℕ := m * 2 ^ (e + 1074).toNat

/-- A whole number between the infinities. -/
abbrev Amount := WithBot (WithTop ℤ)

/-- What a float amounts to, if it is a number. -/
def amountOf? : UnpackedFloat → Option Amount
  | .notANumber => none
  | .infinity .positive => some ⊤
  | .infinity .negative => some ⊥
  | .zero _ => some 0
  | .finite sign m e _ => some ((sign.apply (steps m e) : ℤ) : WithTop ℤ)

theorem steps_pos {m : ℕ} (hm : 0 < m) (e : ℤ) : 0 < steps m e :=
  Nat.mul_pos hm (Nat.two_pow_pos _)

theorem steps_lt_of_exponent {m n : ℕ} {e f : ℤ} (hm : Normal m e) (hn : Normal n f)
    (h : e < f) : steps m e < steps n f := by
  obtain ⟨k, hk⟩ : ∃ k, (f + 1074).toNat = (e + 1074).toNat + (k + 1) :=
    ⟨(f - e - 1).toNat, by have := hm.low; omega⟩
  have hlow := hm.low
  have hfull : 2 ^ 52 ≤ n := hn.full.resolve_right (by omega)
  have hpos : 0 < 2 ^ k := Nat.two_pow_pos k
  have hmn : m < n * 2 ^ (k + 1) := calc
    m < 2 ^ 53 := hm.short
    _ ≤ n * 2 := by omega
    _ ≤ n * 2 * 2 ^ k := Nat.le_mul_of_pos_right _ hpos
    _ = n * 2 ^ (k + 1) := by rw [pow_succ']; ring
  rw [steps, steps, hk, pow_add, mul_left_comm, mul_comm m]
  exact Nat.mul_lt_mul_of_pos_left hmn (Nat.two_pow_pos _)

/-- Normal numbers are ordered by their exponents first. -/
theorem compare_steps {m n : ℕ} {e f : ℤ} (hm : Normal m e) (hn : Normal n f) :
    (compare e f).then (compare m n) = cmp (steps m e) (steps n f) := by
  rcases lt_trichotomy e f with h | rfl | h
  · rw [compare_lt_iff_lt.2 h, (steps_lt_of_exponent hm hn h).cmp_eq_lt]
    rfl
  · have hpos : 0 < 2 ^ (e + 1074).toNat := Nat.two_pow_pos _
    rw [compare_eq_iff_eq.2 rfl, steps, steps, cmp_mul_pos_right hpos, cmp_eq_compare]
    rfl
  · rw [compare_gt_iff_gt.2 h, (steps_lt_of_exponent hn hm h).cmp_eq_gt]
    rfl

@[simp] theorem cmp_coe (a b : ℤ) :
    cmp (((a : ℤ) : WithTop ℤ) : Amount) ((b : ℤ) : WithTop ℤ) = cmp a b :=
  (WithBot.coe_strictMono.comp WithTop.coe_strictMono).cmp_map_eq a b

/-- Signs and infinities decide first, the steps among numbers of one sign. -/
theorem compare_eq {u v : UnpackedFloat} (hu : IsNormal u) (hv : IsNormal v) :
    u.compare v = (amountOf? u).bind fun p => (amountOf? v).map fun q => cmp p q := by
  have hzero : (0 : Amount) = ((0 : ℤ) : WithTop ℤ) := rfl
  have hcast : StrictMono (Nat.cast : ℕ → ℤ) := Nat.strictMono_cast
  rcases u with (_ | _) | _ | _ | ⟨_ | _, m, e, hm⟩ <;>
    rcases v with (_ | _) | _ | _ | ⟨_ | _, n, f, hn⟩ <;>
    simp only [UnpackedFloat.compare, amountOf?, Option.bind, Option.map, Sign.apply,
      Option.some.injEq, hzero, cmp_coe]
  case finite.negative.finite.negative =>
    rw [compare_steps hu hv, cmp_swap, ← hcast.cmp_map_eq]
    exact (StrictAnti.cmp_map_eq (fun a b h => neg_lt_neg h) _ _).symm
  case finite.positive.finite.positive =>
    rw [compare_steps hu hv]
    exact (hcast.cmp_map_eq _ _).symm
  case finite.negative.finite.positive =>
    have := steps_pos hm e
    have := steps_pos hn f
    exact (cmp_eq_lt_iff _ _).2 (by omega) |>.symm
  case finite.positive.finite.negative =>
    have := steps_pos hm e
    have := steps_pos hn f
    exact (cmp_eq_gt_iff _ _).2 (by omega) |>.symm
  all_goals first | rfl | (symm; simp [cmp_eq_lt_iff, cmp_eq_gt_iff, steps_pos, *])

/-! ## Words -/

/-- A mantissa with the bit that is not written down. -/
theorem toNat_implicit (m : BitVec 52) : (1#1 ++ m).toNat = 2 ^ 52 + m.toNat := by
  rw [BitVec.toNat_append, ← Nat.shiftLeft_add_eq_or_of_lt m.isLt]
  rfl

theorem isNormal_unpack (b : BitVec 64) :
    IsNormal (UnpackedFloat.unpack Format.binary64 b) := by
  have hbias : (Format.binary64.exponentBias : ℤ) = 1023 := rfl
  have hmantissa : (@unpackMantissa .binary64 b).toNat < 2 ^ 52 :=
    (@unpackMantissa .binary64 b).isLt
  simp only [UnpackedFloat.unpack, hbias]
  split
  · split <;> trivial
  · split
    case isTrue hleast =>
      split
      · trivial
      · rw [hleast]
        exact ⟨by omega, by decide, .inr (by decide)⟩
    case isFalse hexponent =>
      have hpos : 0 < (@unpackExponent .binary64 b).toNat :=
        Nat.pos_of_ne_zero fun h => hexponent (BitVec.eq_of_toNat_eq h)
      refine ⟨?_, ?_, .inl ?_⟩
      · rw [toNat_implicit]
        omega
      · push_cast
        omega
      · rw [toNat_implicit]
        omega

@[simp] theorem toBitVec_ofBitVec : ∀ b : BitVec 1, (Sign.ofBitVec b).toBitVec = b := by
  decide

/-- The parts of a word make it up. -/
theorem packComponents_unpack (b : BitVec 64) :
    packComponents .binary64 (Sign.ofBitVec (@unpackSign .binary64 b))
      (@unpackExponent .binary64 b) (@unpackMantissa .binary64 b) = b := by
  have hbit (i j : ℕ) (hi : i < 64) (h : j = i) : b.getLsbD j = b[i] := by
    rw [h, BitVec.getLsbD_eq_getElem hi]
  simp only [packComponents, toBitVec_ofBitVec]
  ext i hi
  simp only [unpackSign, unpackExponent, unpackMantissa, BitVec.getElem_append,
    BitVec.getElem_cast, BitVec.extractLsb, BitVec.getElem_extractLsb']
  split
  · exact hbit i _ hi (by omega)
  · split
    · exact hbit i _ hi (by omega)
    · exact hbit i _ hi (by omega)

theorem ofNat_implicit (m : BitVec 52) : BitVec.ofNat 52 (1#1 ++ m).toNat = m := by
  apply BitVec.eq_of_toNat_eq
  rw [toNat_implicit, BitVec.toNat_ofNat, Nat.add_mod_left, Nat.mod_eq_of_lt m.isLt]

/-- A word says all that there is to its float. -/
theorem pack_unpack (x : Float.Model) : Float.Model.pack x.unpack = x := by
  rcases x with ⟨bits, hvalid⟩
  simp only [Float.Model.pack, Float.Model.unpack, Float.Model.mk.injEq]
  rw [← UInt64.toBitVec_inj]
  generalize bits.toBitVec = b at *
  change UnpackedFloat.pack .binary64 (UnpackedFloat.unpack .binary64 b) = b
  have hparts := packComponents_unpack b
  have hbias : Format.binary64.exponentBias = 1023 := rfl
  have hbits : Format.binary64.mantissaBits = 53 := rfl
  simp only [UnpackedFloat.unpack]
  split
  case isTrue hlast =>
    split
    case isTrue hnone =>
      rw [hlast, hnone] at hparts
      exact hparts
    case isFalse hsome => exact (hvalid.eq_packedNaN hlast hsome).symm
  case isFalse hexponent =>
    split
    case isTrue hleast =>
      split
      case isTrue hnone =>
        rw [hleast, hnone] at hparts
        exact hparts
      case isFalse hsome =>
        have hshort : (@unpackMantissa .binary64 b).toNat.log2 < 52 :=
          (Nat.log2_lt fun h => hsome (BitVec.eq_of_toNat_eq h)).2 (BitVec.isLt _)
        have hplace : ((0 : ℤ) - (1023 + 52) + 1 + 1023 + 52).toNat = 1 := rfl
        simp only [UnpackedFloat.pack, hbias, hbits, hleast, BitVec.toNat_zero, Nat.cast_zero,
          Nat.cast_ofNat, hplace]
        rw [if_neg (by decide), if_neg (by omega), BitVec.ofNat_toNat, BitVec.setWidth_eq, ← hleast]
        exact hparts
    case isFalse hmore =>
      have hplace : ((@unpackExponent .binary64 b).toNat - (1023 + 52 : ℤ) + 1023 + 52).toNat =
          (@unpackExponent .binary64 b).toNat := by omega
      have hlast : (@unpackExponent .binary64 b).toNat ≠ 2 ^ 11 - 1 := fun h =>
        hexponent (BitVec.eq_of_toNat_eq h)
      have hsmall : (@unpackExponent .binary64 b).toNat < 2 ^ 11 := BitVec.isLt _
      have hfull : (1#1 ++ @unpackMantissa .binary64 b).toNat.log2 = 52 := by
        rw [toNat_implicit, Nat.log2_eq_iff (by omega)]
        have : (@unpackMantissa .binary64 b).toNat < 2 ^ 52 := BitVec.isLt _
        omega
      simp only [UnpackedFloat.pack, hbias, hbits, Nat.cast_ofNat, hplace]
      rw [if_neg (by omega), if_pos (by omega), ofNat_implicit, BitVec.ofNat_toNat,
        BitVec.setWidth_eq]
      exact hparts

/-! ## The order of readings -/

/-- What a reading of the clock amounts to, if it is a number. -/
def amount? (x : Float) : Option Amount := amountOf? x.toModel.unpack

theorem compare_unpack (a b : Float) :
    a.toModel.unpack.compare b.toModel.unpack =
      (amount? a).bind fun p => (amount? b).map fun q => cmp p q :=
  compare_eq (isNormal_unpack _) (isNormal_unpack _)

theorem le_iff {a b : Float} :
    a ≤ b ↔ ∃ p q, amount? a = some p ∧ amount? b = some q ∧ p ≤ q := by
  have hle : a ≤ b ↔ (a.toModel.unpack.compare b.toModel.unpack).any (·.isLE) = true := by
    change decide (a.toModel ≤ b.toModel) = true ↔ _
    rw [decide_eq_true_iff]
    exact Iff.rfl
  rw [hle, compare_unpack]
  cases hp : amount? a with
  | none => simp
  | some p =>
    cases hq : amount? b with
    | none => simp
    | some q =>
      have hcmp : (cmp p q).isLE = true ↔ p ≤ q := by
        rw [Ordering.isLE_iff_ne_gt]
        exact (cmp_compares p q).ne_gt
      simpa using hcmp

theorem lt_iff {a b : Float} :
    a < b ↔ ∃ p q, amount? a = some p ∧ amount? b = some q ∧ p < q := by
  have hlt : a < b ↔ (a.toModel.unpack.compare b.toModel.unpack == some .lt) = true := by
    change decide (a.toModel < b.toModel) = true ↔ _
    rw [decide_eq_true_iff]
    exact Iff.rfl
  rw [hlt, compare_unpack]
  cases hp : amount? a with
  | none => simp
  | some p =>
    cases hq : amount? b with
    | none => simp
    | some q => simp [cmp_eq_lt_iff]

theorem le_trans {a b c : Float} (hab : a ≤ b) (hbc : b ≤ c) : a ≤ c := by
  obtain ⟨p, q, hp, hq, hpq⟩ := le_iff.1 hab
  obtain ⟨q', r, hq', hr, hqr⟩ := le_iff.1 hbc
  obtain rfl : q = q' := Option.some.inj (hq.symm.trans hq')
  exact le_iff.2 ⟨p, r, hp, hr, hpq.trans hqr⟩

/-! ## Nothing added -/

theorem amountOf?_add_zero (u : UnpackedFloat) :
    UnpackedFloat.add .binary64 u (.zero .positive) = u ∨
      UnpackedFloat.add .binary64 u (.zero .positive) = .zero .positive ∧ amountOf? u = some 0 := by
  rcases u with _ | _ | _ | _
  · exact .inl rfl
  · exact .inl rfl
  · exact .inr ⟨by rename_i sign; cases sign <;> rfl, rfl⟩
  · exact .inl rfl

theorem amount?_add_zero (x : Float) : amount? (x + 0) = amount? x := by
  have hsum : (x + 0).toModel =
      Float.Model.pack (UnpackedFloat.add .binary64 x.toModel.unpack (.zero .positive)) := rfl
  rw [amount?, amount?, hsum]
  rcases amountOf?_add_zero x.toModel.unpack with h | ⟨h, hzero⟩
  · rw [h, pack_unpack]
  · rw [h, hzero]
    rfl

/-- A wait of no length keeps what has been reached. -/
theorem le_add_zero {a b : Float} (h : a ≤ b) : a ≤ b + 0 := by
  obtain ⟨p, q, hp, hq, hpq⟩ := le_iff.1 h
  exact le_iff.2 ⟨p, q, hp, (amount?_add_zero b).trans hq, hpq⟩

/-! ## What is left up to a reading that has been reached -/

/-- No number above zero. -/
def IsNotPositive (u : UnpackedFloat) : Prop := ∀ p, amountOf? u = some p → p ≤ 0

theorem isNotPositive_negative (m : ℕ) (e : ℤ) (hm : 0 < m) :
    IsNotPositive (.finite .negative m e hm) := by
  intro p hp
  obtain rfl := Option.some.inj hp
  have := steps_pos hm e
  exact WithBot.coe_le_coe.2 (WithTop.coe_le_coe.2 (by simp only [Sign.apply]; omega))

theorem isNotPositive_zero (s : Sign) : IsNotPositive (.zero s) := by
  intro p hp
  exact (Option.some.inj hp).symm.le

theorem isNotPositive_none : IsNotPositive .notANumber := nofun

theorem isNotPositive_bot : IsNotPositive (.infinity .negative) := by
  intro p hp
  obtain rfl := Option.some.inj hp
  exact bot_le

/-- The sign of a word is that of its number. -/
theorem isNotPositive_packComponents (e : BitVec 11) (m : BitVec 52) :
    IsNotPositive (UnpackedFloat.unpack .binary64 (packComponents .binary64 .negative e m)) := by
  have hsign : unpackSign (packComponents .binary64 .negative e m) = 1#1 := by
    simp only [unpackSign, packComponents, BitVec.extractLsb]
    rw [BitVec.extractLsb'_append_eq_of_le (by omega),
      BitVec.extractLsb'_append_eq_of_le (by omega)]
    rfl
  have hnegative : Sign.ofBitVec 1#1 = .negative := rfl
  simp only [UnpackedFloat.unpack, hsign, hnegative]
  split
  · split
    · exact isNotPositive_bot
    · exact isNotPositive_none
  · split
    · split
      · exact isNotPositive_zero _
      · exact isNotPositive_negative _ _ _
    · exact isNotPositive_negative _ _ _

theorem isNotPositive_unpack_pack {u : UnpackedFloat} (h : IsNotPositive u) :
    IsNotPositive (Float.Model.pack u).unpack := by
  change IsNotPositive (UnpackedFloat.unpack .binary64 (UnpackedFloat.pack .binary64 u))
  match u with
  | .notANumber => exact nofun
  | .zero .positive => exact isNotPositive_zero .positive
  | .zero .negative => exact isNotPositive_zero .negative
  | .infinity .negative => exact isNotPositive_bot
  | .infinity .positive => exact absurd (h ⊤ rfl) (by decide)
  | .finite .positive m e hm =>
    have := WithTop.coe_le_coe.1 (WithBot.coe_le_coe.1 (h _ rfl))
    have := steps_pos hm e
    simp only [Sign.apply] at *
    omega
  | .finite .negative m e hm =>
    simp only [UnpackedFloat.pack]
    split
    · exact isNotPositive_packComponents _ _
    · split
      · exact isNotPositive_packComponents _ _
      · exact isNotPositive_packComponents _ _

theorem isNotPositive_normalize {mantissa : ℤ} (h : mantissa ≤ 0) (e : ℤ) :
    IsNotPositive (UnpackedFloat.normalize .binary64 mantissa e .positive) := by
  rw [UnpackedFloat.normalize]
  split
  · simp only [UnpackedFloat.round, roundWithAccuracy]
    split
    · exact isNotPositive_zero _
    · exact isNotPositive_negative _ _ _
  · exact isNotPositive_zero _
  · rename_i hgt
    have := compare_gt_iff_gt.1 hgt
    omega

/-- Both mantissas at the smaller exponent stand for so many of its steps. -/
theorem steps_decreaseExponent {m : ℕ} {e f : ℤ} (hf : -1074 ≤ f) (hfe : f ≤ e) :
    (decreaseExponent m e f).1 * 2 ^ (f + 1074).toNat = steps m e := by
  have hplace : (e + 1074).toNat = (e - f).toNat + (f + 1074).toNat := by omega
  rw [decreaseExponent, steps, hplace, Nat.shiftLeft_eq, pow_add, mul_assoc]

theorem apply_mul (s : Sign) (a b : ℤ) : s.apply a * b = s.apply (a * b) := by
  cases s
  · exact neg_mul a b
  · rfl

theorem sub_nonpos_of_steps {s t : Sign} {m n : ℕ} {e f : ℤ} (he : -1074 ≤ e) (hf : -1074 ≤ f)
    (h : s.apply (steps m e) ≤ t.apply (steps n f)) :
    s.apply (decreaseExponent m e (min e f)).1 - t.apply (decreaseExponent n f (min e f)).1
      ≤ 0 := by
  have hlow : -1074 ≤ min e f := le_min he hf
  have hpos : (0 : ℤ) < 2 ^ (min e f + 1074).toNat := pow_pos two_pos _
  rw [← steps_decreaseExponent hlow (min_le_left e f),
    ← steps_decreaseExponent hlow (min_le_right e f)] at h
  push_cast at h
  rw [← apply_mul, ← apply_mul] at h
  exact sub_nonpos.2 (le_of_mul_le_mul_right h hpos)

/-- The cases in which the first number is the larger one after all are ruled out one by one: no
subtraction is done for them. -/
theorem isNotPositive_sub {u v : UnpackedFloat} {p q : Amount} (hu : IsNormal u) (hv : IsNormal v)
    (hp : amountOf? u = some p) (hq : amountOf? v = some q) (h : p ≤ q) :
    IsNotPositive (UnpackedFloat.sub .binary64 u v) := by
  match u, v with
  | .notANumber, _ => cases hp
  | _, .notANumber => cases hq
  | .infinity .negative, .infinity .negative => exact isNotPositive_none
  | .infinity .negative, .infinity .positive => exact isNotPositive_bot
  | .infinity .positive, .infinity .positive => exact isNotPositive_none
  | .infinity .negative, .zero _ => exact isNotPositive_bot
  | .infinity .negative, .finite .. => exact isNotPositive_bot
  | .zero _, .infinity .positive => exact isNotPositive_bot
  | .finite .., .infinity .positive => exact isNotPositive_bot
  | .infinity .positive, .zero _ | .infinity .positive, .finite .. =>
    obtain rfl := Option.some.inj hp
    obtain rfl := Option.some.inj hq
    exact absurd h (not_le.2 (WithBot.coe_lt_coe.2 (WithTop.coe_lt_top _)))
  | .infinity .positive, .infinity .negative | .zero _, .infinity .negative
  | .finite .., .infinity .negative =>
    obtain rfl := Option.some.inj hp
    obtain rfl := Option.some.inj hq
    exact absurd h (not_le.2 (WithBot.bot_lt_coe _))
  | .zero s, .zero t =>
    simp only [UnpackedFloat.sub]
    split <;> exact isNotPositive_zero _
  | .zero _, .finite .negative n f hn =>
    obtain rfl := Option.some.inj hp
    obtain rfl := Option.some.inj hq
    have hle : 0 ≤ -(steps n f : ℤ) := WithTop.coe_le_coe.1 (WithBot.coe_le_coe.1 h)
    have := steps_pos hn f
    omega
  | .zero _, .finite .positive n f hn => exact isNotPositive_negative n f hn
  | .finite .negative m e hm, .zero _ => exact isNotPositive_negative m e hm
  | .finite .positive m e hm, .zero _ =>
    obtain rfl := Option.some.inj hp
    obtain rfl := Option.some.inj hq
    have hle : (steps m e : ℤ) ≤ 0 := WithTop.coe_le_coe.1 (WithBot.coe_le_coe.1 h)
    have := steps_pos hm e
    omega
  | .finite s m e hm, .finite t n f hn =>
    obtain rfl := Option.some.inj hp
    obtain rfl := Option.some.inj hq
    have hle := WithTop.coe_le_coe.1 (WithBot.coe_le_coe.1 h)
    exact isNotPositive_normalize (sub_nonpos_of_steps hu.low hv.low hle) _

/-- Nothing is left up to a reading that has been reached. -/
theorem not_pos_sub {a b : Float} (h : a ≤ b) : ¬ 0 < a - b := by
  obtain ⟨p, q, hp, hq, hpq⟩ := le_iff.1 h
  intro hpos
  obtain ⟨z, d, hz, hd, hlt⟩ := lt_iff.1 hpos
  obtain rfl : 0 = z := Option.some.inj hz
  have hsub := isNotPositive_sub (isNormal_unpack _) (isNormal_unpack _) hp hq hpq
  exact absurd (isNotPositive_unpack_pack hsub d hd) (not_le.2 hlt)

/-! ## Sums without rounding -/

/-- The float is a whole number of steps. -/
def IsSteps (x : Float) (n : ℤ) : Prop := amount? x = some ((n : WithTop ℤ) : Amount)

instance (x : Float) (n : ℤ) : Decidable (IsSteps x n) := inferInstanceAs (Decidable (_ = _))

theorem IsSteps.ne_none {x : Float} {n : ℤ} (h : IsSteps x n) : amount? x ≠ none := by
  simp [show amount? x = _ from h]

theorem IsSteps.unique {x : Float} {m n : ℤ} (hm : IsSteps x m) (hn : IsSteps x n) : m = n := by
  have hsame := Option.some.inj (hm.symm.trans hn)
  exact WithTop.coe_injective (WithBot.coe_injective hsame)

theorem IsSteps.le_iff {x y : Float} {m n : ℤ} (hx : IsSteps x m) (hy : IsSteps y n) :
    x ≤ y ↔ m ≤ n := by
  rw [Reading.le_iff]
  constructor
  · rintro ⟨p, q, hp, hq, hpq⟩
    obtain rfl := Option.some.inj (hx.symm.trans hp)
    obtain rfl := Option.some.inj (hy.symm.trans hq)
    exact WithTop.coe_le_coe.1 (WithBot.coe_le_coe.1 hpq)
  · exact fun h => ⟨_, _, hx, hy, WithBot.coe_le_coe.2 (WithTop.coe_le_coe.2 h)⟩

/-- Of floats that are the same number of steps, one is as small as the other. -/
theorem IsSteps.le_congr {x y z : Float} {n : ℤ} (hx : IsSteps x n) (hy : IsSteps y n) :
    x ≤ z ↔ y ≤ z := by
  rw [Reading.le_iff, Reading.le_iff, show amount? x = amount? y from hx.trans hy.symm]

/-- Numbers are on one side of each other. -/
theorem le_of_not_lt {a b : Float} (ha : amount? a ≠ none) (hb : amount? b ≠ none) (h : ¬ b < a) :
    a ≤ b := by
  obtain ⟨p, hp⟩ := Option.ne_none_iff_exists'.1 ha
  obtain ⟨q, hq⟩ := Option.ne_none_iff_exists'.1 hb
  exact le_iff.2 ⟨p, q, hp, hq, not_lt.1 fun hlt => h (lt_iff.2 ⟨q, p, hq, hp, hlt⟩)⟩

/-- Two floats come to the third, without rounding. -/
def Sums (a b c : Float) : Prop := ∃ m n, IsSteps a m ∧ IsSteps b n ∧ IsSteps c (m + n)

/-- Of two sums with one part in common, the one with the smaller other part is the smaller. -/
theorem Sums.le {a b b' c c' : Float} (h : Sums a b c) (h' : Sums a b' c') (hle : b ≤ b') :
    c ≤ c' := by
  obtain ⟨m, n, ha, hb, hc⟩ := h
  obtain ⟨m', n', ha', hb', hc'⟩ := h'
  obtain rfl := ha.unique ha'
  have := (hb.le_iff hb').1 hle
  exact (hc.le_iff hc').2 (by omega)

end RequestPipeline.Reading
