/-!
# Shortest decimal digits

A positive finite binary64 number is a significand times a power of two, a `Dyadic`.  Every real
that lies nearer to it than to its two neighbours reads back as it, and so do the two midpoints
when the significand is even.  `Dyadic.shortest` walks the decimal grids from coarse to fine and
stops at the first one with a point in that interval; of two such points it takes the nearer, and
the even one when both are equally near.
-/

namespace RequestPipeline.Decimal

/-- A positive number `significand * 2 ^ exponent`. -/
structure Dyadic where
  significand : Nat
  exponent : Int
  deriving DecidableEq, Repr

/-- A decimal number `coefficient * 10 ^ exponent`. -/
structure Scientific where
  coefficient : Nat
  exponent : Int
  deriving DecidableEq, Repr

/-- The reading of a binary64 bit pattern. -/
inductive FloatParts where
  | nan
  | infinite (negative : Bool)
  | zero (negative : Bool)
  | finite (negative : Bool) (value : Dyadic)
  deriving DecidableEq, Repr

/-- The least significand of a normal number. -/
def normalBound : Nat := Nat.pow 2 52

/-- The exponent of the subnormal numbers. -/
def lowestExponent : Int := -1074

/-- Splits a bit pattern into sign, significand and exponent. -/
def partsOfBits (bits : Nat) : FloatParts :=
  let negative := decide (Nat.pow 2 63 ≤ bits)
  let biased := bits / Nat.pow 2 52 % Nat.pow 2 11
  let fraction := bits % Nat.pow 2 52
  if biased = 2047 then
    if fraction = 0 then .infinite negative else .nan
  else if biased = 0 then
    if fraction = 0 then .zero negative else .finite negative ⟨fraction, lowestExponent⟩
  else .finite negative ⟨normalBound + fraction, lowestExponent + (biased - 1 : Nat)⟩

/-- What the bits of a binary64 number say. -/
def partsOf (x : Float) : FloatParts := partsOfBits x.toBits.toNat

namespace Dyadic

/-- The factors `(a, b)` with `c * 10 ^ e = k * 2 ^ q` iff `c * a = k * b`. -/
def scales (q e : Int) : Nat × Nat :=
  (Nat.pow 10 e.toNat * Nat.pow 2 (-q).toNat, Nat.pow 2 q.toNat * Nat.pow 10 (-e).toNat)

/-- Four times the significand: the grid on which both midpoints are whole. -/
def centre (d : Dyadic) : Nat := 4 * d.significand

/-- The lower midpoint in quarter units; the gap below a power of two is half as wide. -/
def lowerEnd (d : Dyadic) : Nat :=
  if d.significand = normalBound ∧ d.exponent ≠ lowestExponent then 4 * d.significand - 1
  else 4 * d.significand - 2

/-- The upper midpoint in quarter units. -/
def upperEnd (d : Dyadic) : Nat := 4 * d.significand + 2

/-- Whether `c * 10 ^ e` reads back as `d`. -/
def readsBack (d : Dyadic) (c : Nat) (e : Int) : Bool :=
  let (a, b) := scales (d.exponent - 2) e
  if d.significand % 2 = 0 then decide (d.lowerEnd * b ≤ c * a ∧ c * a ≤ d.upperEnd * b)
  else decide (d.lowerEnd * b < c * a ∧ c * a < d.upperEnd * b)

/-- The best point of the grid of step `10 ^ e` that reads back as `d`, if it has one: only the two
grid points beside `d` can. -/
def onGrid? (d : Dyadic) (e : Int) : Option Scientific :=
  let (a, b) := scales (d.exponent - 2) e
  let below := d.centre * b / a
  let low := decide (0 < below) && d.readsBack below e
  let high := d.readsBack (below + 1) e
  if low && high then
    let under := d.centre * b - below * a
    let above := (below + 1) * a - d.centre * b
    if under < above then some ⟨below, e⟩
    else if above < under then some ⟨below + 1, e⟩
    else if below % 2 = 0 then some ⟨below, e⟩ else some ⟨below + 1, e⟩
  else if low then some ⟨below, e⟩
  else if high then some ⟨below + 1, e⟩
  else none

/-- The first of `fuel` grids, from step `10 ^ e` down, with a point that reads back. -/
def firstGrid (d : Dyadic) : Nat → Int → Option Scientific
  | 0, _ => none
  | fuel + 1, e => match d.onGrid? e with
    | some s => some s
    | none => d.firstGrid fuel (e - 1)

/-- A power of ten above the number, from its bit length. -/
def decimalBound (d : Dyadic) : Int :=
  (d.significand.log2 + 2 + d.exponent) * 30103 / 100000 + 1

/-- The value itself with all its decimal digits. -/
def exact (d : Dyadic) : Scientific :=
  ⟨d.significand * Nat.pow 2 d.exponent.toNat * Nat.pow 5 (-d.exponent).toNat, min d.exponent 0⟩

/-- The fewest digits that read back as `d`.  Seventeen digits always do, and the start is at most
three grids too coarse. -/
def shortest (d : Dyadic) : Scientific :=
  (d.firstGrid 24 d.decimalBound).getD d.exact

end Dyadic

end RequestPipeline.Decimal
