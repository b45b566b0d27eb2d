import RequestPipeline.Value
import RequestPipeline.Decimal.Reading

/-!
# Numbers of two kinds

Whole numbers of any size and floats in one arithmetic: an operation on two whole numbers is exact,
any other one is done on floats.
-/

namespace RequestPipeline

/-- A whole number or a float. -/
inductive Number where
  | int (n : Int)
  | float (x : Float)

namespace Number

def toFloat : Number → Float
  | .int n => Decimal.floatOfInt n
  | .float x => x

def lift (onInts : Int → Int → Int) (onFloats : Float → Float → Float) : Number → Number → Number
  | .int m, .int n => .int (onInts m n)
  | a, b => .float (onFloats a.toFloat b.toFloat)

instance : Add Number := ⟨lift (· + ·) (· + ·)⟩
instance : Sub Number := ⟨lift (· - ·) (· - ·)⟩
instance : Mul Number := ⟨lift (· * ·) (· * ·)⟩
instance : Zero Number := ⟨.int 0⟩

def le : Number → Number → Bool
  | .int m, .int n => m ≤ n
  | a, b => a.toFloat ≤ b.toFloat

def lt : Number → Number → Bool
  | .int m, .int n => m < n
  | a, b => a.toFloat < b.toFloat

instance : LE Number := ⟨fun a b => a.le b = true⟩
instance : LT Number := ⟨fun a b => a.lt b = true⟩
instance (a b : Number) : Decidable (a ≤ b) := inferInstanceAs (Decidable (a.le b = true))
instance (a b : Number) : Decidable (a < b) := inferInstanceAs (Decidable (a.lt b = true))

def toValue : Number → Value
  | .int n => .int n
  | .float x => .float x

/-- The number that a value is; truth values count as zero and one. -/
def ofValue? : Value → Option Number
  | .float x => some (.float x)
  | v => v.asInt?.map .int

end Number

end RequestPipeline
