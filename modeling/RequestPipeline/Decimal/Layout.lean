import RequestPipeline.Decimal.Shortest

/-!
# Writing a binary64 number

A `Layout` collects the decisions that formats make differently; `Layout.write` writes a number by
its shortest digits.  `plain` is the layout of values in text, `json` the one of JSON texts.
-/

namespace RequestPipeline.Decimal

/-- How a format writes numbers that are not finite, and where positional notation ends. -/
structure Layout where
  /-- Positional notation is used while the point stands right of this place … -/
  smallestPoint : Int
  /-- … and not right of this one. -/
  largestPoint : Int
  notANumber : List Char
  infinity : List Char

/-- The decimal digits of a natural number, without leading zeros. -/
def digitsOf (n : Nat) : List Char := Nat.toDigits 10 n

/-- Puts a point after the first `point` digits, with zeros where digits are missing. -/
def positional (digits : List Char) (point : Int) : List Char :=
  if point ≤ 0 then '0' :: '.' :: (List.replicate (-point).toNat '0' ++ digits)
  else
    let whole := digits.take point.toNat ++ List.replicate (point.toNat - digits.length) '0'
    let rest := digits.drop point.toNat
    whole ++ '.' :: (if rest.isEmpty then ['0'] else rest)

/-- An exponent has a sign and at least two digits. -/
def exponentText (e : Int) : List Char :=
  let digits := digitsOf e.natAbs
  (if e < 0 then '-' else '+') :: (List.replicate (2 - digits.length) '0' ++ digits)

/-- One digit before the point, the rest behind it, and the exponent after the letter e. -/
def exponential (digits : List Char) (point : Int) : List Char :=
  digits.take 1 ++ (if 1 < digits.length then '.' :: digits.drop 1 else [])
    ++ 'e' :: exponentText (point - 1)

namespace Layout

def signed (negative : Bool) (text : List Char) : List Char :=
  if negative then '-' :: text else text

def writeScientific (layout : Layout) (s : Scientific) : List Char :=
  let digits := digitsOf s.coefficient
  let point := s.exponent + digits.length
  if layout.smallestPoint < point ∧ point ≤ layout.largestPoint then positional digits point
  else exponential digits point

def write (layout : Layout) (x : Float) : List Char :=
  match partsOf x with
  | .nan => layout.notANumber
  | .infinite negative => signed negative layout.infinity
  | .zero negative => signed negative ['0', '.', '0']
  | .finite negative value => signed negative (layout.writeScientific value.shortest)

end Layout

/-- Numbers inside text: positional from `0.0001` up to sixteen digits. -/
def plain : Layout := ⟨-4, 16, ['n', 'a', 'n'], ['i', 'n', 'f']⟩

/-- Numbers inside JSON, which names the values that are not finite as scripts do. -/
def json : Layout := ⟨-4, 16, "NaN".toList, "Infinity".toList⟩

/-- The text of a number as values show it. -/
def textOf (x : Float) : String := String.ofList (plain.write x)

end RequestPipeline.Decimal
