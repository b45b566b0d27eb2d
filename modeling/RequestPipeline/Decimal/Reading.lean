import RequestPipeline.Decimal.Shortest
import RequestPipeline.Text.Blank
import RequestPipeline.Text.Digit

/-!
# Reading decimal numbers

A decimal numeral is a coefficient and a power of ten, and `Scientific.toFloat` rounds it to the
nearest binary64 number, to the even one of two equally near.  `readFloat?` and `readWhole?` accept
the grammar of `float(...)` and `int(...)`: blanks around the numeral, underscores between digits,
and words for infinities.
-/

namespace RequestPipeline.Decimal

/-- The number of decimal digits of a coefficient. -/
def digitCount (n : Nat) : Nat := (Nat.toDigits 10 n).length

/-- The nearest binary64 number.  Outside the decimal range of the format the answer is zero or
infinity whatever the digits. -/
def Scientific.toFloat (s : Scientific) : Float :=
  if s.coefficient = 0 then 0
  else
    let point := s.exponent + digitCount s.coefficient
    if 310 < point then 1.0 / 0.0
    else if point < -330 then 0
    else if 0 ≤ s.exponent then Float.ofScientific s.coefficient false s.exponent.toNat
    else Float.ofScientific s.coefficient true (-s.exponent).toNat

/-- The nearest binary64 number to a whole number. -/
def floatOfInt (n : Int) : Float :=
  let x := Scientific.toFloat ⟨n.natAbs, 0⟩
  if n < 0 then -x else x

/-- The number spelled by ASCII digits. -/
def natOfDigits (digits : List Char) : Nat :=
  digits.foldl (fun n c => n * 10 + (c.toNat - 48)) 0

/-- The whole number a float is, if it is one. -/
def wholeOf? (x : Float) : Option Int :=
  match partsOf x with
  | .zero _ => some 0
  | .finite negative d =>
    let size? : Option Nat :=
      if 0 ≤ d.exponent then some (d.significand * Nat.pow 2 d.exponent.toNat)
      else
        let unit := Nat.pow 2 (-d.exponent).toNat
        if d.significand % unit = 0 then some (d.significand / unit) else none
    size?.map fun size => if negative then -(size : Int) else size
  | _ => none

/-- Digits in groups joined by single underscores, without the underscores. -/
def ungroup? : List Char → Option (List Char)
  | [] => none
  | [c] => if c.isDigit then some [c] else none
  | c :: '_' :: d :: rest =>
    if c.isDigit then (ungroup? (d :: rest)).map (c :: ·) else none
  | c :: rest => if c.isDigit then (ungroup? rest).map (c :: ·) else none

/-- A sign and what it stands before. -/
def splitSign : List Char → Bool × List Char
  | '-' :: rest => (true, rest)
  | '+' :: rest => (false, rest)
  | rest => (false, rest)

/-- Splits at the first character that satisfies `p`, which is dropped. -/
def cutAt? (p : Char → Bool) (s : List Char) : Option (List Char × List Char) :=
  match s.dropWhile (fun c => !p c) with
  | [] => none
  | _ :: rest => some (s.takeWhile (fun c => !p c), rest)

/-- The exponent of a numeral; one too large to matter is cut off. -/
def exponentOf? (digits : List Char) : Option Int := do
  let (negative, magnitude) := splitSign digits
  let plain ← ungroup? magnitude
  let significant := plain.dropWhile (· == '0')
  let n : Nat := if 12 < significant.length then Nat.pow 10 12 else natOfDigits significant
  pure (if negative then -n else n)

/-- An unsigned numeral: digits with a point among or beside them, then perhaps an exponent. -/
def unsignedNumeral? (s : List Char) : Option Scientific := do
  let (mantissa, exponent) ← match cutAt? (fun c => c == 'e' || c == 'E') s with
    | none => some (s, (0 : Int))
    | some (m, e) => (exponentOf? e).map fun n => (m, n)
  match cutAt? (· == '.') mantissa with
  | none => do
    let whole ← ungroup? mantissa
    pure ⟨natOfDigits whole, exponent⟩
  | some ([], []) => none
  | some ([], fraction) => do
    let digits ← ungroup? fraction
    pure ⟨natOfDigits digits, exponent - digits.length⟩
  | some (whole, []) => do
    let digits ← ungroup? whole
    pure ⟨natOfDigits digits, exponent⟩
  | some (whole, fraction) => do
    let front ← ungroup? whole
    let back ← ungroup? fraction
    pure ⟨natOfDigits (front ++ back), exponent - back.length⟩

/-- A number typed by people: a sign, then a numeral or one of the words for infinity and "not a
number" in any case. -/
def readFloat? (s : List Char) : Option Float := do
  let (negative, rest) := splitSign s
  let word := String.ofList (rest.map Char.toLower)
  let size ←
    if word == "inf" || word == "infinity" then some (1.0 / 0.0)
    else if word == "nan" then some (0.0 / 0.0)
    else (unsignedNumeral? rest).map Scientific.toFloat
  pure (if negative then -size else size)

/-- Decimal digits of any script become the ASCII ones, so that numerals of all scripts read. -/
def asciiDigits (s : List Char) : List Char :=
  s.map fun c => match Text.digitValue? c with
    | some d => Char.ofNat (48 + d)
    | none => c

/-- A whole number typed by people: blanks around it, a sign, digits of any script in groups. -/
def readWhole? (s : List Char) : Option Int := do
  let (negative, rest) := splitSign (asciiDigits (Text.trim s))
  let digits ← ungroup? rest
  if 4300 < digits.length then none
  else pure (if negative then -(natOfDigits digits : Int) else natOfDigits digits)

end RequestPipeline.Decimal
