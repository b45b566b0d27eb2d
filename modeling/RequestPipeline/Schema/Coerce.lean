import RequestPipeline.Decimal.Reading
import RequestPipeline.Schema.Report
import RequestPipeline.Text.Utf8

/-!
# Lenient reading of scalars

A scalar of one kind may stand for one of another if nothing is lost: numerals for numbers, the
usual words for truth values, whole floats for whole numbers, and UTF-8 for text.
-/

namespace RequestPipeline.Schema

open Decimal

/-- Text, or bytes that hold text; bytes that do not are the given complaint.  Text with a surrogate
is no text in the sense of any kind. -/
def textOf? (complaint : Complaint) : Value → Except Complaint (Option (List Char))
  | .str s => match s.chars? with
    | some cs => .ok (some cs)
    | none => .error .stringUnicode
  | .bytes b => match Text.decodeUtf8? b with
    | some s => .ok (some s)
    | none => .error complaint
  | _ => .ok none

/-- Text as text, and bytes as the text they hold. -/
def toText (v : Value) : Except Complaint String := do
  match ← textOf? .stringUnicode v with
  | some s => pure (String.ofList s)
  | none => .error .stringType

/-! ## Whole numbers -/

/-- The longest numeral of a whole number. -/
def numeralLimit : Nat := 4300

/-- A whole number as JSON writes it: no plus sign, no zeros in front. -/
def strictInt? (s : List Char) : Option Int :=
  let (negative, digits) := match s with
    | '-' :: rest => (true, rest)
    | _ => (false, s)
  match digits with
  | [] => none
  | ['0'] => some 0
  | '0' :: _ => none
  | _ =>
    if digits.all Char.isDigit then
      let n : Int := natOfDigits digits
      some (if negative then -n else n)
    else none

/-- Drops a plus sign in front, which no other sign may follow. -/
def withoutPlus? : List Char → Option (List Char)
  | '+' :: '-' :: _ => none
  | '+' :: rest => some rest
  | s => some s

/-- Drops zeros in front, and the underscores among them; a numeral with a sign is left alone. -/
def withoutLeadingZeros? : List Char → Option (List Char)
  | [] => none
  | '0' :: rest => afterZero '0' rest
  | c :: rest => if c = '-' ∨ c.isDigit then some (c :: rest) else none
where
  afterZero (last : Char) : List Char → Option (List Char)
    | [] => some [last]
    | c :: rest =>
      if c = '0' ∨ c = '_' then afterZero c rest
      else if c.isDigit then some (c :: rest)
      else if c = '.' then some (last :: c :: rest)
      else none

/-- Drops a point that only zeros follow, at least one of them. -/
def withoutZeroFraction (s : List Char) : List Char :=
  match cutAt? (· == '.') s with
  | some (whole, c :: rest) => if (c :: rest).all (· == '0') then whole else s
  | _ => s

/-- Whether underscores stand alone and inside. -/
def goodUnderscores : List Char → Bool
  | [] => true
  | '_' :: _ => false
  | s => inside s
where
  inside : List Char → Bool
    | [] => true
    | ['_'] => false
    | '_' :: '_' :: _ => false
    | _ :: rest => inside rest

/-- The numeral without underscores, if they stand where they may. -/
def withoutUnderscores? (s : List Char) : Option (List Char) :=
  if goodUnderscores s then some (s.filter (· != '_')) else none

/-- A whole number typed by people. -/
def readInt (s : List Char) : Except Complaint Int :=
  let trimmed := Text.trimWhere Text.isWhiteSpace s
  match strictInt? trimmed with
  | some n => if numeralLimit < trimmed.length then .error .intParsingSize else .ok n
  | none =>
    let cleaned? := do
      let unsigned ← withoutPlus? trimmed
      let digits ← withoutLeadingZeros? unsigned
      withoutUnderscores? (withoutZeroFraction digits)
    match cleaned? with
    | none => .error .intParsing
    | some digits => match strictInt? digits with
      | none => .error .intParsing
      | some n => if numeralLimit < digits.length then .error .intParsingSize else .ok n

/-- The whole number a float is, within the range of machine words. -/
def intOfFloat (x : Float) : Except Complaint Int :=
  match partsOf x with
  | .nan => .error .finiteNumber
  | .infinite _ => .error .finiteNumber
  | _ => match wholeOf? x with
    | none => .error .intFromFloat
    | some n => if n.natAbs < Nat.pow 2 63 then .ok n else .error .intParsingSize

def toInt (v : Value) : Except Complaint Int := do
  match v with
  | .int n => pure n
  | .bool b => pure (if b then 1 else 0)
  | .float x => intOfFloat x
  | _ => match ← textOf? .intParsing v with
    | some s => readInt s
    | none => .error .intType

/-! ## Floats -/

/-- A number typed by people, in the grammar without underscores. -/
def plainFloat? (s : List Char) : Option Float :=
  if s.contains '_' then none else readFloat? s

def readNumber (s : List Char) : Except Complaint Float :=
  let trimmed := Text.trimWhere Text.isWhiteSpace s
  match plainFloat? trimmed with
  | some x => .ok x
  | none =>
    match (withoutUnderscores? s).bind fun digits =>
      plainFloat? (Text.trimWhere Text.isWhiteSpace digits) with
    | some x => .ok x
    | none => .error .floatParsing

/-- Whether a whole number is beyond the range of floats. -/
def beyondFloats (n : Int) : Bool :=
  match partsOf (floatOfInt n) with
  | .infinite _ => true
  | _ => false

def toFloat (v : Value) : Except Complaint Float := do
  match v with
  | .float x => pure x
  | .bool b => pure (if b then 1 else 0)
  | .int n => if beyondFloats n then .error .floatType else pure (floatOfInt n)
  | _ => match ← textOf? .floatParsing v with
    | some s => readNumber s
    | none => .error .floatType

/-! ## Truth values -/

def falseWords : List String := ["0", "off", "f", "false", "n", "no"]

def trueWords : List String := ["1", "on", "t", "true", "y", "yes"]

/-- Zero and one stand for false and true. -/
def boolOfInt (n : Int) : Except Complaint Bool :=
  if n = 0 then .ok false else if n = 1 then .ok true else .error .boolParsing

def readBool (s : List Char) : Except Complaint Bool :=
  let word := String.ofList (s.map Char.toLower)
  if falseWords.contains word then .ok false
  else if trueWords.contains word then .ok true
  else .error .boolParsing

def toBool (v : Value) : Except Complaint Bool := do
  match v with
  | .bool b => pure b
  | .int n => if -Int.pow 2 63 ≤ n ∧ n < Int.pow 2 63 then boolOfInt n else .error .boolType
  | .float x => match intOfFloat x with
    | .ok n => boolOfInt n
    | .error _ => .error .boolType
  | _ => match ← textOf? .boolParsing v with
    | some s => readBool s
    | none => .error .boolType

end RequestPipeline.Schema
