import RequestPipeline.Decimal.Reading
import RequestPipeline.Text.Charset
import RequestPipeline.Value

/-!
# Reading JSON

A reader of JSON texts that says where and why it stops.  Beyond the standard it accepts the three
words for numbers that are not finite, and it refuses whole numbers of too many digits.

The readers of parts take the rest of the text and give back the rest behind the part.  A fault
carries the rest at which it was noticed; the place is the difference to the whole text.
-/

namespace RequestPipeline.Json

open Text (Bytes CodePoint Str)

/-- Why a text is not JSON. -/
inductive Reason where
  | expectingValue
  | extraData
  | expectingName
  | expectingColon
  | expectingComma
  | unterminated
  | invalidControl
  | invalidEscape
  | invalidCodeEscape
  | byteOrderMark
  deriving DecidableEq, Repr

/-- The reason in words. -/
def Reason.message : Reason → String
  | .expectingValue => "Expecting value"
  | .extraData => "Extra data"
  | .expectingName => "Expecting property name enclosed in double quotes"
  | .expectingColon => "Expecting ':' delimiter"
  | .expectingComma => "Expecting ',' delimiter"
  | .unterminated => "Unterminated string starting at"
  | .invalidControl => "Invalid control character at"
  | .invalidEscape => "Invalid \\escape"
  | .invalidCodeEscape => "Invalid \\uXXXX escape"
  | .byteOrderMark => "Unexpected UTF-8 BOM (decode using utf-8-sig)"

/-- A stop inside a text. -/
inductive Stop where
  /-- The text is not JSON from `rest` on. -/
  | badSyntax (reason : Reason) (rest : Str)
  /-- A whole number has more digits than can be read. -/
  | tooManyDigits (count : Nat)
  deriving DecidableEq, Repr

/-- The largest number of digits of a whole number. -/
def digitLimit : Nat := 4300

/-- The blanks of JSON. -/
def isSpace (p : CodePoint) : Bool :=
  p == .char ' ' || p == .char '\t' || p == .char '\n' || p == .char '\r'

def skipSpace (s : Str) : Str := s.dropWhile isSpace

/-! ## Strings -/

/-- Four hexadecimal digits. -/
def fourHex? : Str → Option (Nat × Str)
  | .char a :: .char b :: .char c :: .char d :: rest => do
    let w ← Text.hexValue? a
    let x ← Text.hexValue? b
    let y ← Text.hexValue? c
    let z ← Text.hexValue? d
    pure (((w * 16 + x) * 16 + y) * 16 + z, rest)
  | _ => none

/-- The escapes of one letter. -/
def letterEscape? (c : Char) : Option Char :=
  match c with
  | '"' => some '"'
  | '\\' => some '\\'
  | '/' => some '/'
  | 'b' => some (Char.ofNat 8)
  | 'f' => some (Char.ofNat 12)
  | 'n' => some '\n'
  | 'r' => some '\r'
  | 't' => some '\t'
  | _ => none

def isHighHalf (n : Nat) : Bool := decide (0xd800 ≤ n ∧ n < 0xdc00)
def isLowHalf (n : Nat) : Bool := decide (0xdc00 ≤ n ∧ n < 0xe000)

/-- The code point of an escaped code unit, joined with a second half whose escape follows; `rest`
stands behind the letter of the escape, and `escape` at it.  Half a pair by itself is a surrogate.
-/
def codeEscape (escape rest : Str) : Except Stop (CodePoint × Str) :=
  if rest.length ≤ 4 then .error (.badSyntax .invalidCodeEscape escape)
  else match fourHex? rest with
    | none => .error (.badSyntax .invalidCodeEscape escape)
    | some (unit, behind) =>
      if isHighHalf unit && decide (6 < behind.length) then
        match behind with
        | .char '\\' :: .char 'u' :: second =>
          match fourHex? second with
          | none => .error (.badSyntax .invalidCodeEscape (.char 'u' :: second))
          | some (unit', behind') =>
            if isLowHalf unit' then
              .ok (.char (Char.ofNat (0x10000 + (unit - 0xd800) * 0x400 + (unit' - 0xdc00))),
                behind')
            else .ok (.ofNat unit, behind)
        | _ => .ok (.ofNat unit, behind)
      else .ok (.ofNat unit, behind)

/-- The text up to the closing quote; `opening` is the text from the opening quote on. -/
def readChars (opening : Str) : Nat → Str → Except Stop (Str × Str)
  | 0, _ => .error (.badSyntax .unterminated opening)
  | _ + 1, [] => .error (.badSyntax .unterminated opening)
  | fuel + 1, p :: rest =>
    if p = .char '"' then .ok ([], rest)
    else if p = .char '\\' then
      match rest with
      | [] => .error (.badSyntax .unterminated opening)
      | .char 'u' :: behind => do
        let (decoded, tail) ← codeEscape rest behind
        let (more, tail) ← readChars opening fuel tail
        pure (decoded :: more, tail)
      | letter :: behind =>
        match letter.char?.bind letterEscape? with
        | none => .error (.badSyntax .invalidEscape (p :: rest))
        | some decoded => do
          let (more, tail) ← readChars opening fuel behind
          pure (.char decoded :: more, tail)
    else if p.toNat < 0x20 then .error (.badSyntax .invalidControl (p :: rest))
    else do
      let (more, tail) ← readChars opening fuel rest
      pure (p :: more, tail)

/-- The string behind its opening quote. -/
def readString (rest : Str) : Except Stop (Str × Str) :=
  readChars (.char '"' :: rest) (rest.length + 1) rest

/-! ## Numbers -/

/-- The whole part of a number: a zero, or digits that do not begin with one. -/
def wholePart? : List Char → Option (List Char × List Char)
  | '0' :: rest => some (['0'], rest)
  | c :: rest =>
    if c.isDigit then some (c :: rest.takeWhile Char.isDigit, rest.dropWhile Char.isDigit) else none
  | [] => none

/-- The digits behind a point, if there are any. -/
def fractionPart : List Char → Option (List Char) × List Char
  | '.' :: rest =>
    let digits := rest.takeWhile Char.isDigit
    if digits.isEmpty then (none, '.' :: rest) else (some digits, rest.dropWhile Char.isDigit)
  | rest => (none, rest)

/-- The exponent behind its letter, if it has digits. -/
def exponentPart : List Char → Option (Bool × List Char) × List Char
  | c :: rest =>
    if c = 'e' ∨ c = 'E' then
      let (negative, behind) := Decimal.splitSign rest
      let digits := behind.takeWhile Char.isDigit
      if digits.isEmpty then (none, c :: rest)
      else (some (negative, digits), behind.dropWhile Char.isDigit)
    else (none, c :: rest)
  | [] => (none, [])

/-- The number at the front of characters. -/
def numberOf (s : List Char) : Except Stop (Value × List Char) :=
  let (negative, unsigned) := match s with
    | '-' :: rest => (true, rest)
    | _ => (false, s)
  match wholePart? unsigned with
  | none => .error (.badSyntax .expectingValue (.ofChars s))
  | some (whole, rest) =>
    let (fraction?, rest) := fractionPart rest
    let (exponent?, rest) := exponentPart rest
    if fraction?.isNone && exponent?.isNone then
      if digitLimit < whole.length then .error (.tooManyDigits whole.length)
      else
        let n : Int := Decimal.natOfDigits whole
        .ok (.int (if negative then -n else n), rest)
    else
      let fraction := fraction?.getD []
      let exponent : Int := match exponent? with
        | none => 0
        | some (below, digits) =>
          let n : Int := Decimal.natOfDigits ((digits.dropWhile (· == '0')).take 12)
          if below then -n else n
      let size := Decimal.Scientific.toFloat
        ⟨Decimal.natOfDigits (whole ++ fraction), exponent - fraction.length⟩
      .ok (.float (if negative then -size else size), rest)

/-- The characters of numbers. -/
def isNumberChar (c : Char) : Bool := c.isDigit || ['-', '+', '.', 'e', 'E'].contains c

/-- The characters at the front of the text that a number can be made of. -/
def numberFront : Str → List Char
  | .char c :: rest => if isNumberChar c then c :: numberFront rest else []
  | _ => []

/-- The number at the front of the text. -/
def readNumber (s : Str) : Except Stop (Value × Str) :=
  let front := numberFront s
  match numberOf front with
  | .error (.tooManyDigits count) => .error (.tooManyDigits count)
  | .error (.badSyntax reason _) => .error (.badSyntax reason s)
  | .ok (v, rest) => .ok (v, .ofChars rest ++ s.drop front.length)

/-! ## Values -/

/-- The words that stand for values. -/
def words : List (List Char × Value) := [
  ("null".toList, .null), ("true".toList, .bool true), ("false".toList, .bool false),
  ("NaN".toList, .float (0.0 / 0.0)), ("Infinity".toList, .float (1.0 / 0.0)),
  ("-Infinity".toList, .float (-1.0 / 0.0))]

/-- The word at the front of the text. -/
def readWord? (s : Str) : Option (Value × Str) :=
  (words.find? fun (word, _) => (Str.ofChars word).isPrefixOf s).map
    fun (word, v) => (v, s.drop word.length)

mutual

/-- The value at the front of the text. -/
def readValue : Nat → Str → Except Stop (Value × Str)
  | 0, s => .error (.badSyntax .expectingValue s)
  | fuel + 1, s =>
    match s with
    | .char '"' :: rest => do
      let (text, tail) ← readString rest
      pure (.str text, tail)
    | .char '[' :: rest =>
      match skipSpace rest with
      | .char ']' :: tail => .ok (.list [], tail)
      | inside => do
        let (items, tail) ← readItems fuel inside
        pure (.list items, tail)
    | .char '\x7b' :: rest =>
      match skipSpace rest with
      | .char '\x7d' :: tail => .ok (.dict [], tail)
      | inside => do
        let (entries, tail) ← readEntries fuel inside
        pure (Value.ofEntries entries, tail)
    | _ => match readWord? s with
      | some found => .ok found
      | none => readNumber s

/-- The items of a list up to its closing bracket. -/
def readItems : Nat → Str → Except Stop (List Value × Str)
  | 0, s => .error (.badSyntax .expectingValue s)
  | fuel + 1, s => do
    let (item, behind) ← readValue fuel s
    match skipSpace behind with
    | .char ']' :: tail => pure ([item], tail)
    | .char ',' :: more => do
      let (items, tail) ← readItems fuel (skipSpace more)
      pure (item :: items, tail)
    | other => .error (.badSyntax .expectingComma other)

/-- The entries of an object up to its closing brace. -/
def readEntries : Nat → Str → Except Stop (List (Value × Value) × Str)
  | 0, s => .error (.badSyntax .expectingName s)
  | fuel + 1, s =>
    match s with
    | .char '"' :: rest => do
      let (name, behind) ← readString rest
      match skipSpace behind with
      | .char ':' :: more => do
        let (value, behind) ← readValue fuel (skipSpace more)
        match skipSpace behind with
        | .char '\x7d' :: tail => pure ([(.str name, value)], tail)
        | .char ',' :: more => do
          let (entries, tail) ← readEntries fuel (skipSpace more)
          pure ((.str name, value) :: entries, tail)
        | other => .error (.badSyntax .expectingComma other)
      | other => .error (.badSyntax .expectingColon other)
    | other => .error (.badSyntax .expectingName other)

end

/-- The value of a whole text without a mark at its beginning.  Each character takes two calls at
most. -/
def readAll (s : Str) : Except Stop Value := do
  let (value, behind) ← readValue (2 * s.length + 2) (skipSpace s)
  match skipSpace behind with
  | [] => pure value
  | extra => .error (.badSyntax .extraData extra)

/-! ## Faults -/

/-- A text or bytes that hold no value. -/
inductive Fault where
  /-- Not JSON; lines and columns count from one, the offset from zero. -/
  | badSyntax (reason : Reason) (line column offset : Nat)
  | tooManyDigits (count : Nat)
  | undecodable (fault : Text.DecodeFault)
  deriving DecidableEq, Repr

/-- The message about whole numbers with too many digits. -/
def digitLimitMessage (count : Nat) : String :=
  s!"Exceeds the limit ({digitLimit} digits) for integer string conversion: value has {count} " ++
    "digits; use sys.set_int_max_str_digits() to increase the limit"

/-- The fault in words. -/
def Fault.message : Fault → String
  | .badSyntax reason line column offset =>
    s!"{reason.message}: line {line} column {column} (char {offset})"
  | .tooManyDigits count => digitLimitMessage count
  | .undecodable fault => fault.message

/-- The place of `rest` in the text it ends. -/
def Stop.locate (s : Str) : Stop → Fault
  | .tooManyDigits count => .tooManyDigits count
  | .badSyntax reason rest =>
    let offset := s.length - rest.length
    let before := s.take offset
    let line := before.count (.char '\n') + 1
    let column := (before.reverse.takeWhile (· != .char '\n')).length + 1
    .badSyntax reason line column offset

/-- The value of a text, or the place of the first fault in it. -/
def valueOf (s : Str) : Except Fault Value :=
  match readAll s with
  | .ok v => .ok v
  | .error stop => .error (stop.locate s)

/-- The value of a text that has no byte order mark. -/
def read (s : Str) : Except Fault Value :=
  if s.head? = some (.char (Char.ofNat 0xfeff)) then .error (.badSyntax .byteOrderMark 1 1 0)
  else valueOf s

/-- The encoding of JSON bytes, from marks or from the places of their zero bytes. -/
def encodingOf (bytes : Bytes) : Text.Charset :=
  open Text.Charset in
  if utf32BigMark.isPrefixOf bytes || utf32LittleMark.isPrefixOf bytes then .utf32 none
  else if utf16BigMark.isPrefixOf bytes || utf16LittleMark.isPrefixOf bytes then .utf16 none
  else if utf8Mark.isPrefixOf bytes then .utf8Signed
  else match bytes with
    | a :: b :: c :: d :: _ =>
      if a = 0 then if b = 0 then .utf32 (some .big) else .utf16 (some .big)
      else if b = 0 then
        if c = 0 ∧ d = 0 then .utf32 (some .little) else .utf16 (some .little)
      else .utf8
    | [a, b] =>
      if a = 0 then .utf16 (some .big) else if b = 0 then .utf16 (some .little) else .utf8
    | _ => .utf8

/-- The value of bytes, in whose text surrogates may pass. -/
def readBytes (bytes : Bytes) : Except Fault Value :=
  match (encodingOf bytes).decode bytes with
  | .error fault => .error (.undecodable fault)
  | .ok s => valueOf s

end RequestPipeline.Json
