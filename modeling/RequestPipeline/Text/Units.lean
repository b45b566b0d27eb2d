import RequestPipeline.Text.Decoding

/-!
# Text in units of two or four bytes

UTF-16 and UTF-32 in either byte order.
-/

namespace RequestPipeline.Text

/-- The order of the bytes of a unit. -/
inductive ByteOrder where
  | big
  | little
  deriving DecidableEq, Repr

/-- The number that bytes spell in an order. -/
def ByteOrder.value (order : ByteOrder) (bytes : Bytes) : Nat :=
  let digits := match order with
    | .big => bytes
    | .little => bytes.reverse
  digits.foldl (fun n b => n * 256 + b.toNat) 0

/-- Cuts bytes into the characters of UTF-16.  A first half without a second one is a fault, and so
is a second half alone. -/
def utf16Pieces (order : ByteOrder) : Bytes → List Piece
  | [] => []
  | [a] => [.fault .truncated [a]]
  | a :: b :: rest =>
    let unit := order.value [a, b]
    if unit < 0xd800 ∨ 0xe000 ≤ unit then .char (Char.ofNat unit) 2 :: utf16Pieces order rest
    else if 0xdc00 ≤ unit then .fault .illegalSurrogate [a, b] :: utf16Pieces order rest
    else match rest with
      | c :: d :: rest' =>
        let second := order.value [c, d]
        if 0xdc00 ≤ second ∧ second < 0xe000 then
          .char (Char.ofNat (0x10000 + (unit - 0xd800) * 0x400 + (second - 0xdc00))) 4
            :: utf16Pieces order rest'
        else .fault .illegalSurrogate [a, b] :: utf16Pieces order (c :: d :: rest')
      | short => [.fault .unexpectedEnd (a :: b :: short)]

/-- Cuts bytes into the characters of UTF-32. -/
def utf32Pieces (order : ByteOrder) : Bytes → List Piece
  | [] => []
  | a :: b :: c :: d :: rest =>
    let n := order.value [a, b, c, d]
    (if 0x110000 ≤ n then .fault .outOfUnicode [a, b, c, d]
      else if 0xd800 ≤ n ∧ n < 0xe000 then .fault .illegalSurrogate [a, b, c, d]
      else .char (Char.ofNat n) 4) :: utf32Pieces order rest
  | short => [.fault .truncated short]

/-- A surrogate that the strict reading of units has refused passes; where it stood at the end, the
bytes behind it are less than a unit. -/
def ByteOrder.loosen (order : ByteOrder) : Piece → List LoosePiece
  | .fault .illegalSurrogate bytes =>
    match CodePoint.ofNat (order.value bytes) with
    | .half h => [.half h bytes.length]
    | .char _ => [.strict (.fault .illegalSurrogate bytes)]
  | .fault .unexpectedEnd (a :: b :: short) =>
    match CodePoint.ofNat (order.value [a, b]) with
    | .half h => .half h 2 :: (if short.isEmpty then [] else [.strict (.fault .truncated short)])
    | .char _ => [.strict (.fault .unexpectedEnd (a :: b :: short))]
  | piece => [.strict piece]

/-- The codec's name for an order. -/
def ByteOrder.suffix : ByteOrder → String
  | .big => "be"
  | .little => "le"

end RequestPipeline.Text
