import RequestPipeline.Text.Decoding

/-!
# UTF-8

`encodeUtf8` writes text, and `decodeUtf8?` and `decodeUtf8Lossy` read arbitrary bytes.  A sequence
that is not well formed is cut into the longest beginnings of well-formed sequences; the forgiving
reading puts one replacement character for each of them, and the strict one reports the first with
its place.
-/

namespace RequestPipeline.Text

/-- The bytes of one character. -/
def encodeChar (c : Char) : Bytes :=
  let n := c.toNat
  if n < 0x80 then [n.toUInt8]
  else if n < 0x800 then [(0xc0 + n / 64).toUInt8, (0x80 + n % 64).toUInt8]
  else if n < 0x10000 then
    [(0xe0 + n / 4096).toUInt8, (0x80 + n / 64 % 64).toUInt8, (0x80 + n % 64).toUInt8]
  else
    [(0xf0 + n / 262144).toUInt8, (0x80 + n / 4096 % 64).toUInt8, (0x80 + n / 64 % 64).toUInt8,
      (0x80 + n % 64).toUInt8]

/-- The bytes of a text. -/
def encodeUtf8 (s : List Char) : Bytes := s.flatMap encodeChar

private def isContinuation (b : UInt8) : Bool := b.toNat / 64 == 2

/-- The second byte may be narrower than a continuation byte: no overlong forms, no surrogates, and
nothing above the last code point. -/
private def secondAllowed (first second : UInt8) : Bool :=
  isContinuation second &&
    match first.toNat with
    | 0xe0 => decide (0xa0 ≤ second.toNat)
    | 0xed => decide (second.toNat < 0xa0)
    | 0xf0 => decide (0x90 ≤ second.toNat)
    | 0xf4 => decide (second.toNat < 0x90)
    | _ => true

private def low (b : UInt8) : Nat := b.toNat % 64

/-- The piece at the front of `first :: rest`. -/
def firstPiece (first : UInt8) (rest : Bytes) : Piece :=
  let n := first.toNat
  let bad (reason : DecodeReason) (extra : Nat) : Piece := .fault reason (first :: rest.take extra)
  if n < 0x80 then .char (Char.ofNat n) 1
  else if n < 0xc2 then bad .invalidStart 0
  else if n < 0xe0 then
    match rest with
    | [] => bad .unexpectedEnd 0
    | b :: _ =>
      if isContinuation b then .char (Char.ofNat ((n - 0xc0) * 64 + low b)) 2
      else bad .invalidContinuation 0
  else if n < 0xf0 then
    match rest with
    | [] => bad .unexpectedEnd 0
    | [b] => if secondAllowed first b then bad .unexpectedEnd 1 else bad .invalidContinuation 0
    | b :: c :: _ =>
      if !secondAllowed first b then bad .invalidContinuation 0
      else if !isContinuation c then bad .invalidContinuation 1
      else .char (Char.ofNat ((n - 0xe0) * 4096 + low b * 64 + low c)) 3
  else if n < 0xf5 then
    match rest with
    | [] => bad .unexpectedEnd 0
    | [b] => if secondAllowed first b then bad .unexpectedEnd 1 else bad .invalidContinuation 0
    | [b, c] =>
      if !secondAllowed first b then bad .invalidContinuation 0
      else if !isContinuation c then bad .invalidContinuation 1
      else bad .unexpectedEnd 2
    | b :: c :: d :: _ =>
      if !secondAllowed first b then bad .invalidContinuation 0
      else if !isContinuation c then bad .invalidContinuation 1
      else if !isContinuation d then bad .invalidContinuation 2
      else .char (Char.ofNat ((n - 0xf0) * 262144 + low b * 4096 + low c * 64 + low d)) 4
  else bad .invalidStart 0

/-- Cuts bytes into characters and faults. -/
def utf8Pieces : Bytes → List Piece
  | [] => []
  | first :: rest =>
    let piece := firstPiece first rest
    piece :: utf8Pieces (rest.drop (piece.size - 1))
  termination_by bytes => bytes.length
  decreasing_by simp only [List.length_drop, List.length_cons]; omega

/-- The surrogate that three bytes spell in the manner of UTF-8. -/
def spelledHalf? : Bytes → Option Half
  | a :: b :: c :: _ =>
    if a = 0xed ∧ 0xa0 ≤ b.toNat ∧ b.toNat < 0xc0 ∧ isContinuation c then
      (CodePoint.ofNat (0xd000 + low b * 64 + low c)).half?
    else none
  | _ => none

/-- Cuts bytes into characters, surrogates and faults. -/
def looseUtf8Pieces : Bytes → List LoosePiece
  | [] => []
  | first :: rest =>
    match spelledHalf? (first :: rest) with
    | some h => .half h 3 :: looseUtf8Pieces (rest.drop 2)
    | none =>
      let piece := firstPiece first rest
      .strict piece :: looseUtf8Pieces (rest.drop (piece.size - 1))
  termination_by bytes => bytes.length
  decreasing_by all_goals simp only [List.length_drop, List.length_cons]; omega

/-- The text of bytes that are well formed, or the first fault. -/
def decodeUtf8 (bytes : Bytes) : Except DecodeFault (List Char) :=
  decodePieces "utf-8" 0 (utf8Pieces bytes)

/-- The text of well-formed bytes. -/
def decodeUtf8? (bytes : Bytes) : Option (List Char) := (decodeUtf8 bytes).toOption

/-- The text of any bytes, each fault becoming one mark. -/
def decodeUtf8Lossy (bytes : Bytes) : List Char := decodePiecesLossy (utf8Pieces bytes)

end RequestPipeline.Text
