import RequestPipeline.Text.CodePoint

/-!
# Bytes cut into characters

A decoder cuts bytes into pieces, each a character or a fault, which together hold every byte.
`decodePieces` is the strict reading, which reports the first fault with its place, and
`decodePiecesLossy` the forgiving one, which puts a replacement character for each fault.
-/

namespace RequestPipeline.Text

/-- What is wrong with a byte sequence. -/
inductive DecodeReason where
  | invalidStart
  | invalidContinuation
  | unexpectedEnd
  | truncated
  | illegalSurrogate
  | outOfUnicode
  | notAscii
  | undefined
  /-- No part of UTF-8 text, for whatever reason. -/
  | invalidUtf8
  deriving DecidableEq, Repr

/-- The reason in words. -/
def DecodeReason.message : DecodeReason → String
  | .invalidStart => "invalid start byte"
  | .invalidContinuation => "invalid continuation byte"
  | .unexpectedEnd => "unexpected end of data"
  | .truncated => "truncated data"
  | .illegalSurrogate => "illegal UTF-16 surrogate"
  | .outOfUnicode => "code point not in range(0x110000)"
  | .notAscii => "ordinal not in range(128)"
  | .undefined => "character maps to <undefined>"
  | .invalidUtf8 => "invalid utf-8"

/-- A character with the number of its bytes, or bytes that are no character. -/
inductive Piece where
  | char (c : Char) (length : Nat)
  | fault (reason : DecodeReason) (bytes : Bytes)
  deriving DecidableEq, Repr

/-- The number of bytes a piece covers. -/
def Piece.size : Piece → Nat
  | .char _ length => length
  | .fault _ bytes => bytes.length

/-- A piece of a reading that lets encoded surrogates pass. -/
inductive LoosePiece where
  | strict (piece : Piece)
  | half (h : Half) (length : Nat)
  deriving DecidableEq, Repr

/-- The first fault of a strict reading. -/
structure DecodeFault where
  codec : String
  reason : DecodeReason
  position : Nat
  bytes : Bytes
  deriving DecidableEq, Repr

/-- The fault in words; it names the byte, or the range of several. -/
def DecodeFault.message (f : DecodeFault) : String :=
  let place := match f.bytes with
    | [b] => s!"byte 0x{String.ofList (hexOfByte b)} in position {f.position}"
    | _ => s!"bytes in position {f.position}-{f.position + f.bytes.length - 1}"
  s!"'{f.codec}' codec can't decode {place}: {f.reason.message}"

/-- The characters of pieces of which the first stands at `position`, or the first fault. -/
def decodePieces (codec : String) (position : Nat) : List Piece → Except DecodeFault (List Char)
  | [] => .ok []
  | .char c length :: rest => (decodePieces codec (position + length) rest).map (c :: ·)
  | .fault reason bytes :: _ => .error ⟨codec, reason, position, bytes⟩

/-- The code points of pieces of which the first stands at `position`, or the first fault. -/
def decodeLoosePieces (codec : String) (position : Nat) : List LoosePiece → Except DecodeFault Str
  | [] => .ok []
  | .strict (.char c length) :: rest =>
    (decodeLoosePieces codec (position + length) rest).map (.char c :: ·)
  | .half h length :: rest => (decodeLoosePieces codec (position + length) rest).map (.half h :: ·)
  | .strict (.fault reason bytes) :: _ => .error ⟨codec, reason, position, bytes⟩

/-- The mark for bytes that are no character. -/
def replacementChar : Char := Char.ofNat 0xfffd

/-- The characters of pieces, a mark for each fault. -/
def decodePiecesLossy (pieces : List Piece) : List Char :=
  pieces.map fun
    | .char c _ => c
    | .fault _ _ => replacementChar

end RequestPipeline.Text
