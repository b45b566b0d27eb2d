import RequestPipeline.Failure.Kind
import RequestPipeline.Text.Charset

/-!
# Codecs

A message names the character set of its text, and the name is looked up in a registry of codecs.
Such a registry is open: it knows the character sets of this library, those of the interpreter that
the library has no tables for, and whatever a program registers.  So a codec is any function from
bytes to text, and it may refuse: UTF-16 wants to know the order of its bytes, and the codecs for
domain names do not replace what they cannot read.
-/

namespace RequestPipeline.Text

/-- Why a codec gives no text. -/
inductive CodecFault where
  | missingMark (mark : Charset.MissingMark)
  /-- The codec failed in a way of its own. -/
  | raised (kind : Failure.Kind) (message : Str)
  deriving DecidableEq, Repr

namespace CodecFault

def kind : CodecFault → Failure.Kind
  | .missingMark _ => .outside .unreadable
  | .raised kind _ => kind

def message : CodecFault → Str
  | .missingMark mark => mark.message
  | .raised _ message => message

end CodecFault

/-- A way to read bytes as text. -/
structure Codec where
  decode : Bytes → Except CodecFault Str

/-- Codecs by name. -/
abbrev Codecs := String → Option Codec

/-- The codec of a character set, with a mark in the place of what is no character. -/
def Charset.codec (charset : Charset) : Codec where
  decode bytes := match charset.missingMark? bytes with
    | some mark => .error (.missingMark mark)
    | none => .ok (.ofChars (charset.decodeLossy bytes))

namespace Codec

def utf8 : Codec := Charset.codec .utf8

/-- A codec that reads nothing. -/
def refusing (message : String) : Codec :=
  ⟨fun _ => .error (.raised (.outside .unreadable) message)⟩

/-- The codecs that read no text with marks for what is no character. -/
def strict : List (String × Codec) := [
  ("undefined", refusing "undefined encoding"),
  ("idna", refusing "Unsupported error handling replace")]

/-- The codecs of the character sets that this library has, and those that refuse to read. -/
def builtin : Codecs := fun name =>
  ((Charset.ofName? name).map Charset.codec).or
    (strict.lookup (String.ofList (Charset.foldName name.toList)))

end Codec

end RequestPipeline.Text
