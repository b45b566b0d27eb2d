import RequestPipeline.Text.CodePoint
import RequestPipeline.Text.Printable

/-!
# Quoted text

Text and bytes between quotes, as values show them: single quotes, unless the text holds single
quotes only.  The backslash, the quote itself and what is not printable are escaped.
-/

namespace RequestPipeline.Text

/-- The single quote. -/
def singleQuote : Char := Char.ofNat 39

/-- The double quote. -/
def doubleQuote : Char := Char.ofNat 34

/-- The backslash. -/
def backslash : Char := Char.ofNat 92

/-- Double quotes are used when the text holds single quotes and no double ones. -/
def quoteFor (hasSingle hasDouble : Bool) : Char :=
  if hasSingle && !hasDouble then doubleQuote else singleQuote

/-- The escapes with a letter of their own. -/
def shortEscape? (c : Char) : Option Char :=
  if c.toNat = 9 then some 't' else if c.toNat = 10 then some 'n'
  else if c.toNat = 13 then some 'r' else none

/-- A code point as the shortest of the three escapes with a fixed number of digits. -/
def codePointEscape (n : Nat) : List Char :=
  if n < 0x100 then backslash :: 'x' :: hexDigits 2 n
  else if n < 0x10000 then backslash :: 'u' :: hexDigits 4 n
  else backslash :: 'U' :: hexDigits 8 n

/-- One character of quoted text. -/
def quotedChar (quote c : Char) : List Char :=
  if c = quote ∨ c = backslash then [backslash, c]
  else match shortEscape? c with
    | some letter => [backslash, letter]
    | none => if isPrintable c then [c] else codePointEscape c.toNat

/-- One code point of quoted text; a surrogate is not printable. -/
def quotedPoint (quote : Char) : CodePoint → List Char
  | .char c => quotedChar quote c
  | .half h => codePointEscape h.unit

/-- Text between quotes. -/
def quotedStr (s : Str) : List Char :=
  let quote := quoteFor (s.contains (.char singleQuote)) (s.contains (.char doubleQuote))
  quote :: (s.flatMap (quotedPoint quote) ++ [quote])

/-- Characters between quotes. -/
def quoted (s : List Char) : List Char := quotedStr (Str.ofChars s)

/-- One byte of quoted binary data. -/
def quotedByte (quote : Char) (b : UInt8) : List Char :=
  let c := Char.ofNat b.toNat
  if c = quote ∨ c = backslash then [backslash, c]
  else match shortEscape? c with
    | some letter => [backslash, letter]
    | none => if 0x20 ≤ b.toNat ∧ b.toNat < 0x7f then [c] else backslash :: 'x' :: hexOfByte b

/-- Binary data between quotes, marked by a letter. -/
def quotedBytes (bytes : Bytes) : List Char :=
  let quote := quoteFor (bytes.contains 39) (bytes.contains 34)
  'b' :: quote :: (bytes.flatMap (quotedByte quote) ++ [quote])

end RequestPipeline.Text
