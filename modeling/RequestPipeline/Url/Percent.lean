import RequestPipeline.Text.Utf8

/-!
# Escapes in URLs

`escape` writes a character that a part of a URL may not hold as the bytes of its UTF-8 form, each
a percent sign and two hexadecimal digits.  Each part has its own set of characters to keep; the
percent sign is in all of them, so that what is escaped already stays as it is.  `unescape` reads
the escapes.
-/

namespace RequestPipeline.Url

open Text (Bytes)

/-- Characters that no part escapes. -/
def isUnreserved (c : Char) : Bool :=
  c.isAlphanum || c == '-' || c == '.' || c == '_' || c == '~'

/-- The characters of printed ASCII, blank included, other than some. -/
def printedExcept (others : List Char) (c : Char) : Bool :=
  0x20 ≤ c.toNat && c.toNat < 0x7f && !others.contains c

/-! ## Sets of characters to keep -/

def keptInFragment : Char → Bool := printedExcept [' ', '"', '<', '>', Char.ofNat 96]

def keptInQuery : Char → Bool := printedExcept [' ', '"', '#', '<', '>']

def keptInPath : Char → Bool :=
  printedExcept [' ', '"', '#', '<', '>', '?', Char.ofNat 96, '\x7b', '\x7d']

def keptInUserInfo : Char → Bool :=
  printedExcept [' ', '"', '#', '<', '>', '?', Char.ofNat 96, '\x7b', '\x7d',
    '/', ';', '=', '@', '[', '\\', ']', '^', '|']

def keptInHost (c : Char) : Bool :=
  ['!', '$', '&', Char.ofNat 39, '(', ')', '*', '+', ',', ';', '=', '"', Char.ofNat 96, '\x7b',
    '\x7d', '%', '|', '\\'].contains c

/-! ## Escaping -/

/-- The upper-case hexadecimal digits of a byte after a percent sign. -/
def escapedByte (b : UInt8) : List Char := '%' :: (Text.hexOfByte b).map Char.toUpper

/-- One character, escaped unless it is kept. -/
def escapeChar (kept : Char → Bool) (c : Char) : List Char :=
  if isUnreserved c || kept c then [c] else (Text.encodeChar c).flatMap escapedByte

/-- Escapes the characters outside a set. -/
def escape (kept : Char → Bool) (s : List Char) : List Char := s.flatMap (escapeChar kept)

/-- The bytes that text with escapes stands for; a percent sign without two digits is itself. -/
def escapedBytes : List Char → Bytes
  | '%' :: high :: low :: rest =>
    match Text.hexValue? high, Text.hexValue? low with
    | some h, some l => (h * 16 + l).toUInt8 :: escapedBytes rest
    | _, _ => 37 :: escapedBytes (high :: low :: rest)
  | c :: rest => Text.encodeChar c ++ escapedBytes rest
  | [] => []

/-- Text with its escapes read, a mark standing for bytes that are no character. -/
def unescape (s : List Char) : List Char := Text.decodeUtf8Lossy (escapedBytes s)

end RequestPipeline.Url
