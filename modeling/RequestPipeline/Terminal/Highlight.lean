import RequestPipeline.Terminal.Style
import RequestPipeline.Text.Pattern
import RequestPipeline.Text.WordCharacter

/-!
# Highlighting values

`highlight` styles the text of a value for a terminal: brackets, numbers and addresses are bold,
the words for truth and for nothing are italic, and links are underlined.  `marks` finds these
parts by patterns over the whole text; where two marks overlap, what the later pattern says about
the style counts.
-/

namespace RequestPipeline.Terminal

open Text (Pattern Passage isWordChar)

/-- Parts of the text of a value. -/
inductive Mark where
  | bracket
  | angle
  | tagName
  | tagContents
  | attributeName
  | attributeValue
  | address
  | identifier
  | called
  | word
  | ellipsis
  | number
  | path
  | quoted
  | link
  deriving DecidableEq, Repr

/-- What a part says about a style: it may turn an attribute on or off, or leave it. -/
structure Tone where
  bold : Option Bool
  italic : Option Bool
  underline : Option Bool

def Mark.tone : Mark → Tone
  | .bracket | .angle | .tagName | .address | .called => ⟨some true, none, none⟩
  | .tagContents | .ellipsis | .path => ⟨none, none, none⟩
  | .attributeName | .attributeValue => ⟨none, some false, none⟩
  | .identifier => ⟨some false, none, none⟩
  | .word => ⟨none, some true, none⟩
  | .number => ⟨some true, some false, none⟩
  | .quoted => ⟨some false, some false, none⟩
  | .link => ⟨some false, some false, some true⟩

/-- A style after what a part says about it. -/
def Tone.over (t : Tone) (s : Style) : Style where
  bold := t.bold.getD s.bold
  italic := t.italic.getD s.italic
  underline := t.underline.getD s.underline

/-! ## Patterns -/

/-- A pattern of parts of a value. -/
abbrev Shape := Pattern Mark

namespace Shape

def among (s : String) : Shape := .char fun c => s.toList.contains c
def letter (c : Char) : Shape := .char (· == c)
def any : Shape := .char fun c => c != '\n'
def digit : Shape := .char Char.isDigit
def hexDigit : Shape :=
  .char fun c => c.isDigit || ('a' ≤ c && c ≤ 'f') || ('A' ≤ c && c ≤ 'F')
def wordChar : Shape := .char isWordChar

/-- One pattern after the other. -/
def all : List Shape → Shape
  | [] => .empty
  | [p] => p
  | p :: rest => .seq p (all rest)

/-- The first pattern that leads to a match. -/
def oneOf : List Shape → Shape
  | [] => .char fun _ => false
  | [p] => p
  | p :: rest => .either p (oneOf rest)

/-- A word as it stands. -/
def exactly (s : String) : Shape := all (s.toList.map letter)

def many (p : Shape) : Shape := .times 0 none true p
def several (p : Shape) : Shape := .times 1 none true p
def few (p : Shape) : Shape := .times 0 none false p
def optional (p : Shape) : Shape := .times 0 (some 1) true p
def exactlyTimes (n : Nat) (p : Shape) : Shape := .times n (some n) true p
def upTo (least most : Nat) (p : Shape) : Shape := .times least (some most) true p

def isWordAt (c : Option Char) : Bool := c.any isWordChar

/-- A place where a word begins or ends. -/
def wordEdge : Shape := .between fun before after => isWordAt before != isWordAt after

/-- A place where no word begins or ends. -/
def noWordEdge : Shape := .between fun before after => isWordAt before == isWordAt after

/-- A place that does not stand after a word. -/
def notAfterWord : Shape := .between fun before _ => !isWordAt before

/-! ### Tags and attributes -/

def tag : Shape := all [
  .group .angle (letter '<'),
  .group .tagName (many (.char fun c => isWordChar c || "-.:|".toList.contains c)),
  .group .tagContents (many (.char fun _ => true)),
  .group .angle (letter '>')]

def property : Shape := all [
  .group .attributeName (upTo 1 50 wordChar), letter '=',
  optional (.group .attributeValue
    (all [optional (letter '"'), several wordChar, optional (letter '"')]))]

def bracket : Shape := .group .bracket (among "][\x7b\x7d()")

/-! ### Addresses -/

def dotted : Shape := .group .address (all [
  upTo 1 3 digit, letter '.', upTo 1 3 digit, letter '.',
  upTo 1 3 digit, letter '.', upTo 1 3 digit])

def coloned : Shape := .group .address (all [
  upTo 1 7 (all [upTo 1 4 hexDigit, letter ':', optional (letter ':')]), upTo 1 4 hexDigit])

/-- Groups of two digits with a mark between them, or of four digits with points. -/
def hardware (pairs quads : Nat) : Shape :=
  let pair := upTo 1 2 hexDigit
  let quad := exactlyTimes 4 hexDigit
  .group .address (oneOf [
    all [exactlyTimes pairs (all [pair, letter '-']), pair],
    all [exactlyTimes pairs (all [pair, letter ':']), pair],
    all [exactlyTimes quads (all [quad, letter '.']), quad]])

def identifier : Shape :=
  let quad := exactlyTimes 4 hexDigit
  .group .identifier (all [
    exactlyTimes 8 hexDigit, letter '-', quad, letter '-', quad, letter '-', quad, letter '-',
    exactlyTimes 12 hexDigit])

/-! ### Words and numbers -/

def called : Shape := all [
  .group .called (few (.char fun c => isWordChar c || c == '.')), letter '(']

def fixedWord (s : String) : Shape := all [wordEdge, .group .word (exactly s), wordEdge]

def ellipsis : Shape := .group .ellipsis (exactly "...")

def sign : Shape := optional (among "-+")

/-- Digits, perhaps with a point; `exponent` may follow. -/
def decimal (exponent : Shape) : Shape := all [
  several digit, optional (letter '.'), many digit, optional exponent]

/-- An exponent, of as few digits as possible. -/
def shortExponent : Shape := all [letter 'e', sign, .times 1 none false digit]

def longExponent : Shape := all [letter 'e', sign, several digit]

def complexNumber : Shape := .group .number (all [
  notAfterWord, optional (letter '-'), decimal shortExponent,
  optional (all [among "-+", decimal longExponent]), letter 'j'])

def number : Shape := .group .number (oneOf [
  all [notAfterWord, optional (letter '-'), decimal shortExponent, wordEdge],
  all [exactly "0x", many hexDigit]])

/-! ### Paths, quoted text and links -/

def pathChar : Shape := .char fun c => isWordChar c || "-._+".toList.contains c

def path : Shape := all [
  .group .path (all [noWordEdge, many (all [letter '/', several pathChar]), letter '/']),
  optional (.group .path (many pathChar))]

/-- Text between two marks; a backslash in front of the second one takes its meaning away. -/
def enclosed (mark : String) : Shape := all [
  optional (letter 'b'), exactly mark, few any,
  .between (fun before _ => before != some '\\'), exactly mark]

def quoted : Shape := all [
  .between (fun before _ => !isWordAt before && before != some '\\'),
  .group .quoted (oneOf [
    enclosed "\x27\x27\x27", enclosed "\x27", enclosed "\"\"\"", enclosed "\""])]

def linkChar : Shape := .char fun c =>
  c.isAlphanum || "-$_+!\x60(),.?/;:&=%#~@".toList.contains c

def link : Shape := .group .link (all [
  oneOf [exactly "file", exactly "https", exactly "http", exactly "ws", exactly "wss"],
  exactly "://", many linkChar])

/-- The parts of which there is one at a place. -/
def scalar : Shape := oneOf [
  dotted, coloned, hardware 7 3, hardware 5 2, identifier, called,
  fixedWord "True", fixedWord "False", fixedWord "None", ellipsis, complexNumber, number, path,
  quoted, link]

end Shape

/-! ## Styled text -/

/-- The parts of a text that are set off; later ones count more. -/
def marks (s : List Char) : List (Passage Mark) :=
  [Shape.tag, Shape.property, Shape.bracket, Shape.scalar].flatMap fun p =>
    (p.findAll s).filter fun passage => passage.first < passage.last

/-- The style of the characters from one place to another, where no part begins or ends. -/
def styleOf (passages : List (Passage Mark)) (first last : Nat) : Style :=
  passages.foldl (fun style passage =>
    if passage.first ≤ first && last ≤ passage.last then passage.name.tone.over style
    else style) .plain

/-- Puts a number into a list of increasing ones, unless it is there. -/
def insertPlace (n : Nat) : List Nat → List Nat
  | [] => [n]
  | m :: rest =>
    if n < m then n :: m :: rest else if n = m then m :: rest else m :: insertPlace n rest

/-- The pieces of a text between places. -/
def pieces (passages : List (Passage Mark)) (first : Nat) : List Nat → List Char → Styled
  | [], s => [(styleOf passages first (first + s.length), s)]
  | last :: rest, s =>
    (styleOf passages first last, s.take (last - first))
      :: pieces passages last rest (s.drop (last - first))

/-- A text in pieces that begin and end where its parts do. -/
def highlight (s : List Char) : Styled :=
  let passages := marks s
  let places := passages.foldl (fun acc passage =>
    insertPlace passage.first (insertPlace passage.last acc)) []
  pieces passages 0 places s

end RequestPipeline.Terminal
