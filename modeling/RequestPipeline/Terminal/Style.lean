/-!
# Styled text

Text for a terminal comes in pieces, a `Styled` list with one style each.  `Styled.render` writes
the escape sequences where a style begins and where it ends, or leaves them out for an output that
is no terminal.
-/

namespace RequestPipeline.Terminal

/-- The look of a piece of text. -/
structure Style where
  bold : Bool
  italic : Bool
  underline : Bool
  deriving DecidableEq, Repr

namespace Style

def plain : Style := ⟨false, false, false⟩
def strong : Style := ⟨true, false, false⟩
def slanted : Style := ⟨false, true, false⟩

/-- The number that turns an attribute on, if it is on. -/
def code (on : Bool) (number : Char) : List (List Char) := if on then [[number]] else []

/-- The numbers that turn a style on. -/
def codes (s : Style) : List (List Char) :=
  code s.bold '1' ++ code s.italic '3' ++ code s.underline '4'

/-- What introduces a control sequence. -/
def introducer : List Char := [Char.ofNat 27, '[']

/-- A text between the control sequences of its style. -/
def wrap (s : Style) (text : List Char) : List Char :=
  if s.codes.isEmpty then text
  else introducer ++ [';'].intercalate s.codes ++ 'm' :: (text ++ introducer ++ ['0', 'm'])

end Style

/-- Text in pieces. -/
abbrev Styled := List (Style × List Char)

namespace Styled

/-- The text without its styles. -/
def text (s : Styled) : List Char := s.flatMap fun (_, piece) => piece

/-- A text of one style. -/
def ofText (style : Style) (text : List Char) : Styled := [(style, text)]

/-- The first `n` characters, and the rest. -/
def splitAt : Styled → Nat → Styled × Styled
  | [], _ => ([], [])
  | (style, piece) :: rest, n =>
    if piece.length ≤ n then
      let (front, back) := splitAt rest (n - piece.length)
      ((style, piece) :: front, back)
    else ([(style, piece.take n)], (style, piece.drop n) :: rest)

def take (s : Styled) (n : Nat) : Styled := (s.splitAt n).1

def drop (s : Styled) (n : Nat) : Styled := (s.splitAt n).2

/-- Consecutive parts of the given lengths, with a gap after each. -/
def parts (gap : Nat) : List Nat → Styled → List Styled
  | [], _ => []
  | n :: rest, s => s.take n :: parts gap rest (s.drop (n + gap))

/-- The control sequences and the text. -/
def render (styles : Bool) (s : Styled) : List Char :=
  s.flatMap fun (style, piece) =>
    if piece.isEmpty then []
    else if styles then style.wrap piece else piece

end Styled

end RequestPipeline.Terminal
