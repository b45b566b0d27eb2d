import RequestPipeline.Terminal.Style
import RequestPipeline.Text.Blank
import RequestPipeline.Text.CellWidth

/-!
# Wrapping text

`wrap` breaks a line between words so that each part fits a width counted in cells; a word that is
too long for any line is cut up or cut off.  Blanks stay with the word before them, so that no
character is lost, but those that stand beyond the width at the end of a line are dropped.
`layOut` does this for styled text of several lines, and `padded` and `centred` fill a line up to
the width.
-/

namespace RequestPipeline.Terminal

open Text (isBlank cells cellWidth)

/-! ## Words -/

/-- A new word begins where a blank is followed by something else. -/
def addToWords (c : Char) : List (List Char) → List (List Char)
  | [] => [[c]]
  | [] :: rest => [c] :: rest
  | (d :: word) :: rest =>
    if isBlank c && !isBlank d then [c] :: (d :: word) :: rest else (c :: d :: word) :: rest

/-- The blanks in front of all words go to the first one. -/
def joinLeading : List (List Char) → List (List Char)
  | first :: second :: rest =>
    if first.all isBlank then (first ++ second) :: rest else first :: second :: rest
  | few => few

/-- The words of a line, each with the blanks after it. -/
def words (line : List Char) : List (List Char) := joinLeading (line.foldr addToWords [])

/-! ## Lines -/

/-- Cuts a word that is too long, beginning on a line of which `used` cells are taken. -/
def foldWord (width : Nat) : (used : Nat) → List Char → List (List Char)
  | _, [] => [[]]
  | used, c :: rest =>
    if width < used + cellWidth c then
      match foldWord width (cellWidth c) rest with
      | [] => [[], [c]]
      | line :: more => [] :: (c :: line) :: more
    else match foldWord width (used + cellWidth c) rest with
      | [] => [[c]]
      | line :: more => (c :: line) :: more

/-- The lines in front of the last one, and that. -/
def unsnoc : List (List Char) → List (List Char) × List Char
  | [] => ([], [])
  | [line] => ([], line)
  | line :: rest =>
    let (front, last) := unsnoc rest
    (line :: front, last)

/-- What becomes of a word that is too long for a line. -/
inductive Overflow where
  /-- It is cut into pieces on lines of their own. -/
  | fold
  /-- It is cut off, with a mark in place of what is missing. -/
  | ellipsis
  deriving DecidableEq, Repr

/-- Puts words on lines, the first of which is `line` with `used` cells so far. -/
def place (overflow : Overflow) (width : Nat) :
    (used : Nat) → (line : List Char) → List (List Char) → List (List Char)
  | _, line, [] => [line]
  | used, line, word :: rest =>
    let needed := cells (Text.trimEndWhere isBlank word)
    if used + needed ≤ width then place overflow width (used + cells word) (line ++ word) rest
    else
      let before := if line.isEmpty then [] else [line]
      if width < needed ∧ overflow = .fold then
        let (front, last) := unsnoc (foldWord width 0 word)
        before ++ front ++ place overflow width (cells last) last rest
      else before ++ place overflow width (cells word) word rest

/-- A line as lines of a width. -/
def wrap (overflow : Overflow) (width : Nat) (line : List Char) : List (List Char) :=
  place overflow width 0 [] (words line)

/-- The number of characters of a line without the blanks at its end that stand beyond the width. -/
def keptLength (width : Nat) (line : List Char) : Nat :=
  let blanks := line.length - (Text.trimEndWhere isBlank line).length
  line.length - min blanks (line.length - width)

/-- The part of a line that fits into a width. -/
def crop : (width : Nat) → List Char → List Char
  | _, [] => []
  | width, c :: rest => if cellWidth c ≤ width then c :: crop (width - cellWidth c) rest else []

/-! ## Texts -/

/-- The control characters that move the cursor do not go to a terminal. -/
def isMovement (c : Char) : Bool := [7, 8, 11, 12, 13].contains c.toNat

def withoutMovement (s : List Char) : List Char := s.filter fun c => !isMovement c

/-- The lines of a text. -/
def splitLines : List Char → List (List Char)
  | [] => [[]]
  | '\n' :: rest => [] :: splitLines rest
  | c :: rest => match splitLines rest with
    | [] => [[c]]
    | line :: more => (c :: line) :: more

/-- Blanks in place of tabs, up to columns that are multiples of eight. -/
def expandTabs : (column : Nat) → List Char → List Char
  | _, [] => []
  | column, '\t' :: rest =>
    let blanks := 8 - column % 8
    List.replicate blanks ' ' ++ expandTabs (column + blanks) rest
  | column, c :: rest => c :: expandTabs (column + cellWidth c) rest

/-- Blanks in place of tabs in a styled line. -/
def expandStyledTabs : (column : Nat) → Styled → Styled
  | _, [] => []
  | column, (style, piece) :: rest =>
    let wide := expandTabs column piece
    (style, wide) :: expandStyledTabs (column + cells wide) rest

/-- A line that ends at a width.  Where half a character would stand at the end there is a blank. -/
def cutOff (overflow : Overflow) (width : Nat) (line : Styled) : Styled :=
  if cells line.text ≤ width then line
  else
    let (room, mark) := match overflow with
      | .fold => (width, [])
      | .ellipsis => (width - 1, ['…'])
    let shown := crop room line.text
    line.take shown.length ++ .ofText .plain (List.replicate (room - cells shown) ' ' ++ mark)

/-- A styled line as lines of a width. -/
def wrapStyled (overflow : Overflow) (width : Nat) (line : Styled) : List Styled :=
  let line := expandStyledTabs 0 line
  let lines := wrap overflow width line.text
  (Styled.parts 0 (lines.map List.length) line).map fun part =>
    cutOff overflow width (part.take (keptLength width part.text))

/-- A styled text as lines of a width. -/
def layOut (overflow : Overflow) (width : Nat) (s : Styled) : List Styled :=
  (Styled.parts 1 ((splitLines s.text).map List.length) s).flatMap (wrapStyled overflow width)

/-- A text of no particular style as lines of a width. -/
def layOutText (overflow : Overflow) (width : Nat) (s : List Char) : List (List Char) :=
  (layOut overflow width (.ofText .plain (withoutMovement s))).map Styled.text

/-- Lines with a line feed after each. -/
def unlines (lines : List (List Char)) : List Char := lines.flatMap fun line => line ++ ['\n']

/-- A line filled up with blanks. -/
def padded (width : Nat) (line : List Char) : List Char :=
  line ++ List.replicate (width - cells line) ' '

/-- A line with blanks on both sides. -/
def centred (width : Nat) (line : List Char) : List Char :=
  let bare := Text.trimEndWhere isBlank line
  padded width (List.replicate ((width - cells bare) / 2) ' ' ++ bare)

end RequestPipeline.Terminal
