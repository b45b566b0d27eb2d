import RequestPipeline.Terminal.Markup
import RequestPipeline.Terminal.Wrap

/-!
# Tables

A table has a title, a head and rows, between lines that are drawn with box characters.  A column
is as wide as its widest cell.  Where the columns together are wider than the terminal, `narrowed`
takes width from the widest ones until the table fits, and `Table.draw` wraps their cells.
-/

namespace RequestPipeline.Terminal

open Text (cells)

/-- A table of text. -/
structure Table where
  title : List Char
  head : List (List Char)
  rows : List (List (List Char))

/-! ## Widths -/

def sum (widths : List Nat) : Nat := widths.foldl (· + ·) 0

def largest (widths : List Nat) : Nat := widths.foldl max 0

/-- The whole number nearest to `n / d`; of two the even one. -/
def nearestQuotient (n d : Nat) : Nat :=
  let q := n / d
  if 2 * (n % d) < d then q
  else if d < 2 * (n % d) then q + 1
  else if q % 2 = 0 then q else q + 1

/-- Takes an excess from the widths that are to give, in equal parts of at most `limit`. -/
def takeEqually (limit : Nat) : (givers excess : Nat) → List (Nat × Bool) → List Nat
  | _, _, [] => []
  | givers, excess, (width, gives) :: rest =>
    if gives && 0 < givers then
      let part := min limit (nearestQuotient excess givers)
      (width - part) :: takeEqually limit (givers - 1) (excess - part) rest
    else width :: takeEqually limit givers excess rest

/-- Narrows the widest columns to the next ones below them, until all fit. -/
def narrowWidest (room : Nat) : (fuel : Nat) → List Nat → List Nat
  | 0, widths => widths
  | fuel + 1, widths =>
    let excess := sum widths - room
    let top := largest widths
    let next := largest (widths.filter (· != top))
    if excess = 0 || top = next then widths
    else
      let marked := widths.map fun width => (width, width == top)
      let givers := (marked.filter (·.2)).length
      narrowWidest room fuel (takeEqually (min excess (top - next)) givers excess marked)

/-- Widths that fit into a room. -/
def narrowed (room : Nat) (widths : List Nat) : List Nat := narrowWidest room (sum widths) widths

/-! ## Cells -/

/-- The lines of a cell, with a blank on both sides. -/
def cellLines (width : Nat) (cell : List Char) : List (List Char) :=
  (layOutText .ellipsis (width - 2) (Markup.render cell)).map (padded (width - 2))

/-- The width of a column of cells, with the blanks on both sides. -/
def columnWidth (column : List (List Char)) : Nat :=
  largest (column.map fun cell => largest ((splitLines (Markup.render cell)).map cells)) + 2

/-- The columns of rows of cells. -/
def columns (head : List (List Char)) (rows : List (List (List Char))) : List (List (List Char)) :=
  (List.range head.length).map fun n => head.getD n [] :: rows.map fun row => row.getD n []

/-! ## Lines -/

def bar (c : Char) (width : Nat) : List Char := List.replicate width c

/-- A line across the table. -/
def rule (left line cross right : Char) (widths : List Nat) : List Char :=
  left :: [cross].intercalate (widths.map (bar line)) ++ [right]

/-- The text of a cell between its blanks, in a style. -/
def cellText (styles : Bool) (style : Style) (line : List Char) : List Char :=
  Styled.render styles [(style, [' ']), (style, line), (style, [' '])]

/-- The lines of a row with a mark at both ends and between the cells. -/
def rowLines (styles : Bool) (style : Style) (mark : Char) (widths : List Nat)
    (row : List (List Char)) : List (List Char) :=
  let parts := List.zipWith (fun width cell => (width, cellLines width cell)) widths row
  let height := largest (parts.map fun (_, lines) => lines.length)
  (List.range height).map fun n =>
    mark :: [mark].intercalate (parts.map fun (width, lines) =>
      cellText styles style (lines.getD n (bar ' ' (width - 2)))) ++ [mark]

/-- The title, centred over the table. -/
def titleLines (styles : Bool) (width : Nat) (title : List Char) : List (List Char) :=
  if title.isEmpty then []
  else (layOutText .fold width (Markup.render title)).map fun line =>
    Styled.render styles (.ofText .slanted (centred width line))

/-- The lines of a table that is at most `width` cells wide. -/
def Table.draw (styles : Bool) (width : Nat) (t : Table) : List (List Char) :=
  let borders := t.head.length + 1
  let room := width - borders
  let widths := narrowed room ((columns t.head t.rows).map fun column =>
    min room (columnWidth column))
  titleLines styles (sum widths + borders) t.title
    ++ [rule '┏' '━' '┳' '┓' widths]
    ++ rowLines styles .strong '┃' widths t.head
    ++ [rule '┡' '━' '╇' '┩' widths]
    ++ t.rows.flatMap (rowLines styles .plain '│' widths)
    ++ [rule '└' '─' '┴' '┘' widths]

end RequestPipeline.Terminal
