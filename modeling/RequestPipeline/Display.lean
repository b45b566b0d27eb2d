import RequestPipeline.Session
import RequestPipeline.Settings.Surroundings
import RequestPipeline.Terminal.Highlight
import RequestPipeline.Terminal.Table

/-!
# The display

What the program prints goes two ways that never mix: results go to the output, which other programs
read, and all else goes to the diagnostics.  A display knows how results are laid out and which
diagnostics are wanted.

The output takes characters only.  What is to be printed with a surrogate in it fails there, and
what was printed before stays; the diagnostics show surrogates as escapes.
-/

namespace RequestPipeline

open Terminal (unlines layOut layOutText)
open Text (Str)

/-- The layouts of results. -/
inductive Layout where
  | json
  /-- One line for each entry, with tabs between its fields. -/
  | plain
  /-- For a terminal. -/
  | rich
  deriving DecidableEq, Repr

namespace Layout

def name : Layout → String
  | .json => "json"
  | .plain => "plain"
  | .rich => "rich"

def ofName? (name : String) : Option Layout :=
  [Layout.json, .plain, .rich].find? fun layout => layout.name == name

end Layout

/-- How the program prints: the layout of results, and where and how diagnostics go. -/
structure Display where
  layout : Layout
  /-- Diagnostics are printed as they are, without wrapping. -/
  bare : Bool
  /-- Notices and the lines of the log are not wanted. -/
  quiet : Bool
  /-- Details are wanted. -/
  verbose : Bool
  /-- The width of the terminal in cells. -/
  width : Nat
  /-- The terminal knows styles. -/
  styles : Bool
  deriving Repr

namespace Display

/-! ## Displays -/

/-- The surroundings ask for no colours. -/
def colourless (s : Surroundings) : Bool :=
  (s.setting? "NO_COLOR").isSome || s.setting? "TERM" == some "dumb"

/-- The terminal knows no control sequences. -/
def isDumb (s : Surroundings) : Bool :=
  let name := ((s.setting? "TERM").getD "").toLower
  name == "dumb" || name == "unknown"

/-- The width of the terminal. -/
def columns (s : Surroundings) : Nat :=
  match s.setting? "COLUMNS" with
  | some text => if text.isNat && !text.contains '_' then text.toNat?.getD 80 else 80
  | none => 80

/-- The layout for someone who asks for none in particular. -/
def usualLayout (terminal bare : Bool) : Layout := if terminal && !bare then .rich else .plain

/-- The display for some surroundings; `terminal` says that results go to a terminal. -/
def create (s : Surroundings) (terminal : Bool) (layout : Option Layout)
    (noColour quiet verbose : Bool) : Display :=
  let bare := noColour || colourless s
  { layout := layout.getD (usualLayout terminal bare)
    bare, quiet, verbose
    width := columns s
    styles := !isDumb s }

/-! ## Printing -/

/-- The text that reached the output, and the fault at which printing stopped if it did. -/
structure Printed where
  text : List Char
  fault : Option Failure.Reason

namespace Printed

def whole (text : List Char) : Printed := ⟨text, none⟩

def nothing (reason : Failure.Reason) : Printed := ⟨[], some reason⟩

/-- Prints texts, a line break behind each, up to the first one that has no form in UTF-8. -/
def lines : List Str → Printed
  | [] => whole []
  | line :: rest => match line.encodable with
    | .error fault => nothing (.unprintable fault)
    | .ok text => { lines rest with text := text ++ '\n' :: (lines rest).text }

/-- Prints a text that is made for the output, or nothing if it cannot be made. -/
def line : Except Failure.Reason Str → Printed
  | .error reason => nothing reason
  | .ok text => lines [text]

/-- Prints a text that is laid out first. -/
def laidOut (text : Str) (layOut : List Char → List Char) : Printed :=
  match text.encodable with
  | .error fault => nothing (.unprintable fault)
  | .ok text => whole (layOut text)

end Printed

/-! ## Results -/

/-- The JSON text of a value over several lines. -/
def jsonText (v : Value) : Except Failure.Reason Str :=
  (Json.indented v).mapError fun fault => .encoding (.unwritable fault)

def tab : Text.CodePoint := .char '\t'

/-- The fields of a line. -/
def fields (v : Value) : Str :=
  match v with
  | .dict entries => [tab].intercalate (entries.map fun (_, v) => v.text)
  | v => v.text

/-- A line for each entry of a mapping and each item of a list, or one for the value itself. -/
def plainLines (v : Value) : List Str :=
  match v with
  | .dict entries => entries.map fun (k, v) => k.text ++ tab :: v.text
  | .list items => items.map fields
  | v => [v.text]

/-- Lines on a terminal of the display's width; a width of zero has room for none. -/
def lay (d : Display) (lines : List (List Char)) : List Char :=
  if d.width = 0 then [] else unlines lines

/-- Lines that fill the width. -/
def block (width : Nat) (s : List Char) : List (List Char) :=
  (layOutText .fold width s).map (Terminal.padded width)

/-- A text styled by the highlighter. -/
def highlighted (d : Display) (s : List Char) : List (List Char) :=
  (layOut .fold d.width (Terminal.highlight (Terminal.withoutMovement s))).map
    (Terminal.Styled.render d.styles)

/-- Binary data as the text that it holds in UTF-8, with replacement characters; any other value as
it is. -/
def readable (v : Value) : Value :=
  match v with
  | .bytes b => .str (.ofChars (Text.decodeUtf8Lossy b))
  | v => v

/-- A result in JSON; text that is JSON itself counts as what it says. -/
def jsonPayload (v : Value) : Except Failure.Reason Str :=
  match v with
  | .str s => match Json.read s with
    | .ok v => jsonText v
    | .error (.tooManyDigits n) => .error (.json (.tooManyDigits n))
    | .error _ => .ok s
  | v => jsonText v

/-- Prints JSON for a terminal. -/
def printBlock (d : Display) (v : Value) : Printed :=
  match jsonText v with
  | .error reason => .nothing reason
  | .ok text => .laidOut text fun s => d.lay (block d.width s)

/-- Prints a result. -/
def payload (d : Display) (v : Value) : Printed :=
  match d.layout, readable v with
  | .json, v => .line (jsonPayload v)
  | .plain, v => .lines (plainLines v)
  | .rich, .dict entries => d.printBlock (.dict entries)
  | .rich, .list items => d.printBlock (.list items)
  | .rich, v => .laidOut v.text fun s => d.lay (d.highlighted s)

/-- The rows of a listing; a dash stands for nothing. -/
def rows (entries : List (String × String)) : List (String × String) :=
  entries.map fun (phase, names) => (phase, if names.isEmpty then "-" else names)

/-- Prints the names of hooks by their phases. -/
def listing (d : Display) (title : String) (entries : List (String × String)) : Printed :=
  match d.layout with
  | .json =>
    let items := (rows entries).map fun (phase, names) =>
      Value.dict [(.str "phase", .str phase), (.str "hooks", .str names)]
    .line (jsonText (.list items))
  | .plain =>
    .lines ((("phase", "hooks") :: rows entries).map fun (phase, names) =>
      .ofChars (phase.toList ++ '\t' :: names.toList))
  | .rich =>
    let table : Terminal.Table :=
      { title := title.toList
        head := ["phase".toList, "hooks".toList]
        rows := (rows entries).map fun (phase, names) => [phase.toList, names.toList] }
    .whole (d.lay (table.draw d.styles d.width))

/-! ## Diagnostics -/

/-- A text on the lines it takes. -/
def wrapped (d : Display) (s : List Char) : List Char := d.lay (layOutText .fold d.width s)

/-- A message between other texts: as it is, or with markup around it. -/
def message (d : Display) (bareBefore before after : String) (s : Str) : List Char :=
  if d.bare then bareBefore.toList ++ s.escaped ++ ['\n']
  else
    let marked := before.toList ++ Terminal.Markup.escape s.escaped ++ after.toList
    d.wrapped (Terminal.Markup.render marked)

/-- A line of the log. -/
def logLine (d : Display) (line : Str) : List Char :=
  if d.quiet then []
  else if d.bare then line.escaped ++ ['\n']
  else d.wrapped line.escaped

/-- The lines that events send to the diagnostics. -/
def logged (d : Display) (events : List Event) : List Char :=
  events.flatMap fun event => match event with
    | .log .output line => d.logLine line
    | _ => []

/-- Values as a line of the log. -/
def logValues (d : Display) (values : List Value) : List Char :=
  d.logLine ([.char ' '].intercalate (values.map Value.text))

/-- A notice among the diagnostics, left out by a quiet display. -/
def notice (d : Display) (s : Str) : List Char :=
  if d.quiet then [] else d.message "" "[cyan]" "[/cyan]" s

/-- An error message among the diagnostics, which a quiet display prints as well. -/
def problem (d : Display) (s : Str) : List Char :=
  d.message "Error: " "[bold red]Error:[/bold red] " "" s

/-- A line among the diagnostics that only a verbose display prints. -/
def detail (d : Display) (s : Str) : List Char :=
  if d.verbose then d.message "[debug] " "[dim]\\[debug] " "[/dim]" s else []

end Display

end RequestPipeline
