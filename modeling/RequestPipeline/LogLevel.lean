import RequestPipeline.Failure
import RequestPipeline.Text.LetterCase

/-!
# Log levels

A level is a set of bits: one for errors, one for debugging, and two that refine debugging.
`LogLevel.atLeast` compares levels as numbers and `LogLevel.covers` as sets.  `LogLevel.parse`
reads names joined by plus signs, without regard to case, and fails on a name it does not know.
-/

namespace RequestPipeline

/-- How much a request logs. -/
abbrev LogLevel := Nat

namespace LogLevel

def silent : LogLevel := 0
def error : LogLevel := 0x1000
def debug : LogLevel := 0x2000
def debugBody : LogLevel := 0x2001
def debugRetries : LogLevel := 0x2002

/-- The level is at least the other one as a number. -/
def atLeast (level other : LogLevel) : Bool := other ≤ level

/-- A level has every bit of another one, which has some. -/
def covers (level other : LogLevel) : Bool := other != 0 && level &&& other == other

/-- The level of a name. -/
def ofName? (name : List Char) : Option LogLevel :=
  match String.ofList name with
  | "silent" => some silent
  | "error" => some error
  | "debug" => some debug
  | "debug-body" => some debugBody
  | "debug-retries" => some debugRetries
  | _ => none

/-- The union of the levels of names, or the first name that is none. -/
def ofNames : List (List Char) → Except Failure.Reason LogLevel
  | [] => .ok silent
  | name :: rest => match ofName? name with
    | none => .error (.unknownLevel (String.ofList name))
    | some level => (ofNames rest).map (level ||| ·)

/-- Names in any case, with blanks around them, joined by plus signs. -/
def parse (s : List Char) : Except Failure.Reason LogLevel :=
  ofNames ((Url.splitAll '+' (Text.lower s)).map Text.trim)

end LogLevel

end RequestPipeline
