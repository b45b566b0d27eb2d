import RequestPipeline.Failure

/-!
# Wrong usage

What can be wrong with the words of a command line before anything is done with them.
-/

namespace RequestPipeline.CommandLine

/-- What is wrong with a command line. -/
inductive UsageFault where
  /-- No option has the name; some names are similar. -/
  | unknownOption (name : String) (similar : List String)
  | unwantedValue (option : String)
  | missingValue (option : String)
  | missingCommand
  /-- No command has the name; some names are similar. -/
  | unknownCommand (name : String) (similar : List String)
  | missingArgument (name : String)
  | extraArguments (words : List String)
  /-- The value of an option, which may have several names, is not what it should be. -/
  | badValue (names : List String) (message : String)
  deriving DecidableEq, Repr

namespace UsageFault

open Failure (between)

/-- A name as it was typed, between quotes. -/
def typed (name : String) : String := String.ofList (Text.quoted name.toList)

/-- The options that may have been meant. -/
def optionHint (similar : List String) : String :=
  match similar.mergeSort (fun a b => decide (a ≤ b)) with
  | [] => ""
  | [name] => s!" Did you mean {name}?"
  | names =>
    let listed := ", ".intercalate names
    s!" (Possible options: {listed})"

/-- The commands that may have been meant. -/
def commandHint (similar : List String) : String :=
  if similar.isEmpty then ""
  else
    let listed := ", ".intercalate (similar.map typed)
    s!" Did you mean {listed}?"

/-- The fault in words. -/
def message : UsageFault → String
  | .unknownOption name similar => s!"No such option: {name}" ++ optionHint similar
  | .unwantedValue option => s!"Option {between option} does not take a value."
  | .missingValue option => s!"Option {between option} requires an argument."
  | .missingCommand => "Missing command."
  | .unknownCommand name similar => s!"No such command {typed name}." ++ commandHint similar
  | .missingArgument name => s!"Missing argument {between name}."
  | .extraArguments words =>
    let listed := " ".intercalate words
    s!"Got unexpected extra argument(s) ({listed})"
  | .badValue names message =>
    let listed := " / ".intercalate (names.map between)
    s!"Invalid value for {listed}: {message}"

end UsageFault

end RequestPipeline.CommandLine
