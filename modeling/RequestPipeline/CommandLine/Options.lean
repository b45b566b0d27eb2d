import RequestPipeline.CommandLine.Usage
import RequestPipeline.Text.Similar

/-!
# Options

An option is a word that starts with a hyphen.  One with a long name stands alone, with its value
behind an equals sign or in the next word; options with names of one letter may share a word, of
which the last takes the rest as its value.
-/

namespace RequestPipeline.CommandLine

/-- An option with its names; `ω` are the options of a command. -/
structure OptionForm (ω : Type) where
  option : ω
  names : List String
  takesValue : Bool

/-- Options in the order of the command line, with their values. -/
abbrev Given (ω : Type) := List (ω × Option String)

/-- The options of a command line, and the words that are none. -/
structure Scanned (ω : Type) where
  given : Given ω
  words : List String

/-- Options in front of those of the rest. -/
def Scanned.prepend {ω : Type} (given : Given ω) (s : Scanned ω) : Scanned ω :=
  { s with given := given ++ s.given }

/-- What a word with options in it says. -/
inductive Reading (ω : Type) where
  | complete (given : Given ω)
  /-- The value of the last option, as it is called here, is the next word. -/
  | awaits (given : Given ω) (option : ω) (name : String)

namespace OptionForm

variable {ω : Type}

/-- An option that is there or not. -/
def flag (option : ω) (names : List String) : OptionForm ω := ⟨option, names, false⟩

def find? (forms : List (OptionForm ω)) (name : String) : Option (OptionForm ω) :=
  forms.find? fun form => form.names.contains name

/-- A name with two hyphens. -/
def isLong (name : String) : Bool := "--".toList.isPrefixOf name.toList

/-- The names with two hyphens. -/
def longNames (forms : List (OptionForm ω)) : List String :=
  (forms.flatMap OptionForm.names).filter isLong

/-- Reads the letters of a word with a single hyphen. -/
def readLetters (forms : List (OptionForm ω)) : List Char → Except UsageFault (Reading ω)
  | [] => .ok (.complete [])
  | letter :: rest =>
    let name := String.ofList ['-', letter]
    match find? forms name with
    | none => .error (.unknownOption name [])
    | some form =>
      if !form.takesValue then
        match readLetters forms rest with
        | .ok (.complete given) => .ok (.complete ((form.option, none) :: given))
        | .ok (.awaits given option name) =>
          .ok (.awaits ((form.option, none) :: given) option name)
        | .error fault => .error fault
      else if rest.isEmpty then .ok (.awaits [] form.option name)
      else .ok (.complete [(form.option, some (String.ofList rest))])

/-- Reads a word that names one option, perhaps with its value. -/
def readLong (forms : List (OptionForm ω)) (name : String) (value : Option String) :
    Except UsageFault (Reading ω) :=
  match find? forms name with
  | none => .error (.unknownOption name (Text.closest name (longNames forms)))
  | some form =>
    match form.takesValue, value with
    | false, none => .ok (.complete [(form.option, none)])
    | false, some _ => .error (.unwantedValue name)
    | true, none => .ok (.awaits [] form.option name)
    | true, some value => .ok (.complete [(form.option, some value)])

/-- Reads a word with options in it. -/
def read (forms : List (OptionForm ω)) (word : String) : Except UsageFault (Reading ω) :=
  if isLong word then
    let (name, value) := Url.cut '=' word.toList
    readLong forms (String.ofList name) (value.map String.ofList)
  else readLetters forms (word.toList.drop 1)

/-- A word has options in it if it starts with a hyphen and goes on. -/
def isOptionWord (word : String) : Bool :=
  match word.toList with
  | '-' :: _ :: _ => true
  | _ => false

/-- The options of a command line.  After two hyphens alone there are none, and unless they may be
`mixed` with other words, there are none after the first word that is no option. -/
def scan (forms : List (OptionForm ω)) (mixed : Bool) :
    List String → Except UsageFault (Scanned ω)
  | [] => .ok ⟨[], []⟩
  | word :: rest =>
    if word = "--" then .ok ⟨[], rest⟩
    else if isOptionWord word then
      match read forms word with
      | .error fault => .error fault
      | .ok (.complete given) => (scan forms mixed rest).map (Scanned.prepend given)
      | .ok (.awaits given option name) =>
        match rest with
        | [] => .error (.missingValue name)
        | value :: rest =>
          (scan forms mixed rest).map (Scanned.prepend (given ++ [(option, some value)]))
    else if mixed then (scan forms mixed rest).map fun s => { s with words := word :: s.words }
    else .ok ⟨[], word :: rest⟩

/-- The options that were given, each once, in the order of their first places. -/
def order [BEq ω] (given : Given ω) : List ω := (given.map Prod.fst).eraseDups

/-- The option was given. -/
def isGiven [BEq ω] (given : Given ω) (option : ω) : Bool := (given.map Prod.fst).contains option

/-- All values that an option was given. -/
def valuesOf [BEq ω] (given : Given ω) (option : ω) : List String :=
  given.filterMap fun (o, value) => if o == option then value else none

/-- The value of an option that was given; the last one counts. -/
def value? [BEq ω] (given : Given ω) (option : ω) : Option String :=
  (valuesOf given option).getLast?

end OptionForm

end RequestPipeline.CommandLine
