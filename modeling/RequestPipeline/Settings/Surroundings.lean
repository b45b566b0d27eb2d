import RequestPipeline.Text.Utf8
import RequestPipeline.Url.Address

/-!
# The surroundings of the program

Settings are read from environment variables, from a file in the working directory and from a file
in the user's configuration directory.  `Surroundings` holds all of these: the variables, the name
of the platform, which decides where `Surroundings.configDirectory` is, and the files by their
paths in normal form.
-/

namespace RequestPipeline

open Text (Bytes)

/-- A path without empty steps and steps that stay in place. -/
structure Path where
  absolute : Bool
  steps : List (List Char)
  deriving DecidableEq, Repr

namespace Path

def ofText (s : List Char) : Path where
  absolute := s.head? = some '/'
  steps := (Url.splitAll '/' s).filter fun step => !step.isEmpty && step != ['.']

/-- A path below another one. -/
def below (p : Path) (step : String) : Path := { p with steps := p.steps ++ [step.toList] }

def text (p : Path) : List Char :=
  let joined := ['/'].intercalate p.steps
  if p.absolute then '/' :: joined else if joined.isEmpty then ['.'] else joined

end Path

/-- What stands at a path. -/
inductive FileNode where
  | file (bytes : Bytes)
  | directory
  deriving DecidableEq, Repr

/-- What the program finds around it. -/
structure Surroundings where
  /-- Of variables set more than once the first counts. -/
  environment : List (String × String)
  platform : String
  workingDirectory : String
  /-- Files by their paths, of which some begin at the working directory. -/
  files : List (String × FileNode)

namespace Surroundings

def setting? (s : Surroundings) (name : String) : Option String := s.environment.lookup name

/-- There is a directory at the end of the steps. -/
def hasDirectory (s : Surroundings) (steps : List (List Char)) : Bool :=
  steps.isEmpty || s.files.any fun (name, node) =>
    let place := (Path.ofText name.toList).steps
    steps.isPrefixOf place && (steps != place || node == .directory)

/-- Follows the steps of a path that go back, as long as there are directories to go back from. -/
def resolve (s : Surroundings) : (done : List (List Char)) → List (List Char) →
    Option (List (List Char))
  | done, [] => some done
  | done, step :: rest =>
    if step = ['.', '.'] then
      if !done.isEmpty && s.hasDirectory done then resolve s done.dropLast rest else none
    else resolve s (done ++ [step]) rest

/-- The bytes of the file at a path. -/
def file? (s : Surroundings) (p : Path) : Option Bytes :=
  match if p.absolute then some p.steps else s.resolve [] p.steps with
  | none => none
  | some steps =>
    match s.files.find? fun (name, _) => decide (Path.ofText name.toList = ⟨p.absolute, steps⟩) with
    | some (_, .file bytes) => some bytes
    | _ => none

/-- The platforms on which applications keep their settings below one directory. -/
def sharesConfigDirectory (s : Surroundings) : Bool :=
  s.platform == "Linux" || "BSD".toList.isSuffixOf s.platform.toList

/-- The home directory of the user. -/
def home (s : Surroundings) : Path :=
  let given := ((s.setting? "HOME").getD "").toList
  let bare := (given.reverse.dropWhile (· == '/')).reverse
  Path.ofText (if bare.isEmpty then ['/'] else bare)

/-- The directory that holds the user's settings. -/
def configDirectory (s : Surroundings) : Path :=
  if s.sharesConfigDirectory then
    let base := match s.setting? "XDG_CONFIG_HOME" with
      | none | some "" => s.home.below ".config"
      | some given => Path.ofText given.toList
    base.below "hookline"
  else s.home.below ".hookline"

end Surroundings

end RequestPipeline
