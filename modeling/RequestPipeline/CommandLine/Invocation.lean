import RequestPipeline.CommandLine.Options
import RequestPipeline.Display
import RequestPipeline.Operation

/-!
# Invocations

The program is called with options of its own, a command, and the words of the command.  The command
`call` sends a request, `hooks` lists the hooks of a request, and `config` shows the settings.
-/

namespace RequestPipeline.CommandLine

/-! ## Options -/

/-- The options of the program. -/
inductive ProgramOption where
  | version
  | json
  | plain
  | noColour
  | quiet
  | verbose
  | help
  deriving DecidableEq, Repr

def ProgramOption.forms : List (OptionForm ProgramOption) := [
  .flag .version ["--version"],
  .flag .json ["--json"],
  .flag .plain ["--plain"],
  .flag .noColour ["--no-color"],
  .flag .quiet ["--quiet", "-q"],
  .flag .verbose ["--verbose", "-v"],
  .flag .help ["--help"]]

/-- The option of a command that has no others. -/
inductive HelpOption where
  | help
  deriving DecidableEq, Repr

def HelpOption.forms : List (OptionForm HelpOption) := [.flag .help ["--help"]]

/-- The options of the command `call`. -/
inductive CallOption where
  | endpoint
  | body
  | header
  | name
  | retries
  | maxElapsed
  | initialDelay
  | multiplier
  | maxDelay
  | jitter
  | timeout
  | disableSsl
  | noFollowRedirects
  | logLevel
  | help
  deriving DecidableEq, Repr

namespace CallOption

def names : CallOption → List String
  | .endpoint => ["--endpoint", "-e"]
  | .body => ["--body", "-b"]
  | .header => ["--header", "-H"]
  | .name => ["--name"]
  | .retries => ["--retries", "-r"]
  | .maxElapsed => ["--max-elapsed"]
  | .initialDelay => ["--initial-delay"]
  | .multiplier => ["--multiplier"]
  | .maxDelay => ["--max-delay"]
  | .jitter => ["--jitter"]
  | .timeout => ["--timeout", "-t"]
  | .disableSsl => ["--disable-ssl"]
  | .noFollowRedirects => ["--no-follow-redirects"]
  | .logLevel => ["--log-level"]
  | .help => ["--help"]

def all : List CallOption := [.endpoint, .body, .header, .name, .retries, .maxElapsed,
  .initialDelay, .multiplier, .maxDelay, .jitter, .timeout, .disableSsl, .noFollowRedirects,
  .logLevel, .help]

def takesValue : CallOption → Bool
  | .disableSsl | .noFollowRedirects | .help => false
  | _ => true

def forms : List (OptionForm CallOption) := all.map fun o => ⟨o, o.names, o.takesValue⟩

/-- What the value of an option has to be. -/
def schema : CallOption → Schema
  | .retries => .int .nonNegative
  | .maxElapsed | .initialDelay | .maxDelay => .float .nonNegative
  | .multiplier | .timeout => .float .unbounded
  | .jitter => .float .fraction
  | _ => .str

/-- The complaint about a value that passes the schema of its option but not the check behind it. -/
def objection? : CallOption → Value → Option String
  | .multiplier, .float x => if x ≤ 0 then some "must be greater than 0" else none
  | _, _ => none

/-- The value of an option from its text. -/
def read (o : CallOption) (text : String) : Except UsageFault Value :=
  match o.schema.check (.str text) with
  | .error found =>
    .error (.badValue o.names (((found.map fun f => f.complaint.message).head?).getD ""))
  | .ok v => match objection? o v with
    | some message => .error (.badValue o.names message)
    | none => .ok v

end CallOption

/-! ## Commands -/

/-- The arguments of the command `call`. -/
structure CallArguments where
  method : String
  path : String
  endpoint : Option String
  body : Option String
  /-- Headers as they were typed. -/
  headers : List String
  name : String
  retries : Option Int
  maxElapsed : Option Float
  initialDelay : Option Float
  multiplier : Option Float
  maxDelay : Option Float
  jitter : Option Float
  timeout : Option Float
  disableSsl : Bool
  noFollowRedirects : Bool
  logLevel : Option String

namespace CallArguments

/-- The values of the options that have one, in the order of their first places. -/
def readValues (given : Given CallOption) : Except UsageFault (List (CallOption × Value)) :=
  ((OptionForm.order given).filterMap fun o =>
    (OptionForm.value? given o).map fun text => (o, text)).mapM fun (o, text) =>
      (o.read text).map fun v => (o, v)

/-- The arguments that options and two words make. -/
def ofOptions (given : Given CallOption) (values : List (CallOption × Value))
    (method path : String) : CallArguments :=
  let value? (o : CallOption) := values.lookup o
  { method, path
    endpoint := (value? .endpoint).map Value.asText
    body := (value? .body).map Value.asText
    headers := OptionForm.valuesOf given .header
    name := ((value? .name).map Value.asText).getD ""
    retries := (value? .retries).map Value.asInt
    maxElapsed := (value? .maxElapsed).map Value.asFloat
    initialDelay := (value? .initialDelay).map Value.asFloat
    multiplier := (value? .multiplier).map Value.asFloat
    maxDelay := (value? .maxDelay).map Value.asFloat
    jitter := (value? .jitter).map Value.asFloat
    timeout := (value? .timeout).map Value.asFloat
    disableSsl := OptionForm.isGiven given .disableSsl
    noFollowRedirects := OptionForm.isGiven given .noFollowRedirects
    logLevel := (value? .logLevel).map Value.asText }

/-- The arguments of scanned words: the values of options are read before words are missed. -/
def ofScanned (s : Scanned CallOption) : Except UsageFault CallArguments :=
  match readValues s.given with
  | .error fault => .error fault
  | .ok values => match s.words with
    | [] => .error (.missingArgument "method")
    | [_] => .error (.missingArgument "path")
    | [method, path] => .ok (ofOptions s.given values method path)
    | _ :: _ :: extra => .error (.extraArguments extra)

/-- The layer of settings that the arguments make; null stands for what they leave open. -/
def settings (a : CallArguments) : List (String × Value) :=
  let orNull {α : Type} (f : α → Value) (v : Option α) : Value := (v.map f).getD .null
  [("endpoint", orNull .str a.endpoint),
    ("disable_ssl", if a.disableSsl then .bool true else .null),
    ("follow_redirects", if a.noFollowRedirects then .bool false else .null),
    ("max_retries", orNull .int a.retries),
    ("max_elapsed_time", orNull .float a.maxElapsed),
    ("initial_delay", orNull .float a.initialDelay),
    ("multiplier", orNull .float a.multiplier),
    ("max_delay", orNull .float a.maxDelay),
    ("jitter", orNull .float a.jitter),
    ("log_level", orNull .str a.logLevel)]

/-- The operation to perform; its own name wins over the one made of method and path. -/
def operation (a : CallArguments) : Operation where
  name :=
    if a.name.isEmpty then String.ofList (Text.upper a.method.toList ++ ' ' :: a.path.toList)
    else a.name
  method :=
    if a.method.isEmpty then Schema.usualMethod
    else String.ofList (Text.upper a.method.toList)
  path := a.path

end CallArguments

/-- The commands of the program. -/
inductive Command where
  | call (arguments : CallArguments)
  | hooks
  | config
  /-- The help for a command. -/
  | help (name : String)

namespace Command

def names : List String := ["call", "hooks", "config"]

/-- Reads the words of a command that takes none. -/
def parseBare (name : String) (command : Command) (words : List String) :
    Except UsageFault Command :=
  match OptionForm.scan HelpOption.forms true words with
  | .error fault => .error fault
  | .ok s =>
    if !s.given.isEmpty then .ok (.help name)
    else if s.words.isEmpty then .ok command
    else .error (.extraArguments s.words)

/-- Reads the words of the command `call`. -/
def parseCall (words : List String) : Except UsageFault Command :=
  match OptionForm.scan CallOption.forms true words with
  | .error fault => .error fault
  | .ok s =>
    if OptionForm.isGiven s.given .help then .ok (.help "call")
    else (CallArguments.ofScanned s).map .call

/-- The command of a name with its words. -/
def parse? (name : String) (words : List String) : Option (Except UsageFault Command) :=
  match name with
  | "call" => some (parseCall words)
  | "hooks" => some (parseBare name .hooks words)
  | "config" => some (parseBare name .config words)
  | _ => none

end Command

/-! ## The whole command line -/

/-- How the program is to print. -/
structure Preferences where
  layout : Option Layout
  noColour : Bool
  quiet : Bool
  verbose : Bool
  deriving DecidableEq, Repr

/-- The preferences that options express; JSON wins over plain lines. -/
def Preferences.ofOptions (given : Given ProgramOption) : Preferences where
  layout :=
    if OptionForm.isGiven given .json then some .json
    else if OptionForm.isGiven given .plain then some .plain
    else none
  noColour := OptionForm.isGiven given .noColour
  quiet := OptionForm.isGiven given .quiet
  verbose := OptionForm.isGiven given .verbose

/-- What a command line asks for. -/
inductive Invocation where
  | version
  | help
  | command (preferences : Preferences) (command : Command)

namespace Invocation

/-- Options that are answered before anything else; the first one counts. -/
def immediate? (given : Given ProgramOption) : Option Invocation :=
  given.findSome? fun (o, _) => match o with
    | .version => some .version
    | .help => some .help
    | _ => none

/-- The answer to a name that is no command.  If it has the form of an option, the words are read
once more from there, as if nothing stood before them. -/
def ofUnknown (name : String) (words : List String) : Except UsageFault Invocation :=
  let unknown := UsageFault.unknownCommand name (Text.closest name Command.names)
  if OptionForm.isOptionWord name then
    match OptionForm.scan ProgramOption.forms false (name :: words) with
    | .error fault => .error fault
    | .ok s => match immediate? s.given with
      | some invocation => .ok invocation
      | none => .error unknown
  else .error unknown

/-- The invocation of a command line. -/
def parse (words : List String) : Except UsageFault Invocation :=
  match OptionForm.scan ProgramOption.forms false words with
  | .error fault => .error fault
  | .ok s => match immediate? s.given, s.words with
    | some invocation, _ => .ok invocation
    | none, [] => .error .missingCommand
    | none, name :: rest => match Command.parse? name rest with
      | none => ofUnknown name rest
      | some (.error fault) => .error fault
      | some (.ok parsed) => .ok (.command (.ofOptions s.given) parsed)

end Invocation

end RequestPipeline.CommandLine
