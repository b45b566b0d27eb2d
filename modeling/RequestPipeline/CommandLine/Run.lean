import RequestPipeline.Client
import RequestPipeline.CommandLine.Input
import RequestPipeline.CommandLine.Invocation
import RequestPipeline.CoreHook

/-!
# Running the program

A run of the program is a function of its command line, of what the program finds around it, and of
conditions it cannot choose.  It ends with an exit code, and with what was printed to the output and
to the diagnostics.

Between a command and the end of the run there are three handlers.  A command reports the failures
of the pipeline by itself and asks for an exit.  The library that reads command lines lets requests
to exit and failures pass, but an interruption from the keyboard becomes a request to exit, without
a word.  The program itself reports what is left.  A signal prints its farewell and asks for an exit
at once, wherever the program is.
-/

namespace RequestPipeline.CommandLine

/-- What a run depends on besides its words and surroundings: the clock at its beginning, the
answers of the network, what the HTTP library adds to messages, and the random numbers for waits. -/
structure Conditions where
  clock : Float
  tape : List Outcome
  network : Network
  source : Nat → Float

/-- The world in which a run begins. -/
def Conditions.world (c : Conditions) : World Unit where
  clock := c.clock
  tape := c.tape
  network := c.network
  cookies := []
  failures := .empty
  connections := #[]
  events := []
  memory := ()

/-- How the function of a command is left. -/
inductive Leave where
  | returned
  /-- A request to exit with a code. -/
  | exit (code : Int)
  | failed (f : Failure)

/-- How a command was left, with what it printed and the world after it. -/
structure Departure where
  leave : Leave
  output : List Char
  diagnostics : List Char
  /-- The world after the command. -/
  world : World Unit

/-- The end of a run: the exit code, what was printed, and the world after it. -/
structure Ending where
  exitCode : Int
  output : List Char
  diagnostics : List Char
  /-- The world after the run. -/
  world : World Unit

/-- The exit code of a run that is cancelled. -/
def cancelledCode : Int := 130

/-- The text for a run that is cancelled. -/
def farewell : List Char := "\nCancelled.\n".toList

namespace Departure

/-- A command that returns. -/
def done (output diagnostics : List Char) (w : World Unit) : Departure :=
  ⟨.returned, output, diagnostics, w⟩

/-- A command that a failure ends after it printed something.  The handler of a signal prints the
farewell and asks for an exit with its own code, so that failure is no failure of the command. -/
def ofFailure (output diagnostics : List Char) (f : Failure) (w : World Unit) : Departure :=
  if f.kind = .outside .signal then
    ⟨.exit cancelledCode, output, diagnostics ++ farewell, w⟩
  else ⟨.failed f, output, diagnostics, w⟩

/-- A command that a stop of the pipeline ends. -/
def ofStop (diagnostics : List Char) (stop : Stop) (w : World Unit) : Departure :=
  match stop with
  | .raised id => match w.failures.get? id with
    | some f => ofFailure [] diagnostics f w
    | none => ⟨.exit 1, [], diagnostics, w⟩
  | .unfinished => ⟨.exit 1, [], diagnostics, w⟩

/-- A command that ends by printing something. -/
def ofPrinted (diagnostics : List Char) (p : Display.Printed) (w : World Unit) : Departure :=
  match p.fault with
  | none => done p.text diagnostics w
  | some reason => ofFailure p.text diagnostics (.ofReason reason) w

/-- A command that ends with a result; none is printed for null. -/
def ofResult (d : Display) (diagnostics : List Char) (v : Value) (w : World Unit) : Departure :=
  match v with
  | .null => done [] diagnostics w
  | v => ofPrinted diagnostics (d.payload v) w

/-- The handler of a command: a failure of the pipeline's own is reported, and says the exit code.
-/
def reported (d : Display) (e : Departure) : Departure :=
  match e.leave with
  | .failed f => match f.exitCode? with
    | some code =>
      { e with leave := .exit code, diagnostics := e.diagnostics ++ d.problem f.message }
    | none => e
  | _ => e

/-- The exit code that the library for command lines has for an interruption from the keyboard. -/
def interruptedCode : Int := 130

/-- The handler of the library for command lines. -/
def supervised (e : Departure) : Departure :=
  match e.leave with
  | .failed f =>
    if f.kind = .outside .keyboard then { e with leave := .exit interruptedCode } else e
  | _ => e

/-- The handler of the program. -/
def ending (d : Display) (e : Departure) : Ending :=
  match e.leave with
  | .returned => ⟨0, e.output, e.diagnostics, e.world⟩
  | .exit code => ⟨code, e.output, e.diagnostics, e.world⟩
  | .failed f =>
    if f.kind = .outside .keyboard then
      ⟨cancelledCode, e.output, e.diagnostics ++ farewell, e.world⟩
    else match f.exitCode? with
      | some code => ⟨code, e.output, e.diagnostics ++ d.problem f.message, e.world⟩
      | none =>
        let problem := d.problem (.ofString "Unexpected error: " ++ f.message)
        ⟨1, e.output, e.diagnostics ++ problem, e.world⟩

end Departure

namespace Ending

/-- A run that ends well. -/
def success (output : List Char) (w : World Unit) : Ending := ⟨0, output, [], w⟩

/-- A run with words that name no command, or that cannot be read. -/
def misuse (fault : UsageFault) (w : World Unit) : Ending :=
  ⟨2, [], s!"Error: {fault.message}\n".toList, w⟩

end Ending

/-! ## The command `call` -/

/-- A call that is ready to be made. -/
structure Call where
  settings : Settings
  operation : Operation
  options : List RequestOption
  context : Option Context

namespace Call

/-- The options of a request that typed headers make. -/
def headerOptions (headers : List String) : Except Failure.Reason (List RequestOption) :=
  headers.mapM fun typed => do
    let (name, value) ← parseHeader typed
    pure (.header (String.ofList name) (String.ofList value))

/-- The context of a call that may take some time; no time at all sets no limit. -/
def contextOf (now : Float) : Option Float → Option Context
  | none => none
  | some seconds => if seconds == 0 then none else some ⟨some (now + seconds), none, []⟩

/-- The call that arguments describe, in some surroundings. -/
def ofArguments (s : Surroundings) (now : Float) (a : CallArguments) :
    Except Failure.Reason Call := do
  let settings := Settings.ofRecord (← Settings.resolve s a.settings)
  if settings.endpoint.isEmpty then throw .noEndpoint
  let options ← headerOptions a.headers
  pure ⟨settings, a.operation, options, contextOf now a.timeout⟩

/-- What the call is about to do. -/
def announcement (c : Call) : String :=
  s!"Calling {c.operation.method} {c.settings.endpoint} {c.operation.path}"

/-- The number of attempts that the settings allow. -/
def attemptLimit (c : Call) : Nat := c.settings.maxRetries.toNat + 1

/-- Sends the request of the call; a body that was not typed is null. -/
def perform (c : Call) (body : Option String) (client : Client CoreHook) (w : World Unit) :
    Except Stop Value × World Unit :=
  let params : Except Failure.Reason Value := match body with
    | none => .ok .null
    | some typed => parseBody typed
  match params with
  | .error reason =>
    let (id, failures) := w.failures.addReason reason
    (.error (.raised id), { w with failures })
  | .ok params =>
    let (outcome, w, _) := client.call CoreHook.perform c.attemptLimit c.operation params none
      c.options c.context w
    (outcome, w)

end Call

/-- Sends a request and prints the decoded answer. -/
def call (s : Surroundings) (d : Display) (a : CallArguments) (source : Nat → Float)
    (w : World Unit) : Departure :=
  match Call.ofArguments s w.clock a with
  | .error reason => (Departure.ofFailure [] [] (.ofReason reason) w).reported d
  | .ok c =>
    let announced := d.detail c.announcement
    match Client.ofSettings c.settings (CoreHook.template id) source with
    | .error reason => (Departure.ofFailure [] announced (.ofReason reason) w).reported d
    | .ok client =>
      let (client, w) := client.start w
      let (outcome, w) := c.perform a.body client w
      let (_, w) := client.stop w
      let diagnostics := announced ++ d.logged w.events.reverse
      match outcome with
      | .error stop => (Departure.ofStop diagnostics stop w).reported d
      | .ok v => .ofResult d diagnostics v w

/-! ## The other commands -/

/-- Lists the hooks of a request, phase by phase. -/
def hooks (d : Display) (w : World Unit) : Departure :=
  let template : Hooks CoreHook := CoreHook.template id
  match template.debug with
  | .error reason => .ofFailure [] [] (.ofReason reason) w
  | .ok entries =>
    .ofPrinted [] (d.listing "Default hooks" (entries.map fun (p, names) => (p.name, names))) w

/-- Shows the settings. -/
def config (s : Surroundings) (d : Display) (w : World Unit) : Departure :=
  match Settings.resolve s [] with
  | .error reason => (Departure.ofFailure [] [] (.ofReason reason) w).reported d
  | .ok v =>
    let notice := d.notice ("Config directory: " ++ String.ofList s.configDirectory.text)
    .ofResult d notice v.dumped w

/-! ## The program -/

/-- The name and the version of the program. -/
def versionLine : String := "hookline 0.1.0\n"

/-- How the program is called. -/
def usageLine : String := "Usage: hookline [OPTIONS] COMMAND [ARGS]...\n"

/-- How a command is called. -/
def commandUsageLine (name : String) : String := s!"Usage: hookline {name} [OPTIONS] [ARGS]...\n"

/-- Runs a command on a display. -/
def runCommand (s : Surroundings) (d : Display) (c : Conditions) : Command → Departure
  | .call arguments => call s d arguments c.source c.world
  | .hooks => hooks d c.world
  | .config => config s d c.world
  | .help name => .done (commandUsageLine name).toList [] c.world

/-- Runs the program with the words of its command line; `terminal` says that the output goes to a
terminal. -/
def run (s : Surroundings) (terminal : Bool) (c : Conditions) (words : List String) : Ending :=
  match Invocation.parse words with
  | .error fault => .misuse fault c.world
  | .ok .version => .success versionLine.toList c.world
  | .ok .help => .success usageLine.toList c.world
  | .ok (.command p command) =>
    let d := Display.create s terminal p.layout p.noColour p.quiet p.verbose
    (runCommand s d c command).supervised.ending d

end RequestPipeline.CommandLine
