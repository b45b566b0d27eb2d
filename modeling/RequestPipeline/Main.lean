import RequestPipeline.CommandLine.Run

/-!
# The executable

Reads what a run depends on, runs the program, and prints what the run has printed.  The executable
has no network of its own: each call ends in a connection that could not be made.
-/

namespace RequestPipeline.CommandLine

/-- The environment variables that the program reads. -/
def watchedVariables : List String :=
  ["HOME", "XDG_CONFIG_HOME", "NO_COLOR", "TERM", "COLUMNS", "HOOKLINE_RETRY_ERROR_CODES"]
    ++ Settings.variableFields.map fun (name, _) => name

/-- The variables that are set. -/
def readVariables : IO (List (String × String)) :=
  watchedVariables.filterMapM fun name => do
    let value ← IO.getEnv name
    pure (value.map fun value => (name, value))

/-- The file at a path, if it can be read. -/
def readNode? (path : String) : IO (Option (String × FileNode)) :=
  try
    let bytes ← IO.FS.readBinFile path
    pure (some (path, .file bytes.toList))
  catch _ => pure none

/-- The environment, the platform and the files that settings are read from. -/
def readSurroundings : IO Surroundings := do
  let environment ← readVariables
  let directory ← IO.currentDir
  let bare : Surroundings := ⟨environment, "Linux", toString directory, []⟩
  let paths := ["hookline.json", String.ofList (bare.configDirectory.below "config.json").text]
  let files ← paths.filterMapM readNode?
  pure { bare with files }

/-- The outcome of a call without a network. -/
def unreachable : Outcome :=
  let reason := Failure.Reason.told (.outside (.network .connectError)) "Network is unreachable"
  ⟨0, none, .failure (.make (.ofReason reason) none none)⟩

/-- A random number from zero up to one. -/
def draw : IO Float := do
  let n ← IO.rand 0 999999
  pure (Float.ofNat n / 1000000)

/-- The conditions of a run now. -/
def readConditions : IO Conditions := do
  let milliseconds ← IO.monoMsNow
  let draws ← (List.range 32).mapM fun _ => draw
  pure ⟨Float.ofNat milliseconds / 1000, [unreachable], .bare, Retryer.sourceOf draws⟩

end RequestPipeline.CommandLine

open RequestPipeline.CommandLine in
/-- Runs the program once. -/
def main (words : List String) : IO UInt32 := do
  let output ← IO.getStdout
  let diagnostics ← IO.getStderr
  let ending := run (← readSurroundings) (← output.isTty) (← readConditions) words
  output.putStr (String.ofList ending.output)
  diagnostics.putStr (String.ofList ending.diagnostics)
  pure (UInt32.ofNat ending.exitCode.toNat)
