import LogDrift.CommandLine.Grammar
import LogDrift.Execution.Command

/-!
# The command line

Reads the variables and the files that a command names, carries the command out, and reports how it
ended.
-/

namespace LogDrift

/-- What the system says in an error. -/
def systemReason : IO.Error → String
  | .noFileOrDirectory _ _ _ => FileRefusal.missing.message
  | error => error.toString

/-- Reads a file. -/
def readText (path : String) : IO (Except String String) := do
  try
    match String.fromUTF8? (← IO.FS.readBinFile path) with
    | some text => return .ok text
    | none => return .error FileRefusal.notText.message
  catch error => return .error (systemReason error)

/-- Reads the files that a command names. -/
def readFiles (paths : List String) : IO Files := do
  let texts ← paths.mapM fun path => return (path, ← readText path)
  return .ofList texts

/-- Reads variables. -/
def readVariables (names : List String) : IO Environment :=
  names.filterMapM fun name => return (← IO.getEnv name).map fun value => (name, value)

/-- Reads all variables that matter, also those of the profile. -/
def readEnvironment : IO Environment := do
  let profile := profileName ((← IO.getEnv Settings.profileVariable).getD "")
  readVariables (Settings.profileVariable ::
    CommandLine.RemoteDraft.variableNames ++ Settings.variableNames ++
    Settings.variableNames.map fun name => profile ++ "_" ++ name)

/-- Writes a file. -/
def writeText (path text : String) : IO (Except String Unit) := do
  try
    IO.FS.writeFile path text
    return .ok ()
  catch error => return .error (systemReason error)

/-- The surroundings of a process. It has no network. -/
def processSurroundings : Surroundings IO where
  network := {
    send := fun _ => return .error "there is no network"
    wait := fun milliseconds => IO.sleep (UInt32.ofNat milliseconds) }
  write := writeText
  print := IO.println

/-- Carries out a command and gives the exit status. -/
def runArguments (environment : Environment) (arguments : Arguments) : IO UInt32 := do
  let files ← readFiles arguments.inputs
  match ← (processSurroundings.execute files (.ofEnvironment environment) arguments).run with
  | .ok outcome => return UInt32.ofNat outcome.exitStatus
  | .error failure =>
    IO.eprintln s!"Error: run failed: {failure.message}"
    return 1

/-- Carries out what the words of a command line ask for. The exit status is 2 when they cannot be
understood. -/
def runWords (words : List String) : IO UInt32 := do
  let environment ← readEnvironment
  match Arguments.ofWords environment words with
  | .ok arguments => runArguments environment arguments
  | .error refusal =>
    IO.eprintln refusal.message
    return if refusal = .helpAsked ∨ refusal = .versionAsked then 0 else 2

end LogDrift

/-- The program. -/
def main (words : List String) : IO UInt32 :=
  LogDrift.runWords words
