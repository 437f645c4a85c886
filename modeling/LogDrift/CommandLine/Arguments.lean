import LogDrift.Window

/-!
# Arguments

What a command line says: where the events come from and where the result goes.
-/

namespace LogDrift

/-- What overrides the settings of the environment, and what else an analysis is given. -/
structure Overrides where
  clusterLimit : Option Nat := none
  direction : Option Int := none
  knownClusters : Option String := none
  query : Option String := none
  deriving DecidableEq, Repr

namespace Overrides

/-- The overrides of one place, and where they say nothing those of another. -/
def orElse (overrides others : Overrides) : Overrides where
  clusterLimit := overrides.clusterLimit.or others.clusterLimit
  direction := overrides.direction.or others.direction
  knownClusters := overrides.knownClusters.or others.knownClusters
  query := overrides.query.or others.query

end Overrides

/-- Events in files, and a file for the result. Without one it is printed. -/
structure LocalOptions where
  input : String
  controlWindow : Window
  testWindow : Window
  previousOutput : Option String
  output : Option String
  deriving DecidableEq, Repr

/-- Events in production reports. Without a report for the test window both windows are taken from
one report, by their hosts. -/
structure FileOptions extends LocalOptions where
  testInput : Option String
  controlHosts : List String
  testHosts : List String
  deriving DecidableEq, Repr

/-- Events that a service hands out, and the service that takes the result. -/
structure RemoteOptions where
  controlInputUrl : String
  testInputUrl : Option String
  previousStateUrl : Option String
  saveUrl : String
  authToken : Option String
  applicationId : String
  workflowId : String
  stateExecutionId : String
  serviceId : String
  minute : Int
  controlHosts : List String
  testHosts : List String
  deriving DecidableEq, Repr

/-- Where the events come from. -/
inductive Command
  | remote (options : RemoteOptions)
  | file (options : FileOptions)
  /-- The result of a search. -/
  | search (options : LocalOptions)
  deriving DecidableEq, Repr

/-- The files that a command reads. -/
def Command.inputs : Command → List String
  | remote _ => []
  | file options => options.input :: options.testInput.toList ++ options.previousOutput.toList
  | search options => options.input :: options.previousOutput.toList

/-- What a command line says. -/
structure Arguments where
  overrides : Overrides
  command : Command
  deriving DecidableEq, Repr

/-- The files that are read. -/
def Arguments.inputs (arguments : Arguments) : List String :=
  arguments.overrides.knownClusters.toList ++ arguments.command.inputs

end LogDrift
