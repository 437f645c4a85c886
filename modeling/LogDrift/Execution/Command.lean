import LogDrift.Execution.Local
import LogDrift.Execution.Remote

/-!
# Whole commands

What is done for the arguments of a command line.
-/

namespace LogDrift.Surroundings

variable {M : Type → Type} [Monad M]

/-- Carries out a command. -/
def execute (around : Surroundings M) (files : Files) (settings : Settings Float)
    (arguments : Arguments) : Effect M Outcome := do
  let brief ← Brief.prepare files settings.analysis arguments.overrides
  match arguments.command with
  | .remote options => around.executeRemote settings.transport brief options
  | .file options =>
    let store ← options.load files
    around.finishLocal files brief options.toLocalOptions store
  | .search options =>
    let store ← options.loadSearch files
    around.finishLocal files brief options store

end LogDrift.Surroundings
