import LogDrift.Execution.Basic

/-!
# Commands that work on files

The events come from files, and the result goes to a file or is printed.
-/

namespace LogDrift

/-- The events in production reports. -/
def FileOptions.load (options : FileOptions) (files : Files) : Except Failure (Store Float) :=
  Store.filled (match options.testInput with
    | some testInput =>
      Store.empty.loadProductionPair files options.input options.controlWindow testInput
        options.testWindow
    | none =>
      Store.empty.loadProduction files options.input
        ⟨options.controlWindow, options.testWindow, options.controlHosts, options.testHosts⟩)

namespace LocalOptions

/-- The events in the result of a search. -/
def loadSearch (options : LocalOptions) (files : Files) : Except Failure (Store Float) :=
  Store.filled
    (Store.empty.loadSearch files options.input options.controlWindow options.testWindow)

/-- Appends the events of the earlier run that the options name. -/
def mergePrevious (options : LocalOptions) (files : Files) (store : Store Float) :
    Except Failure (Store Float) :=
  match options.previousOutput with
  | none => .ok store
  | some path =>
    match store.mergeFile files path with
    | (_, .error error) => .error (.previousOutputRefused path error)
    | (store, .ok _) => .ok store

/-- What the analysis of loaded events yields, unless there are none. -/
def result? (options : LocalOptions) (files : Files) (brief : Brief) (store : Store Float) :
    Except Failure (Option (Snapshot Float)) :=
  if store.hasData then do
    let store ← options.mergePrevious files store
    return some (← brief.analyse store)
  else .ok none

end LocalOptions

namespace Surroundings

variable {M : Type → Type} [Monad M]

/-- Hands a result out through a file, or prints it. -/
def deliver (around : Surroundings M) (output : Option String) (snapshot : Snapshot Float) :
    Effect M Unit :=
  match output with
  | none => around.print snapshot.save
  | some path => do
    match ← around.write path snapshot.save with
    | .error reason => throw (.resultsNotWritten path reason)
    | .ok () => return

/-- Finishes a command whose events have been loaded from files. -/
def finishLocal (around : Surroundings M) (files : Files) (brief : Brief) (options : LocalOptions)
    (store : Store Float) : Effect M Outcome := do
  match ← options.result? files brief store with
  | none => return .noData
  | some snapshot =>
    around.deliver options.output snapshot
    return .done

end Surroundings

end LogDrift
