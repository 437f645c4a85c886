import LogDrift.CommandLine.Arguments
import LogDrift.Failure
import LogDrift.Session
import LogDrift.Similarity.Collaborators
import LogDrift.Store.Loader

/-!
# Briefs

What an analysis is given besides the events, and the analysis itself with the collaborators at
hand.
-/

namespace LogDrift

/-- What an analysis is given besides the events. -/
structure Brief where
  settings : AnalysisSettings Float
  known : KnownClusters
  query : Option String

namespace Brief

/-- Reads the known clusters in a file. -/
def readKnown (files : Files) (path : String) : Except Failure KnownClusters := do
  let text ← (files.text path).mapError fun reason => .knownClustersNotRead path reason
  (Error.readText KnownClusters.decode text).mapError fun _ => .knownClustersInvalid path

/-- The known clusters in a file, if one is named. -/
def readKnown? (files : Files) : Option String → Except Failure KnownClusters
  | none => .ok {}
  | some path => readKnown files path

/-- The settings with what overrides them. -/
def overridden (settings : AnalysisSettings Float) (overrides : Overrides) :
    AnalysisSettings Float :=
  { settings with
    clusterLimit := overrides.clusterLimit.getD settings.clusterLimit
    direction := (overrides.direction.map Direction.ofFlag).getD settings.direction }

/-- The brief for overrides of some settings. -/
def prepare (files : Files) (settings : AnalysisSettings Float) (overrides : Overrides) :
    Except Failure Brief := do
  let known ← readKnown? files overrides.knownClusters
  return ⟨overridden settings overrides, known, overrides.query⟩

/-- What the analysis of a store yields. -/
def analyse (brief : Brief) (store : Store Float) : Except Failure (Snapshot Float) :=
  let clusterer := CentroidModel.clusterer Unit brief.settings.matchThreshold
  let session := Session.start store brief.settings brief.known brief.query
  let (result, session, _) :=
    (Session.run clusterer (Gram.comparer Gram.defaultSize)).run.run (session, ())
  match result with
  | .error error => .error (.analysisFailed error)
  | .ok _ => .ok session.snapshot

end Brief

namespace Store

/-- A store that was filled without a refusal. -/
def filled (result : Store Float × Except Error Nat) : Except Failure (Store Float) :=
  match result with
  | (_, .error error) => .error (.eventsRefused error)
  | (store, .ok _) => .ok store

end Store

end LogDrift
