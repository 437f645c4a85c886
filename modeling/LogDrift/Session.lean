import LogDrift.Drift
import LogDrift.Frequency.Comparison
import LogDrift.Layout.Position
import LogDrift.Matching.Test
import LogDrift.Store.Basic
import LogDrift.Unknown.Alert
import LogDrift.Unknown.Score

/-!
# Sessions

A session holds a store and everything that runs of the analysis derive from it. A run goes through
fixed stages; when one fails, what the earlier ones derived is kept.
-/

namespace LogDrift

/-- Why a run does not analyse anything. -/
inductive SkipReason
  | noControlEvents
  | tooManyClusters (clusters limit : Nat)
  deriving DecidableEq, Repr

/-- The wording of a reason. -/
def SkipReason.message : SkipReason → String
  | .noControlEvents => "no control events"
  | .tooManyClusters clusters limit => s!"too many control clusters ({clusters} > {limit}), skipped"

/-- How a run ends. -/
inductive RunStatus (S : Type)
  | completed (score : S) (unknownClusters frequencyAnomalies : Nat)
  | skipped (reason : SkipReason)

/-- A store with what has been derived from it. -/
structure Session (S : Type) where
  store : Store S
  settings : AnalysisSettings S
  known : KnownClusters
  query : Option String
  detector : Detector S
  unknownEvents : List (List (UnknownEvent S)) := []
  maps : ClusterMaps S := {}
  scores : ClusterScores S := {}
  score : S

namespace Session

variable {S Model W α : Type} [Scalar S]

/-- The session before any run. -/
def start (store : Store S) (settings : AnalysisSettings S) (known : KnownClusters)
    (query : Option String) : Session S where
  store
  settings
  known
  query
  detector := { share := settings.zeroDeviationThreshold }
  score := 0

omit [Scalar S] in
/-- Everything that a session has derived, as it is saved. -/
def snapshot (session : Session S) : Snapshot S where
  query := session.query
  controlEvents := session.store.control
  testEvents := session.store.test
  unknownEvents := session.unknownEvents
  controlClusters := session.maps.control
  testClusters := session.maps.test
  unknownClusters := session.maps.unknown
  clusterScores := session.scores
  score := session.score

omit [Scalar S] in
/-- Why a run would not analyse anything. -/
def skipReason? (session : Session S) : Option SkipReason :=
  let labels := session.store.control.size
  if labels = 0 then some .noControlEvents
  else if session.settings.clusterLimit < labels then
    some (.tooManyClusters labels session.settings.clusterLimit)
  else none

omit [Scalar S] in
/-- What a completed run reports. -/
def status (session : Session S) : RunStatus S :=
  .completed session.score session.maps.unknown.size session.scores.test.size

/-! ## Questions to the clusterer -/

/-- Clusters texts, once more with every term if the filter leaves none. -/
def clusterTexts (clusterer : Clusterer S Model W) (filter : TermFilter S)
    (texts corpus : List LabelledText) : Consulted W (Clustering Model) :=
  tryCatch (clusterer.cluster texts corpus filter) fun refusal =>
    match refusal with
    | .emptyVocabulary _ => clusterer.cluster texts corpus .relaxed
    | refusal => throw refusal

/-- Clusters the control texts and matches the test texts, if there are any. -/
def matchTexts (clusterer : Clusterer S Model W) (session : Session S) :
    Consulted W (Clustering Model × SortedMap Label (MatchOutcome S)) := do
  let store := session.store
  let clustering ←
    clusterTexts clusterer session.settings.termFilter store.controlTexts store.texts
  if store.testTexts.isEmpty then return (clustering, .empty)
  else return (clustering, ← clusterer.classify clustering.model store.testTexts)

/-- The secondary cluster of every group of unknown events. Groups whose texts have no terms at all
stay on their own. -/
def assignUnknown (clusterer : Clusterer S Model W) (session : Session S) :
    Consulted W (SortedMap Label Label) :=
  let texts := Unknown.groupTexts session.unknownEvents
  let assigned := do
    let clustering ← clusterTexts clusterer session.settings.termFilter texts texts
    return clustering.assignments
  tryCatch assigned fun refusal =>
    match refusal with
    | .emptyVocabulary _ => return Unknown.singletons texts
    | refusal => throw refusal

/-- A point for every text. -/
def placeTexts (clusterer : Clusterer S Model W) (texts : List String) :
    Consulted W (List (S × S)) := do
  clusterer.place (← clusterer.distances texts)

/-! ## Stages -/

omit [Scalar S] in
/-- Relabels the control events and collects their clusters. -/
def relabelControl (clustering : Clustering Model) (session : Session S) :
    Except Error Unit × Session S :=
  let (result, events) :=
    Matching.relabelControl clustering session.settings.maxTags session.store.control
  let session := { session with store.control := events }
  match result with
  | .error refusal => (.error refusal, session)
  | .ok clusters => (.ok (), { session with maps.control := clusters })

/-- Relabels the test events and collects matched clusters and unknown events. -/
def relabelTest (outcomes : SortedMap Label (MatchOutcome S)) (clustering : Clustering Model)
    (session : Session S) : Except Error Unit × Session S :=
  let (result, events) :=
    Matching.relabelTest outcomes clustering session.settings.maxTags session.store.test
  let session := { session with store.test := events }
  match result with
  | .error refusal => (.error refusal, session)
  | .ok split =>
    (.ok (), { session with maps.test := split.clusters, unknownEvents := split.unknown })

/-- Collects and scores the clusters of unknown events. -/
def groupUnknown (assignments : SortedMap Label Label) (session : Session S) :
    Except Error Unit × Session S :=
  match Unknown.groupEvents session.unknownEvents assignments with
  | .error refusal => (.error refusal, session)
  | .ok grouping =>
    let grouping := Unknown.scoreEvents grouping
    (.ok (), { session with
      maps.unknown := grouping.clusters
      scores.unknown := grouping.scores })

/-- Compares the entries of unknown clusters with their baseline texts. -/
def attachAlerts (comparer : Comparer S) (session : Session S) : Session S :=
  { session with
    maps.unknown := Unknown.attachAlerts comparer session.maps.control session.known
      session.settings.diffBand session.maps.unknown }

/-- Compares the frequencies of matched clusters. -/
def compareFrequencies (session : Session S) : Except Error Unit × Session S :=
  match Frequency.detect session.detector session.maps.control session.maps.test
      session.settings.direction with
  | .error refusal => (.error refusal, session)
  | .ok comparison =>
    (.ok (), { session with
      detector := comparison.detector
      maps.test := comparison.test
      scores.test := comparison.scores })

/-- Sums up all scores. -/
def rate (session : Session S) : Session S :=
  { session with score := session.scores.drift }

omit [Scalar S] in
/-- Gives the clusters their points, if there is one for every text. -/
def moveClusters (texts : List String) (points : List (S × S)) (session : Session S) :
    Session S :=
  if points.length = texts.length then
    { session with maps := Layout.place points session.maps }
  else session

/-! ## Runs -/

/-- The progress of a run: the session, the state of the clusterer and perhaps a failure. -/
abbrev Analysis (S W : Type) := ExceptT Error (StateM (Session S × W))

omit [Scalar S] in
/-- Asks the clusterer. -/
def ask (question : Session S → StateM W α) : Analysis S W α :=
  ExceptT.mk fun (session, world) =>
    let (answer, world) := question session world
    (.ok answer, (session, world))

omit [Scalar S] in
/-- Asks the clusterer for something without which the run fails. -/
def demand (question : Session S → Consulted W α) : Analysis S W α := do
  match ← ask fun session => (question session).run with
  | .ok answer => return answer
  | .error refusal => throw refusal

omit [Scalar S] in
/-- Goes through a stage that may fail. -/
def advance (stage : Session S → Except Error Unit × Session S) : Analysis S W Unit :=
  ExceptT.mk fun (session, world) =>
    let (result, session) := stage session
    (result, (session, world))

omit [Scalar S] in
/-- Goes through a stage. -/
def improve (stage : Session S → Session S) : Analysis S W Unit :=
  advance fun session => (.ok (), stage session)

omit [Scalar S] in
/-- A part of the session. -/
def view (part : Session S → α) : Analysis S W α :=
  ask fun session => pure (part session)

/-- Clusters the unknown events, if there are any. -/
def clusterUnknown (clusterer : Clusterer S Model W) : Analysis S W Unit := do
  if ← view fun session => session.unknownEvents.isEmpty then return
  else advance (groupUnknown (← demand (assignUnknown clusterer)))

/-- Lays the clusters out. A failure of the clusterer leaves them where they are. -/
def arrange (clusterer : Clusterer S Model W) : Analysis S W Unit := do
  let texts ← view fun session => Layout.texts session.maps
  if texts.isEmpty then return
  else match ← ask fun _ => (placeTexts clusterer texts).run with
    | .error _ => return
    | .ok points => improve (moveClusters texts points)

/-- Runs the analysis. -/
def run (clusterer : Clusterer S Model W) (comparer : Comparer S) : Analysis S W (RunStatus S) := do
  match ← view skipReason? with
  | some reason => return .skipped reason
  | none =>
    let (clustering, outcomes) ← demand (matchTexts clusterer)
    advance (relabelControl clustering)
    advance (relabelTest outcomes clustering)
    clusterUnknown clusterer
    improve (attachAlerts comparer)
    advance compareFrequencies
    improve rate
    arrange clusterer
    view status

end Session

end LogDrift
