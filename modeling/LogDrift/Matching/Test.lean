import LogDrift.Matching.Control

/-!
# Test clusters and unknown events

Test events that match a control cluster take its label, and their occurrences are collected per
cluster and host. Every other event gets a label of its own and is kept aside.
-/

namespace LogDrift.Matching

variable {S Model : Type}

/-- What has been made of the test events so far. -/
structure TestSplit (S : Type) where
  clusters : ClusterMap (TestEntry S) := .empty
  /-- The unmatched events, in one group per test label that has any. -/
  unknown : List (List (UnknownEvent S)) := []
  /-- The label of the next unmatched event. -/
  next : Label := Label.unknownBase

/-- The control cluster that an outcome matches. -/
def matched? (outcome : MatchOutcome S) : Option Label :=
  outcome.nearest.filter fun cluster => outcome.isMatched && Label.isReal cluster

/-- An event with the scores of its outcome under a new label. -/
def annotated (outcome : MatchOutcome S) (label : Label) (event : Event S) : Event S :=
  { event with
    label
    controlScore := some outcome.clusterScore
    testScore := some outcome.score }

/-- Adds a matched event to the entry of its cluster and host. The first event of an entry gives it
its text and scores. -/
def collectTest [Zero S] (tags : List String) (outcome : MatchOutcome S) (cluster : Label)
    (clusters : ClusterMap (TestEntry S)) (event : Event S) : ClusterMap (TestEntry S) :=
  ClusterMap.alterEntry clusters cluster event.host fun present =>
    let entry := present.getD {
      text := event.text
      label := cluster
      occurrences := []
      controlScore := outcome.clusterScore
      testScore := outcome.score
      frequencyScore := 0
      tags }
    { entry with occurrences := entry.occurrences ++ event.occurrences }

/-- What is kept of an unmatched event with a label of its own. -/
def unknownEvent (outcome : MatchOutcome S) (label : Label) (event : Event S) : UnknownEvent S where
  text := event.text
  label := outcome.nearest.getD label
  occurrences := event.occurrences
  controlScore := outcome.clusterScore
  testScore := outcome.score

/-- Elements with ascending labels from `next` on. -/
def labelledFrom {α : Type} (next : Label) (elements : List α) : List (Label × α) :=
  elements.zipIdx.map fun (element, place) => (next + (place : Int), element)

/-- The refusal of a test label without an outcome. -/
def noOutcome (label : Label) : Error :=
  .collaborator s!"no match outcome for test label {label}"

/-- Relabels the test events of one label and collects them. -/
def testStep [Zero S] (outcomes : SortedMap Label (MatchOutcome S)) (clustering : Clustering Model)
    (tagLimit : Nat) (split : TestSplit S) (label : Label) (events : List (Event S)) :
    Except Error (TestSplit S × List (Event S)) :=
  match outcomes.get? label with
  | none => .error (noOutcome label)
  | some outcome =>
    match matched? outcome with
    | some cluster =>
      let tags := clustering.tagsOf cluster tagLimit
      let clusters := events.foldl (collectTest tags outcome cluster) split.clusters
      .ok ({ split with clusters }, events.map (annotated outcome cluster))
    | none =>
      let labelled := labelledFrom split.next events
      let group := labelled.map fun (own, event) => unknownEvent outcome own event
      .ok ({ split with
          unknown := if group.isEmpty then split.unknown else split.unknown ++ [group]
          next := split.next + events.length },
        labelled.map fun (own, event) => annotated outcome own event)

/-- Relabels the test events and collects them. When a label has no outcome, the events of the
labels before it are relabelled all the same. -/
def relabelTest [Zero S] (outcomes : SortedMap Label (MatchOutcome S))
    (clustering : Clustering Model) (tagLimit : Nat) (events : EventMap S) :
    Except Error (TestSplit S) × EventMap S :=
  match events.sweep (testStep outcomes clustering tagLimit) {} with
  | (_, some refusal, events) => (.error refusal, events)
  | (split, none, events) => (.ok split, events)

end LogDrift.Matching
