import LogDrift.Event
import LogDrift.Map.Sorted

/-!
# Clusters

Messages that belong together, kept per cluster label and per host.
-/

namespace LogDrift

/-- Entries by cluster label and host, both ascending. -/
abbrev ClusterMap (E : Type) := SortedMap Label (SortedMap String E)

/-- The occurrences of a control cluster on one host. -/
structure ControlEntry (S : Type) where
  text : String
  label : Label
  occurrences : List Occurrence
  tags : List String := []
  x : Option S := none
  y : Option S := none

/-- The judgement of one count: `1` for a normal one, `-1` for an anomalous one. -/
abbrev Verdict := Int

namespace Verdict

def normal : Verdict := 1

def anomaly : Verdict := -1

end Verdict

/-- The occurrences of a matched test cluster on one host, with the verdicts on their counts. -/
structure TestEntry (S : Type) where
  text : String
  label : Label
  occurrences : List Occurrence
  verdicts : List Verdict := []
  isUnexpected : Bool := false
  controlScore : S
  testScore : S
  frequencyScore : S
  tags : List String := []
  x : Option S := none
  y : Option S := none

/-- A test event that matched no control cluster. Its label is that of the nearest control cluster,
by which a baseline text can be found. -/
structure UnknownEvent (S : Type) where
  text : String
  label : Label
  occurrences : List Occurrence
  controlScore : S
  testScore : S

namespace UnknownEvent

/-- The host of the event. -/
def host {S : Type} (event : UnknownEvent S) : String :=
  Occurrence.hostOf event.occurrences

end UnknownEvent

/-- The unmatched messages of one secondary cluster on one host. `pending` are the scores and
weights that are still to be summed up. -/
structure UnknownEntry (S : Type) where
  text : String
  label : Label
  occurrences : List Occurrence
  controlScore : S
  testScore : S
  alertScore : Option S := none
  diffTags : Option (List String) := none
  x : Option S := none
  y : Option S := none
  pending : List (S × S) := []

/-- How far an unknown cluster deviates. -/
structure UnknownScore (S : Type) where
  controlScore : S
  testScore : S

namespace UnknownScore

/-- The score of a cluster that has not been compared. -/
def initial {S : Type} [One S] : UnknownScore S :=
  ⟨1, 1⟩

end UnknownScore

/-- How far the frequencies of a matched cluster deviate. -/
structure FrequencyScore (S : Type) where
  isUnexpected : Bool
  frequencyScore : S

/-- The scores of all clusters that deviate. -/
structure ClusterScores (S : Type) where
  unknown : SortedMap Label (UnknownScore S) := .empty
  test : SortedMap Label (FrequencyScore S) := .empty

namespace ClusterScores

/-- Whether no cluster deviates. -/
def isEmpty {S : Type} (scores : ClusterScores S) : Bool :=
  scores.unknown.isEmpty && scores.test.isEmpty

end ClusterScores

/-- Texts of clusters that users know of: those they ignore and those they gave feedback on. -/
structure KnownClusters where
  ignored : SortedMap Label String := .empty
  feedback : SortedMap Label String := .empty

end LogDrift
