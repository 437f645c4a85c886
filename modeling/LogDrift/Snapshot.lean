import LogDrift.Cluster

/-!
# Snapshots

Everything that a run yields, as it is saved for the next run.
-/

namespace LogDrift

/-- The complete result of a run. -/
structure Snapshot (S : Type) where
  query : Option String := none
  controlEvents : EventMap S := .empty
  testEvents : EventMap S := .empty
  unknownEvents : List (List (UnknownEvent S)) := []
  controlClusters : ClusterMap (ControlEntry S) := .empty
  testClusters : ClusterMap (TestEntry S) := .empty
  unknownClusters : ClusterMap (UnknownEntry S) := .empty
  clusterScores : ClusterScores S := {}
  score : S

end LogDrift
