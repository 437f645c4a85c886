import LogDrift.Document.Cluster
import LogDrift.Snapshot

/-!
# Snapshots in documents

The text form in which a run is saved and read by the next one.
-/

namespace LogDrift

open Json (Decoded RecordField Node Source)
open Document

namespace EventMap

/-- Decodes events by label, in the order of the document. -/
def decode (source : Source) : Node → Decoded (EventMap Float) :=
  orderedLabelMap source (Node.list (Event.decode source))

/-- The value of events by label. -/
def toJson (events : EventMap Float) : Json :=
  labelMembers Event.listToJson events.entries

end EventMap

namespace Snapshot

/-- The fields of a snapshot, all of which may be missing. -/
def fields (source : Source) : List (RecordField (Snapshot Float)) := [
  defaulted "query" (into (Node.nullable Node.string) fun value record =>
    { record with query := value }),
  defaulted "control_events" (into (EventMap.decode source) fun value record =>
    { record with controlEvents := value }),
  defaulted "test_events" (into (EventMap.decode source) fun value record =>
    { record with testEvents := value }),
  defaulted "unknown_events" (into (Node.list (Node.list (UnknownEvent.decode source)))
    fun value record => { record with unknownEvents := value }),
  defaulted "control_clusters" (into (ClusterMap.decode source ControlEntry.decode)
    fun value record => { record with controlClusters := value }),
  defaulted "test_clusters" (into (ClusterMap.decode source TestEntry.decode)
    fun value record => { record with testClusters := value }),
  defaulted "unknown_clusters" (into (ClusterMap.decode source UnknownEntry.decode)
    fun value record => { record with unknownClusters := value }),
  defaulted "cluster_scores" (into (ClusterScores.decode source) fun value record =>
    { record with clusterScores := value }),
  defaulted "score" (into Node.number fun value record => { record with score := value })]

/-- Decodes a snapshot. -/
def decode (source : Source) : Node → Decoded (Snapshot Float) :=
  Node.record source "RunState" (fields source) { score := 0 }

/-- The value of a snapshot. -/
def toJson (snapshot : Snapshot Float) : Json :=
  .obj (Json.optional "query" Json.str snapshot.query ++ [
    ("control_events", EventMap.toJson snapshot.controlEvents),
    ("test_events", EventMap.toJson snapshot.testEvents),
    ("unknown_events",
      .arr (snapshot.unknownEvents.map fun group => .arr (group.map UnknownEvent.toJson))),
    ("control_clusters", ClusterMap.toJson ControlEntry.toJson snapshot.controlClusters),
    ("test_clusters", ClusterMap.toJson TestEntry.toJson snapshot.testClusters),
    ("unknown_clusters", ClusterMap.toJson UnknownEntry.toJson snapshot.unknownClusters),
    ("cluster_scores", snapshot.clusterScores.toJson),
    ("score", .float snapshot.score)])

/-- The text of a snapshot. -/
def save (snapshot : Snapshot Float) : String :=
  snapshot.toJson.render

/-- Reads a saved snapshot. -/
def load (text : String) : Except Error (Snapshot Float) :=
  Error.readText decode text

end Snapshot

end LogDrift
