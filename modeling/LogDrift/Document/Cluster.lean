import LogDrift.Cluster
import LogDrift.Document.Event

/-!
# Clusters in documents

The saved form of cluster entries, scores and known clusters.
-/

namespace LogDrift

open Json (Decoded RecordField Node Source)
open Document

namespace ControlEntry

/-- The fields of a control entry. -/
def fields (source : Source) : List (RecordField (ControlEntry Float)) := [
  required "text" (into Node.string fun value record => { record with text := value }),
  required "cluster_label" (into Node.integer64 fun value record =>
    { record with label := value }),
  required "message_frequencies" (into (Occurrence.decodeList source) fun value record =>
    { record with occurrences := value }),
  defaulted "tags" (into (Node.list Node.string) fun value record => { record with tags := value }),
  defaulted "x" (into (Node.nullable Node.number) fun value record => { record with x := value }),
  defaulted "y" (into (Node.nullable Node.number) fun value record => { record with y := value })]

/-- Decodes a control entry. -/
def decode (source : Source) : Node → Decoded (ControlEntry Float) :=
  Node.record source "ControlClusterEntry" (fields source)
    { text := "", label := 0, occurrences := [] }

/-- The value of a control entry. -/
def toJson (entry : ControlEntry Float) : Json :=
  .obj ([
    ("text", .str entry.text),
    ("cluster_label", .int entry.label),
    ("message_frequencies", Occurrence.listToJson entry.occurrences),
    ("tags", Json.strings entry.tags)]
    ++ Json.optional "x" Json.float entry.x
    ++ Json.optional "y" Json.float entry.y)

end ControlEntry

namespace TestEntry

/-- The fields of a test entry. -/
def fields (source : Source) : List (RecordField (TestEntry Float)) := [
  required "text" (into Node.string fun value record => { record with text := value }),
  required "cluster_label" (into Node.integer64 fun value record =>
    { record with label := value }),
  required "message_frequencies" (into (Occurrence.decodeList source) fun value record =>
    { record with occurrences := value }),
  defaulted "anomalous_counts" (into (Node.list (Node.integer "i8" (-128) 127))
    fun value record => { record with verdicts := value }),
  defaulted "unexpected_freq" (into Node.boolean fun value record =>
    { record with isUnexpected := value }),
  defaulted "control_score" (into Node.number fun value record =>
    { record with controlScore := value }),
  defaulted "test_score" (into Node.number fun value record => { record with testScore := value }),
  defaulted "freq_score" (into Node.number fun value record =>
    { record with frequencyScore := value }),
  defaulted "tags" (into (Node.list Node.string) fun value record => { record with tags := value }),
  defaulted "x" (into (Node.nullable Node.number) fun value record => { record with x := value }),
  defaulted "y" (into (Node.nullable Node.number) fun value record => { record with y := value })]

/-- Decodes a test entry. -/
def decode (source : Source) : Node → Decoded (TestEntry Float) :=
  Node.record source "TestClusterEntry" (fields source)
    { text := "", label := 0, occurrences := [], controlScore := 0, testScore := 0,
      frequencyScore := 0 }

/-- The value of a test entry. -/
def toJson (entry : TestEntry Float) : Json :=
  .obj ([
    ("text", .str entry.text),
    ("cluster_label", .int entry.label),
    ("message_frequencies", Occurrence.listToJson entry.occurrences),
    ("anomalous_counts", .arr (entry.verdicts.map Json.int)),
    ("unexpected_freq", .bool entry.isUnexpected),
    ("control_score", .float entry.controlScore),
    ("test_score", .float entry.testScore),
    ("freq_score", .float entry.frequencyScore),
    ("tags", Json.strings entry.tags)]
    ++ Json.optional "x" Json.float entry.x
    ++ Json.optional "y" Json.float entry.y)

end TestEntry

namespace UnknownEvent

/-- The fields of an unknown event. -/
def fields (source : Source) : List (RecordField (UnknownEvent Float)) := [
  required "text" (into Node.string fun value record => { record with text := value }),
  required "cluster_label" (into Node.integer64 fun value record =>
    { record with label := value }),
  required "message_frequencies" (into (Occurrence.decodeList source) fun value record =>
    { record with occurrences := value }),
  required "control_score" (into Node.number fun value record =>
    { record with controlScore := value }),
  required "test_score" (into Node.number fun value record => { record with testScore := value })]

/-- Decodes an unknown event. -/
def decode (source : Source) : Node → Decoded (UnknownEvent Float) :=
  Node.record source "UnknownEvent" (fields source)
    { text := "", label := 0, occurrences := [], controlScore := 0, testScore := 0 }

/-- The value of an unknown event. -/
def toJson (event : UnknownEvent Float) : Json :=
  .obj [
    ("text", .str event.text),
    ("cluster_label", .int event.label),
    ("message_frequencies", Occurrence.listToJson event.occurrences),
    ("control_score", .float event.controlScore),
    ("test_score", .float event.testScore)]

end UnknownEvent

namespace UnknownEntry

/-- The fields of an unknown entry. Pending scores are never saved. -/
def fields (source : Source) : List (RecordField (UnknownEntry Float)) := [
  required "text" (into Node.string fun value record => { record with text := value }),
  required "cluster_label" (into Node.integer64 fun value record =>
    { record with label := value }),
  required "message_frequencies" (into (Occurrence.decodeList source) fun value record =>
    { record with occurrences := value }),
  required "control_score" (into Node.number fun value record =>
    { record with controlScore := value }),
  required "test_score" (into Node.number fun value record => { record with testScore := value }),
  defaulted "alert_score" (into (Node.nullable Node.number) fun value record =>
    { record with alertScore := value }),
  defaulted "diff_tags" (into (Node.nullable (Node.list Node.string)) fun value record =>
    { record with diffTags := value }),
  defaulted "x" (into (Node.nullable Node.number) fun value record => { record with x := value }),
  defaulted "y" (into (Node.nullable Node.number) fun value record => { record with y := value })]

/-- Decodes an unknown entry. -/
def decode (source : Source) : Node → Decoded (UnknownEntry Float) :=
  Node.record source "UnknownClusterEntry" (fields source)
    { text := "", label := 0, occurrences := [], controlScore := 0, testScore := 0 }

/-- The value of an unknown entry. -/
def toJson (entry : UnknownEntry Float) : Json :=
  .obj ([
    ("text", .str entry.text),
    ("cluster_label", .int entry.label),
    ("message_frequencies", Occurrence.listToJson entry.occurrences),
    ("control_score", .float entry.controlScore),
    ("test_score", .float entry.testScore)]
    ++ Json.optional "alert_score" Json.float entry.alertScore
    ++ Json.optional "diff_tags" Json.strings entry.diffTags
    ++ Json.optional "x" Json.float entry.x
    ++ Json.optional "y" Json.float entry.y)

end UnknownEntry

namespace ClusterMap

/-- Decodes a cluster map. -/
def decode {E : Type} (source : Source) (entry : Source → Node → Decoded E) :
    Node → Decoded (ClusterMap E) :=
  labelMap source (nameMap (entry source))

/-- The value of a cluster map. -/
def toJson {E : Type} (entry : E → Json) (clusters : ClusterMap E) : Json :=
  labelMembers (fun hosts => nameMembers entry hosts.entries) clusters.entries

end ClusterMap

namespace UnknownScore

/-- Decodes the score of an unknown cluster. -/
def decode (source : Source) : Node → Decoded (UnknownScore Float) :=
  Node.record source "UnknownScore" [
    required "control_score" (into Node.number fun value record =>
      { record with controlScore := value }),
    required "test_score" (into Node.number fun value record =>
      { record with testScore := value })] ⟨0, 0⟩

/-- The value of the score of an unknown cluster. -/
def toJson (score : UnknownScore Float) : Json :=
  .obj [("control_score", .float score.controlScore), ("test_score", .float score.testScore)]

end UnknownScore

namespace FrequencyScore

/-- Decodes the frequency score of a cluster. -/
def decode (source : Source) : Node → Decoded (FrequencyScore Float) :=
  Node.record source "FrequencyScore" [
    required "unexpected_freq" (into Node.boolean fun value record =>
      { record with isUnexpected := value }),
    required "freq_score" (into Node.number fun value record =>
      { record with frequencyScore := value })] ⟨false, 0⟩

/-- The value of the frequency score of a cluster. -/
def toJson (score : FrequencyScore Float) : Json :=
  .obj [("unexpected_freq", .bool score.isUnexpected), ("freq_score", .float score.frequencyScore)]

end FrequencyScore

namespace ClusterScores

/-- Decodes the scores of all clusters. -/
def decode (source : Source) : Node → Decoded (ClusterScores Float) :=
  Node.record source "ClusterScores" [
    defaulted "unknown" (into (labelMap source (UnknownScore.decode source)) fun value record =>
      { record with unknown := value }),
    defaulted "test" (into (labelMap source (FrequencyScore.decode source)) fun value record =>
      { record with test := value })] {}

/-- The value of the scores of all clusters. -/
def toJson (scores : ClusterScores Float) : Json :=
  .obj [
    ("unknown", labelMembers UnknownScore.toJson scores.unknown.entries),
    ("test", labelMembers FrequencyScore.toJson scores.test.entries)]

end ClusterScores

namespace KnownClusters

/-- Decodes known clusters. -/
def decode (source : Source) : Node → Decoded KnownClusters :=
  Node.record source "KnownClusters" [
    defaulted "ignored" (into (labelMap source Node.string) fun value record =>
      { record with ignored := value }),
    defaulted "feedback" (into (labelMap source Node.string) fun value record =>
      { record with feedback := value })] {}

/-- The value of known clusters. -/
def toJson (known : KnownClusters) : Json :=
  .obj [
    ("ignored", labelMembers Json.str known.ignored.entries),
    ("feedback", labelMembers Json.str known.feedback.entries)]

end KnownClusters

end LogDrift
