import LogDrift.Document.Fields
import LogDrift.Event

/-!
# Events in documents

The saved form of occurrences and events.
-/

namespace LogDrift

open Json (Decoded RecordField Node Source)
open Document

namespace TimeBucket

/-- A time bucket is an integer, a float or a text; nothing tells the three apart but their kind. -/
def decode (node : Node) : Decoded TimeBucket := do
  match ← node.anything with
  | .int value =>
    if value ≤ Integer.greatest then return minute value else return instant (Float.ofInt value)
  | .float value => return instant value
  | .str text => return label text
  | _ => .error (.shape "data did not match any variant of untagged enum TimeBucket")

/-- The value of a time bucket. -/
def toJson : TimeBucket → Json
  | minute value => .int value
  | instant value => .float value
  | label text => .str text

end TimeBucket

namespace Occurrence

/-- The fields of an occurrence, all of which may be missing. -/
def fields : List (RecordField Occurrence) := [
  defaulted "count" (into Node.anything fun value record =>
    { record with count := Count.ofJson value }),
  ⟨"time", ["timestamp"], false, into (Node.nullable TimeBucket.decode) fun value record =>
    { record with time := value }⟩,
  defaulted "host" (into Node.string fun value record => { record with host := value }),
  ⟨"old_label", ["original_label"], false, into Node.anything fun value record =>
    { record with oldLabel := Label.ofJson? value }⟩]

/-- Decodes an occurrence. -/
def decode (source : Source) : Node → Decoded Occurrence :=
  Node.record source "MessageFrequency" fields {}

/-- The value of an occurrence. -/
def toJson (occurrence : Occurrence) : Json :=
  .obj [
    ("count", .int occurrence.count),
    ("time", Json.ofOption TimeBucket.toJson occurrence.time),
    ("host", .str occurrence.host),
    ("old_label", Json.ofOption Json.int occurrence.oldLabel)]

/-- The value of a list of occurrences. -/
def listToJson (occurrences : List Occurrence) : Json :=
  .arr (occurrences.map toJson)

/-- Decodes a list of occurrences. -/
def decodeList (source : Source) : Node → Decoded (List Occurrence) :=
  Node.list (decode source)

end Occurrence

namespace Label

/-- Decodes a label from any value that denotes one. -/
def decode (node : Node) : Decoded Label := do
  let value ← node.anything
  match ofJson? value with
  | some label => return label
  | none => .error (.shape s!"invalid cluster label: {Json.render value}")

end Label

namespace Event

/-- The fields of an event. -/
def fields (source : Source) : List (RecordField (Event Float)) := [
  required "cluster_label" (into Label.decode fun value record => { record with label := value }),
  defaulted "text" (into Node.string fun value record => { record with text := value }),
  defaulted "message_frequencies" (into (Occurrence.decodeList source) fun value record =>
    { record with occurrences := value }),
  defaulted "control_score" (into (Node.nullable Node.number) fun value record =>
    { record with controlScore := value }),
  defaulted "test_score" (into (Node.nullable Node.number) fun value record =>
    { record with testScore := value })]

/-- Decodes an event. -/
def decode (source : Source) : Node → Decoded (Event Float) :=
  Node.record source "Event" (fields source) { label := 0, text := "", occurrences := [] }

/-- The value of an event. -/
def toJson (event : Event Float) : Json :=
  .obj ([
    ("cluster_label", .int event.label),
    ("text", .str event.text),
    ("message_frequencies", Occurrence.listToJson event.occurrences)]
    ++ Json.optional "control_score" Json.float event.controlScore
    ++ Json.optional "test_score" Json.float event.testScore)

/-- The value of a list of events. -/
def listToJson (events : List (Event Float)) : Json :=
  .arr (events.map toJson)

end Event

end LogDrift
