import LogDrift.Document.Event
import LogDrift.Origin

/-!
# Records that producers write

A producer writes one occurrence per record, under names of its own. A run writes whole events. Both
become events.
-/

namespace LogDrift

open Json (Decoded RecordField Node Source)
open Document

/-- What a producer says about one occurrence, before label and count are made sense of. -/
structure Record where
  label : Json := .null
  text : Option String := none
  count : Json := .null
  time : Option TimeBucket := none
  host : Option String := none

namespace Record

/-- The names under which a producer writes the parts of a record. -/
structure Names where
  title : String
  label : String
  text : String
  count : String
  time : String
  host : String

/-- The names in the result of a search. -/
def searchNames : Names :=
  ⟨"ExportRecord", "cluster_label", "_raw", "cluster_count", "_time", "host"⟩

/-- The names in the report of a production system. -/
def productionNames : Names :=
  ⟨"ProdRecord", "clusterLabel", "logMessage", "count", "timeStamp", "host"⟩

/-- The fields of a record, of which only the label must be present. -/
def fields (names : Names) : List (RecordField Record) := [
  required names.label (into Node.anything fun value record => { record with label := value }),
  defaulted names.text (into (Node.nullable Node.string) fun value record =>
    { record with text := value }),
  defaulted names.count (into Node.anything fun value record => { record with count := value }),
  defaulted names.time (into (Node.nullable TimeBucket.decode) fun value record =>
    { record with time := value }),
  defaulted names.host (into (Node.nullable Node.string) fun value record =>
    { record with host := value })]

/-- Decodes a record. -/
def decode (names : Names) (source : Source) : Node → Decoded Record :=
  Node.record source names.title (fields names) {}

/-- The event of a record. The occurrence remembers the label under which it was reported. -/
def toEvent (record : Record) : Except Error (Event Float) :=
  match Label.ofJson? record.label with
  | none =>
    let found := record.label.render
    .error (.malformedEvent s!"invalid cluster label: {found}")
  | some label => .ok {
      label
      text := record.text.getD ""
      occurrences := [{
        count := Count.ofJson record.count
        time := record.time
        host := record.host.getD unknownHost
        oldLabel := some label }] }

end Record

namespace Event

/-- Reads an event that is reported in a shape. -/
def ofReport (shape : Shape) (report : Json) : Except Error (Event Float) :=
  match shape with
  | .search => do (← Error.readValue (Record.decode Record.searchNames) report).toEvent
  | .production => do (← Error.readValue (Record.decode Record.productionNames) report).toEvent
  | .saved => Error.readValue Event.decode report

end Event

end LogDrift
