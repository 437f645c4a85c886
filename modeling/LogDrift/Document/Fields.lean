import LogDrift.Error
import LogDrift.Map.Ordered
import LogDrift.Map.Sorted

/-!
# Fields and maps in documents

Shorthands for the records and the maps that documents are made of.
-/

namespace LogDrift.Document

open Json (Decoded RecordField Key Node Source)

/-- A field that must be present. -/
def required {T : Type} (name : String) (read : Node → T → Decoded T) : RecordField T :=
  ⟨name, [], true, read⟩

/-- A field that may be missing. -/
def defaulted {T : Type} (name : String) (read : Node → T → Decoded T) : RecordField T :=
  ⟨name, [], false, read⟩

/-- Decodes a node and puts the result into a record. -/
def into {T α : Type} (decode : Node → Decoded α) (put : α → T → T) (node : Node) (record : T) :
    Decoded T :=
  (decode node).map fun value => put value record

/-- A map from labels, sorted. -/
def labelMap {α : Type} (source : Source) (decode : Node → Decoded α) (node : Node) :
    Decoded (SortedMap Int α) :=
  (node.members (Key.label source) fun _ => decode).map .ofList

/-- A map from labels in the order of the document. -/
def orderedLabelMap {α : Type} (source : Source) (decode : Node → Decoded α) (node : Node) :
    Decoded (OrderedMap Int α) :=
  (node.members (Key.label source) fun _ => decode).map .ofList

/-- A map from names, sorted. -/
def nameMap {α : Type} (decode : Node → Decoded α) (node : Node) : Decoded (SortedMap String α) :=
  (node.members Key.string fun _ => decode).map .ofList

/-- The members for the entries of a map from labels. -/
def labelMembers {α : Type} (encode : α → Json) (entries : List (Int × α)) : Json :=
  .obj (entries.map fun entry => (String.ofList (Json.writeInt entry.1), encode entry.2))

/-- The members for the entries of a map from names. -/
def nameMembers {α : Type} (encode : α → Json) (entries : List (String × α)) : Json :=
  .obj (entries.map fun entry => (entry.1, encode entry.2))

end LogDrift.Document
