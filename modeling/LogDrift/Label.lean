import LogDrift.Json.Basic
import LogDrift.Json.Number
import LogDrift.Numeral.Binary
import LogDrift.Numeral.Decimal
import LogDrift.Text.Blank

/-!
# Labels and counts

A cluster label is an integer that a producer assigns, or that a clustering assigns. Producers write
labels and counts as numbers or as text.
-/

namespace LogDrift

/-- The label of a cluster. -/
abbrev Label := Int

namespace Label

/-- What is added to the label of an event that comes from an earlier run. -/
def previousOffset : Label := 10000

/-- The label under which an event from an earlier run is kept. Near the greatest label the sum wraps
around. A number that is no label of 64 bits stays as it is, so that no two are moved to one. -/
def moved (label : Label) : Label :=
  if Integer.Fits label then Integer.wrap (previousOffset + label) else label

/-- The first of the labels that unmatched events get. -/
def unknownBase : Label := 1000000

/-- Whether a label names a cluster rather than an unmatched event. -/
def isReal (label : Label) : Bool :=
  label < unknownBase

/-- The label that a value denotes: an integer, a whole float, or the text of an integer. An integer
beyond the range of labels becomes the nearest label. -/
def ofJson? : Json → Option Label
  | .int value => some (Integer.clamp value)
  | .float value =>
    match Binary.ofFloat? value with
    | some parts => if parts.isWhole then some (Binary.wholePart Binary.truncate value) else none
    | none => none
  | .str text => (Integer.read64 (Text.trimmed text.toList)).toOption
  | _ => none

end Label

namespace Count

/-- The count that a value denotes. Fractions are cut off, and what is no number counts as zero. -/
def ofJson : Json → Int
  | .int value => Integer.clamp value
  | .float value => Binary.wholePart Binary.truncate value
  | .str text =>
    let text := Text.trimmed text.toList
    match Integer.read64 text with
    | .ok value => value
    | .error _ =>
      match Decimal.read? text with
      | some value => Binary.wholePart Binary.truncate value
      | none => 0
  | _ => 0

end Count

end LogDrift
