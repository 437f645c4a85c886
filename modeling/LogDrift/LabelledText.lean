import LogDrift.Label

/-!
# Labelled texts

A text stands for a label. Texts are handed to collaborators with their labels, so that nothing
hangs on their positions.
-/

namespace LogDrift

/-- A text together with the label that it stands for. -/
structure LabelledText where
  label : Label
  text : String
  deriving DecidableEq, Repr

end LogDrift
