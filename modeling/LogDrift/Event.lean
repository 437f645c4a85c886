import LogDrift.Map.Ordered
import LogDrift.Occurrence

/-!
# Events

A message shape with its occurrences. The two scores are set when the event is matched against the
control clusters.
-/

namespace LogDrift

/-- A message shape seen on one host. -/
structure Event (S : Type) where
  label : Label
  text : String
  occurrences : List Occurrence
  controlScore : Option S := none
  testScore : Option S := none

namespace Event

variable {S : Type}

/-- The host of the event. -/
def host (event : Event S) : String :=
  Occurrence.hostOf event.occurrences

end Event

/-- Events by the label under which they were added, in order of first use. -/
abbrev EventMap (S : Type) := OrderedMap Label (List (Event S))

/-- The window that an event belongs to. -/
inductive Side
  | control
  | test
  deriving DecidableEq, Repr

end LogDrift
