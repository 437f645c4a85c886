import LogDrift.Error
import LogDrift.Event

/-!
# Where events come from

An origin is the window that an event belongs to together with the shape in which it is reported.
-/

namespace LogDrift

/-- The shape in which an event is reported. -/
inductive Shape
  /-- The result of a search. -/
  | search
  /-- The form in which a production system reports. -/
  | production
  /-- The form in which a run saves its events. -/
  | saved
  deriving DecidableEq, Repr

/-- A window and a shape. -/
structure Origin where
  side : Side
  shape : Shape
  deriving DecidableEq, Repr

namespace Origin

/-- Whether an event comes from an earlier run. -/
def isPrevious (origin : Origin) : Bool :=
  origin.shape = .saved

/-- The name of an origin. -/
def name : Origin → String
  | ⟨.control, .search⟩ => "control"
  | ⟨.test, .search⟩ => "test"
  | ⟨.control, .production⟩ => "control_prod"
  | ⟨.test, .production⟩ => "test_prod"
  | ⟨.control, .saved⟩ => "control_prev"
  | ⟨.test, .saved⟩ => "test_prev"

/-- All origins. -/
def all : List Origin := [
  ⟨.control, .search⟩, ⟨.test, .search⟩, ⟨.control, .production⟩, ⟨.test, .production⟩,
  ⟨.control, .saved⟩, ⟨.test, .saved⟩]

/-- The origin of a name. -/
def ofName (text : String) : Except Error Origin :=
  match all.find? (·.name == text) with
  | some origin => .ok origin
  | none => .error (.other s!"unknown event kind: {text}")

end Origin

end LogDrift
