/-!
# JSON values

Numbers that are integers from the least 64-bit signed to the greatest 64-bit unsigned integer stay
integers; all others are floats. The members of an object stand in the order in which they are
written.
-/

namespace LogDrift

/-- A JSON value. -/
inductive Json
  | null
  | bool (value : Bool)
  | int (value : Int)
  | float (value : Float)
  | str (value : String)
  | arr (elements : List Json)
  | obj (members : List (String × Json))
  deriving Inhabited

namespace Json

/-- A member of an object, the last one of that name; other values have none. -/
def member? (name : String) : Json → Option Json
  | obj members => members.reverse.lookup name
  | _ => none

/-- The text of a string value. -/
def text? : Json → Option String
  | str value => some value
  | _ => none

/-- A list of strings as a value. -/
def strings (values : List String) : Json :=
  arr (values.map str)

/-- An absent value is written as null. -/
def ofOption {α : Type} (encode : α → Json) : Option α → Json
  | some value => encode value
  | none => null

/-- A member that is left out when its value is absent. -/
def optional {α : Type} (name : String) (encode : α → Json) : Option α → List (String × Json)
  | some value => [(name, encode value)]
  | none => []

end Json

end LogDrift
