import LogDrift.Json.Number

/-!
# What a text holds, faults included

A text is read into a tree as far as it goes. A fault does not discard what was read before it: it
stands in the tree at the place where it was met, with nothing after it. Whoever takes the tree
apart in order therefore meets a value of the wrong shape before a fault that is written further on.
-/

namespace LogDrift.Json

/-- The name of a member. -/
structure Key where
  /-- The characters between the quotation marks, as they are written. -/
  written : List Char
  /-- The name that they denote. -/
  name : Except Fault String
  /-- The fault that is met even when the name is passed over. -/
  skipFault : Option Fault

/-- A value as far as it could be read. A container has a fault as its ending when its closing
bracket is not met. -/
inductive Node
  | null
  | bool (value : Bool)
  | int (value : Int)
  | float (value : Float)
  | str (value : String)
  | arr (elements : List Node) (ending : Option Fault)
  | obj (members : List (Key × Node)) (ending : Option Fault)
  /-- A value that cannot be used, although it can be passed over like the node `skipped`. -/
  | unusable (fault : Fault) (skipped : Node)
  /-- No value can be read here. -/
  | broken (fault : Fault)
  deriving Inhabited

namespace Node

mutual

/-- The first fault met when a value is passed over. -/
def skipFault? : Node → Option Fault
  | arr elements ending => (skipElements? elements).or ending
  | obj members ending => (skipMembers? members).or ending
  | unusable _ skipped => skipped.skipFault?
  | broken fault => some fault
  | _ => none

/-- The first fault in a list of values. -/
def skipElements? : List Node → Option Fault
  | [] => none
  | element :: rest => element.skipFault?.or (skipElements? rest)

/-- The first fault in a list of members. -/
def skipMembers? : List (Key × Node) → Option Fault
  | [] => none
  | (key, value) :: rest => key.skipFault.or (value.skipFault?.or (skipMembers? rest))

end

mutual

/-- The value of a node, if it can be used as a whole. -/
def value : Node → Except Fault Json
  | null => .ok .null
  | bool value => .ok (.bool value)
  | int value => .ok (.int value)
  | float value => .ok (.float value)
  | str value => .ok (.str value)
  | arr elements ending => do
    let values ← elementValues elements
    match ending with
    | some fault => .error fault
    | none => .ok (.arr values)
  | obj members ending => do
    let values ← memberValues members
    match ending with
    | some fault => .error fault
    | none => .ok (.obj values)
  | unusable fault _ => .error fault
  | broken fault => .error fault

/-- The values of a list of nodes. -/
def elementValues : List Node → Except Fault (List Json)
  | [] => .ok []
  | element :: rest => do
    let value ← element.value
    let values ← elementValues rest
    .ok (value :: values)

/-- The names and values of a list of members. -/
def memberValues : List (Key × Node) → Except Fault (List (String × Json))
  | [] => .ok []
  | (key, node) :: rest => do
    let name ← key.name
    let value ← node.value
    let values ← memberValues rest
    .ok ((name, value) :: values)

end

end Node

/-- The name of a member of a value that is already read. -/
def Key.ofName (name : String) : Key :=
  ⟨name.toList, .ok name, none⟩

mutual

/-- A value that is already read, as a node without faults. -/
def toNode : Json → Node
  | null => .null
  | bool value => .bool value
  | int value => .int value
  | float value => .float value
  | str value => .str value
  | arr elements => .arr (elementNodes elements) none
  | obj members => .obj (memberNodes members) none

/-- The nodes of a list of values. -/
def elementNodes : List Json → List Node
  | [] => []
  | element :: rest => element.toNode :: elementNodes rest

/-- The nodes of a list of members. -/
def memberNodes : List (String × Json) → List (Key × Node)
  | [] => []
  | (name, value) :: rest => (Key.ofName name, value.toNode) :: memberNodes rest

end

/-- Puts a member where its name belongs among members sorted by name, in place of one of that
name. -/
def insertMember (name : String) (value : Json) : List (String × Json) → List (String × Json)
  | [] => [(name, value)]
  | (other, existing) :: rest =>
    match compare name other with
    | .lt => (name, value) :: (other, existing) :: rest
    | .eq => (name, value) :: rest
    | .gt => (other, existing) :: insertMember name value rest

mutual

/-- The value with the members of every object sorted by name; of several members of one name the
last is kept. -/
def canonical : Json → Json
  | arr elements => .arr (canonicalElements elements)
  | obj members => .obj (canonicalMembers members [])
  | value => value

/-- Every value of a list in canonical form. -/
def canonicalElements : List Json → List Json
  | [] => []
  | element :: rest => element.canonical :: canonicalElements rest

/-- Members added in canonical form to the sorted ones. -/
def canonicalMembers : List (String × Json) → List (String × Json) → List (String × Json)
  | [], sorted => sorted
  | (name, value) :: rest, sorted =>
    canonicalMembers rest (insertMember name value.canonical sorted)

end

end LogDrift.Json
