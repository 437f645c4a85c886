import LogDrift.Json.Reader
import LogDrift.Json.Printer
import LogDrift.Text.Quoted

/-!
# Taking values apart

A decoder takes a node apart in the order in which it is written, and stops at the first thing that
is wrong: a value of the wrong shape, or a fault in the text. The same decoders serve texts and
values that are already read; the two differ only in what they say about surplus elements and about
names that should be numbers.
-/

namespace LogDrift.Json

/-- Why a node cannot be decoded. -/
inductive DecodeError
  /-- The value has another shape than expected. -/
  | shape (message : String)
  /-- The number in a name is not a 64-bit integer. -/
  | name
  /-- The text has a fault. -/
  | text (fault : Fault)
  deriving DecidableEq, Repr

/-- Where a node comes from. -/
inductive Source
  | text
  | value
  deriving DecidableEq

/-- What a decoder yields. -/
abbrev Decoded := Except DecodeError

/-- How a message names what was found; a node that stands for a fault has no name. -/
def Node.found? : Node → Option String
  | .null => some "null"
  | .bool true => some "boolean `true`"
  | .bool false => some "boolean `false`"
  | .int value => some s!"integer `{Json.render (.int value)}`"
  | .float value => some s!"floating point `{Json.render (.float value)}`"
  | .str value => some s!"string {Text.quoted value}"
  | .arr _ _ => some "sequence"
  | .obj _ _ => some "map"
  | .unusable _ _ => none
  | .broken _ => none

/-- The fault that keeps a node from being used at all. -/
def Node.fault? : Node → Option Fault
  | .unusable fault _ => some fault
  | .broken fault => some fault
  | _ => none

/-- The refusal of a node that has another shape than expected. -/
def mismatch {α : Type} (expected : String) (node : Node) : Decoded α :=
  match node.fault?, node.found? with
  | some fault, _ => .error (.text fault)
  | none, found =>
    let found := found.getD ""
    .error (.shape s!"invalid type: {found}, expected {expected}")

/-- The refusal of an integer that is out of range. -/
def outOfRange {α : Type} (expected : String) (value : Int) : Decoded α :=
  .error (.shape s!"invalid value: integer `{Json.render (.int value)}`, expected {expected}")

namespace Node

/-- A string. -/
def string : Node → Decoded String
  | .str value => .ok value
  | node => mismatch "a string" node

/-- A truth value. -/
def boolean : Node → Decoded Bool
  | .bool value => .ok value
  | node => mismatch "a boolean" node

/-- An integer between bounds; `kind` names the range. -/
def integer (kind : String) (least greatest : Int) : Node → Decoded Int
  | .int value =>
    if least ≤ value ∧ value ≤ greatest then .ok value else outOfRange kind value
  | node => mismatch kind node

/-- A 64-bit signed integer. -/
def integer64 : Node → Decoded Int :=
  integer "i64" Integer.least Integer.greatest

/-- A natural number of 64 bits; `kind` names the range. -/
def natural (kind : String) (node : Node) : Decoded Nat :=
  (integer kind 0 Integer.greatestUnsigned node).map Int.toNat

/-- A number as a float. -/
def number : Node → Decoded Float
  | .int value => .ok (Float.ofInt value)
  | .float value => .ok value
  | node => mismatch "f64" node

/-- A value that may be null. -/
def nullable {α : Type} (decode : Node → Decoded α) : Node → Decoded (Option α)
  | .null => .ok none
  | node => (decode node).map some

/-- Any value. -/
def anything (node : Node) : Decoded Json :=
  match node.value with
  | .ok value => .ok value.canonical
  | .error fault => .error (.text fault)

/-- Passes over a value. -/
def skip (node : Node) : Decoded Unit :=
  match node.skipFault? with
  | some fault => .error (.text fault)
  | none => .ok ()

/-- What a fault at the end of a container amounts to. -/
def ended (ending : Option Fault) : Decoded Unit :=
  match ending with
  | some fault => .error (.text fault)
  | none => .ok ()

/-- A list. -/
def list {α : Type} (decode : Node → Decoded α) : Node → Decoded (List α)
  | .arr elements ending => do
    let values ← elements.mapM decode
    ended ending
    return values
  | node => mismatch "a sequence" node

/-- The end of a container of which the elements `rest` were not asked for. -/
def noneLeft (source : Source) (size : Nat) (rest : List Node) (ending : Option Fault) :
    Decoded Unit :=
  if rest.isEmpty then ended ending
  else match source with
    | .text => .error (.text .syntaxError)
    | .value => .error (.shape s!"invalid length {size}, expected fewer elements in array")

/-- Two values in an array. -/
def pair {α β : Type} (source : Source) (first : Node → Decoded α) (second : Node → Decoded β) :
    Node → Decoded (α × β)
  | .arr elements ending => do
    let short (given : Nat) : Decoded (α × β) := do
      ended ending
      .error (.shape s!"invalid length {given}, expected a tuple of size 2")
    match elements with
    | [] => short 0
    | [a] => do
      let _ ← first a
      short 1
    | a :: b :: rest => do
      let a ← first a
      let b ← second b
      noneLeft source elements.length rest ending
      return (a, b)
  | node => mismatch "a tuple of size 2" node

/-- The members of an object, each name decoded before its value. -/
def members {κ α : Type} (name : Key → Decoded κ) (decode : κ → Node → Decoded α) :
    Node → Decoded (List (κ × α))
  | .obj entries ending => do
    let decoded ← entries.mapM fun (key, value) => do
      let key ← name key
      let value ← decode key value
      return (key, value)
    ended ending
    return decoded
  | node => mismatch "a map" node

end Node

namespace Key

/-- A name that is a string. -/
def string (key : Key) : Decoded String :=
  match key.name with
  | .ok name => .ok name
  | .error fault => .error (.text fault)

/-- The refusal of a name that is no number. -/
def notNumeric (source : Source) : Decoded Int :=
  match source with
  | .text => .error (.text .syntaxError)
  | .value => .error (.shape "invalid value: expected key to be a number in quotes")

/-- A name that is a 64-bit integer. The number is read from the characters as they are written, and
the name has to end where the number ends. -/
def label (source : Source) (key : Key) : Decoded Int :=
  let starts := match key.written with
    | [] => false
    | c :: _ => c == '-' || (Integer.digit? c).isSome
  if !starts then notNumeric source
  else match Numeral.scan key.written with
    | .error fault =>
      let closed := source == .text && key.skipFault.isNone
      .error (.text (if closed then .syntaxError else fault))
    | .ok (numeral, rest) =>
      match numeral.value? with
      | none => .error (.text .syntaxError)
      | some (.int value) =>
        if value < Integer.least ∨ Integer.greatest < value then .error .name
        else if rest.isEmpty && key.skipFault.isNone then .ok value
        else notNumeric source
      | some _ => .error .name

end Key

/-- A field of a record. -/
structure RecordField (T : Type) where
  /-- The name that messages use. -/
  name : String
  /-- The other names that are accepted. -/
  aliases : List String
  required : Bool
  /-- Puts the value of a node into the record. -/
  read : Node → T → Decoded T

namespace RecordField

variable {T : Type}

/-- Whether a member of this name belongs to the field. -/
def accepts (field : RecordField T) (name : String) : Bool :=
  field.name == name || field.aliases.contains name

/-- Takes one member into a record. `seen` are the fields already met; members of other names are
passed over. -/
def readMember (fields : List (RecordField T)) (state : T × List String) (member : Key × Node) :
    Decoded (T × List String) := do
  let (record, seen) := state
  let name ← member.1.string
  match fields.find? (·.accepts name) with
  | none => do
    member.2.skip
    return (record, seen)
  | some field =>
    if seen.contains field.name then .error (.shape s!"duplicate field `{field.name}`")
    else do
      let record ← field.read member.2 record
      return (record, field.name :: seen)

/-- Takes elements into the fields in order. When they end, only fields that may be missing may be
left. The result holds the elements that are left over. -/
def readElements (title : String) (count : Nat) (ending : Option Fault) :
    Nat → List (RecordField T) → List Node → T → Decoded (T × List Node)
  | _, [], rest, record => .ok (record, rest)
  | given, field :: fields, [], record => do
    Node.ended ending
    if field.required then
      .error (.shape s!"invalid length {given}, expected struct {title} with {count} elements")
    else readElements title count ending given fields [] record
  | given, field :: fields, element :: rest, record => do
    let record ← field.read element record
    readElements title count ending (given + 1) fields rest record

end RecordField

/-- A record, written as an object or as an array of its fields in order. `blank` holds what missing
fields are; `title` is what messages call the record. -/
def Node.record {T : Type} (source : Source) (title : String) (fields : List (RecordField T))
    (blank : T) : Node → Decoded T
  | .obj members ending => do
    let (record, seen) ← members.foldlM (RecordField.readMember fields) (blank, [])
    Node.ended ending
    match fields.find? fun field => field.required && !seen.contains field.name with
    | some field => .error (.shape s!"missing field `{field.name}`")
    | none => return record
  | .arr elements ending => do
    let (record, rest) ← RecordField.readElements title fields.length ending 0 fields elements blank
    Node.noneLeft source elements.length rest ending
    return record
  | node => mismatch s!"struct {title}" node

/-- Decodes a whole text. What follows the value is looked at last. -/
def decodeText {α : Type} (decode : Source → Node → Decoded α) (text : String) : Decoded α := do
  let document := readDocument text
  let result ← decode .text document.root
  Node.ended document.trailing
  return result

/-- Decodes a value that is already read. -/
def decodeValue {α : Type} (decode : Source → Node → Decoded α) (value : Json) : Decoded α :=
  decode .value value.toNode

end LogDrift.Json
