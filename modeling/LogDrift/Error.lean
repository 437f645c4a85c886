import LogDrift.Json.Decode
import LogDrift.Label

/-!
# Errors

What can go wrong, as causes. The wording is in `Error.message` alone.
-/

namespace LogDrift

/-- What is wrong with a JSON document. -/
inductive Malformed
  /-- The text ends too early. -/
  | eof
  /-- The text is not JSON. -/
  | notJson
  /-- The text is JSON of another shape. -/
  | otherShape
  /-- A value that was already read has another shape. -/
  | described (message : String)
  deriving DecidableEq, Repr

/-- A cause of failure. -/
inductive Error
  | io (message : String)
  | document (malformed : Malformed)
  | malformedEvent (reason : String)
  | emptyVocabulary (reason : String)
  | notFitted (label : Label)
  | emptyCounts (label : Label)
  | collaborator (reason : String)
  | other (message : String)
  deriving DecidableEq, Repr

namespace Malformed

/-- The kind of fault in a text. -/
def ofFault : Json.Fault → Malformed
  | .eof => eof
  | .syntaxError => notJson

/-- What a refusal says about a text. -/
def ofText : Json.DecodeError → Malformed
  | .shape _ => otherShape
  | .name => otherShape
  | .text fault => ofFault fault

/-- What a refusal says about a value that was already read. -/
def ofValue : Json.DecodeError → Malformed
  | .shape message => described message
  | .name => otherShape
  | .text fault => ofFault fault

end Malformed

namespace Error

/-- The wording of an error. What is wrong with a document is not part of it. -/
def message : Error → String
  | io message => s!"IO error: {message}"
  | document _ => "Serialization error"
  | malformedEvent reason => s!"Malformed event: {reason}"
  | emptyVocabulary reason => s!"No usable features after pruning: {reason}"
  | notFitted label => s!"No classifier fitted for cluster {label}"
  | emptyCounts label => s!"Empty count vector for cluster {label}"
  | collaborator reason => s!"Collaborator error: {reason}"
  | other message => message

/-- Decodes a text. -/
def readText {α : Type} (decode : Json.Source → Json.Node → Json.Decoded α) (text : String) :
    Except Error α :=
  (Json.decodeText decode text).mapError fun refusal => document (.ofText refusal)

/-- Decodes a value. -/
def readValue {α : Type} (decode : Json.Source → Json.Node → Json.Decoded α) (value : Json) :
    Except Error α :=
  (Json.decodeValue decode value).mapError fun refusal => document (.ofValue refusal)

end Error

end LogDrift
