import LogDrift.CommandLine.Parameter

/-!
# Reading words

A level of a command line is read word by word, until the words end or a subcommand follows. A value
that stands as a word of its own is taken in when the next parameter starts or the level ends.
-/

namespace LogDrift.CommandLine

/-- What is known at one level of a command line. -/
structure Level (T : Type) where
  parameters : List (Parameter T)
  subcommands : List String
  hasVersion : Bool

/-- How far a level has been read. -/
structure Reading (T : Type) where
  /-- What has been taken in. -/
  given : T
  /-- The parameter that was named last, with its value if that has come. -/
  pending : Option (Parameter T × Option String) := none
  /-- Whether no further word is a parameter. -/
  isClosed : Bool := false

namespace Reading

variable {T : Type}

/-- The parameter that waits for a value. -/
def waiting? (reading : Reading T) : Option (Parameter T) :=
  match reading.pending with
  | some (parameter, none) => some parameter
  | _ => none

/-- Takes in the pending value. -/
def settle (reading : Reading T) : Except Refusal T :=
  match reading.pending with
  | none => .ok reading.given
  | some (_, none) => .error .missingValue
  | some (parameter, some value) => parameter.accept value reading.given

/-- Starts a parameter, whose value may be attached to its name. -/
def start (reading : Reading T) (parameter : Parameter T) (value : Option String) :
    Except Refusal (Reading T) := do
  let given ← reading.settle
  match value with
  | none => return { given, pending := some (parameter, none) }
  | some value => return { given := ← parameter.accept value given }

/-- Answers a question for `topic` instead of reading on. -/
def leave {α : Type} (reading : Reading T) (topic : Refusal) : Except Refusal α := do
  let _ ← reading.settle
  .error topic

end Reading

namespace Level

variable {T : Type}

/-- The refusal of a word that is neither a parameter nor a value. -/
def surplus {α : Type} (level : Level T) (reading : Reading T) (word : String) :
    Except Refusal α :=
  if level.subcommands.isEmpty || (reading.isClosed && level.subcommands.contains word) then
    .error .unknownWord
  else .error .unknownSubcommand

/-- What a name asks for instead of being a parameter. -/
def topicOfName? (level : Level T) : String → Option Refusal
  | "help" => some .helpAsked
  | "version" => if level.hasVersion then some .versionAsked else none
  | _ => none

/-- What a letter asks for. -/
def topicOfLetter? (level : Level T) : Char → Option Refusal
  | 'h' => some .helpAsked
  | 'V' => if level.hasVersion then some .versionAsked else none
  | _ => none

/-- Takes a name with an attached value, if there is one. -/
def takeNamed (level : Level T) (reading : Reading T) (name : String) (value : Option String) :
    Except Refusal (Reading T) :=
  match level.parameters.find? (·.name == name), level.topicOfName? name with
  | some parameter, _ => reading.start parameter value
  | none, none => .error .unknownWord
  | none, some topic => if value.isSome then .error .surplusValue else reading.leave topic

/-- Takes letters after a hyphen. The first one decides. -/
def takeLetters (level : Level T) (reading : Reading T) (letters : List Char) :
    Except Refusal (Reading T) :=
  match letters.head?.bind level.topicOfLetter? with
  | some topic => reading.leave topic
  | none => .error .unknownWord

/-- Takes one word. -/
def take (level : Level T) (reading : Reading T) (word : String) : Except Refusal (Reading T) :=
  if reading.isClosed then level.surplus reading word
  else
    let asValue := fun parameter => { reading with pending := some (parameter, some word) }
    match Word.ofText word, reading.waiting? with
    | .closing, _ => .ok { reading with isClosed := true }
    | .named name value, _ => level.takeNamed reading name value
    | .letters letters, some parameter =>
      if parameter.isSigned && looksNumeric letters then .ok (asValue parameter)
      else level.takeLetters reading letters
    | .letters letters, none => level.takeLetters reading letters
    | .plain, some parameter => .ok (asValue parameter)
    | .plain, none => level.surplus reading word

/-- Whether a word is the subcommand that ends a level. -/
def endsWith (level : Level T) (reading : Reading T) (word : String) : Bool :=
  !reading.isClosed && reading.waiting?.isNone && level.subcommands.contains word

/-- Reads words until they end or a subcommand follows, which is given with the words after it. -/
def read (level : Level T) (reading : Reading T) :
    List String → Except Refusal (Reading T × Option (String × List String))
  | [] => .ok (reading, none)
  | word :: rest =>
    if level.endsWith reading word then .ok (reading, some (word, rest))
    else do
      let reading ← level.take reading word
      level.read reading rest

/-- Reads words of which none is a subcommand. -/
def readAll (level : Level T) (blank : T) (words : List String) : Except Refusal T := do
  let (reading, _) ← level.read { given := blank } words
  reading.settle

end Level

end LogDrift.CommandLine
