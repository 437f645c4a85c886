import LogDrift.CommandLine.Word

/-!
# Parameters

A parameter takes in one value at a time and puts it into the record of what has been given.
-/

namespace LogDrift.CommandLine

/-- Why a command line yields no arguments. -/
inductive Refusal
  | helpAsked
  | versionAsked
  /-- There are no words that say anything. -/
  | nothingGiven
  | noSubcommand
  | unknownSubcommand
  | unknownWord
  | missingParameter
  | missingValue
  | invalidValue
  | repeatedParameter
  | surplusValue
  deriving DecidableEq, Repr

/-- The wording of a refusal. -/
def Refusal.message : Refusal → String
  | helpAsked => "help was asked for"
  | versionAsked => "the version was asked for"
  | nothingGiven => "nothing is given"
  | noSubcommand => "a subcommand is missing"
  | unknownSubcommand => "there is no such subcommand"
  | unknownWord => "there is no such parameter"
  | missingParameter => "a required parameter is missing"
  | missingValue => "a parameter has no value"
  | invalidValue => "a value is invalid"
  | repeatedParameter => "a parameter is given twice"
  | surplusValue => "a value stands where none is expected"

/-- A parameter whose values go into a `T`. -/
structure Parameter (T : Type) where
  name : String
  /-- Whether a negative number may stand as a word of its own. -/
  isSigned : Bool
  /-- Takes in a value. -/
  accept : String → T → Except Refusal T

namespace Parameter

variable {T U α : Type}

/-- A parameter that is given at most once. -/
def single (name : String) (read : String → Except Refusal α) (get : T → Option α)
    (put : α → T → T) : Parameter T where
  name
  isSigned := false
  accept text given :=
    if (get given).isSome then .error .repeatedParameter
    else (read text).map fun value => put value given

/-- A parameter that takes a negative number also as a word of its own. -/
def signed (parameter : Parameter T) : Parameter T :=
  { parameter with isSigned := true }

/-- A parameter whose values are lists with commas between the elements. Given again it adds to
them. -/
def list (name : String) (append : List String → T → T) : Parameter T where
  name
  isSigned := false
  accept text given := .ok (append (text.splitOn ",") given)

/-- A parameter for the first part of a pair. -/
def onFirst (parameter : Parameter T) : Parameter (T × U) where
  name := parameter.name
  isSigned := parameter.isSigned
  accept text given := (parameter.accept text given.1).map fun first => (first, given.2)

/-- A parameter for the second part of a pair. -/
def onSecond (parameter : Parameter U) : Parameter (T × U) where
  name := parameter.name
  isSigned := parameter.isSigned
  accept text given := (parameter.accept text given.2).map fun second => (given.1, second)

end Parameter

namespace Value

/-- Any text. -/
def text (value : String) : Except Refusal String :=
  .ok value

/-- A path, which is not empty. -/
def path (value : String) : Except Refusal String :=
  if value.isEmpty then .error .missingValue else .ok value

/-- A natural number of 64 bits. -/
def natural (value : String) : Except Refusal Nat :=
  (Integer.readUnsigned Integer.greatestUnsigned value.toList).mapError fun _ => .invalidValue

/-- A signed integer of 64 bits. -/
def integer (value : String) : Except Refusal Int :=
  (Integer.read64 value.toList).mapError fun _ => .invalidValue

end Value

end LogDrift.CommandLine
