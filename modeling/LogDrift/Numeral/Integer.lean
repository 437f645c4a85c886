/-!
# Integers of 64 bits

Labels and counts are 64-bit signed integers, and sums of them wrap around. An integer is read from
an optional sign and at least one ASCII digit, within given bounds. A text that is none is refused
for the first thing wrong with it, read from the left.
-/

namespace LogDrift

/-- Why a text is not an integer within bounds. -/
inductive IntegerFault
  | empty
  | invalidDigit
  | tooLarge
  | tooSmall
  deriving DecidableEq, Repr

/-- The wording of a refusal. -/
def IntegerFault.message : IntegerFault → String
  | .empty => "cannot parse integer from empty string"
  | .invalidDigit => "invalid digit found in string"
  | .tooLarge => "number too large to fit in target type"
  | .tooSmall => "number too small to fit in target type"

namespace Integer

/-- The least 64-bit signed integer. -/
def least : Int := -9223372036854775808

/-- The greatest 64-bit signed integer. -/
def greatest : Int := 9223372036854775807

/-- The greatest 64-bit unsigned integer. -/
def greatestUnsigned : Nat := 18446744073709551615

/-- Whether an integer is a 64-bit signed one. -/
def Fits (n : Int) : Prop :=
  least ≤ n ∧ n ≤ greatest

instance (n : Int) : Decidable (Fits n) :=
  inferInstanceAs (Decidable (_ ∧ _))

/-- What arithmetic that wraps around makes of an integer: the 64-bit signed integer that differs from
it by a multiple of the number of these. -/
def wrap (n : Int) : Int :=
  n.bmod (greatestUnsigned + 1)

/-- The 64-bit signed integer nearest to an integer. -/
def clamp (n : Int) : Int :=
  max least (min n greatest)

/-- The value of an ASCII digit. -/
def digit? (c : Char) : Option Nat :=
  if '0' ≤ c ∧ c ≤ '9' then some (c.toNat - '0'.toNat) else none

/-- Reads digits onto `value`, which stays at most `limit`; `beyond` is the refusal when it does
not. -/
def readDigits (limit : Nat) (beyond : IntegerFault) (value : Nat) :
    List Char → Except IntegerFault Nat
  | [] => .ok value
  | c :: rest =>
    match digit? c with
    | none => .error .invalidDigit
    | some d =>
      if value * 10 + d ≤ limit then readDigits limit beyond (value * 10 + d) rest
      else .error beyond

/-- Reads digits of which there must be one. -/
def readSome (limit : Nat) (beyond : IntegerFault) (text : List Char) : Except IntegerFault Nat :=
  if text.isEmpty then .error .invalidDigit else readDigits limit beyond 0 text

/-- Reads an integer from `-lower` to `upper`. -/
def readSigned (lower upper : Nat) : List Char → Except IntegerFault Int
  | [] => .error .empty
  | '-' :: rest => (readSome lower .tooSmall rest).map fun n => -(n : Int)
  | '+' :: rest => (readSome upper .tooLarge rest).map Int.ofNat
  | text => (readSome upper .tooLarge text).map Int.ofNat

/-- Reads a natural number up to `upper`, which may carry a plus sign. -/
def readUnsigned (upper : Nat) : List Char → Except IntegerFault Nat
  | [] => .error .empty
  | '+' :: rest => readSome upper .tooLarge rest
  | text => readSome upper .tooLarge text

/-- Reads a 64-bit signed integer. -/
def read64 (text : List Char) : Except IntegerFault Int :=
  readSigned least.natAbs greatest.toNat text

end Integer

end LogDrift
