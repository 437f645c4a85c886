import LogDrift.Json.Basic
import LogDrift.Numeral.Binary
import LogDrift.Numeral.Decimal

/-!
# JSON numbers as text

The grammar of a number, and the value that its text has: digits are collected into a 64-bit
significand, and a float is that significand times or over a power of ten.
-/

namespace LogDrift.Json

/-- Why a text cannot be read on: it ends too early, or what stands there is not allowed. -/
inductive Fault
  | eof
  | syntaxError
  deriving DecidableEq, Repr

/-- A number as it is written. -/
structure Numeral where
  negative : Bool
  whole : List Char
  /-- The digits after the point; none when there is no point. -/
  fraction : List Char
  /-- The sign and the digits of the power of ten. -/
  exponent : Option (Bool × List Char)

namespace Numeral

/-- What stands at `rest` instead of a digit. -/
def missing {α : Type} (rest : List Char) : Except Fault α :=
  .error (if rest.isEmpty then .eof else .syntaxError)

/-- The whole part: a zero alone, or digits that do not start with one. -/
def scanWhole (text : List Char) : Except Fault (List Char × List Char) :=
  let (digits, rest) := Decimal.spanDigits text
  if digits.isEmpty then missing rest
  else if digits.head? = some '0' ∧ digits.length ≠ 1 then .error .syntaxError
  else .ok (digits, rest)

/-- A point and the digits after it, if a point stands there. -/
def scanFraction : List Char → Except Fault (List Char × List Char)
  | '.' :: text =>
    let (digits, rest) := Decimal.spanDigits text
    if digits.isEmpty then missing rest else .ok (digits, rest)
  | text => .ok ([], text)

/-- A power of ten, if one is marked. -/
def scanExponent (text : List Char) : Except Fault (Option (Bool × List Char) × List Char) :=
  match text with
  | [] => .ok (none, [])
  | mark :: text' =>
    if mark = 'e' ∨ mark = 'E' then
      let (negative, text') := match text' with
        | '-' :: rest => (true, rest)
        | '+' :: rest => (false, rest)
        | rest => (false, rest)
      let (digits, rest) := Decimal.spanDigits text'
      if digits.isEmpty then missing rest else .ok (some (negative, digits), rest)
    else .ok (none, text)

/-- The number at the start of a text, and what follows it. -/
def scan (text : List Char) : Except Fault (Numeral × List Char) := do
  let (negative, text) := match text with
    | '-' :: rest => (true, rest)
    | rest => (false, rest)
  let (whole, text) ← scanWhole text
  let (fraction, text) ← scanFraction text
  let (exponent, text) ← scanExponent text
  return (⟨negative, whole, fraction, exponent⟩, text)

/-- Collects digits as long as the significand stays in 64 bits. The result holds the digits that no
longer fit. -/
def collect (significand : Nat) : List Char → Nat × List Char
  | [] => (significand, [])
  | c :: rest =>
    let next := significand * 10 + (Integer.digit? c).getD 0
    if next ≤ Integer.greatestUnsigned then collect next rest else (significand, c :: rest)

/-- The greatest power of ten that is a double. -/
def greatestPower : Nat := 308

/-- A power of ten as a double. -/
def power (exponent : Nat) : Float :=
  Float.ofScientific 1 false exponent

/-- `x` over a power of ten, in steps of the greatest power that is a double. -/
def divideByPower (x : Float) (exponent : Nat) : Float :=
  if exponent ≤ greatestPower then x / power exponent
  else if x == 0 then x
  else divideByPower (x / power greatestPower) (exponent - greatestPower)
termination_by exponent
decreasing_by simp only [greatestPower] at *; omega

/-- A significand times a power of ten; a number beyond the range of doubles has no value. -/
def scaled? (significand : Nat) (exponent : Int) : Option Float :=
  let x := Float.ofNat significand
  if exponent < 0 then some (divideByPower x (-exponent).toNat)
  else if exponent.toNat ≤ greatestPower then
    let product := x * power exponent.toNat
    if (Binary.ofFloat? product).isSome then some product else none
  else if x == 0 then some x
  else none

/-- Whether the number is written without a point and without a power of ten. -/
def isIntegral (numeral : Numeral) : Bool :=
  numeral.fraction.isEmpty && numeral.exponent.isNone

/-- The float that a number denotes. Digits that exceed the significand only count as powers of
ten. -/
def float? (numeral : Numeral) : Option Float :=
  let (significand, dropped) := collect 0 numeral.whole
  let (significand, unread) := collect significand numeral.fraction
  let places : Int := dropped.length - (numeral.fraction.length - unread.length : Nat)
  let exponent : Int := match numeral.exponent with
    | none => 0
    | some (negative, digits) =>
      if negative then -Decimal.digitsValue digits else Decimal.digitsValue digits
  (scaled? significand (places + exponent)).map fun x => if numeral.negative then -x else x

/-- The integer that a number denotes, when it is written as one, is in range, and is not a negative
zero. -/
def int? (numeral : Numeral) : Option Int :=
  let magnitude := Decimal.digitsValue numeral.whole
  if !numeral.isIntegral then none
  else if numeral.negative then
    if magnitude ≠ 0 ∧ magnitude ≤ Integer.least.natAbs then some (-magnitude) else none
  else if magnitude ≤ Integer.greatestUnsigned then some magnitude
  else none

/-- The value of a number; one that is beyond the range of doubles has none. -/
def value? (numeral : Numeral) : Option Json :=
  match numeral.int? with
  | some value => some (.int value)
  | none => numeral.float?.map .float

end Numeral

end LogDrift.Json
