import LogDrift.Numeral.Integer

/-!
# Decimal numerals

The grammar of a decimal numeral in plain text and the double nearest to it. Next to numerals the
names of the infinities and of the undefined number are accepted, in any case of letters.
-/

namespace LogDrift

namespace Decimal

/-- The ASCII digits that a text starts with, and what follows them. -/
def spanDigits (text : List Char) : List Char × List Char :=
  (text.takeWhile fun c => (Integer.digit? c).isSome,
    text.dropWhile fun c => (Integer.digit? c).isSome)

/-- The number that digits denote, most significant first. -/
def digitsValue (digits : List Char) : Nat :=
  digits.foldl (fun value c => value * 10 + (Integer.digit? c).getD 0) 0

/-- The double nearest to `significand · 10 ^ exponent`. A power of ten far out of range is not
computed: the result is then an infinity or zero. -/
def nearestFloat (significand : Nat) (exponent : Int) : Float :=
  let magnitude : Int := (Nat.toDigits 10 significand).length + exponent
  if significand = 0 ∨ magnitude < -400 then 0
  else if magnitude > 400 then 1 / 0
  else if exponent ≥ 0 then Float.ofScientific significand false exponent.toNat
  else Float.ofScientific significand true (-exponent).toNat

/-- An exponent mark with its number, or nothing at the end of the text. -/
def readExponent? : List Char → Option Int
  | [] => some 0
  | mark :: rest =>
    if mark = 'e' ∨ mark = 'E' then
      let (negative, digits) := match rest with
        | '-' :: digits => (true, digits)
        | '+' :: digits => (false, digits)
        | digits => (false, digits)
      let (number, tail) := spanDigits digits
      if number.isEmpty ∨ tail ≠ [] then none
      else some (if negative then -digitsValue number else digitsValue number)
    else none

/-- A numeral without sign: digits with at most one point among or around them, and perhaps an
exponent. -/
def readMagnitude? (text : List Char) : Option Float :=
  let (whole, rest) := spanDigits text
  let (fraction, rest) := match rest with
    | '.' :: rest => spanDigits rest
    | rest => ([], rest)
  if whole.isEmpty ∧ fraction.isEmpty then none
  else (readExponent? rest).map fun exponent =>
    nearestFloat (digitsValue (whole ++ fraction)) (exponent - fraction.length)

/-- An unsigned numeral, an infinity or the undefined number. -/
def readUnsigned? (text : List Char) : Option Float :=
  let letters := text.map Char.toLower
  if letters = "inf".toList ∨ letters = "infinity".toList then some (1 / 0)
  else if letters = "nan".toList then some (0 / 0)
  else readMagnitude? text

/-- Reads a decimal numeral with an optional sign. -/
def read? : List Char → Option Float
  | '-' :: rest => (readUnsigned? rest).map fun x => -x
  | '+' :: rest => readUnsigned? rest
  | text => readUnsigned? text

end Decimal

end LogDrift
