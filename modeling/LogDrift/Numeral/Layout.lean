import LogDrift.Numeral.Shortest

/-!
# Writing decimals

How the shortest digits of a number are laid out as text. A style fixes where positional notation
ends and what surrounds the digits.
-/

namespace LogDrift

/-- A way to write floating-point numbers. -/
structure NumberStyle where
  /-- Whether a number whose point stands there is written positionally. -/
  positional : Int → Bool
  /-- What follows a whole number in positional notation. -/
  wholeSuffix : String
  /-- Which of two equally near shortest decimals is written. -/
  tie : Shortest.Tie

namespace NumberStyle

/-- Zeros, the characters of `digits`, and the point between them, for a point at `point`. -/
def positionalText (style : NumberStyle) (digits : List Char) (point : Int) : List Char :=
  if point ≤ 0 then '0' :: '.' :: List.replicate (-point).toNat '0' ++ digits
  else if point ≥ digits.length then
    digits ++ List.replicate (point.toNat - digits.length) '0' ++ style.wholeSuffix.toList
  else digits.take point.toNat ++ '.' :: digits.drop point.toNat

/-- One digit, the point and the other digits, and the power of ten with its sign. -/
def scientificText (digits : List Char) (point : Int) : List Char :=
  let exponent := point - 1
  let mantissa := match digits with
    | [] => []
    | [digit] => [digit]
    | digit :: rest => digit :: '.' :: rest
  mantissa ++ 'e' :: (if exponent < 0 then '-' else '+') :: Nat.toDigits 10 exponent.natAbs

/-- The text of a finite number. -/
def finiteText (style : NumberStyle) (x : Binary) : List Char :=
  let shortest := Shortest.digits style.tie x
  let magnitude :=
    if shortest.digits = 0 then '0' :: style.wholeSuffix.toList
    else
      let digits := Nat.toDigits 10 shortest.digits
      if style.positional shortest.point then style.positionalText digits shortest.point
      else scientificText digits shortest.point
  if x.negative then '-' :: magnitude else magnitude

/-- Numbers in documents: positional from `0.00001` up to but not including ten to the sixteenth,
never without a point or an exponent, and a tie goes to the even digit. -/
def document : NumberStyle where
  positional point := -5 < point && point ≤ 16
  wholeSuffix := ".0"
  tie := .toEven

/-- Numbers in messages: always positional, without a point when whole, and a tie goes up. -/
def message : NumberStyle where
  positional _ := true
  wholeSuffix := ""
  tie := .up

/-- The text of a number, the three that are not finite being named. -/
def write (style : NumberStyle) (x : Float) : String :=
  match Binary.ofFloat? x with
  | some parts => String.ofList (style.finiteText parts)
  | none => if x > 0 then "inf" else if x < 0 then "-inf" else "NaN"

end NumberStyle

end LogDrift
