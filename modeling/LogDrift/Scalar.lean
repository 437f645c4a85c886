import LogDrift.Numeral.Layout

/-!
# The numbers that scores are made of

The analysis is written over a type of scalars with arithmetic, order, square root and logarithm.
Programs run it on doubles; a theorem may take it at an exact field.
-/

namespace LogDrift

/-- Arithmetic for scores. -/
class Scalar (S : Type) extends Zero S, One S, Add S, Sub S, Mul S, Div S, Neg S, LE S, LT S, BEq S,
    IntCast S where
  decidableLE : DecidableLE S
  decidableLT : DecidableLT S
  sqrt : S → S
  ln : S → S
  /-- The greatest integer not above a scalar, as far as integers reach. -/
  floor : S → Int
  /-- The least integer not below a scalar, as far as integers reach. -/
  ceil : S → Int
  /-- The nearest whole scalar; a half goes away from zero. -/
  round : S → S
  /-- The text of a scalar in a message. -/
  describe : S → String

namespace Scalar

variable {S : Type} [Scalar S]

instance : DecidableLE S := decidableLE
instance : DecidableLT S := decidableLT

/-- A natural number as a scalar. -/
def ofNat (n : Nat) : S :=
  Int.cast (n : Int)

/-- The quotient of two natural numbers as a scalar. -/
def ratio (numerator denominator : Nat) : S :=
  ofNat numerator / ofNat denominator

/-- The distance between one and the next double. A norm up to it counts as zero. -/
def epsilon : S :=
  ratio 1 4503599627370496

/-- The magnitude. -/
def abs (x : S) : S :=
  if x < 0 then -x else x

/-- The larger of two scalars. An undefined one loses against any other. -/
def larger (x y : S) : S :=
  if x < y || !(x == x) then y else x

/-- The nearest scalar from zero to one. -/
def clampUnit (x : S) : S :=
  if x < 0 then 0 else if 1 < x then 1 else x

/-- The sum of a list, from left to right. -/
def sum (values : List S) : S :=
  values.foldl (· + ·) 0

/-- The nearest multiple of one hundredth. -/
def roundHundredths (x : S) : S :=
  round (x * ofNat 100) / ofNat 100

end Scalar

/-- Doubles, with every operation rounded on its own. -/
instance : Scalar Float where
  zero := 0
  one := 1
  intCast := Float.ofInt
  decidableLE := inferInstance
  decidableLT := inferInstance
  sqrt := Float.sqrt
  ln := Float.log
  floor := Binary.wholePart Binary.floor
  ceil := Binary.wholePart Binary.ceil
  round := Binary.roundFloat
  describe := NumberStyle.message.write

end LogDrift
