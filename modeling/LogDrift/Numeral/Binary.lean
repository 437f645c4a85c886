import LogDrift.Numeral.Integer

/-!
# Floating-point numbers as scaled integers

A finite double is `± significand · 2 ^ exponent`. Rounding to whole numbers is done on that form in
exact arithmetic.
-/

namespace LogDrift

/-- The value `± significand · 2 ^ exponent`. -/
structure Binary where
  negative : Bool
  significand : Nat
  exponent : Int

namespace Binary

/-- The parts of a finite double; infinities and the undefined result have none. -/
def ofFloat? (x : Float) : Option Binary :=
  let bits := x.toBits.toNat
  let negative := bits / Nat.pow 2 63 == 1
  let field : Nat := bits / Nat.pow 2 52 % Nat.pow 2 11
  let fraction : Nat := bits % Nat.pow 2 52
  if field = 2047 then none
  else if field = 0 then some ⟨negative, fraction, -1074⟩
  else some ⟨negative, Nat.pow 2 52 + fraction, (field : Int) - 1075⟩

/-- The numerator of the magnitude over `denominator`. -/
def numerator (x : Binary) : Nat :=
  x.significand * Nat.pow 2 x.exponent.toNat

/-- The power of two that the magnitude is measured in when it is not whole. -/
def denominator (x : Binary) : Nat :=
  Nat.pow 2 (-x.exponent).toNat

theorem denominator_pos (x : Binary) : 0 < x.denominator :=
  Nat.two_pow_pos _

/-- Whether the value is a whole number. -/
def isWhole (x : Binary) : Bool :=
  x.numerator % x.denominator == 0

/-- The numerator with its sign. -/
def signedNumerator (x : Binary) : Int :=
  if x.negative then -x.numerator else x.numerator

/-- The greatest whole number not above the value. -/
def floor (x : Binary) : Int :=
  Int.fdiv x.signedNumerator x.denominator

/-- The least whole number not below the value. -/
def ceil (x : Binary) : Int :=
  -Int.fdiv (-x.signedNumerator) x.denominator

/-- The whole number between zero and the value that is nearest to the value. -/
def truncate (x : Binary) : Int :=
  Int.tdiv x.signedNumerator x.denominator

/-- The whole number nearest to the magnitude; a half goes up. -/
def nearestMagnitude (x : Binary) : Nat :=
  (2 * x.numerator + x.denominator) / (2 * x.denominator)

/-- A whole part of a float as a 64-bit integer. Beyond the range it is the nearest bound, and the
undefined number counts as zero. -/
def wholePart (part : Binary → Int) (x : Float) : Int :=
  match ofFloat? x with
  | some parts => Integer.clamp (part parts)
  | none => if x > 0 then Integer.greatest else if x < 0 then Integer.least else 0

/-- The whole number nearest to a float, halves away from zero; the sign is kept, also of a zero. -/
def roundFloat (x : Float) : Float :=
  match ofFloat? x with
  | none => x
  | some parts =>
    let magnitude := Float.ofNat parts.nearestMagnitude
    if parts.negative then -magnitude else magnitude

end Binary

end LogDrift
