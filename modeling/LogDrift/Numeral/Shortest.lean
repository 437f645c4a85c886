import LogDrift.Numeral.Binary

/-!
# The shortest decimal that reads back

Among the decimals that lie closer to a double than to any other, the one with the fewest digits;
of several such, the nearest to the double. Which of two equally near ones is taken is a choice of
the caller. Everything is computed on natural numbers.
-/

namespace LogDrift

/-- The magnitude `0.d₁d₂… · 10 ^ point`, where `digits` is the number `d₁d₂…`. -/
structure DecimalDigits where
  digits : Nat
  point : Int
  deriving DecidableEq, Repr

namespace Shortest

/-- Which of two equally near decimals is taken. -/
inductive Tie where
  /-- The one whose last digit is even. -/
  | toEven
  /-- The one of greater magnitude. -/
  | up
  deriving DecidableEq, Repr

/-- The decimal taken when `below` and `below + 1` are equally near. -/
def Tie.choose (tie : Tie) (below : Nat) : Nat :=
  match tie with
  | .toEven => if below % 2 = 0 then below else below + 1
  | .up => below + 1

/-- The interval of magnitudes that round to a double, in quarters of its last place: the value,
the ends, and whether the ends belong to it. -/
structure Interval where
  low : Nat
  value : Nat
  high : Nat
  closed : Bool

/-- The interval of a double. Below a power of two the neighbour is only half as far. -/
def interval (x : Binary) : Interval where
  low := if x.significand = Nat.pow 2 52 ∧ x.exponent > -1074 then 4 * x.significand - 1
    else 4 * x.significand - 2
  value := 4 * x.significand
  high := 4 * x.significand + 2
  closed := x.significand % 2 == 0

/-- The number of digits of a positive natural number. -/
def digitCount (n : Nat) : Nat :=
  (Nat.toDigits 10 n).length

/-- The digits before the point of `n / d`, counted as negative when zeros follow the point. -/
def pointOf (n d : Nat) : Int :=
  let guess : Int := digitCount n - digitCount d
  let reached :=
    if guess ≥ 0 then d * Nat.pow 10 guess.toNat ≤ n else d ≤ n * Nat.pow 10 (-guess).toNat
  if reached then guess + 1 else guess

/-- Of the two neighbours of the value with `count` digits, the better one that lies in the
interval. All magnitudes are over the common denominator `unit`, and `scale / grain` is the number
of steps of the grid in one unit. -/
def onGrid? (tie : Tie) (range : Interval) (scale grain : Nat) : Option Nat :=
  let below := range.value * scale / grain
  let inside := fun candidate =>
    if range.closed then
      range.low * scale ≤ candidate * grain && candidate * grain ≤ range.high * scale
    else
      range.low * scale < candidate * grain && candidate * grain < range.high * scale
  let distanceBelow := range.value * scale - below * grain
  let distanceAbove := (below + 1) * grain - range.value * scale
  match inside below, inside (below + 1) with
  | true, true =>
    if distanceBelow < distanceAbove then some below
    else if distanceAbove < distanceBelow then some (below + 1)
    else some (tie.choose below)
  | true, false => some below
  | false, true => some (below + 1)
  | false, false => none

/-- Searches the grids of `count`, `count + 1`, … digits, `fuel` of them. Seventeen digits always
suffice. -/
def search (tie : Tie) (range : Interval) (top bottom : Nat) (point : Int) :
    Nat → Nat → DecimalDigits
  | _, 0 => ⟨0, 0⟩
  | count, fuel + 1 =>
    let place := point - count
    let scale := if place < 0 then top * Nat.pow 10 (-place).toNat else top
    let grain := if place < 0 then bottom else bottom * Nat.pow 10 place.toNat
    match onGrid? tie range scale grain with
    | some digits =>
      if digits = Nat.pow 10 count then ⟨1, point + 1⟩ else ⟨digits, point⟩
    | none => search tie range top bottom point (count + 1) fuel

/-- The shortest digits of a finite double's magnitude; zero has none. -/
def digits (tie : Tie) (x : Binary) : DecimalDigits :=
  if x.significand = 0 then ⟨0, 0⟩
  else
    let top := Nat.pow 2 (x.exponent - 2).toNat
    let bottom := Nat.pow 2 (2 - x.exponent).toNat
    search tie (interval x) top bottom (pointOf (4 * x.significand * top) bottom) 1 17

end Shortest

end LogDrift
