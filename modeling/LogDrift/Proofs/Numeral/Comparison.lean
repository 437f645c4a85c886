import Mathlib
import LogDrift.Scalar

/-!
# Comparing scalars

Where scalars can be compared, any two of them stand in an order. Doubles can be compared unless they
are no numbers: a rank made of their parts orders them. Products of doubles do not depend on the
order of their factors.
-/

namespace LogDrift

namespace Scalar

/-- Whether the scalars of a kind can be compared with each other. -/
structure Ordered {S : Type} [Scalar S] (kind : S → Prop) : Prop where
  total : ∀ {x y : S}, kind x → kind y → x ≤ y ∨ y ≤ x
  trans : ∀ {x y z : S}, kind x → kind y → kind z → x ≤ y → y ≤ z → x ≤ z

end Scalar

namespace Double

open Float.Model Float.Model.UnpackedFloat

/-- Where a number that is taken apart stands among others: by its sign and whether it is finite, by
its exponent and by its significand. -/
def rank : UnpackedFloat → Int ×ₗ Int ×ₗ Int
  | .infinity .negative => toLex (-2, toLex (0, 0))
  | .finite .negative significand exponent _ => toLex (-1, toLex (-exponent, -significand))
  | .zero _ => toLex (0, toLex (0, 0))
  | .finite .positive significand exponent _ => toLex (1, toLex (exponent, significand))
  | .infinity .positive => toLex (2, toLex (0, 0))
  | .notANumber => toLex (0, toLex (0, 0))

/-- Numbers of one sign are compared by their exponents, and then by their significands. -/
theorem isLE_then_iff (exponent exponent' : Int) (significand significand' : Nat) :
    ((compare exponent exponent').then (compare significand significand')).isLE = true ↔
      exponent < exponent' ∨ exponent = exponent' ∧ significand ≤ significand' := by
  rcases Int.lt_trichotomy exponent exponent' with below | rfl | above
  · simp [Std.compare_eq_lt.2 below, below]
  · simp [Nat.isLE_compare]
  · have apart : exponent ≠ exponent' := by omega
    simp [Std.compare_eq_gt.2 above, apart, Int.le_of_lt above]

/-- Of negative numbers the greater magnitude comes first. -/
theorem isGE_then_iff (exponent exponent' : Int) (significand significand' : Nat) :
    ((compare exponent exponent').then (compare significand significand')).isGE = true ↔
      exponent' < exponent ∨ exponent = exponent' ∧ significand' ≤ significand := by
  rw [← Ordering.isLE_swap, Ordering.swap_then, ← Std.OrientedCmp.eq_swap,
    ← Std.OrientedCmp.eq_swap, isLE_then_iff, eq_comm (a := exponent)]

/-- Numbers are compared by their ranks. -/
theorem le_iff_rank_le {left right : UnpackedFloat} (isLeft : left.isNaN = false)
    (isRight : right.isNaN = false) : left.le right = true ↔ rank left ≤ rank right := by
  have negative : compare Sign.negative Sign.positive = .lt := rfl
  have positive : compare Sign.positive Sign.negative = .gt := rfl
  have same : ∀ sign : Sign, compare sign sign = .eq := by rintro (_ | _) <;> rfl
  rcases left with (_ | _) | _ | (_ | _) | ⟨_ | _, m, e, _⟩ <;>
  rcases right with (_ | _) | _ | (_ | _) | ⟨_ | _, m', e', _⟩ <;>
  first
  | exact Bool.noConfusion isLeft
  | exact Bool.noConfusion isRight
  | simp [UnpackedFloat.le, UnpackedFloat.compare, rank, Prod.Lex.toLex_le_toLex, isLE_then_iff,
      isGE_then_iff, negative, positive, same]

theorem le_iff {x y : Float} (isX : x.isNaN = false) (isY : y.isNaN = false) :
    x ≤ y ↔ rank x.toModel.unpack ≤ rank y.toModel.unpack :=
  decide_eq_true_iff.trans (le_iff_rank_le isX isY)

/-- Doubles that are numbers can be compared. -/
theorem ordered : Scalar.Ordered fun x : Float => x.isNaN = false where
  total isX isY := by
    rw [le_iff isX isY, le_iff isY isX]
    exact le_total ..
  trans isX isY isZ := by
    rw [le_iff isX isY, le_iff isY isZ, le_iff isX isZ]
    exact le_trans

/-- Products of doubles do not depend on the order of their factors. -/
theorem mul_comm (x y : Float) : x * y = y * x := by
  have signs : ∀ left right : Sign, left * right = right * left := by
    rintro (_ | _) (_ | _) <;> rfl
  have unpacked : ∀ left right : UnpackedFloat,
      UnpackedFloat.mul Format.binary64 left right =
        UnpackedFloat.mul Format.binary64 right left := by
    intro left right
    cases left <;> cases right <;>
      simp [UnpackedFloat.mul, signs, Nat.mul_comm, Int.add_comm]
  exact congrArg (fun product => Float.ofModel (Float.Model.pack product)) (unpacked _ _)

end Double

end LogDrift
