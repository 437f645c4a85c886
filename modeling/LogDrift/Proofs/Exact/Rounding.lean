import LogDrift.Proofs.Exact.Scalar

/-!
# Exact rounding

Scores are differences that are rounded to hundredths. On exact scalars rounding neither depends on
the sign nor changes the order, and whole numbers stay as they are.
-/

namespace LogDrift.Scalar

/-! ## Real numbers -/

theorem round_of_nonneg {x : ℝ} (nonneg : 0 ≤ x) : Scalar.round x = (⌊x + 1 / 2⌋ : ℤ) :=
  if_pos nonneg

theorem round_of_neg {x : ℝ} (negative : x < 0) : Scalar.round x = -((⌊-x + 1 / 2⌋ : ℤ) : ℝ) :=
  if_neg (not_le.2 negative)

theorem round_nonneg {x : ℝ} (nonneg : 0 ≤ x) : 0 ≤ Scalar.round x := by
  rw [round_of_nonneg nonneg]
  exact Int.cast_nonneg (Int.floor_nonneg.2 (by linarith))

@[simp] theorem round_zero : Scalar.round (0 : ℝ) = 0 := by
  rw [round_of_nonneg le_rfl]
  norm_num

@[simp] theorem round_neg (x : ℝ) : Scalar.round (-x) = -Scalar.round x := by
  rcases lt_trichotomy x 0 with negative | rfl | positive
  · rw [round_of_neg negative, round_of_nonneg (neg_nonneg.2 negative.le), neg_neg]
  · rw [neg_zero, round_zero, neg_zero]
  · rw [round_of_neg (neg_lt_zero.2 positive), round_of_nonneg positive.le, neg_neg]

theorem abs_round (x : ℝ) : |Scalar.round x| = Scalar.round |x| := by
  rcases le_total 0 x with nonneg | nonpos
  · rw [abs_of_nonneg nonneg, abs_of_nonneg (round_nonneg nonneg)]
  · have flipped := round_nonneg (neg_nonneg.2 nonpos)
    rw [abs_of_nonpos nonpos, ← abs_neg, ← round_neg, abs_of_nonneg flipped]

/-- Rounding what is not negative keeps the order. -/
theorem round_le_round {x y : ℝ} (nonneg : 0 ≤ x) (le : x ≤ y) : Scalar.round x ≤ Scalar.round y := by
  rw [round_of_nonneg nonneg, round_of_nonneg (nonneg.trans le)]
  exact Int.cast_le.2 (Int.floor_le_floor (by linarith))

theorem roundHundredths_real (x : ℝ) : Scalar.roundHundredths x = Scalar.round (x * 100) / 100 := by
  have hundred : (Scalar.ofNat 100 : ℝ) = 100 := (exact_real.ofNat 100).trans (by norm_num)
  rw [Scalar.roundHundredths, hundred]

theorem abs_roundHundredths (x : ℝ) : |Scalar.roundHundredths x| = Scalar.roundHundredths |x| := by
  have scaled : |x * 100| = |x| * 100 := by rw [abs_mul, abs_of_pos (by norm_num : (0 : ℝ) < 100)]
  rw [roundHundredths_real, roundHundredths_real, abs_div, abs_round, scaled,
    abs_of_pos (by norm_num : (0 : ℝ) < 100)]

theorem roundHundredths_le {x y : ℝ} (nonneg : 0 ≤ x) (le : x ≤ y) :
    Scalar.roundHundredths x ≤ Scalar.roundHundredths y := by
  have rounded := round_le_round (x := x * 100) (y := y * 100) (by linarith) (by linarith)
  rw [roundHundredths_real, roundHundredths_real]
  linarith

theorem roundHundredths_nonneg {x : ℝ} (nonneg : 0 ≤ x) : 0 ≤ Scalar.roundHundredths x := by
  rw [roundHundredths_real]
  exact div_nonneg (round_nonneg (by linarith)) (by norm_num)

@[simp] theorem roundHundredths_one : Scalar.roundHundredths (1 : ℝ) = 1 := by
  rw [roundHundredths_real, round_of_nonneg (by norm_num)]
  norm_num

/-! ## Exact scalars -/

/-- Exact scalars that are also subtracted and rounded as real numbers are. -/
structure ExactRounding {S : Type} [Scalar S] (value : S → ℝ) : Prop extends Exact value where
  sub : ∀ x y, value (x - y) = value x - value y
  neg : ∀ x, value (-x) = -value x
  round : ∀ x, value (Scalar.round x) = Scalar.round (value x)

theorem exactRounding_real : ExactRounding (fun x : ℝ => x) where
  toExact := exact_real
  sub _ _ := rfl
  neg _ := rfl
  round _ := rfl

namespace ExactRounding

variable {S : Type} [Scalar S] {value : S → ℝ}

theorem abs (exact : ExactRounding value) (x : S) : value (Scalar.abs x) = |value x| := by
  rw [Scalar.abs]
  split
  · next negative =>
    rw [exact.lt_iff, exact.zero] at negative
    rw [exact.neg, abs_of_neg negative]
  · next nonnegative =>
    rw [exact.lt_iff, exact.zero, not_lt] at nonnegative
    rw [abs_of_nonneg nonnegative]

theorem roundHundredths (exact : ExactRounding value) (x : S) :
    value (Scalar.roundHundredths x) = Scalar.roundHundredths (value x) := by
  rw [Scalar.roundHundredths, Scalar.roundHundredths, exact.div, exact.round, exact.mul,
    exact.ofNat, exact_real.ofNat]

end ExactRounding

/-! ## Whole parts -/

/-- Exact scalars whose whole parts are those of real numbers as far as integers reach. `reach` brings
a whole number into their range and leaves the integers of 64 bits as they are. -/
structure ExactParts {S : Type} [Scalar S] (value : S → ℝ) (reach : Int → Int) : Prop extends
    ExactRounding value where
  floor : ∀ x, Scalar.floor x = reach ⌊value x⌋
  ceil : ∀ x, Scalar.ceil x = reach ⌈value x⌉
  monotone : Monotone reach
  reached : ∀ n, Integer.least ≤ n → n ≤ Integer.greatest → reach n = n

theorem exactParts_real : ExactParts (fun x : ℝ => x) id where
  toExactRounding := exactRounding_real
  floor _ := rfl
  ceil _ := rfl
  monotone := monotone_id
  reached _ _ _ := rfl

namespace ExactParts

variable {S : Type} [Scalar S] {value : S → ℝ} {reach : Int → Int}

/-- A number stays above a bound when it is brought into the range of integers. -/
theorem lt_reach_iff (exact : ExactParts value reach) {bound n : Int}
    (above : Integer.least ≤ bound) (below : bound < Integer.greatest) :
    bound < reach n ↔ bound < n := by
  constructor
  · intro less
    by_contra small
    have brought := exact.monotone (not_lt.1 small)
    rw [exact.reached bound above below.le] at brought
    exact absurd less (not_lt.2 brought)
  · intro less
    have brought := exact.monotone (Int.add_one_le_of_lt less)
    rwa [exact.reached (bound + 1) (by omega) (Int.add_one_le_of_lt below)] at brought

/-- Numbers on different sides of a bound stay apart. -/
theorem reach_lt_reach (exact : ExactParts value reach) {bound m n : Int}
    (above : Integer.least ≤ bound) (below : bound < Integer.greatest) (small : m ≤ bound)
    (large : bound < n) : reach m < reach n := by
  have brought := exact.monotone small
  rw [exact.reached bound above below.le] at brought
  exact brought.trans_lt ((exact.lt_reach_iff above below).2 large)

end ExactParts

end LogDrift.Scalar
