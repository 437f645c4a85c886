import Mathlib
import LogDrift.Proofs.Numeral.Comparison
import LogDrift.Proofs.Similarity.Apart

/-!
# Exact arithmetic

Scalars are exact when they stand for real numbers and compute as these do. What holds of them holds
of doubles up to rounding, and what fails for them does not fail for lack of precision. The real
numbers themselves are exact.
-/

namespace LogDrift

namespace Scalar

/-- Scalars that stand for real numbers, with operations that are not rounded. -/
structure Exact {S : Type} [Scalar S] (value : S → ℝ) : Prop where
  zero : value 0 = 0
  one : value 1 = 1
  add : ∀ x y, value (x + y) = value x + value y
  mul : ∀ x y, value (x * y) = value x * value y
  div : ∀ x y, value (x / y) = value x / value y
  cast : ∀ n : Int, value (Int.cast n) = n
  sqrt : ∀ x, value (Scalar.sqrt x) = √(value x)
  ln : ∀ x, value (Scalar.ln x) = Real.log (value x)
  le_iff : ∀ x y, x ≤ y ↔ value x ≤ value y
  lt_iff : ∀ x y, x < y ↔ value x < value y
  beq_iff : ∀ x y, (x == y) = true ↔ value x = value y

namespace Exact

variable {S : Type} [Scalar S] {value : S → ℝ}

theorem ofNat (exact : Exact value) (n : ℕ) : value (Scalar.ofNat n) = n :=
  (exact.cast n).trans (Int.cast_natCast n)

theorem ratio (exact : Exact value) (numerator denominator : ℕ) :
    value (Scalar.ratio numerator denominator) = numerator / denominator := by
  rw [Scalar.ratio, exact.div, exact.ofNat, exact.ofNat]

theorem epsilon (exact : Exact value) : value Scalar.epsilon = 1 / 4503599627370496 := by
  rw [Scalar.epsilon, exact.ratio]
  norm_num

theorem epsilon_pos (exact : Exact value) : 0 < value Scalar.epsilon := by
  rw [exact.epsilon]
  norm_num

theorem epsilon_lt_one (exact : Exact value) : value Scalar.epsilon < 1 := by
  rw [exact.epsilon]
  norm_num

theorem sum (exact : Exact value) (values : List S) :
    value (Scalar.sum values) = (values.map value).sum := by
  have started : ∀ start, value (values.foldl (· + ·) start) =
      value start + (values.map value).sum := by
    induction values with
    | nil => exact fun start => (add_zero (value start)).symm
    | cons head rest ih =>
      intro start
      rw [List.foldl_cons, ih, exact.add, List.map_cons, List.sum_cons, add_assoc]
  rw [Scalar.sum, started, exact.zero, zero_add]

theorem clampUnit (exact : Exact value) (x : S) :
    value (Scalar.clampUnit x) = max 0 (min 1 (value x)) := by
  rw [Scalar.clampUnit]
  split
  · next negative =>
    rw [exact.lt_iff, exact.zero] at negative
    rw [exact.zero, max_eq_left]
    exact (min_le_right 1 _).trans negative.le
  · next nonnegative =>
    rw [exact.lt_iff, exact.zero, not_lt] at nonnegative
    split
    · next large =>
      rw [exact.lt_iff, exact.one] at large
      rw [exact.one, min_eq_left large.le, max_eq_right zero_le_one]
    · next small =>
      rw [exact.lt_iff, exact.one, not_lt] at small
      rw [min_eq_right small, max_eq_right nonnegative]

end Exact

end Scalar

/-- The real numbers as scalars. Nothing is written of them in messages. -/
noncomputable instance : Scalar ℝ where
  toZero := inferInstance
  toOne := inferInstance
  toAdd := inferInstance
  toSub := inferInstance
  toMul := inferInstance
  toDiv := inferInstance
  toNeg := inferInstance
  toLE := inferInstance
  toLT := inferInstance
  toBEq := ⟨fun x y => decide (x = y)⟩
  toIntCast := inferInstance
  decidableLE := Classical.decRel _
  decidableLT := Classical.decRel _
  sqrt := Real.sqrt
  ln := Real.log
  floor := Int.floor
  ceil := Int.ceil
  round x := if 0 ≤ x then (⌊x + 1 / 2⌋ : ℤ) else -(⌊-x + 1 / 2⌋ : ℤ)
  describe _ := ""

namespace Scalar

theorem exact_real : Exact (fun x : ℝ => x) where
  zero := rfl
  one := rfl
  add _ _ := rfl
  mul _ _ := rfl
  div _ _ := rfl
  cast _ := rfl
  sqrt _ := rfl
  ln _ := rfl
  le_iff _ _ := Iff.rfl
  lt_iff _ _ := Iff.rfl
  beq_iff _ _ := decide_eq_true_iff

/-- Exact scalars count faithfully. -/
theorem Exact.faithfulCounts {S : Type} [Scalar S] {value : S → ℝ} (exact : Exact value)
    (injective : Function.Injective value) : FaithfulCounts S where
  mono few := by
    rw [exact.le_iff, exact.ofNat, exact.ofNat]
    exact Nat.cast_le.2 few
  one_mul count := by
    apply injective
    rw [exact.mul, exact.one, one_mul]

theorem faithfulCounts_real : FaithfulCounts ℝ :=
  exact_real.faithfulCounts Function.injective_id

/-- Exact scalars can be compared. -/
theorem Exact.ordered {S : Type} [Scalar S] {value : S → ℝ} (exact : Exact value) :
    Ordered fun _ : S => True where
  total _ _ := by
    rw [exact.le_iff, exact.le_iff]
    exact le_total ..
  trans _ _ _ := by
    rw [exact.le_iff, exact.le_iff, exact.le_iff]
    exact le_trans

/-- Of exact scalars only zero has no sign. -/
theorem Exact.null_iff {S : Type} [Scalar S] {value : S → ℝ} (exact : Exact value) {x : S} :
    Null x ↔ value x = 0 := by
  rw [Null, exact.lt_iff, exact.lt_iff, exact.zero, not_lt, not_lt]
  exact le_antisymm_iff.symm.trans eq_comm

/-- Exact scalars have signs. -/
theorem Exact.faithfulSigns {S : Type} [Scalar S] {value : S → ℝ} (exact : Exact value) :
    FaithfulSigns S where
  zero := exact.null_iff.2 exact.zero
  ofNat_zero := by
    rw [exact.null_iff, exact.ofNat]
    exact Nat.cast_zero
  add left right := by
    rw [exact.null_iff] at left right ⊢
    rw [exact.add, left, right, add_zero]
  mul_left left y := by
    rw [exact.null_iff] at left ⊢
    rw [exact.mul, left, zero_mul]
  mul_right x _ right := by
    rw [exact.null_iff] at right ⊢
    rw [exact.mul, right, mul_zero]
  div left y := by
    rw [exact.null_iff] at left ⊢
    rw [exact.div, left, zero_div]
  pos_of_one_lt large := by
    rw [exact.lt_iff, exact.one] at large
    rw [exact.lt_iff, exact.zero]
    exact one_pos.trans large
  pos_of_le positive larger := by
    rw [exact.lt_iff] at positive ⊢
    exact positive.trans_le ((exact.le_iff _ _).1 larger)

theorem faithfulSigns_real : FaithfulSigns ℝ :=
  exact_real.faithfulSigns

end Scalar

end LogDrift
