import LogDrift.Proofs.Exact.Scalar
import LogDrift.Similarity.Vector

/-!
# Vectors as points

A vector of exact scalars is a point of a Euclidean space, where its length is the norm and the
inner product is that of the space. The mean of unit vectors that all are close to some unit vector
is close to it as well, since the mean is no longer than they are.
-/

namespace LogDrift.Vector

variable {S : Type} [Scalar S] {value : S → ℝ} {size : ℕ}

/-- The point of a vector with `size` components. -/
def point (value : S → ℝ) (size : ℕ) (vector : List S) : EuclideanSpace ℝ (Fin size) :=
  WithLp.toLp _ fun place => value (vector.getD place 0)

/-! ## Operations as operations on points -/

/-- A sum over two vectors runs over their components. -/
theorem sum_zipWith (image : S → S → ℝ) {left right : List S} (leftSize : left.length = size)
    (rightSize : right.length = size) :
    (List.zipWith image left right).sum =
      ∑ place : Fin size, image (left.getD place 0) (right.getD place 0) := by
  have components : List.zipWith image left right =
      List.ofFn fun place : Fin size => image (left.getD place 0) (right.getD place 0) := by
    apply List.ext_getElem
    · simp [leftSize, rightSize]
    · intro place inLeft inRight
      simp only [List.length_zipWith, lt_inf_iff] at inLeft
      simp [inLeft]
  rw [components, List.sum_ofFn]

theorem value_dot (exact : Scalar.Exact value) {left right : List S}
    (leftSize : left.length = size) (rightSize : right.length = size) :
    value (dot left right) = inner ℝ (point value size left) (point value size right) := by
  rw [dot, exact.sum, List.map_zipWith, sum_zipWith _ leftSize rightSize, PiLp.inner_apply]
  apply Finset.sum_congr rfl
  intro place _
  rw [exact.mul, mul_comm]
  rfl

theorem value_norm (exact : Scalar.Exact value) {vector : List S} (sized : vector.length = size) :
    value (norm vector) = ‖point value size vector‖ := by
  have squares : vector.map (fun x => x * x) = List.zipWith (· * ·) vector vector := by
    rw [List.zipWith_self]
  rw [norm, exact.sqrt, squares, ← dot, value_dot exact sized sized, norm_eq_sqrt_real_inner]

theorem point_add (exact : Scalar.Exact value) {left right : List S}
    (leftSize : left.length = size) (rightSize : right.length = size) :
    point value size (add left right) = point value size left + point value size right := by
  ext place
  have inLeft : place < left.length := leftSize ▸ place.isLt
  have inRight : place < right.length := rightSize ▸ place.isLt
  simp [point, add, inLeft, inRight, exact.add]

theorem point_map_div (exact : Scalar.Exact value) {vector : List S}
    (sized : vector.length = size) (divisor : S) :
    point value size (vector.map (· / divisor)) = (value divisor)⁻¹ • point value size vector := by
  ext place
  have inBounds : place < vector.length := sized ▸ place.isLt
  simp [point, inBounds, exact.div, div_eq_inv_mul]

theorem point_replicate (exact : Scalar.Exact value) :
    point value size (List.replicate size 0) = 0 := by
  ext place
  simp [point, exact.zero]

theorem length_foldl_add {start : List S} (sized : start.length = size) {vectors : List (List S)}
    (allSized : ∀ vector ∈ vectors, vector.length = size) :
    (vectors.foldl add start).length = size := by
  induction vectors generalizing start with
  | nil => exact sized
  | cons vector rest ih =>
    rw [List.forall_mem_cons] at allSized
    apply ih _ allSized.2
    simp [add, sized, allSized.1]

/-- Adding up vectors adds up their points. -/
theorem point_foldl_add (exact : Scalar.Exact value) {start : List S}
    (sized : start.length = size) {vectors : List (List S)}
    (allSized : ∀ vector ∈ vectors, vector.length = size) :
    point value size (vectors.foldl add start) =
      point value size start + (vectors.map (point value size)).sum := by
  induction vectors generalizing start with
  | nil => simp
  | cons vector rest ih =>
    rw [List.forall_mem_cons] at allSized
    have summed : (add start vector).length = size := by simp [add, sized, allSized.1]
    rw [List.foldl_cons, ih summed allSized.2, point_add exact sized allSized.1, List.map_cons,
      List.sum_cons, add_assoc]

theorem length_mean {vectors : List (List S)}
    (allSized : ∀ vector ∈ vectors, vector.length = size) : (mean size vectors).length = size := by
  rw [mean, List.length_map]
  exact length_foldl_add List.length_replicate allSized

/-- The mean of vectors is the centre of their points. -/
theorem point_mean (exact : Scalar.Exact value) {vectors : List (List S)}
    (allSized : ∀ vector ∈ vectors, vector.length = size) :
    point value size (mean size vectors) =
      (vectors.length : ℝ)⁻¹ • (vectors.map (point value size)).sum := by
  have sized := length_foldl_add (List.length_replicate (n := size) (a := (0 : S))) allSized
  rw [mean, point_map_div exact sized, exact.ofNat,
    point_foldl_add exact List.length_replicate allSized, point_replicate exact, zero_add]

/-! ## Lengths -/

theorem isZero_iff (exact : Scalar.Exact value) {vector : List S} :
    isZero vector = true ↔ ∀ component ∈ vector, value component = 0 := by
  simp [isZero, exact.beq_iff, exact.zero]

theorem point_of_isZero (exact : Scalar.Exact value) {vector : List S}
    (zero : isZero vector = true) : point value size vector = 0 := by
  ext place
  simp only [point]
  cases found : vector[place.val]? with
  | none => simp [List.getD_eq_getElem?_getD, found, exact.zero]
  | some component =>
    have member := List.mem_of_getElem? found
    simp [List.getD_eq_getElem?_getD, found, (isZero_iff exact).1 zero component member]

/-- No component is longer than its vector. -/
theorem le_norm_point {vector : List S} (sized : vector.length = size) {component : S}
    (member : component ∈ vector) : value component ≤ ‖point value size vector‖ := by
  rcases List.mem_iff_getElem.1 member with ⟨place, inBounds, found⟩
  have bounded := PiLp.norm_apply_le (point value size vector) ⟨place, sized ▸ inBounds⟩
  have component : point value size vector ⟨place, sized ▸ inBounds⟩ = value component := by
    simp [point, inBounds, found]
  rw [component] at bounded
  exact (Real.le_norm_self _).trans bounded

/-- Bringing a vector that counts to length one succeeds. -/
theorem norm_point_normalized (exact : Scalar.Exact value) {vector : List S}
    (sized : vector.length = size)
    (long : value Scalar.epsilon < ‖point value size vector‖) :
    ‖point value size (normalized vector)‖ = 1 := by
  have counts : Scalar.epsilon < norm vector := by
    rw [exact.lt_iff, value_norm exact sized]
    exact long
  rw [normalized, if_pos counts, point_map_div exact sized, value_norm exact sized, norm_smul,
    norm_inv, norm_norm]
  exact inv_mul_cancel₀ (exact.epsilon_pos.trans long).ne'

/-! ## Similarity -/

theorem cosine_le_one (exact : Scalar.Exact value) (left right : List S) :
    value (cosine left right) ≤ 1 := by
  rw [cosine]
  dsimp only
  split
  · rw [exact.zero]
    exact zero_le_one
  · rw [exact.clampUnit]
    exact max_le zero_le_one (min_le_left 1 _)

/-- A similarity reaches a positive bound when both vectors count and the angle between them is
small enough. -/
theorem le_cosine_iff (exact : Scalar.Exact value) {bound : S} (positive : 0 < value bound)
    (small : value bound ≤ 1) {left right : List S} (leftSize : left.length = size)
    (rightSize : right.length = size) :
    bound ≤ cosine left right ↔
      value Scalar.epsilon < ‖point value size left‖ ∧
      value Scalar.epsilon < ‖point value size right‖ ∧
      value bound * (‖point value size left‖ * ‖point value size right‖) ≤
        inner ℝ (point value size left) (point value size right) := by
  rw [exact.le_iff, cosine]
  simp only [exact.le_iff, value_norm exact leftSize, value_norm exact rightSize]
  split
  · next short =>
    rw [exact.zero]
    constructor
    · exact fun impossible => (not_le.2 positive impossible).elim
    · intro found
      rcases found with ⟨left, right, _⟩
      rcases short with short | short
      · exact (not_le.2 left short).elim
      · exact (not_le.2 right short).elim
  · next long =>
    rw [not_or, not_le, not_le] at long
    rcases long with ⟨longLeft, longRight⟩
    have lengths := mul_pos (exact.epsilon_pos.trans longLeft) (exact.epsilon_pos.trans longRight)
    rw [exact.clampUnit, exact.div, exact.mul, value_norm exact leftSize,
      value_norm exact rightSize, value_dot exact leftSize rightSize, le_max_iff, le_min_iff,
      le_div_iff₀ lengths]
    constructor
    · intro either
      rcases either with impossible | ⟨_, close⟩
      · exact (not_le.2 positive impossible).elim
      · exact ⟨longLeft, longRight, close⟩
    · intro found
      rcases found with ⟨_, _, close⟩
      exact .inr ⟨small, close⟩

theorem norm_sum_le {points : List (EuclideanSpace ℝ (Fin size))}
    (units : ∀ point ∈ points, ‖point‖ = 1) : ‖points.sum‖ ≤ points.length := by
  induction points with
  | nil => simp
  | cons point rest ih =>
    rw [List.forall_mem_cons] at units
    calc ‖(point :: rest).sum‖
      _ ≤ ‖point‖ + ‖rest.sum‖ := by
        rw [List.sum_cons]
        exact norm_add_le point rest.sum
      _ ≤ 1 + rest.length := add_le_add units.1.le (ih units.2)
      _ = (point :: rest).length := by rw [List.length_cons, Nat.cast_succ, add_comm]

theorem le_inner_sum {centre : EuclideanSpace ℝ (Fin size)} {bound : ℝ}
    {points : List (EuclideanSpace ℝ (Fin size))}
    (close : ∀ point ∈ points, bound ≤ inner ℝ centre point) :
    points.length * bound ≤ inner ℝ centre points.sum := by
  induction points with
  | nil => simp
  | cons point rest ih =>
    rw [List.forall_mem_cons] at close
    calc ((point :: rest).length : ℝ) * bound
      _ = bound + rest.length * bound := by rw [List.length_cons, Nat.cast_succ]; ring
      _ ≤ inner ℝ centre point + inner ℝ centre rest.sum := add_le_add close.1 (ih close.2)
      _ = inner ℝ centre (point :: rest).sum := by rw [List.sum_cons, inner_add_right]

/-- The mean of unit vectors is as close to a unit vector as the farthest of them. -/
theorem le_cosine_mean (exact : Scalar.Exact value) {bound : S}
    (relevant : value Scalar.epsilon < value bound) (small : value bound ≤ 1) {vector : List S}
    (sized : vector.length = size) (unit : ‖point value size vector‖ = 1)
    {vectors : List (List S)} (present : vectors ≠ [])
    (allSized : ∀ other ∈ vectors, other.length = size)
    (units : ∀ other ∈ vectors, ‖point value size other‖ = 1)
    (close : ∀ other ∈ vectors,
      value bound ≤ inner ℝ (point value size vector) (point value size other)) :
    bound ≤ cosine vector (mean size vectors) := by
  have count : (0 : ℝ) < vectors.length := Nat.cast_pos.2 (List.length_pos_iff.2 present)
  have short : ‖point value size (mean size vectors)‖ ≤ 1 := by
    have summed := norm_sum_le (List.forall_mem_map.2 units)
    rw [List.length_map] at summed
    rw [point_mean exact allSized, norm_smul, norm_inv, Real.norm_natCast, inv_mul_le_iff₀ count,
      mul_one]
    exact summed
  have near : value bound ≤
      inner ℝ (point value size vector) (point value size (mean size vectors)) := by
    have summed := le_inner_sum (List.forall_mem_map.2 close)
    rw [List.length_map] at summed
    rw [point_mean exact allSized, real_inner_smul_right, le_inv_mul_iff₀ count]
    exact summed
  have long : value bound ≤ ‖point value size (mean size vectors)‖ := by
    have bounded := real_inner_le_norm (point value size vector)
      (point value size (mean size vectors))
    rw [unit, one_mul] at bounded
    exact near.trans bounded
  rw [le_cosine_iff exact (exact.epsilon_pos.trans relevant) small sized (length_mean allSized),
    unit, one_mul]
  refine ⟨relevant.trans_le small, relevant.trans_le long, ?_⟩
  exact (mul_le_of_le_one_right (exact.epsilon_pos.trans relevant).le short).trans near

/-! ## Pairs -/

theorem norm_pair (a b : ℝ) : norm [a, b] = √(a * a + b * b) := by
  show √(0 + a * a + b * b) = _
  rw [zero_add]

theorem dot_pair (a b c d : ℝ) : dot [a, b] [c, d] = a * c + b * d := by
  show 0 + a * c + b * d = _
  rw [zero_add]

/-- When two pairs of real numbers are similar. -/
theorem le_cosine_pair {bound : ℝ} (positive : 0 < bound) (small : bound ≤ 1) (a b c d : ℝ) :
    bound ≤ cosine [a, b] [c, d] ↔
      1 / 4503599627370496 < √(a * a + b * b) ∧ 1 / 4503599627370496 < √(c * c + d * d) ∧
      bound * (√(a * a + b * b) * √(c * c + d * d)) ≤ a * c + b * d := by
  have sized : ∀ x y : ℝ, [x, y].length = 2 := fun _ _ => rfl
  rw [← norm_pair a b, ← norm_pair c d, ← dot_pair a b c d,
    value_norm Scalar.exact_real (sized a b), value_norm Scalar.exact_real (sized c d),
    value_dot Scalar.exact_real (sized a b) (sized c d), ← Scalar.exact_real.epsilon]
  exact le_cosine_iff Scalar.exact_real positive small (sized a b) (sized c d)

/-- The weight of both terms cancels when a pair is brought to length one. -/
theorem normalized_pair {weight : ℝ} (heavy : 1 ≤ weight) {a b : ℝ} (long : 1 ≤ a * a + b * b) :
    normalized [a * weight, b * weight] = [a / √(a * a + b * b), b / √(a * a + b * b)] := by
  have positive : 0 < weight := zero_lt_one.trans_le heavy
  have length : norm [a * weight, b * weight] = √(a * a + b * b) * weight :=
    calc norm [a * weight, b * weight]
      _ = √((a * a + b * b) * weight ^ 2) := by
        rw [norm_pair]
        ring_nf
      _ = √(a * a + b * b) * weight := by
        rw [Real.sqrt_mul (zero_le_one.trans long), Real.sqrt_sq positive.le]
  have counts : (Scalar.epsilon : ℝ) < √(a * a + b * b) * weight :=
    calc (Scalar.epsilon : ℝ)
      _ < 1 := Scalar.exact_real.epsilon_lt_one
      _ ≤ √(a * a + b * b) * weight :=
        one_le_mul_of_one_le_of_one_le (Real.one_le_sqrt.2 long) heavy
  rw [normalized, length, if_pos counts]
  show [a * weight / (√(a * a + b * b) * weight), b * weight / (√(a * a + b * b) * weight)] = _
  rw [mul_div_mul_right _ _ positive.ne', mul_div_mul_right _ _ positive.ne']

end LogDrift.Vector
