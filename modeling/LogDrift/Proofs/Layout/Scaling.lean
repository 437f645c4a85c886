import LogDrift.Layout.Scaling
import LogDrift.Proofs.Layout.Table

/-!
# Scaling stays inside the table

Scaling written out as loops that end without result where they leave a row, or pair lists of
different lengths. On a square table the loops give the points of `Scaling.points`: one for every
row, after at most `stepLimit` steps for either axis.
-/

namespace LogDrift.Scaling

open Table

variable {S : Type} [Scalar S] {size : Nat}

/-! ## Lists of one length -/

/-- Combines two lists entry by entry. They must be of one length. -/
def zipWith? {α β γ : Type} (combine : α → β → γ) (left : List α) (right : List β) :
    Option (List γ) :=
  if left.length = right.length then some (List.zipWith combine left right) else none

theorem zipWith?_of_length {α β γ : Type} (combine : α → β → γ) {left : List α} {right : List β}
    (same : left.length = right.length) :
    zipWith? combine left right = some (List.zipWith combine left right) :=
  if_pos same

/-- The product of a matrix and a vector that is as long as its rows. -/
def product? (matrix : List (List S)) (vector : List S) : Option (List S) :=
  matrix.mapM fun row => (zipWith? (· * ·) row vector).map Scalar.sum

@[simp] theorem length_apply (matrix : List (List S)) (vector : List S) :
    (apply matrix vector).length = matrix.length :=
  List.length_map _

theorem product?_eq {matrix : List (List S)} {vector : List S}
    (widths : ∀ row ∈ matrix, row.length = vector.length) :
    product? matrix vector = some (apply matrix vector) := by
  induction matrix with
  | nil => rfl
  | cons row rest ih =>
    obtain ⟨width, widths⟩ := List.forall_mem_cons.mp widths
    have first : (zipWith? (· * ·) row vector).map Scalar.sum = some (Vector.dot row vector) := by
      rw [zipWith?_of_length _ width, Option.map_some, Vector.dot]
    have others := ih widths
    simp only [product?] at others
    simp [product?, apply, first, others]

theorem product?_of_square {matrix : List (List S)} (square : Square size matrix) {vector : List S}
    (length : vector.length = size) :
    product? matrix vector = some (apply matrix vector) ∧
      (apply matrix vector).length = vector.length := by
  constructor
  · exact product?_eq fun row member => (square.columns row member).trans length.symm
  · rw [length_apply, square.rows, length]

@[simp] theorem length_normalized (vector : List S) :
    (Vector.normalized vector).length = vector.length := by
  simp only [Vector.normalized]
  split
  · rw [List.length_map]
  · rfl

/-! ## Centring and deflating -/

/-- `doubleCentred` as a loop over the cells of a table of zeros. -/
def doubleCentred? (distances : List (List S)) : Option (List (List S)) :=
  let size := distances.length
  let squares := distances.map fun row => row.map fun d => d * d
  let means := squares.map fun row => Scalar.sum row / Scalar.ofNat size
  let mean := Scalar.sum means / Scalar.ofNat size
  sweep? size (fun row column _ => do
    let square ← cell? squares row column
    let rowMean ← means[row]?
    let columnMean ← means[column]?
    return -Scalar.ratio 1 2 * (square - rowMean - columnMean + mean))
    (tabulate size fun _ _ => 0)

/-- `deflated` as a loop over the cells of the matrix. -/
def deflated? (matrix : List (List S)) (value : S) (vector : List S) : Option (List (List S)) :=
  sweep? matrix.length (fun row column entry => do
    let v ← vector[row]?
    let w ← vector[column]?
    return entry - value * v * w) matrix

theorem doubleCentred?_eq {distances : List (List S)} (square : Square size distances) :
    doubleCentred? distances = some (doubleCentred distances) ∧
      Square size (doubleCentred distances) := by
  have : Inhabited S := ⟨0⟩
  obtain ⟨distance, rfl⟩ : ∃ distance, distances = tabulate size distance :=
    ⟨_, square.eq_tabulate⟩
  let squares := tabulate size fun row column => distance row column * distance row column
  let rowMean := fun row => Scalar.sum ((List.range size).map fun column =>
    distance row column * distance row column) / Scalar.ofNat size
  let means := (List.range size).map rowMean
  let mean := Scalar.sum means / Scalar.ofNat size
  let centred := fun row column => -Scalar.ratio 1 2 *
    (distance row column * distance row column - rowMean row - rowMean column + mean)
  have squared : ((tabulate size distance).map fun row => row.map fun d => d * d) = squares := by
    rw [map_tabulate]
    simp [squares, tabulate]
  have averaged : (squares.map fun row => Scalar.sum row / Scalar.ofNat size) = means := by
    simp [squares, means, rowMean]
  have whole : doubleCentred (tabulate size distance) = tabulate size centred := by
    simp only [doubleCentred, square.rows, squared, averaged]
    simp [squares, tabulate, means, List.zip_map', centred, mean, Function.comp_def]
  refine ⟨?_, whole ▸ square_tabulate centred⟩
  simp only [doubleCentred?, square.rows, squared, averaged, whole]
  apply sweep?_tabulate
  intro row inRow column inColumn
  simp [squares, means, inRow, inColumn, centred, mean]

theorem deflated?_eq {matrix : List (List S)} (square : Square size matrix) (value : S)
    {vector : List S} (length : vector.length = size) :
    deflated? matrix value vector = some (deflated matrix value vector) ∧
      Square size (deflated matrix value vector) := by
  have : Inhabited S := ⟨0⟩
  obtain ⟨entry, rfl⟩ : ∃ entry, matrix = tabulate size entry := ⟨_, square.eq_tabulate⟩
  obtain ⟨part, rfl⟩ : ∃ part, vector = (List.range size).map part := by
    refine ⟨fun place => vector.getD place 0, List.ext_getElem (by simp [length]) ?_⟩
    intro place inVector inRange
    simp [inVector]
  let rest := fun row column => entry row column - value * part row * part column
  have whole : deflated (tabulate size entry) value ((List.range size).map part) =
      tabulate size rest := by
    simp [deflated, tabulate, List.zip_map', rest, Function.comp_def]
  refine ⟨?_, whole ▸ square_tabulate rest⟩
  rw [deflated?, square.rows, whole]
  apply sweep?_tabulate
  intro row inRow column inColumn
  simp [inRow, inColumn, rest]

/-! ## The search for an eigenvector -/

/-- How a step of the search ends. -/
inductive Step (S : Type)
  | vanished
  | found (vector : List S)
  | onward (vector : List S)

/-- A step of the search. -/
def step? (matrix : List (List S)) (shift : S) (vector : List S) : Option (Step S) := do
  let product ← product? matrix vector
  let next ← zipWith? (fun x v => x + shift * v) product vector
  if Vector.norm next ≤ Scalar.epsilon then return .vanished
  let next := Vector.normalized next
  let changes ← zipWith? (fun a b => Scalar.abs (a - b)) next vector
  return if Scalar.sum changes < tolerance then .found next else .onward next

/-- The search for at most `limit` steps, with the number of steps that it takes. -/
def search? (matrix : List (List S)) (shift : S) :
    (limit : Nat) → List S → Option (Option (List S) × Nat)
  | 0, vector => some (some vector, 0)
  | limit + 1, vector => do
    match ← step? matrix shift vector with
    | .vanished => return (none, 1)
    | .found next => return (some next, 1)
    | .onward next =>
      let (outcome, steps) ← search? matrix shift limit next
      return (outcome, steps + 1)

/-- `leading` with the number of steps of the search. -/
def leading? (matrix : List (List S)) : Option ((S × List S) × Nat) := do
  let (outcome, steps) ←
    search? matrix (spectralBound matrix) stepLimit (firstGuess matrix.length)
  match outcome with
  | none => return ((0, List.replicate matrix.length 0), steps)
  | some vector =>
    let product ← product? matrix vector
    let terms ← zipWith? (· * ·) vector product
    return ((Scalar.sum terms, vector), steps)

/-- On a square matrix a step always ends, and the search goes on from where it ends. -/
theorem step?_cases {matrix : List (List S)} (square : Square size matrix) (shift : S)
    {vector : List S} (length : vector.length = size) :
    (step? matrix shift vector = some .vanished ∧
        ∀ limit, iterate matrix shift (limit + 1) vector = none) ∨
      (∃ next, next.length = size ∧ step? matrix shift vector = some (.found next) ∧
        ∀ limit, iterate matrix shift (limit + 1) vector = some next) ∨
      (∃ next, next.length = size ∧ step? matrix shift vector = some (.onward next) ∧
        ∀ limit, iterate matrix shift (limit + 1) vector = iterate matrix shift limit next) := by
  obtain ⟨product, long⟩ := product?_of_square square length
  let shifted := List.zipWith (fun x v => x + shift * v) (apply matrix vector) vector
  let next := Vector.normalized shifted
  have nextLength : next.length = size := by simp [next, shifted, long, length]
  have changes := zipWith?_of_length (fun a b : S => Scalar.abs (a - b))
    (nextLength.trans length.symm)
  have taken : step? matrix shift vector = some (
      if Vector.norm shifted ≤ Scalar.epsilon then .vanished
      else if Scalar.sum (List.zipWith (fun a b => Scalar.abs (a - b)) next vector) < tolerance then
        .found next
      else .onward next) := by
    simp only [step?, product, Option.bind_eq_bind, Option.bind_some, zipWith?_of_length _ long]
    split
    · rfl
    · simp only [shifted, next, changes, Option.bind_some, Option.pure_def]
  have followed (limit : Nat) : iterate matrix shift (limit + 1) vector =
      if Vector.norm shifted ≤ Scalar.epsilon then none
      else if Scalar.sum (List.zipWith (fun a b => Scalar.abs (a - b)) next vector) < tolerance then
        some next
      else iterate matrix shift limit next := rfl
  by_cases zero : Vector.norm shifted ≤ Scalar.epsilon
  · simp only [if_pos zero] at taken followed
    exact .inl ⟨taken, followed⟩
  · simp only [if_neg zero] at taken followed
    right
    split at taken
    · next rest =>
      simp only [if_pos rest] at followed
      exact .inl ⟨next, nextLength, taken, followed⟩
    · next rest =>
      simp only [if_neg rest] at followed
      exact .inr ⟨next, nextLength, taken, followed⟩

/-- On a square matrix the search ends within its limit with the outcome of `iterate`. -/
theorem search?_eq {matrix : List (List S)} (square : Square size matrix) (shift : S)
    (limit : Nat) {vector : List S} (length : vector.length = size) :
    (∃ steps ≤ limit,
      search? matrix shift limit vector = some (iterate matrix shift limit vector, steps)) ∧
      ∀ found ∈ iterate matrix shift limit vector, found.length = size := by
  induction limit generalizing vector with
  | zero =>
    refine ⟨⟨0, Nat.le_refl 0, rfl⟩, ?_⟩
    rintro found ⟨⟩
    exact length
  | succ limit ih =>
    rcases step?_cases square shift length with
      ⟨step, outcome⟩ | ⟨next, nextLength, step, outcome⟩ | ⟨next, nextLength, step, outcome⟩
    · rw [outcome limit]
      exact ⟨⟨1, by omega, by simp [search?, step]⟩, by simp⟩
    · rw [outcome limit]
      refine ⟨⟨1, by omega, by simp [search?, step]⟩, ?_⟩
      rintro found ⟨⟩
      exact nextLength
    · obtain ⟨⟨steps, within, rest⟩, lengths⟩ := ih nextLength
      rw [outcome limit]
      exact ⟨⟨steps + 1, by omega, by simp [search?, step, rest]⟩, lengths⟩

theorem leading?_eq {matrix : List (List S)} (square : Square size matrix) :
    (∃ steps ≤ stepLimit, leading? matrix = some (leading matrix, steps)) ∧
      (leading matrix).2.length = size := by
  have start : (firstGuess matrix.length : List S).length = size := by
    rw [firstGuess, length_normalized, List.length_map, List.length_range, square.rows]
  obtain ⟨⟨steps, within, search⟩, lengths⟩ :=
    search?_eq square (spectralBound matrix) stepLimit start
  rcases outcome : iterate matrix (spectralBound matrix) stepLimit (firstGuess matrix.length)
    with _ | vector
  · rw [outcome] at search
    exact ⟨⟨steps, within, by simp [leading?, leading, search, outcome]⟩,
      by rw [leading, outcome, List.length_replicate, square.rows]⟩
  · rw [outcome] at search lengths
    have length : vector.length = size := lengths vector rfl
    obtain ⟨product, long⟩ := product?_of_square square length
    refine ⟨⟨steps, within, ?_⟩, by simpa [leading, outcome] using length⟩
    simp [leading?, leading, search, outcome, product, zipWith?_of_length _ long.symm,
      Vector.dot]

/-! ## All points -/

/-- `points` as loops, with the number of steps of the search for either axis. -/
def points? (distances : List (List S)) : Option (List (S × S) × Nat × Nat) :=
  match distances.length with
  | 0 => some ([], 0, 0)
  | 1 => some ([(0, 0)], 0, 0)
  | _ => do
    let matrix ← doubleCentred? distances
    let ((first, firstAxis), firstSteps) ← leading? matrix
    let rest ← deflated? matrix first firstAxis
    let ((second, secondAxis), secondSteps) ← leading? rest
    let firstScale := Scalar.sqrt (Scalar.larger first 0)
    let secondScale := Scalar.sqrt (Scalar.larger second 0)
    let points ← zipWith? (fun a b => (a * firstScale, b * secondScale)) firstAxis secondAxis
    return (points, firstSteps, secondSteps)

/-- The loops stay inside a square table, need at most `stepLimit` steps for either axis, and give a
point for every row. -/
theorem points?_eq {distances : List (List S)} (square : Square size distances) :
    (∃ first ≤ stepLimit, ∃ second ≤ stepLimit,
      points? distances = some (points distances, first, second)) ∧
      (points distances).length = size := by
  obtain ⟨centred, centredSquare⟩ := doubleCentred?_eq square
  obtain ⟨⟨first, firstWithin, firstSearch⟩, firstLength⟩ := leading?_eq centredSquare
  obtain ⟨deflated, deflatedSquare⟩ :=
    deflated?_eq centredSquare (leading (doubleCentred distances)).1 firstLength
  obtain ⟨⟨second, secondWithin, secondSearch⟩, secondLength⟩ := leading?_eq deflatedSquare
  have axes := firstLength.trans secondLength.symm
  rcases several : distances.length with _ | _ | more
  · refine ⟨⟨0, Nat.zero_le _, 0, Nat.zero_le _, ?_⟩, ?_⟩
    · simp [points?, points, several]
    · simp [points, several, ← square.rows]
  · refine ⟨⟨0, Nat.zero_le _, 0, Nat.zero_le _, ?_⟩, ?_⟩
    · simp [points?, points, several]
    · simp [points, several, ← square.rows]
  · refine ⟨⟨first, firstWithin, second, secondWithin, ?_⟩, ?_⟩
    · simp [points?, points, several, centred, firstSearch, deflated, secondSearch,
        zipWith?_of_length _ axes]
    · simp [points, several, firstLength, secondLength]

end LogDrift.Scaling
