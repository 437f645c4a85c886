import LogDrift.Similarity.Vector

/-!
# Scaling distances to the plane

Points in the plane whose distances come close to given ones: the squared distances are centred, and
the two leading eigenvectors of the result are the axes.
-/

namespace LogDrift.Scaling

variable {S : Type} [Scalar S]

/-- After how many steps the search for an eigenvector ends. -/
def stepLimit : Nat := 300

/-- The change below which an eigenvector counts as found. -/
def tolerance : S :=
  Scalar.ratio 1 10000000000

/-- The product of a matrix and a vector. -/
def apply (matrix : List (List S)) (vector : List S) : List S :=
  matrix.map (Vector.dot · vector)

/-- The squares of a matrix, minus the means of row and column, plus the mean of all, halved with
the opposite sign. The matrix is taken to be symmetric. -/
def doubleCentred (distances : List (List S)) : List (List S) :=
  let size := Scalar.ofNat distances.length
  let squares := distances.map fun row => row.map fun d => d * d
  let means := squares.map fun row => Scalar.sum row / size
  let mean := Scalar.sum means / size
  (squares.zip means).map fun (row, rowMean) =>
    (row.zip means).map fun (square, columnMean) =>
      -Scalar.ratio 1 2 * (square - rowMean - columnMean + mean)

/-- A bound on the magnitudes of all eigenvalues: the greatest sum of magnitudes in a row. -/
def spectralBound (matrix : List (List S)) : S :=
  (matrix.map fun row => Scalar.sum (row.map Scalar.abs)).foldl Scalar.larger 0

/-- Where the search for an eigenvector starts. -/
def firstGuess (size : Nat) : List S :=
  Vector.normalized ((List.range size).map fun i => 1 + Scalar.ratio i size)

/-- Follows a vector under repeated application of the shifted matrix, for `steps` steps or until it
comes to rest. A vector that vanishes ends the search without result. -/
def iterate (matrix : List (List S)) (shift : S) : Nat → List S → Option (List S)
  | 0, vector => some vector
  | steps + 1, vector =>
    let next := List.zipWith (fun x v => x + shift * v) (apply matrix vector) vector
    if Vector.norm next ≤ Scalar.epsilon then none
    else
      let next := Vector.normalized next
      let change := Scalar.sum (List.zipWith (fun a b => Scalar.abs (a - b)) next vector)
      if change < tolerance then some next else iterate matrix shift steps next

/-- The greatest eigenvalue of a symmetric matrix with a unit eigenvector. The shift makes all
eigenvalues non-negative, so that the search finds the greatest. -/
def leading (matrix : List (List S)) : S × List S :=
  match iterate matrix (spectralBound matrix) stepLimit (firstGuess matrix.length) with
  | none => (0, List.replicate matrix.length 0)
  | some vector => (Vector.dot vector (apply matrix vector), vector)

/-- The matrix without the part along an eigenvector. -/
def deflated (matrix : List (List S)) (value : S) (vector : List S) : List (List S) :=
  (matrix.zip vector).map fun (row, v) =>
    (row.zip vector).map fun (entry, w) => entry - value * v * w

/-- A point for every row of a square matrix. -/
def points (distances : List (List S)) : List (S × S) :=
  match distances.length with
  | 0 => []
  | 1 => [(0, 0)]
  | _ =>
    let matrix := doubleCentred distances
    let (first, firstAxis) := leading matrix
    let (second, secondAxis) := leading (deflated matrix first firstAxis)
    let firstScale := Scalar.sqrt (Scalar.larger first 0)
    let secondScale := Scalar.sqrt (Scalar.larger second 0)
    List.zipWith (fun a b => (a * firstScale, b * secondScale)) firstAxis secondAxis

end LogDrift.Scaling
