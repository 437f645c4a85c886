import LogDrift.Scalar

/-!
# Vectors

Vectors are lists of scalars. Sums run from the first component to the last.
-/

namespace LogDrift.Vector

variable {S : Type} [Scalar S]

/-- The inner product over the components that both vectors have. -/
def dot (left right : List S) : S :=
  Scalar.sum (List.zipWith (· * ·) left right)

/-- The length of a vector. -/
def norm (vector : List S) : S :=
  Scalar.sqrt (Scalar.sum (vector.map fun x => x * x))

/-- The vector of the same direction and of length one; a vector that counts as zero stays as it
is. -/
def normalized (vector : List S) : List S :=
  let length := norm vector
  if Scalar.epsilon < length then vector.map (· / length) else vector

/-- Whether all components are zero. -/
def isZero (vector : List S) : Bool :=
  vector.all (· == 0)

/-- The cosine of the angle between two vectors, from zero to one. A vector that counts as zero is
similar to nothing. -/
def cosine (left right : List S) : S :=
  let lengths := (norm left, norm right)
  if lengths.1 ≤ Scalar.epsilon ∨ lengths.2 ≤ Scalar.epsilon then 0
  else Scalar.clampUnit (dot left right / (lengths.1 * lengths.2))

/-- The sum of two vectors of one size. -/
def add (left right : List S) : List S :=
  List.zipWith (· + ·) left right

/-- The mean of vectors with `size` components. -/
def mean (size : Nat) (vectors : List (List S)) : List S :=
  (vectors.foldl add (List.replicate size 0)).map (· / Scalar.ofNat vectors.length)

end LogDrift.Vector
