import LogDrift.Layout.Scaling
import LogDrift.Similarity.Centroid
import LogDrift.Similarity.Gram

/-!
# The collaborators at hand

Clustering and layout by term vectors. They keep no state.
-/

namespace LogDrift

variable {S : Type} [Scalar S]

namespace Scaling

/-- A point for every row of a matrix, which must be square. -/
def place (distances : List (List S)) : Except Error (List (S × S)) :=
  if distances.any fun row => row.length ≠ distances.length then
    .error (.collaborator "distance matrix is not square")
  else .ok (points distances)

end Scaling

namespace CentroidModel

/-- The similarity at which two texts are linked when nothing is said. -/
def defaultThreshold : S :=
  Scalar.ratio 7 10

/-- The clusterer that compares term vectors. -/
def clusterer (W : Type) (threshold : S) : Clusterer S (CentroidModel S) W where
  cluster texts corpus filter := ExceptT.mk (pure (cluster threshold texts corpus filter))
  classify model texts := pure (classify threshold model texts)
  distances texts := ExceptT.mk (pure (Vocabulary.distances texts))
  place distances := ExceptT.mk (pure (Scaling.place distances))

end CentroidModel

end LogDrift
