import LogDrift.Cluster

/-!
# The drift of a run

One number for how far the test window is from the control window.
-/

namespace LogDrift.ClusterScores

variable {S : Type} [Scalar S]

/-- The control and the test side of every score: first unknown clusters, then frequencies. -/
def sides (scores : ClusterScores S) : List (S × S) :=
  scores.unknown.values.map (fun score => (score.controlScore, 1 - score.testScore))
  ++ scores.test.values.map (fun score => (1, 1 - score.frequencyScore))

/-- The distance between the two sides, which is zero when nothing deviates. -/
def drift (scores : ClusterScores S) : S :=
  if scores.sides.isEmpty then 0
  else
    let squares := scores.sides.map fun (control, test) => (control - test) * (control - test)
    Scalar.roundHundredths (Scalar.sqrt (Scalar.sum squares))

end LogDrift.ClusterScores
