import LogDrift.Cluster
import LogDrift.Settings.Basic

/-!
# Judging counts

A count is anomalous when it is farther from a mean than a bound, in a direction that matters. Small
deviations never count.
-/

namespace LogDrift

namespace Frequency

variable {S : Type} [Scalar S]

/-- The deviation that every anomalous count exceeds. -/
def tolerance : Int := 5

/-- The mean of counts and their standard deviation, both zero when there are no counts. -/
def meanDeviation (counts : List Int) : S × S :=
  if counts.isEmpty then (0, 0)
  else
    let size := Scalar.ofNat counts.length
    let mean := Scalar.sum (counts.map Int.cast) / size
    let squares := counts.map fun count =>
      let difference : S := Int.cast count - mean
      difference * difference
    (mean, Scalar.sqrt (Scalar.sum squares / size))

/-- Whether a count is anomalous. Its distance from the mean, without the fraction, must exceed the
tolerance, and its deviation in the direction must exceed the bound. -/
def isAnomalous (mean : S) (bound : Int) (direction : Direction) (count : Int) : Bool :=
  let value : S := Int.cast count
  let distance := Scalar.floor (Scalar.abs (value - mean))
  if distance ≤ tolerance then false
  else match direction with
    | .higher => bound < Scalar.floor (value - mean)
    | .lower => bound < Scalar.floor (mean - value)
    | .both => bound < distance

end Frequency

/-- The verdicts on some counts. -/
structure Judgement (S : Type) where
  verdicts : List Verdict
  /-- The share of normal counts. -/
  score : S

namespace Judgement

variable {S : Type}

/-- How many counts are anomalous. -/
def anomalyCount (judgement : Judgement S) : Nat :=
  judgement.verdicts.count Verdict.anomaly

/-- Whether some count is anomalous. -/
def hasAnomaly (judgement : Judgement S) : Bool :=
  0 < judgement.anomalyCount

variable [Scalar S]

/-- The share of anomalous counts. -/
def frequencyScore (judgement : Judgement S) : S :=
  1 - judgement.score

/-- Judges every count. -/
def ofCounts (mean : S) (bound : Int) (direction : Direction) (counts : List Int) :
    Judgement S :=
  let verdicts := counts.map fun count =>
    if Frequency.isAnomalous mean bound direction count then Verdict.anomaly else Verdict.normal
  { verdicts
    score := Scalar.ratio (verdicts.length - verdicts.count Verdict.anomaly) verdicts.length }

end Judgement

end LogDrift
