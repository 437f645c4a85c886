import LogDrift.Frequency.Baseline
import LogDrift.Map.Sorted

/-!
# The detector

The baselines of all clusters by label. A later one replaces an earlier one.
-/

namespace LogDrift

/-- Baselines by label. -/
structure Detector (S : Type) where
  /-- The share of the mean by which a constant frequency may move. -/
  share : S
  baselines : SortedMap Label (Baseline S) := .empty

namespace Detector

variable {S : Type}

/-- The number of labels with a baseline. -/
def size (detector : Detector S) : Nat :=
  detector.baselines.size

/-- The baseline of a label. -/
def baseline? (detector : Detector S) (label : Label) : Option (Baseline S) :=
  detector.baselines.get? label

variable [Scalar S]

/-- Takes counts for the baseline of a label. -/
def learn (detector : Detector S) (label : Label) (counts : List Int) : Detector S :=
  { detector with
    baselines := detector.baselines.insert label (.ofCounts detector.share counts) }

/-- Takes counts for the baseline of a label. There must be some. -/
def fit (detector : Detector S) (label : Label) (counts : List Int) : Except Error (Detector S) :=
  Baseline.fit (detector.learn label) label counts

/-- The verdicts on the counts of a label. There must be a baseline and some counts. -/
def predict (detector : Detector S) (label : Label) (direction : Direction) (counts : List Int) :
    Except Error (Judgement S) :=
  match detector.baseline? label with
  | none => .error (.notFitted label)
  | some baseline => baseline.predict label direction counts

end Detector

end LogDrift
