import LogDrift.Error
import LogDrift.Frequency.Judgement

/-!
# Baselines of counts

What the control counts of a cluster say about its test counts. Counts that hardly vary allow a
share of their mean, and counts that vary a multiple of their standard deviation.
-/

namespace LogDrift

/-- A baseline of control counts. -/
inductive Baseline (S : Type)
  /-- Counts that hardly vary, with the share of the mean by which a count may move. -/
  | constant (mean share : S)
  /-- Counts that vary. -/
  | spread (mean deviation : S)

namespace Baseline

variable {S : Type}

/-- The name of the kind of a baseline. -/
def name : Baseline S → String
  | constant _ _ => "zero_deviation"
  | spread _ _ => "three_sigma"

/-- The mean of the control counts. -/
def mean : Baseline S → S
  | constant mean _ => mean
  | spread mean _ => mean

variable [Scalar S]

/-- The standard deviation below which counts hardly vary. -/
def constantBelow : S :=
  Scalar.ratio 1 10

/-- How many standard deviations a count may move. -/
def deviations : S :=
  Scalar.ofNat 5

/-- The least whole number that a deviation must exceed to be anomalous. -/
def bound : Baseline S → Int
  | constant mean share => Scalar.ceil (share * mean)
  | spread _ deviation => Scalar.ceil (deviations * deviation)

/-- The baseline of counts that are taken to hardly vary. -/
def ofConstant (share : S) (counts : List Int) : Baseline S :=
  constant (Frequency.meanDeviation counts).1 share

/-- The baseline of counts that are taken to vary. -/
def ofSpread (counts : List Int) : Baseline S :=
  let (mean, deviation) := Frequency.meanDeviation counts
  spread mean deviation

/-- The baseline of counts, by how much they vary. -/
def ofCounts (share : S) (counts : List Int) : Baseline S :=
  if (Frequency.meanDeviation counts : S × S).2 < constantBelow then ofConstant share counts
  else ofSpread counts

/-- The verdicts on counts. -/
def judge (baseline : Baseline S) (direction : Direction) (counts : List Int) : Judgement S :=
  Judgement.ofCounts baseline.mean baseline.bound direction counts

/-- What `make` yields for counts, of which there must be some. -/
def fit {α : Type} (make : List Int → α) (label : Label) (counts : List Int) : Except Error α :=
  if counts.isEmpty then .error (.emptyCounts label) else .ok (make counts)

/-- The verdicts on counts, of which there must be some. -/
def predict (baseline : Baseline S) (label : Label) (direction : Direction) (counts : List Int) :
    Except Error (Judgement S) :=
  fit (baseline.judge direction) label counts

end Baseline

end LogDrift
