import LogDrift.Frequency.Detector

/-!
# Comparing frequencies

The counts of every matched cluster are judged host by host against the control counts of the
cluster on all hosts.
-/

namespace LogDrift.Frequency

variable {S : Type} [Scalar S]

/-- The control counts of a cluster on all hosts, in the order of the hosts. -/
def pooledCounts (control : ClusterMap (ControlEntry S)) (cluster : Label) : List Int :=
  match control.get? cluster with
  | none => []
  | some hosts => hosts.values.flatMap fun entry => Occurrence.counts entry.occurrences

/-- Takes the control counts of clusters for baselines. Clusters without any are passed over. -/
def learnAll (detector : Detector S) (control : ClusterMap (ControlEntry S))
    (clusters : List Label) : Detector S :=
  clusters.foldl (fun detector cluster =>
    let counts := pooledCounts control cluster
    if counts.isEmpty then detector else detector.learn cluster counts) detector

/-- An entry with the verdicts on its counts; without counts it stays as it is. -/
def judgeEntry (baseline : Baseline S) (direction : Direction) (entry : TestEntry S) :
    TestEntry S :=
  let counts := Occurrence.counts entry.occurrences
  if counts.isEmpty then entry
  else
    let judgement := baseline.judge direction counts
    { entry with
      verdicts := judgement.verdicts
      isUnexpected := judgement.hasAnomaly
      frequencyScore := judgement.frequencyScore }

/-- The hosts of a cluster with the verdicts on their counts. -/
def judgeHosts (detector : Detector S) (direction : Direction) (cluster : Label)
    (hosts : SortedMap String (TestEntry S)) : SortedMap String (TestEntry S) :=
  match detector.baseline? cluster with
  | none => hosts
  | some baseline => hosts.mapValues (judgeEntry baseline direction)

/-- The entries of a cluster that have been judged. -/
def judged (detector : Detector S) (cluster : Label) (hosts : SortedMap String (TestEntry S)) :
    List (TestEntry S) :=
  match detector.baseline? cluster with
  | none => []
  | some _ => hosts.values.filter fun entry => !entry.occurrences.isEmpty

/-- The score of a cluster if one of its judged entries is unexpected: the greatest of theirs. -/
def clusterScore? (entries : List (TestEntry S)) : Option (FrequencyScore S) :=
  if entries.any TestEntry.isUnexpected then
    some {
      isUnexpected := true
      frequencyScore := entries.foldl (fun greatest entry =>
        if greatest < entry.frequencyScore then entry.frequencyScore else greatest) 0 }
  else none

/-- What a comparison yields. -/
structure Comparison (S : Type) where
  detector : Detector S
  test : ClusterMap (TestEntry S)
  scores : SortedMap Label (FrequencyScore S)

/-- Compares the counts of matched clusters with their control counts. -/
def compare (detector : Detector S) (control : ClusterMap (ControlEntry S))
    (test : ClusterMap (TestEntry S)) (direction : Direction) : Comparison S :=
  let detector := learnAll detector control (test.keys.filter Label.isReal)
  let test := test.mapEntries (judgeHosts detector direction)
  { detector
    test
    scores := .ofList (test.entries.filterMap fun (cluster, hosts) =>
      (clusterScore? (judged detector cluster hosts)).map fun score => (cluster, score)) }

/-! ## Comparing through the detector

The detector refuses to learn nothing and to judge what it has not learnt. A comparison asks it
only for what it can answer, so it never ends in a refusal and yields what `compare` does. -/

/-- Fits the detector to the control counts of clusters. Clusters without any are passed over. -/
def fitAll (detector : Detector S) (control : ClusterMap (ControlEntry S))
    (clusters : List Label) : Except Error (Detector S) :=
  clusters.foldlM (fun detector cluster =>
    let counts := pooledCounts control cluster
    if counts.isEmpty then .ok detector else detector.fit cluster counts) detector

/-- An entry with what the detector predicts for its counts; without counts it stays as it is. -/
def predictEntry (detector : Detector S) (direction : Direction) (cluster : Label)
    (entry : TestEntry S) : Except Error (TestEntry S) :=
  let counts := Occurrence.counts entry.occurrences
  if counts.isEmpty then .ok entry
  else (detector.predict cluster direction counts).map fun judgement =>
    { entry with
      verdicts := judgement.verdicts
      isUnexpected := judgement.hasAnomaly
      frequencyScore := judgement.frequencyScore }

/-- The hosts of a cluster with what the detector predicts for their counts. A cluster to which the
detector is not fitted stays as it is. -/
def predictHosts (detector : Detector S) (direction : Direction) (cluster : Label)
    (hosts : SortedMap String (TestEntry S)) : Except Error (SortedMap String (TestEntry S)) :=
  if (detector.baseline? cluster).isNone then .ok hosts
  else hosts.traverse fun _ entry => predictEntry detector direction cluster entry

/-- Compares the counts of matched clusters with their control counts, asking the detector. -/
def detect (detector : Detector S) (control : ClusterMap (ControlEntry S))
    (test : ClusterMap (TestEntry S)) (direction : Direction) : Except Error (Comparison S) := do
  let detector ← fitAll detector control (test.keys.filter Label.isReal)
  let test ← test.traverse (predictHosts detector direction)
  return {
    detector
    test
    scores := .ofList (test.entries.filterMap fun (cluster, hosts) =>
      (clusterScore? (judged detector cluster hosts)).map fun score => (cluster, score)) }

end LogDrift.Frequency
