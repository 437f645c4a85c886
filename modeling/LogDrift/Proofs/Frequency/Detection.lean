import LogDrift.Frequency.Comparison
import LogDrift.Proofs.Map.Sorted
import LogDrift.Proofs.Matching.Filing

/-!
# Asking the detector

A comparison fits the detector only to counts and asks it only about clusters that it was fitted to,
so that it is never refused. What it yields is `Frequency.compare`, which judges with the baselines
directly. Texts and occurrences stay as they are, and comparing once more changes nothing.
-/

namespace LogDrift

variable {S : Type} [Scalar S]

namespace Detector

@[simp] theorem share_learn (detector : Detector S) (label : Label) (counts : List Int) :
    (detector.learn label counts).share = detector.share := rfl

@[simp] theorem baseline?_learn (detector : Detector S) (label : Label) (counts : List Int)
    (other : Label) :
    (detector.learn label counts).baseline? other =
      if label = other then some (.ofCounts detector.share counts) else detector.baseline? other :=
  SortedMap.get?_insert detector.baselines label _ other

end Detector

namespace Frequency

theorem fit_eq_ok {detector : Detector S} {cluster : Label} {counts : List Int}
    (present : counts.isEmpty = false) :
    detector.fit cluster counts = .ok (detector.learn cluster counts) := by
  simp [Detector.fit, Baseline.fit, present]

theorem predict_eq_ok {detector : Detector S} {cluster : Label} {direction : Direction}
    {counts : List Int} {baseline : Baseline S} (fitted : detector.baseline? cluster = some baseline)
    (present : counts.isEmpty = false) :
    detector.predict cluster direction counts = .ok (baseline.judge direction counts) := by
  simp [Detector.predict, Baseline.predict, Baseline.fit, fitted, present]

/-- The detector takes the counts of all clusters that have any. -/
theorem fitAll_eq_ok (detector : Detector S) (control : ClusterMap (ControlEntry S))
    (clusters : List Label) :
    fitAll detector control clusters = .ok (learnAll detector control clusters) := by
  induction clusters generalizing detector with
  | nil => rfl
  | cons cluster rest ih =>
    cases present : (pooledCounts control cluster).isEmpty with
    | true =>
      have fitted : fitAll detector control (cluster :: rest) = fitAll detector control rest := by
        simp only [fitAll, List.foldlM_cons, present, if_true, bind, Except.bind]
      have learnt : learnAll detector control (cluster :: rest) =
          learnAll detector control rest := by
        simp only [learnAll, List.foldl_cons, present, if_true]
      rw [fitted, learnt, ih]
    | false =>
      have fitted : fitAll detector control (cluster :: rest) =
          fitAll (detector.learn cluster (pooledCounts control cluster)) control rest := by
        simp only [fitAll, List.foldlM_cons, present, Bool.false_eq_true, if_false,
          fit_eq_ok present, bind, Except.bind]
      have learnt : learnAll detector control (cluster :: rest) =
          learnAll (detector.learn cluster (pooledCounts control cluster)) control rest := by
        simp only [learnAll, List.foldl_cons, present, Bool.false_eq_true, if_false]
      rw [fitted, learnt, ih]

/-- The detector judges every entry of a cluster that it was fitted to. -/
theorem predictEntry_eq_ok {detector : Detector S} {cluster : Label} {baseline : Baseline S}
    (fitted : detector.baseline? cluster = some baseline) (direction : Direction)
    (entry : TestEntry S) :
    predictEntry detector direction cluster entry = .ok (judgeEntry baseline direction entry) := by
  rw [predictEntry, judgeEntry]
  cases present : (Occurrence.counts entry.occurrences).isEmpty with
  | true => rfl
  | false =>
    simp only [Bool.false_eq_true, if_false, predict_eq_ok fitted present]
    rfl

@[simp] theorem predictHosts_eq_ok (detector : Detector S) (direction : Direction) (cluster : Label)
    (hosts : SortedMap String (TestEntry S)) :
    predictHosts detector direction cluster hosts =
      .ok (judgeHosts detector direction cluster hosts) := by
  rw [predictHosts, judgeHosts]
  cases fitted : detector.baseline? cluster with
  | none => rfl
  | some baseline =>
    simp only [Option.isNone_some, Bool.false_eq_true, if_false]
    apply SortedMap.traverse_eq_ok
    intro entry _
    exact predictEntry_eq_ok fitted direction entry.2

/-- A comparison through the detector is never refused. -/
@[simp] theorem detect_eq_ok (detector : Detector S) (control : ClusterMap (ControlEntry S))
    (test : ClusterMap (TestEntry S)) (direction : Direction) :
    detect detector control test direction = .ok (compare detector control test direction) := by
  have judged : test.traverse (predictHosts (learnAll detector control
      (test.keys.filter Label.isReal)) direction) = .ok (test.mapEntries (judgeHosts
        (learnAll detector control (test.keys.filter Label.isReal)) direction)) := by
    apply SortedMap.traverse_eq_ok
    intro entry _
    exact predictHosts_eq_ok _ direction entry.1 entry.2
  rw [detect, fitAll_eq_ok]
  simp only [bind, Except.bind, judged]
  rfl

@[simp]
theorem content_judgeEntry (baseline : Baseline S) (direction : Direction) (entry : TestEntry S) :
    (judgeEntry baseline direction entry).content = entry.content := by
  rw [judgeEntry]
  split <;> rfl

/-- Verdicts change no text and no occurrence. -/
@[simp] theorem contents_compare (detector : Detector S) (control : ClusterMap (ControlEntry S))
    (test : ClusterMap (TestEntry S)) (direction : Direction) :
    ClusterMap.contents TestEntry.content (compare detector control test direction).test =
      ClusterMap.contents TestEntry.content test := by
  have hosts : ∀ detector cluster (hosts : SortedMap String (TestEntry S)),
      (judgeHosts detector direction cluster hosts).mapValues TestEntry.content =
        hosts.mapValues TestEntry.content := by
    intro detector cluster hosts
    rw [judgeHosts]
    split
    · rfl
    · simp only [SortedMap.mapValues_mapValues, content_judgeEntry]
  ext : 1
  simp only [ClusterMap.contents, compare, SortedMap.mapValues, SortedMap.mapEntries, List.map_map]
  apply List.map_congr_left
  intro entry _
  exact Prod.ext rfl (hosts _ entry.1 entry.2)

/-! ## Verdicts -/

/-- Whether every verdict of an entry is one of the two that there are. -/
def Judged (entry : TestEntry S) : Prop :=
  ∀ verdict ∈ entry.verdicts, verdict = Verdict.normal ∨ verdict = Verdict.anomaly

theorem judged_judgeEntry (baseline : Baseline S) (direction : Direction) {entry : TestEntry S}
    (judged : Judged entry) : Judged (judgeEntry baseline direction entry) := by
  rw [judgeEntry]
  split
  · exact judged
  · intro verdict member
    rcases List.mem_map.1 member with ⟨count, _, rfl⟩
    split
    · exact .inr rfl
    · exact .inl rfl

/-- A comparison gives every count one of the two verdicts. -/
theorem judged_compare (detector : Detector S) (control : ClusterMap (ControlEntry S))
    {test : ClusterMap (TestEntry S)} (judged : test.All Judged) (direction : Direction) :
    (compare detector control test direction).test.All Judged := by
  intro cluster host entry listed
  rcases ClusterMap.find?_eq_some_iff.1 listed with ⟨hosts, present, found⟩
  rw [compare, SortedMap.get?_mapEntries, Option.map_eq_some_iff] at present
  rcases present with ⟨before, present, rfl⟩
  have passes : ∀ entry, before.get? host = some entry → Judged entry := by
    intro entry found
    exact judged cluster host entry (ClusterMap.find?_eq_some_iff.2 ⟨before, present, found⟩)
  rw [judgeHosts] at found
  split at found
  · exact passes entry found
  · rw [SortedMap.get?_mapValues, Option.map_eq_some_iff] at found
    rcases found with ⟨entry, found, rfl⟩
    exact judged_judgeEntry _ direction (passes entry found)

/-! ## Learning again -/

/-- Whether the detector has the baseline of a cluster, if there are counts for one. -/
def Learnt (control : ClusterMap (ControlEntry S)) (detector : Detector S) (cluster : Label) :
    Prop :=
  pooledCounts control cluster ≠ [] → detector.baselines.get? cluster =
    some (.ofCounts detector.share (pooledCounts control cluster))

theorem Learnt.learn {control : ClusterMap (ControlEntry S)} {detector : Detector S}
    {cluster : Label} (learnt : Learnt control detector cluster) (other : Label) :
    Learnt control (detector.learn other (pooledCounts control other)) cluster := by
  intro counted
  rw [Detector.learn, SortedMap.get?_insert]
  split
  · next same => rw [same]
  · exact learnt counted

/-- What is taken for a baseline is learnt, and so is what was learnt before. -/
theorem learnt_learnAll (control : ClusterMap (ControlEntry S)) (clusters : List Label)
    (detector : Detector S) {cluster : Label}
    (either : cluster ∈ clusters ∨ Learnt control detector cluster) :
    Learnt control (learnAll detector control clusters) cluster := by
  induction clusters generalizing detector with
  | nil => simpa [learnAll] using either
  | cons head rest ih =>
    rw [learnAll, List.foldl_cons]
    apply ih
    simp only [List.isEmpty_iff]
    split
    · next uncounted =>
      obtain member | learnt := either
      · obtain rfl | later := List.mem_cons.1 member
        · exact .inr fun counted => (counted uncounted).elim
        · exact .inl later
      · exact .inr learnt
    · obtain member | learnt := either
      · obtain rfl | later := List.mem_cons.1 member
        · exact .inr fun _ => by simp [Detector.learn]
        · exact .inl later
      · exact .inr (learnt.learn head)

/-- A detector that has learnt all clusters stays as it is. -/
theorem learnAll_of_learnt {control : ClusterMap (ControlEntry S)} {clusters : List Label}
    {detector : Detector S} (learnt : ∀ cluster ∈ clusters, Learnt control detector cluster) :
    learnAll detector control clusters = detector := by
  induction clusters with
  | nil => rfl
  | cons head rest ih =>
    rw [List.forall_mem_cons] at learnt
    have kept : (if (pooledCounts control head).isEmpty then detector
        else detector.learn head (pooledCounts control head)) = detector := by
      split
      · rfl
      · next counted =>
        rw [Detector.learn, SortedMap.insert_of_get? (learnt.1 (by simpa using counted))]
    rw [learnAll, List.foldl_cons, kept]
    exact ih learnt.2

/-- Comparing once more with what was learnt yields the same. -/
theorem compare_again (detector : Detector S) (control : ClusterMap (ControlEntry S))
    (test : ClusterMap (TestEntry S)) (direction : Direction) :
    compare (compare detector control test direction).detector control test direction =
      compare detector control test direction := by
  have learnt : learnAll (learnAll detector control (test.keys.filter Label.isReal)) control
      (test.keys.filter Label.isReal) =
        learnAll detector control (test.keys.filter Label.isReal) :=
    learnAll_of_learnt fun _ member => learnt_learnAll control _ detector (.inl member)
  simp only [compare, learnt]

end Frequency

end LogDrift
