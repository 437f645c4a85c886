import LogDrift.Proofs.Exact.Scalar
import LogDrift.Proofs.Frequency.Detection

/-!
# What a comparison comes to

A detector that starts without baselines judges exactly the entries of matched clusters with control
counts that have counts themselves. Every such entry gets one verdict for each of its counts, and its
score is the share of the anomalous ones. A cluster is reported when one of its judged entries has an
anomalous count, under the greatest of their scores. No cluster depends on the others.
-/

namespace LogDrift

namespace Baseline

variable {S : Type} [Scalar S]

/-- The verdict on a count. -/
def verdict (baseline : Baseline S) (direction : Direction) (count : Int) : Verdict :=
  if Frequency.isAnomalous baseline.mean baseline.bound direction count then .anomaly else .normal

@[simp] theorem verdicts_judge (baseline : Baseline S) (direction : Direction) (counts : List Int) :
    (baseline.judge direction counts).verdicts = counts.map (baseline.verdict direction) := rfl

theorem count_normal_add_count_anomaly (baseline : Baseline S) (direction : Direction)
    (counts : List Int) :
    (counts.map (baseline.verdict direction)).count Verdict.normal +
      (counts.map (baseline.verdict direction)).count Verdict.anomaly = counts.length := by
  induction counts with
  | nil => rfl
  | cons count rest ih =>
    have apart : Verdict.normal ≠ Verdict.anomaly := by decide
    rw [List.map_cons, List.length_cons, ← ih, verdict]
    split
    · rw [List.count_cons_of_ne apart.symm, List.count_cons_self, Nat.add_assoc]
    · rw [List.count_cons_self, List.count_cons_of_ne apart, Nat.add_right_comm]

/-- The score of a judgement is what its normal verdicts lack to all of them. -/
theorem frequencyScore_judge (baseline : Baseline S) (direction : Direction) (counts : List Int) :
    (baseline.judge direction counts).frequencyScore =
      1 - Scalar.ratio ((counts.map (baseline.verdict direction)).count Verdict.normal)
        counts.length := by
  have all := count_normal_add_count_anomaly baseline direction counts
  show 1 - Scalar.ratio ((counts.map (baseline.verdict direction)).length -
    (counts.map (baseline.verdict direction)).count Verdict.anomaly)
      (counts.map (baseline.verdict direction)).length = _
  rw [List.length_map, ← all, Nat.add_sub_cancel]

@[simp]
theorem hasAnomaly_judge (baseline : Baseline S) (direction : Direction) (counts : List Int) :
    (baseline.judge direction counts).hasAnomaly =
      decide (Verdict.anomaly ∈ counts.map (baseline.verdict direction)) := by
  rw [Judgement.hasAnomaly, Judgement.anomalyCount, verdicts_judge]
  simp only [List.count_pos_iff]

end Baseline

namespace Frequency

variable {S : Type} [Scalar S]

/-! ## Entries -/

/-- Whether an entry of a cluster is judged: its cluster is matched and has control counts, and the
entry has counts itself. -/
def IsJudged (control : ClusterMap (ControlEntry S)) (cluster : Label) (entry : TestEntry S) : Prop :=
  cluster < Label.unknownBase ∧ pooledCounts control cluster ≠ [] ∧ entry.occurrences ≠ []

instance (control : ClusterMap (ControlEntry S)) (cluster : Label) (entry : TestEntry S) :
    Decidable (IsJudged control cluster entry) :=
  inferInstanceAs (Decidable (_ ∧ _ ∧ _))

/-- The verdicts on the counts of an entry, by what the control counts of its cluster make expect. -/
def verdicts (share : S) (control : ClusterMap (ControlEntry S)) (direction : Direction)
    (cluster : Label) (entry : TestEntry S) : List Verdict :=
  (Occurrence.counts entry.occurrences).map
    ((Baseline.ofCounts share (pooledCounts control cluster)).verdict direction)

/-- What a comparison makes of an entry. -/
def settle (share : S) (control : ClusterMap (ControlEntry S)) (direction : Direction)
    (cluster : Label) (entry : TestEntry S) : TestEntry S :=
  if IsJudged control cluster entry then
    let verdicts := verdicts share control direction cluster entry
    { entry with
      verdicts
      isUnexpected := decide (Verdict.anomaly ∈ verdicts)
      frequencyScore := 1 - Scalar.ratio (verdicts.count Verdict.normal) verdicts.length }
  else entry

/-- A detector that starts without baselines has those of the clusters that it took counts of. -/
theorem baseline?_learnAll (control : ClusterMap (ControlEntry S)) (clusters : List Label)
    (detector : Detector S) (cluster : Label) :
    (learnAll detector control clusters).baseline? cluster =
      if cluster ∈ clusters ∧ pooledCounts control cluster ≠ [] then
        some (.ofCounts detector.share (pooledCounts control cluster))
      else detector.baseline? cluster := by
  induction clusters generalizing detector with
  | nil => simp [learnAll]
  | cons head rest ih =>
    rw [learnAll, List.foldl_cons]
    by_cases uncounted : pooledCounts control head = []
    · rw [if_pos (by simp [uncounted])]
      refine (ih detector).trans ?_
      by_cases same : cluster = head
      · simp [same, uncounted]
      · simp [same]
    · rw [if_neg (by simp [uncounted])]
      refine (ih (detector.learn head (pooledCounts control head))).trans ?_
      by_cases same : cluster = head
      · simp [same, uncounted]
      · simp [same, Ne.symm same]

section Start

variable (share : S) (control : ClusterMap (ControlEntry S)) (test : ClusterMap (TestEntry S))
  (direction : Direction)

/-- The baselines after a comparison that started without any. -/
theorem baseline?_start {cluster : Label} (present : cluster ∈ test.keys) :
    (learnAll ⟨share, .empty⟩ control (test.keys.filter Label.isReal)).baseline? cluster =
      if cluster < Label.unknownBase ∧ pooledCounts control cluster ≠ [] then
        some (.ofCounts share (pooledCounts control cluster))
      else none := by
  rw [baseline?_learnAll]
  simp only [List.mem_filter, present, true_and, Label.isReal, decide_eq_true_iff]
  rfl

theorem judgeHosts_start {cluster : Label} (present : cluster ∈ test.keys)
    (hosts : SortedMap String (TestEntry S)) :
    judgeHosts (learnAll ⟨share, .empty⟩ control (test.keys.filter Label.isReal)) direction cluster
      hosts = hosts.mapValues (settle share control direction cluster) := by
  rw [judgeHosts, baseline?_start share control test present]
  by_cases known : cluster < Label.unknownBase ∧ pooledCounts control cluster ≠ []
  · rw [if_pos known]
    apply SortedMap.mapValues_congr
    intro entry _
    by_cases unseen : entry.2.occurrences = []
    · simp [judgeEntry, settle, IsJudged, Occurrence.counts, unseen]
    · have judged : IsJudged control cluster entry.2 := ⟨known.1, known.2, unseen⟩
      have counts : (Occurrence.counts entry.2.occurrences).isEmpty = false := by
        simpa [Occurrence.counts] using unseen
      simp [judgeEntry, settle, judged, counts, verdicts, Baseline.frequencyScore_judge]
  · rw [if_neg known]
    ext : 1
    refine (List.map_id _).symm.trans (List.map_congr_left fun entry _ => ?_)
    have spared : ¬ IsJudged control cluster entry.2 := fun judged => known ⟨judged.1, judged.2.1⟩
    exact congrArg (Prod.mk entry.1) (if_neg spared).symm

/-- A comparison settles every entry. -/
theorem test_compare_start : (compare ⟨share, .empty⟩ control test direction).test =
    test.mapEntries fun cluster hosts =>
      hosts.mapValues (settle share control direction cluster) := by
  apply SortedMap.mapEntries_congr
  intro entry member
  exact judgeHosts_start share control test direction (List.mem_map_of_mem member) entry.2

@[simp] theorem occurrences_settle (cluster : Label) (entry : TestEntry S) :
    (settle share control direction cluster entry).occurrences = entry.occurrences := by
  rw [settle]
  split <;> rfl

theorem judged_start {cluster : Label} (present : cluster ∈ test.keys)
    (hosts : SortedMap String (TestEntry S)) :
    judged (learnAll ⟨share, .empty⟩ control (test.keys.filter Label.isReal)) cluster hosts =
      hosts.values.filter fun entry => decide (IsJudged control cluster entry) := by
  rw [judged, baseline?_start share control test present]
  by_cases known : cluster < Label.unknownBase ∧ pooledCounts control cluster ≠ []
  · rw [if_pos known]
    apply List.filter_congr
    intro entry _
    rw [Bool.eq_iff_iff]
    simp [IsJudged, known]
  · rw [if_neg known]
    refine (List.filter_eq_nil_iff.2 fun entry _ judged => ?_).symm
    exact known ⟨(of_decide_eq_true judged).1, (of_decide_eq_true judged).2.1⟩

/-- The score of a cluster is made of its judged entries. -/
theorem get?_scores_compare_start (cluster : Label) :
    (compare ⟨share, .empty⟩ control test direction).scores.get? cluster =
      ((compare ⟨share, .empty⟩ control test direction).test.get? cluster).bind fun hosts =>
        clusterScore? (hosts.values.filter fun entry => decide (IsJudged control cluster entry)) := by
  refine (SortedMap.get?_ofList_filterMap _ (fun cluster hosts => clusterScore? (judged
    (learnAll ⟨share, .empty⟩ control (test.keys.filter Label.isReal)) cluster hosts)) _).trans ?_
  cases found : (compare ⟨share, .empty⟩ control test direction).test.get? cluster with
  | none => exact congrArg (Option.bind · _) found
  | some hosts =>
    have present : cluster ∈ test.keys := by
      rw [test_compare_start, SortedMap.get?_mapEntries, Option.map_eq_some_iff] at found
      obtain ⟨_, found, _⟩ := found
      exact SortedMap.mem_keys_iff.2 (Option.isSome_of_eq_some found)
    refine (congrArg (Option.bind · _) found).trans ?_
    exact congrArg clusterScore? (judged_start share control test present hosts)

end Start

/-! ## Scores of clusters -/

/-- The greatest of some scores and those of entries, as a comparison finds it. -/
def greatestScore (entries : List (TestEntry S)) (start : S) : S :=
  entries.foldl (fun greatest entry =>
    if greatest < entry.frequencyScore then entry.frequencyScore else greatest) start

theorem greatestScore_cons (entry : TestEntry S) (entries : List (TestEntry S)) (start : S) :
    greatestScore (entry :: entries) start = greatestScore entries
      (if start < entry.frequencyScore then entry.frequencyScore else start) := rfl

section Exact

variable {value : S → ℝ} (exact : Scalar.Exact value)

include exact in
/-- The greatest score is one of the scores or the one to start with, and none is above it. -/
theorem isGreatest_greatestScore (entries : List (TestEntry S)) (start : S) :
    (greatestScore entries start = start ∨
      ∃ entry ∈ entries, entry.frequencyScore = greatestScore entries start) ∧
    start ≤ greatestScore entries start ∧
    ∀ entry ∈ entries, entry.frequencyScore ≤ greatestScore entries start := by
  have trans : ∀ {x y z : S}, x ≤ y → y ≤ z → x ≤ z := by
    intro x y z
    rw [exact.le_iff, exact.le_iff, exact.le_iff]
    exact le_trans
  induction entries generalizing start with
  | nil => exact ⟨.inl rfl, (exact.le_iff ..).2 le_rfl, nofun⟩
  | cons head rest ih =>
    rw [greatestScore_cons]
    by_cases higher : start < head.frequencyScore
    · rw [if_pos higher]
      obtain ⟨made, above, all⟩ := ih head.frequencyScore
      have below : start ≤ head.frequencyScore :=
        (exact.le_iff ..).2 ((exact.lt_iff ..).1 higher).le
      refine ⟨.inr ?_, trans below above, List.forall_mem_cons.2 ⟨above, all⟩⟩
      obtain same | ⟨entry, listed, same⟩ := made
      · exact ⟨head, .head _, same.symm⟩
      · exact ⟨entry, .tail _ listed, same⟩
    · rw [if_neg higher]
      obtain ⟨made, above, all⟩ := ih start
      have below : head.frequencyScore ≤ start := by
        rw [exact.lt_iff, not_lt] at higher
        exact (exact.le_iff ..).2 higher
      refine ⟨?_, above, List.forall_mem_cons.2 ⟨trans below above, all⟩⟩
      exact made.imp_right fun ⟨entry, listed, same⟩ => ⟨entry, .tail _ listed, same⟩

@[simp] theorem isSome_clusterScore? {entries : List (TestEntry S)} :
    (clusterScore? entries).isSome ↔ ∃ entry ∈ entries, entry.isUnexpected = true := by
  rw [clusterScore?]
  split
  · next unexpected => simpa using unexpected
  · next expected => simpa using expected

include exact in
/-- Where the scores of unexpected entries are positive, a cluster has the greatest score of its
entries. -/
theorem clusterScore?_greatest {entries : List (TestEntry S)} {score : FrequencyScore S}
    (positive : ∀ entry ∈ entries, entry.isUnexpected = true → 0 < entry.frequencyScore)
    (scored : clusterScore? entries = some score) :
    score.isUnexpected = true ∧
    (∃ entry ∈ entries, entry.frequencyScore = score.frequencyScore) ∧
    ∀ entry ∈ entries, entry.frequencyScore ≤ score.frequencyScore := by
  obtain ⟨unexpected, listed, isUnexpected⟩ :=
    isSome_clusterScore?.1 (Option.isSome_of_eq_some scored)
  rw [clusterScore?, if_pos (List.any_eq_true.2 ⟨unexpected, listed, isUnexpected⟩)] at scored
  cases scored
  obtain ⟨made, _, all⟩ := isGreatest_greatestScore exact entries 0
  refine ⟨rfl, made.resolve_left fun zero => ?_, all⟩
  -- The score of the unexpected entry is above the one to start with.
  have above := positive unexpected listed isUnexpected
  have below := all unexpected listed
  rw [zero] at below
  rw [exact.lt_iff] at above
  rw [exact.le_iff] at below
  exact absurd above (not_lt.2 below)

include exact in
/-- Entries with an anomalous count have a positive score. -/
theorem score_pos (sub : ∀ x y, value (x - y) = value x - value y) (baseline : Baseline S)
    (direction : Direction) {counts : List Int}
    (present : Verdict.anomaly ∈ counts.map (baseline.verdict direction)) :
    (0 : S) < 1 - Scalar.ratio ((counts.map (baseline.verdict direction)).count Verdict.normal)
      (counts.map (baseline.verdict direction)).length := by
  have all := Baseline.count_normal_add_count_anomaly baseline direction counts
  have counted := List.count_pos_iff.2 present
  rw [exact.lt_iff, exact.zero, sub, exact.one, exact.ratio, sub_pos, List.length_map,
    div_lt_one (Nat.cast_pos.2 (by omega)), Nat.cast_lt]
  omega

end Exact

/-! ## Comparisons -/

/-- What a comparison that starts without baselines comes to. -/
structure Settled (share : S) (control : ClusterMap (ControlEntry S))
    (test : ClusterMap (TestEntry S)) (direction : Direction) (comparison : Comparison S) :
    Prop where
  /-- Every entry is settled, and stays where it is. -/
  entries : comparison.test = test.mapEntries fun cluster hosts =>
    hosts.mapValues (settle share control direction cluster)
  /-- A cluster has a score exactly when one of its judged entries has an anomalous count. -/
  scored : ∀ cluster, (comparison.scores.get? cluster).isSome ↔
    ∃ host entry, comparison.test.find? cluster host = some entry ∧
      IsJudged control cluster entry ∧ Verdict.anomaly ∈ entry.verdicts
  /-- It is the greatest score of its judged entries. -/
  greatest : ∀ cluster score, comparison.scores.get? cluster = some score →
    score.isUnexpected = true ∧
    (∃ host entry, comparison.test.find? cluster host = some entry ∧
      IsJudged control cluster entry ∧ entry.frequencyScore = score.frequencyScore) ∧
    ∀ host entry, comparison.test.find? cluster host = some entry →
      IsJudged control cluster entry → entry.frequencyScore ≤ score.frequencyScore

section Start

variable {share : S} {control : ClusterMap (ControlEntry S)} {test : ClusterMap (TestEntry S)}
  {direction : Direction}

/-- The entries of a cluster whose scores count are the judged ones. -/
theorem mem_judged_iff {hosts : SortedMap String (TestEntry S)} {cluster : Label}
    (found : (compare ⟨share, .empty⟩ control test direction).test.get? cluster = some hosts)
    {entry : TestEntry S} :
    entry ∈ hosts.values.filter (fun entry => decide (IsJudged control cluster entry)) ↔
      ∃ host, (compare ⟨share, .empty⟩ control test direction).test.find? cluster host =
        some entry ∧ IsJudged control cluster entry := by
  simp [ClusterMap.find?, found, SortedMap.mem_values_iff]

/-- Judged entries have been settled. -/
theorem settled_of_judged {cluster : Label} {host : String} {entry : TestEntry S}
    (found : (compare ⟨share, .empty⟩ control test direction).test.find? cluster host = some entry)
    (judged : IsJudged control cluster entry) :
    let verdicts := verdicts share control direction cluster entry
    entry.verdicts = verdicts ∧ entry.isUnexpected = decide (Verdict.anomaly ∈ verdicts) ∧
      entry.frequencyScore = 1 - Scalar.ratio (verdicts.count Verdict.normal) verdicts.length := by
  obtain ⟨hosts, present, found⟩ := ClusterMap.find?_eq_some_iff.1 found
  rw [test_compare_start, SortedMap.get?_mapEntries] at present
  obtain ⟨before, present, rfl⟩ := Option.map_eq_some_iff.1 present
  rw [SortedMap.get?_mapValues] at found
  obtain ⟨entry, found, rfl⟩ := Option.map_eq_some_iff.1 found
  have wasJudged : IsJudged control cluster entry := by
    rwa [IsJudged, occurrences_settle] at judged
  rw [settle, if_pos wasJudged]
  exact ⟨rfl, rfl, rfl⟩

theorem settled_compare {value : S → ℝ} (exact : Scalar.Exact value)
    (sub : ∀ x y, value (x - y) = value x - value y) :
    Settled share control test direction (compare ⟨share, .empty⟩ control test direction) where
  entries := test_compare_start share control test direction
  scored := by
    intro cluster
    rw [get?_scores_compare_start]
    cases found : (compare ⟨share, .empty⟩ control test direction).test.get? cluster with
    | none => simp [ClusterMap.find?, found]
    | some hosts =>
      rw [Option.bind_some, isSome_clusterScore?]
      constructor
      · rintro ⟨entry, listed, unexpected⟩
        obtain ⟨host, present, judged⟩ := (mem_judged_iff found).1 listed
        obtain ⟨given, told, _⟩ := settled_of_judged present judged
        exact ⟨host, entry, present, judged, by simpa [told, given] using unexpected⟩
      · rintro ⟨host, entry, present, judged, anomalous⟩
        obtain ⟨given, told, _⟩ := settled_of_judged present judged
        exact ⟨entry, (mem_judged_iff found).2 ⟨host, present, judged⟩,
          by simpa [told, given] using anomalous⟩
  greatest := by
    intro cluster score scored
    rw [get?_scores_compare_start] at scored
    obtain ⟨hosts, found, scored⟩ := Option.bind_eq_some_iff.1 scored
    have positive : ∀ entry ∈ hosts.values.filter
        (fun entry => decide (IsJudged control cluster entry)),
        entry.isUnexpected = true → 0 < entry.frequencyScore := by
      intro entry listed unexpected
      obtain ⟨host, present, judged⟩ := (mem_judged_iff found).1 listed
      obtain ⟨_, told, score⟩ := settled_of_judged present judged
      rw [told] at unexpected
      rw [score]
      exact score_pos exact sub _ direction (of_decide_eq_true unexpected)
    obtain ⟨unexpected, ⟨entry, listed, attained⟩, all⟩ :=
      clusterScore?_greatest exact positive scored
    obtain ⟨host, present, judged⟩ := (mem_judged_iff found).1 listed
    exact ⟨unexpected, ⟨host, entry, present, judged, attained⟩, fun host entry present judged =>
      all entry ((mem_judged_iff found).2 ⟨host, present, judged⟩)⟩

/-- What a comparison makes of a cluster depends on that cluster alone. -/
theorem compare_start_congr {control' : ClusterMap (ControlEntry S)}
    {test' : ClusterMap (TestEntry S)} {cluster : Label}
    (controls : control.get? cluster = control'.get? cluster)
    (tests : test.get? cluster = test'.get? cluster) :
    (compare ⟨share, .empty⟩ control test direction).test.get? cluster =
      (compare ⟨share, .empty⟩ control' test' direction).test.get? cluster ∧
    (compare ⟨share, .empty⟩ control test direction).scores.get? cluster =
      (compare ⟨share, .empty⟩ control' test' direction).scores.get? cluster := by
  have pooled : pooledCounts control cluster = pooledCounts control' cluster := by
    rw [pooledCounts, pooledCounts, controls]
  have judged : ∀ entry : TestEntry S,
      IsJudged control cluster entry ↔ IsJudged control' cluster entry := by
    intro entry
    rw [IsJudged, IsJudged, pooled]
  have settled : settle share control direction cluster =
      settle share control' direction cluster := by
    funext entry
    have same : verdicts share control direction cluster entry =
        verdicts share control' direction cluster entry := by
      rw [verdicts, verdicts, pooled]
    simp only [settle, same]
    exact if_congr (judged entry) rfl rfl
  have entries : (compare ⟨share, .empty⟩ control test direction).test.get? cluster =
      (compare ⟨share, .empty⟩ control' test' direction).test.get? cluster := by
    rw [test_compare_start, test_compare_start, SortedMap.get?_mapEntries,
      SortedMap.get?_mapEntries, tests, settled]
  refine ⟨entries, ?_⟩
  rw [get?_scores_compare_start, get?_scores_compare_start, entries]
  simp only [judged]

end Start

/-- A comparison that starts without baselines never fails, settles every entry, reports the clusters
with an anomalous count, and treats every cluster on its own. -/
theorem detect_settles {value : S → ℝ} (exact : Scalar.Exact value)
    (sub : ∀ x y, value (x - y) = value x - value y) (share : S)
    (control : ClusterMap (ControlEntry S)) (test : ClusterMap (TestEntry S))
    (direction : Direction) :
    ∃ comparison, detect ⟨share, .empty⟩ control test direction = .ok comparison ∧
      Settled share control test direction comparison ∧
      ∀ control' test' comparison',
        detect ⟨share, .empty⟩ control' test' direction = .ok comparison' →
        ∀ cluster, control.get? cluster = control'.get? cluster →
          test.get? cluster = test'.get? cluster →
          comparison.test.get? cluster = comparison'.test.get? cluster ∧
          comparison.scores.get? cluster = comparison'.scores.get? cluster := by
  refine ⟨_, detect_eq_ok .., settled_compare exact sub, ?_⟩
  intro control' test' comparison' made cluster controls tests
  rw [detect_eq_ok] at made
  cases made
  exact compare_start_congr controls tests

/-- Control counts of a cluster that do not vary. -/
def steadyControl : ClusterMap (ControlEntry ℝ) :=
  .ofList [(4, .ofList [("web", {
    text := "cache miss", label := 4, occurrences := [{ count := 10 }, { count := 10 }] })])]

/-- Test counts of which the last is too high. -/
noncomputable def burstEntry : TestEntry ℝ :=
  { text := "cache miss", label := 4, occurrences := [{ count := 10 }, { count := 40 }]
    controlScore := 1, testScore := 1, frequencyScore := 0 }

noncomputable def burstTest : ClusterMap (TestEntry ℝ) :=
  .ofList [(4, .ofList [("web", burstEntry)])]

theorem ofCounts_steadyControl :
    Baseline.ofCounts (1 / 5 : ℝ) (pooledCounts steadyControl 4) = .constant 10 (1 / 5) := by
  have pooled : pooledCounts steadyControl 4 = [10, 10] := rfl
  have spread : (meanDeviation [10, 10] : ℝ × ℝ) = (10, 0) := by
    norm_num [meanDeviation, Scalar.sum, Scalar.ofNat, Scalar.sqrt]
  rw [pooled]
  norm_num [Baseline.ofCounts, Baseline.ofConstant, Baseline.constantBelow, Scalar.ratio,
    Scalar.ofNat, spread]

theorem verdicts_burstEntry :
    verdicts (1 / 5) steadyControl .higher 4 burstEntry = [.normal, .anomaly] := by
  rw [verdicts, ofCounts_steadyControl]
  norm_num [burstEntry, Occurrence.counts, Baseline.verdict, isAnomalous, Baseline.bound,
    Baseline.mean, tolerance, Scalar.abs, Scalar.floor, Scalar.ceil]

theorem detect_settles_burst :
    Scalar.Exact (fun x : ℝ => x) ∧
    ∃ comparison, detect ⟨1 / 5, .empty⟩ steadyControl burstTest .higher = .ok comparison ∧
      Settled (1 / 5) steadyControl burstTest .higher comparison ∧
      (comparison.scores.get? 4).isSome := by
  obtain ⟨comparison, made, settled, _⟩ := detect_settles Scalar.exact_real (fun _ _ => rfl)
    (1 / 5) steadyControl burstTest .higher
  have found : comparison.test.find? 4 "web" =
      some (settle (1 / 5) steadyControl .higher 4 burstEntry) := by
    rw [settled.entries]
    rfl
  have judged : IsJudged steadyControl 4 burstEntry :=
    ⟨by decide, List.cons_ne_nil _ _, List.cons_ne_nil _ _⟩
  refine ⟨Scalar.exact_real, comparison, made, settled,
    (settled.scored 4).2 ⟨"web", _, found, ?_, ?_⟩⟩
  · rw [IsJudged, occurrences_settle]
    exact judged
  · rw [settle, if_pos judged, verdicts_burstEntry]
    decide

end Frequency

end LogDrift
