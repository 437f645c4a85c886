import LogDrift.Proofs.Unknown.Worst
import LogDrift.Proofs.Unknown.Collection

/-!
# Which deviations stay in range

The weights of pending scores are mean counts. Nothing keeps a count from being negative, nor counts
from wrapping around when they are added up. The weighted mean of some scores lies between the least
and the greatest of them, whatever these are, exactly when no weight is negative or the weights do
not add up to more than zero. So this is the condition under which scores from zero to one give
deviations that are not greater than one.
-/

namespace LogDrift.Unknown

open Scalar (Exact ExactRounding)

variable {S : Type} [Scalar S] {value : S → ℝ}

/-! ## Weighted means -/

/-- The weighted mean of real numbers, or their plain mean when their weights do not add up to more
than zero. -/
noncomputable def realMean (pairs : List (ℝ × ℝ)) : ℝ :=
  if 0 < (pairs.map Prod.snd).sum then
    (pairs.map fun pair => pair.1 * pair.2).sum / (pairs.map Prod.snd).sum
  else (pairs.map Prod.fst).sum / pairs.length

/-- A score with its weight as real numbers. -/
def realPair (value : S → ℝ) (pair : S × S) : ℝ × ℝ :=
  (value pair.1, value pair.2)

theorem value_weightedMean (exact : Exact value) (pairs : List (S × S)) :
    value (weightedMean pairs) = realMean (pairs.map (realPair value)) := by
  cases pairs with
  | nil => simp [weightedMean, realMean, exact.zero]
  | cons first rest =>
    simp only [weightedMean, realMean, List.isEmpty_cons, Bool.false_eq_true, if_false,
      exact.lt_iff, exact.zero, exact.sum, List.map_map, Function.comp_def, realPair]
    split
    · rw [exact.div, exact.sum, exact.sum, List.map_map, List.map_map]
      simp only [Function.comp_def, exact.mul]
    · rw [exact.div, exact.sum, exact.ofNat, List.map_map, List.length_map]
      rfl

/-- With weights that are not negative the weighted mean lies between two of the values. -/
theorem exists_le_weighted (pairs : List (ℝ × ℝ)) (nonneg : ∀ pair ∈ pairs, 0 ≤ pair.2)
    (total : 0 < (pairs.map Prod.snd).sum) :
    ∃ least ∈ pairs, ∃ greatest ∈ pairs,
      least.1 ≤ (pairs.map fun pair => pair.1 * pair.2).sum / (pairs.map Prod.snd).sum ∧
      (pairs.map fun pair => pair.1 * pair.2).sum / (pairs.map Prod.snd).sum ≤ greatest.1 := by
  have nonempty : pairs ≠ [] := by
    rintro rfl
    exact total.ne rfl
  obtain ⟨least, isListed, below⟩ := Set.exists_min_image {pair | pair ∈ pairs} Prod.fst
    (List.finite_toSet pairs) (List.exists_mem_of_ne_nil pairs nonempty)
  obtain ⟨greatest, isPresent, above⟩ := Set.exists_max_image {pair | pair ∈ pairs} Prod.fst
    (List.finite_toSet pairs) (List.exists_mem_of_ne_nil pairs nonempty)
  refine ⟨least, isListed, greatest, isPresent, ?_, ?_⟩
  · rw [le_div_iff₀ total, ← List.sum_map_mul_left]
    exact List.sum_le_sum fun pair listed =>
      mul_le_mul_of_nonneg_right (below pair listed) (nonneg pair listed)
  · rw [div_le_iff₀ total, ← List.sum_map_mul_left]
    exact List.sum_le_sum fun pair listed =>
      mul_le_mul_of_nonneg_right (above pair listed) (nonneg pair listed)

/-- Weights with which every mean lies among the values: none is negative, or they do not add up to
more than zero. -/
def Balanced (weights : List ℝ) : Prop :=
  (∀ weight ∈ weights, 0 ≤ weight) ∨ weights.sum ≤ 0

/-- With balanced weights the mean lies between two of the values. -/
theorem exists_le_realMean (pairs : List (ℝ × ℝ)) (nonempty : pairs ≠ [])
    (balanced : Balanced (pairs.map Prod.snd)) :
    ∃ least ∈ pairs, ∃ greatest ∈ pairs, least.1 ≤ realMean pairs ∧ realMean pairs ≤ greatest.1 := by
  rw [realMean]
  split
  · next total =>
    have nonneg := balanced.resolve_right (not_le.2 total)
    rw [List.forall_mem_map] at nonneg
    exact exists_le_weighted pairs nonneg total
  · -- The plain mean is the one with equal weights.
    have counted : ((pairs.map fun pair => (pair.1, (1 : ℝ))).map Prod.snd).sum = pairs.length := by
      simp [Function.comp_def]
    have positive : (0 : ℝ) < pairs.length := Nat.cast_pos.2 (List.length_pos_iff.2 nonempty)
    obtain ⟨least, isListed, greatest, isPresent, below, above⟩ :=
      exists_le_weighted (pairs.map fun pair => (pair.1, 1))
        (List.forall_mem_map.2 fun _ _ => zero_le_one) (counted.symm ▸ positive)
    obtain ⟨low, lowListed, rfl⟩ := List.mem_map.1 isListed
    obtain ⟨high, highListed, rfl⟩ := List.mem_map.1 isPresent
    rw [counted, List.map_map] at below above
    simp only [Function.comp_def, mul_one] at below above
    exact ⟨low, lowListed, high, highListed, below, above⟩

/-- Without balanced weights the mean of values from zero to one can be negative. -/
theorem realMean_neg {weights : List ℝ} (unbalanced : ¬ Balanced weights) :
    realMean (weights.map fun weight => (if weight < 0 then 1 else 0, weight)) < 0 := by
  rw [Balanced, not_or, not_le] at unbalanced
  obtain ⟨unsigned, total⟩ := unbalanced
  push Not at unsigned
  obtain ⟨weight, listed, negative⟩ := unsigned
  have below : (weights.map fun weight => (if weight < 0 then 1 else 0) * weight).sum < 0 := by
    have less : (weights.map fun weight => (if weight < 0 then 1 else 0) * weight).sum <
        (weights.map fun _ => (0 : ℝ)).sum := by
      refine List.sum_lt_sum _ _ (fun other _ => ?_) ⟨weight, listed, ?_⟩
      · split
        · next negative =>
          rw [one_mul]
          exact negative.le
        · rw [zero_mul]
      · rwa [if_pos negative, one_mul]
    simpa using less
  rw [realMean, List.map_map, List.map_map]
  simp only [Function.comp_def, List.map_id', if_pos total]
  exact div_neg_of_neg_of_pos below total

/-! ## Events of a host -/

omit [Scalar S] in
/-- What the events on a host look like is seen on what all events look like. -/
theorem map_eventsAt {α : Type} (image : UnknownEvent S → α) (isOn : α → String → Bool)
    (same : ∀ event host, isOn (image event) host = decide (event.host = host))
    (assignments : SortedMap Label Label) (groups : List (List (UnknownEvent S))) (cluster : Label)
    (host : String) :
    (eventsAt assignments groups.zipIdx cluster host).map image =
      ((((groups.map (List.map image)).zipIdx.filter fun entry =>
        assignments.get? (entry.2 : Int) = some cluster).flatMap Prod.fst).filter
          fun seen => isOn seen host) := by
  rw [eventsAt, List.zipIdx_map, List.filter_map, List.flatMap_map, List.filter_flatMap,
    List.filter_flatMap, List.map_flatMap]
  simp only [Function.comp_def, Prod.map_fst, Prod.map_snd, id_eq, List.filter_map, same]

/-- The weights of the events on a host in the groups that are assigned to a cluster. -/
def weightsAt (value : S → ℝ) (assignments : SortedMap Label Label)
    (groups : List (List (UnknownEvent S))) (cluster : Label) (host : String) : List ℝ :=
  (eventsAt assignments groups.zipIdx cluster host).map fun event =>
    value (Occurrence.meanCount event.occurrences)

/-- The weights only depend on what occurred. -/
theorem weightsAt_congr {groups groups' : List (List (UnknownEvent S))}
    (same : groups.map (List.map UnknownEvent.occurrences) =
      groups'.map (List.map UnknownEvent.occurrences))
    (assignments : SortedMap Label Label) (cluster : Label) (host : String) :
    weightsAt value assignments groups cluster host =
      weightsAt value assignments groups' cluster host := by
  have seen := fun groups : List (List (UnknownEvent S)) =>
    map_eventsAt UnknownEvent.occurrences
      (fun occurrences host => Occurrence.hostOf occurrences = host) (fun _ _ => rfl) assignments
      groups cluster host
  have occurred := (seen groups).trans (same ▸ (seen groups').symm)
  have weighed :=
    congrArg (List.map fun occurrences => value (Occurrence.meanCount occurrences)) occurred
  rwa [List.map_map, List.map_map] at weighed

theorem value_meanCount (exact : Exact value) (occurrences : List Occurrence) :
    value (Occurrence.meanCount occurrences) =
      (Occurrence.totalCount occurrences : ℝ) / occurrences.length := by
  cases occurrences with
  | nil => simpa [Occurrence.meanCount] using exact.zero
  | cons first rest =>
    rw [Occurrence.meanCount, List.isEmpty_cons, if_neg Bool.false_ne_true, exact.div, exact.cast,
      exact.ofNat]

/-- Weights are balanced when nothing was counted negatively, nor too much together. -/
theorem balanced_of_counts (exact : Exact value) {groups : List (List (UnknownEvent S))}
    (counted : ∀ group ∈ groups, ∀ event ∈ group,
      Integer.Fits (Occurrence.counts event.occurrences).sum ∧
        ∀ occurrence ∈ event.occurrences, 0 ≤ occurrence.count)
    (assignments : SortedMap Label Label) (cluster : Label) (host : String) :
    Balanced (weightsAt value assignments groups cluster host) := by
  refine .inl (List.forall_mem_map.2 fun event inside => ?_)
  obtain ⟨group, listed, held⟩ := exists_group_of_mem_eventsAt inside
  obtain ⟨fits, unsigned⟩ := counted group listed event held
  have total : 0 ≤ (Occurrence.counts event.occurrences).sum :=
    List.sum_nonneg (List.forall_mem_map.2 unsigned)
  rw [value_meanCount exact, Occurrence.totalCount_eq_sum_iff.2 fits]
  exact div_nonneg (Int.cast_nonneg total) (Nat.cast_nonneg _)

/-! ## Entries -/

/-- Scores and weights that events add to their entry. -/
theorem value_weightedMean_gathered (exact : Exact value) {events : List (UnknownEvent S)}
    {entry : UnknownEntry S} (found : gathered events = some entry) :
    value (weightedMean entry.pending) = realMean (events.map fun event =>
      (value event.testScore, value (Occurrence.meanCount event.occurrences))) := by
  cases events with
  | nil => cases found
  | cons first rest =>
    cases found
    rw [value_weightedMean exact, List.map_map]
    rfl

/-- With balanced weights the mean of an entry lies between the scores of two of its events. -/
theorem exists_le_weightedMean (exact : Exact value) {events : List (UnknownEvent S)}
    {entry : UnknownEntry S} (found : gathered events = some entry)
    (balanced : Balanced (events.map fun event => value (Occurrence.meanCount event.occurrences))) :
    ∃ least ∈ events, ∃ greatest ∈ events,
      value least.testScore ≤ value (weightedMean entry.pending) ∧
      value (weightedMean entry.pending) ≤ value greatest.testScore := by
  have nonempty : events ≠ [] := by
    rintro rfl
    cases found
  rw [value_weightedMean_gathered exact found]
  obtain ⟨least, isListed, greatest, isPresent, below, above⟩ :=
    exists_le_realMean
      (events.map fun event => (value event.testScore, value (Occurrence.meanCount event.occurrences)))
      (mt List.map_eq_nil_iff.1 nonempty) (by rwa [List.map_map])
  obtain ⟨low, lowListed, rfl⟩ := List.mem_map.1 isListed
  obtain ⟨high, highListed, rfl⟩ := List.mem_map.1 isPresent
  exact ⟨low, lowListed, high, highListed, below, above⟩

/-- Two numbers from zero to one are at most one apart, also after their distance was rounded. -/
theorem value_scoreBy_mem (exact : ExactRounding value) {entry : UnknownEntry S}
    (control : value entry.controlScore ∈ Set.Icc 0 1)
    (mean : value (weightedMean entry.pending) ∈ Set.Icc 0 1) :
    value (scoreBy entry).testScore ∈ Set.Icc 0 1 := by
  have apart : deviation value entry ≤ 1 :=
    abs_sub_le_iff.2 ⟨by linarith [control.2, mean.1], by linarith [control.1, mean.2]⟩
  have rounded := Scalar.roundHundredths_le (deviation_nonneg value entry) apart
  rw [Scalar.roundHundredths_one] at rounded
  rw [value_scoreBy exact]
  exact ⟨Scalar.roundHundredths_nonneg (deviation_nonneg value entry), rounded⟩

/-! ## Deviations -/

/-- Groups whose scores are from zero to one. -/
def Rated (value : S → ℝ) (groups : List (List (UnknownEvent S))) : Prop :=
  ∀ group ∈ groups, ∀ event ∈ group,
    value event.controlScore ∈ Set.Icc 0 1 ∧ value event.testScore ∈ Set.Icc 0 1

omit [Scalar S] in
theorem Rated.of_mem_eventsAt {groups : List (List (UnknownEvent S))} (rated : Rated value groups)
    {assignments : SortedMap Label Label} {cluster : Label} {host : String}
    {event : UnknownEvent S} (inside : event ∈ eventsAt assignments groups.zipIdx cluster host) :
    value event.controlScore ∈ Set.Icc 0 1 ∧ value event.testScore ∈ Set.Icc 0 1 := by
  obtain ⟨group, listed, held⟩ := exists_group_of_mem_eventsAt inside
  exact rated group listed event held

/-- The means that pending scores have are genuine, and nothing deviates by more than one. -/
structure InRange (value : S → ℝ) (assignments : SortedMap Label Label)
    (groups : List (List (UnknownEvent S))) (grouping : Grouping S) : Prop where
  /-- A mean lies between the scores of two of the events of its entry. -/
  mean : ∀ cluster host entry, grouping.clusters.find? cluster host = some entry →
    ∃ least ∈ eventsAt assignments groups.zipIdx cluster host,
    ∃ greatest ∈ eventsAt assignments groups.zipIdx cluster host,
      value least.testScore ≤ value (weightedMean entry.pending) ∧
      value (weightedMean entry.pending) ≤ value greatest.testScore
  entry : ∀ cluster host entry, (scoreEvents grouping).clusters.find? cluster host = some entry →
    value entry.testScore ∈ Set.Icc (-1) 1
  score : ∀ cluster score, (scoreEvents grouping).scores.get? cluster = some score →
    value score.testScore ∈ Set.Icc 0 1

/-- Scoring keeps the score of a cluster or lets one of its hosts give it. -/
theorem get?_scores_cases (exact : ExactRounding value) (grouping : Grouping S) (cluster : Label) :
    (scoreEvents grouping).scores.get? cluster = grouping.scores.get? cluster ∨
    ∃ host entry, grouping.clusters.find? cluster host = some entry ∧
      (scoreEvents grouping).scores.get? cluster = some (scoreBy entry) := by
  rw [get?_scores_scoreEvents]
  cases found : grouping.clusters.get? cluster with
  | none => exact .inl rfl
  | some hosts =>
    rcases scoreAfter_cases exact hosts (grouping.scores.get? cluster) with
      ⟨_, same⟩ | ⟨worst, isWorst, _, scored⟩
    · exact .inl same
    · exact .inr ⟨worst.1, worst.2, (isWorst.decidedBy found).present, scored⟩

/-- With balanced weights nothing is out of range. -/
theorem inRange_of_balanced (exact : ExactRounding value) {groups : List (List (UnknownEvent S))}
    (rated : Rated value groups) {assignments : SortedMap Label Label} {grouping : Grouping S}
    (grouped : groupEvents groups assignments = .ok grouping)
    (balanced : ∀ cluster host, Balanced (weightsAt value assignments groups cluster host)) :
    InRange value assignments groups grouping := by
  have collected := collected_groupEvents grouped
  have mean : ∀ cluster host entry, grouping.clusters.find? cluster host = some entry →
      ∃ least ∈ eventsAt assignments groups.zipIdx cluster host,
      ∃ greatest ∈ eventsAt assignments groups.zipIdx cluster host,
        value least.testScore ≤ value (weightedMean entry.pending) ∧
        value (weightedMean entry.pending) ≤ value greatest.testScore := by
    intro cluster host entry present
    rw [collected.entries] at present
    exact exists_le_weightedMean exact.toExact present (balanced cluster host)
  have scored : ∀ cluster host entry, grouping.clusters.find? cluster host = some entry →
      value (scoreBy entry).testScore ∈ Set.Icc 0 1 := by
    intro cluster host entry present
    obtain ⟨least, isListed, greatest, isPresent, below, above⟩ := mean cluster host entry present
    rw [collected.entries] at present
    obtain ⟨event, inside, _, same⟩ := exists_event_of_gathered present
    exact value_scoreBy_mem exact (same ▸ (rated.of_mem_eventsAt inside).1)
      ⟨(rated.of_mem_eventsAt isListed).2.1.trans below,
        above.trans (rated.of_mem_eventsAt isPresent).2.2⟩
  constructor
  case mean => exact mean
  case entry =>
    intro cluster host entry summed
    rw [find?_scoreEvents, Option.map_eq_some_iff] at summed
    obtain ⟨pending, present, rfl⟩ := summed
    have bounded := abs_settled_le exact (le_refl (deviation value pending))
    exact abs_le.1 (bounded.trans (scored cluster host pending present).2)
  case score =>
    intro cluster score found
    rcases get?_scores_cases exact grouping cluster with kept | ⟨host, entry, present, given⟩
    · rw [kept] at found
      rw [collected.initial cluster score found, exact.one]
      exact ⟨zero_le_one, le_rfl⟩
    · rw [given] at found
      cases found
      exact scored cluster host entry present

/-! ## Unbalanced weights -/

/-- An event that scores fully exactly when its weight is negative. -/
def contrasted (event : UnknownEvent S) : UnknownEvent S :=
  { event with
    controlScore := 0
    testScore := if Occurrence.meanCount event.occurrences < (0 : S) then 1 else 0 }

theorem value_testScore_contrasted (exact : Exact value) (event : UnknownEvent S) :
    value (contrasted event).testScore =
      if value (Occurrence.meanCount event.occurrences) < 0 then 1 else 0 := by
  rw [contrasted]
  simp only [exact.lt_iff, exact.zero]
  split
  · exact exact.one
  · exact exact.zero

theorem rated_contrasted (exact : Exact value) (groups : List (List (UnknownEvent S))) :
    Rated value (groups.map (List.map contrasted)) := by
  intro group listed event inside
  obtain ⟨original, _, rfl⟩ := List.mem_map.1 listed
  obtain ⟨event, _, rfl⟩ := List.mem_map.1 inside
  rw [value_testScore_contrasted exact]
  refine ⟨⟨exact.zero.ge, exact.zero.trans_le zero_le_one⟩, ?_⟩
  split
  · exact ⟨zero_le_one, le_rfl⟩
  · exact ⟨le_rfl, zero_le_one⟩

/-- When nothing is out of range with scores that are contrasted, then the weights are balanced. -/
theorem balanced_of_inRange (exact : Exact value) {groups : List (List (UnknownEvent S))}
    {assignments : SortedMap Label Label} {grouping : Grouping S}
    (grouped : groupEvents (groups.map (List.map contrasted)) assignments = .ok grouping)
    (inRange : InRange value assignments (groups.map (List.map contrasted)) grouping)
    (cluster : Label) (host : String) :
    Balanced (weightsAt value assignments groups cluster host) := by
  by_contra unbalanced
  have events : eventsAt assignments (groups.map (List.map contrasted)).zipIdx cluster host =
      (eventsAt assignments groups.zipIdx cluster host).map contrasted :=
    (map_eventsAt contrasted (fun event host => event.host = host) (fun _ _ => rfl) assignments groups
      cluster host).symm
  have present := (collected_groupEvents grouped).entries cluster host
  rw [events] at present
  have nonempty : (eventsAt assignments groups.zipIdx cluster host).map contrasted ≠ [] := by
    intro bare
    apply unbalanced
    rw [weightsAt, List.map_eq_nil_iff.1 bare]
    exact .inr le_rfl
  obtain ⟨entry, found⟩ := Option.isSome_iff_exists.1
    (isSome_gathered.2 (List.exists_mem_of_ne_nil _ nonempty))
  obtain ⟨least, isListed, _, _, below, _⟩ := inRange.mean cluster host entry (present.trans found)
  have negative : value (weightedMean entry.pending) < 0 := by
    rw [value_weightedMean_gathered exact found, List.map_map]
    simp only [Function.comp_def, value_testScore_contrasted exact]
    have neg := realMean_neg unbalanced
    rw [weightsAt, List.map_map] at neg
    exact neg
  obtain ⟨_, scored⟩ := (rated_contrasted exact groups).of_mem_eventsAt isListed
  exact absurd (scored.1.trans below) (not_le.2 negative)

/-- One event in each of two groups, on one host. -/
noncomputable def countedGroups (first second : Int) : List (List (UnknownEvent ℝ)) := [
  [{ text := "link lost", label := 0, occurrences := [{ count := first, host := "web" }],
     controlScore := 1, testScore := 0 }],
  [{ text := "link down", label := 0, occurrences := [{ count := second, host := "web" }],
     controlScore := 1, testScore := Scalar.ratio 1 1000 }]]

/-- Both groups in one cluster. -/
def sharedCluster : SortedMap Label Label :=
  .ofList [(0, 0), (1, 0)]

theorem ratio_thousand : (Scalar.ratio 1 1000 : ℝ) = 1 / 1000 :=
  (Scalar.exact_real.ratio 1 1000).trans (by norm_num)

theorem rated_countedGroups (first second : Int) :
    Rated (fun x : ℝ => x) (countedGroups first second) := by
  intro group listed event held
  simp only [countedGroups, List.mem_cons, List.not_mem_nil, or_false] at listed
  rcases listed with rfl | rfl
  · cases List.mem_singleton.1 held
    norm_num
  · cases List.mem_singleton.1 held
    norm_num [ratio_thousand]

theorem assigned_countedGroups (first second : Int) :
    ∀ number < (countedGroups first second).length, (sharedCluster.get? (number : Int)).isSome :=
  show ∀ number : Nat, number < 2 → (sharedCluster.get? (number : Int)).isSome by decide

end LogDrift.Unknown
