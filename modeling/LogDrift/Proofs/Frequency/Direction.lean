import LogDrift.Proofs.Exact.Rounding
import LogDrift.Proofs.Frequency.Detection

/-!
# Directions of deviation

A count that is judged in both directions is anomalous exactly when it is too high or too low. Too
high are only counts above the mean, and too low only counts below it, as long as the bound that a
deviation must exceed is not so far below zero that deviations the other way exceed it as well. A
share of a mean can be that low, since neither counts nor shares are kept from being negative. A
multiple of a standard deviation cannot.
-/

namespace LogDrift

open Scalar (ExactParts)

variable {S : Type} [Scalar S] {value : S → ℝ} {reach : Int → Int}

namespace Frequency

/-! ## Deviations -/

/-- How far a deviation goes in a direction, without the fraction. -/
noncomputable def advance (direction : Direction) (deviation : ℝ) : Int :=
  match direction with
  | .higher => ⌊deviation⌋
  | .lower => ⌊-deviation⌋
  | .both => ⌊|deviation|⌋

/-- A deviation goes as far in both directions as in the one in which it goes farther. -/
theorem advance_both (deviation : ℝ) :
    advance .both deviation = max (advance .higher deviation) (advance .lower deviation) :=
  Int.floor_mono.map_max

/-- A count is anomalous when its distance from the mean exceeds the tolerance and its deviation in
the direction exceeds the bound. -/
theorem isAnomalous_iff (exact : ExactParts value reach) (mean : S) (bound : Int)
    (direction : Direction) (count : Int) :
    isAnomalous mean bound direction count = true ↔
      tolerance < ⌊|(count : ℝ) - value mean|⌋ ∧
        bound < reach (advance direction (count - value mean)) := by
  have above : Scalar.floor ((Int.cast count : S) - mean) = reach ⌊(count : ℝ) - value mean⌋ := by
    rw [exact.floor, exact.sub, exact.cast]
  have below : Scalar.floor (mean - (Int.cast count : S)) = reach ⌊-((count : ℝ) - value mean)⌋ := by
    rw [exact.floor, exact.sub, exact.cast, neg_sub]
  have distance : Scalar.floor (Scalar.abs ((Int.cast count : S) - mean)) =
      reach ⌊|(count : ℝ) - value mean|⌋ := by
    rw [exact.floor, exact.abs, exact.sub, exact.cast]
  have gate : tolerance < reach ⌊|(count : ℝ) - value mean|⌋ ↔
      tolerance < ⌊|(count : ℝ) - value mean|⌋ := exact.lt_reach_iff (by decide) (by decide)
  simp only [isAnomalous, distance, above, below, ← gate]
  split
  · next near => simp [near]
  · next far =>
    rw [not_le] at far
    cases direction <;> simp [far, advance]

/-- A count is anomalous in both directions exactly when it is too high or too low. -/
theorem isAnomalous_both_iff (exact : ExactParts value reach) (mean : S) (bound count : Int) :
    isAnomalous mean bound .both count = true ↔
      isAnomalous mean bound .higher count = true ∨ isAnomalous mean bound .lower count = true := by
  rw [isAnomalous_iff exact, isAnomalous_iff exact, isAnomalous_iff exact, advance_both,
    exact.monotone.map_max, lt_max_iff, and_or_left]

/-! ## Verdicts in three directions -/

/-- The verdict on a count, by its distance from a mean. -/
def verdict (mean : S) (bound : Int) (direction : Direction) (count : Int) : Verdict :=
  if isAnomalous mean bound direction count then .anomaly else .normal

@[simp]
theorem verdict_eq_anomaly_iff {mean : S} {bound : Int} {direction : Direction} {count : Int} :
    verdict mean bound direction count = .anomaly ↔
      isAnomalous mean bound direction count = true := by
  rw [verdict]
  split
  · next anomalous => exact iff_of_true rfl anomalous
  · next usual => exact iff_of_false (by decide) usual

@[simp]
theorem verdicts_ofCounts (mean : S) (bound : Int) (direction : Direction) (counts : List Int) :
    (Judgement.ofCounts mean bound direction counts).verdicts =
      counts.map (verdict mean bound direction) := rfl

/-- A place has an anomalous verdict when the count there is anomalous. -/
theorem getElem?_verdicts_eq_anomaly_iff {mean : S} {bound : Int} {direction : Direction}
    {counts : List Int} {place : Nat} :
    (Judgement.ofCounts mean bound direction counts).verdicts[place]? = some .anomaly ↔
      ∃ count, counts[place]? = some count ∧ isAnomalous mean bound direction count = true := by
  rw [verdicts_ofCounts, List.getElem?_map, Option.map_eq_some_iff]
  simp only [verdict_eq_anomaly_iff]

@[simp] theorem count_anomaly_verdicts (mean : S) (bound : Int) (direction : Direction)
    (counts : List Int) :
    (Judgement.ofCounts mean bound direction counts).verdicts.count Verdict.anomaly =
      counts.countP (isAnomalous mean bound direction) := by
  rw [verdicts_ofCounts, List.count, List.countP_map]
  apply List.countP_congr
  intro count _
  rw [Function.comp_apply, beq_iff_eq, verdict_eq_anomaly_iff]

/-- What judging counts in every direction comes to. -/
structure Concurring (value : S → ℝ) (mean : S) (bound : Int) (counts : List Int)
    (judgement : Direction → Judgement S) : Prop where
  /-- Every count has a verdict of its own, in order, which no other count has an influence on. -/
  verdicts : ∀ direction, (judgement direction).verdicts = counts.map (verdict mean bound direction)
  binary : ∀ direction, ∀ given ∈ (judgement direction).verdicts, given = 1 ∨ given = -1
  /-- A count is anomalous in both directions exactly when it is in one of them. -/
  both : ∀ place : Nat, (judgement .both).verdicts[place]? = some (-1) ↔
    (judgement .higher).verdicts[place]? = some (-1) ∨
      (judgement .lower).verdicts[place]? = some (-1)
  /-- A count near the mean is never anomalous. -/
  tolerant : ∀ direction (place : Nat) (count : Int), counts[place]? = some count →
    ⌊|(count : ℝ) - value mean|⌋ ≤ 5 → (judgement direction).verdicts[place]? = some 1
  score : ∀ direction, value (judgement direction).score =
    (counts.length - (judgement direction).verdicts.count (-1)) / counts.length
  least : ∀ direction, (judgement .both).score ≤ (judgement direction).score

/-- What is anomalous in one direction is anomalous in both. -/
theorem isAnomalous_both_of (exact : ExactParts value reach) {mean : S} {bound count : Int}
    {direction : Direction} (anomalous : isAnomalous mean bound direction count = true) :
    isAnomalous mean bound .both count = true := by
  cases direction with
  | higher => exact (isAnomalous_both_iff exact mean bound count).2 (.inl anomalous)
  | lower => exact (isAnomalous_both_iff exact mean bound count).2 (.inr anomalous)
  | both => exact anomalous

theorem value_score_ofCounts (exact : ExactParts value reach) (mean : S) (bound : Int)
    (direction : Direction) (counts : List Int) :
    value (Judgement.ofCounts mean bound direction counts).score =
      (counts.length - counts.countP (isAnomalous mean bound direction)) / counts.length := by
  have made : (Judgement.ofCounts mean bound direction counts).score =
      Scalar.ratio (counts.length - counts.countP (isAnomalous mean bound direction))
        counts.length := by
    rw [← count_anomaly_verdicts, verdicts_ofCounts]
    show Scalar.ratio ((counts.map _).length - (counts.map _).count Verdict.anomaly)
      (counts.map _).length = _
    rw [List.length_map]
    rfl
  rw [made, exact.ratio, Nat.cast_sub List.countP_le_length]

/-- Judging counts in both directions takes together what judging in each of them finds, count by
count. -/
theorem judgements_concur (exact : ExactParts value reach) (mean : S) (bound : Int) (label : Label)
    {counts : List Int} (present : counts ≠ []) :
    ∃ judgement : Direction → Judgement S,
      (∀ direction, Baseline.fit (Judgement.ofCounts mean bound direction) label counts =
        .ok (judgement direction)) ∧
      Concurring value mean bound counts judgement := by
  refine ⟨fun direction => Judgement.ofCounts mean bound direction counts, fun direction => ?_, ?_⟩
  · rw [Baseline.fit, if_neg (by simpa using present)]
  constructor
  case verdicts => exact fun direction => verdicts_ofCounts mean bound direction counts
  case binary =>
    intro direction given listed
    rw [verdicts_ofCounts, List.mem_map] at listed
    obtain ⟨count, _, rfl⟩ := listed
    rw [verdict]
    split
    · exact .inr rfl
    · exact .inl rfl
  case both =>
    intro place
    rw [show (-1 : Verdict) = .anomaly from rfl, getElem?_verdicts_eq_anomaly_iff,
      getElem?_verdicts_eq_anomaly_iff, getElem?_verdicts_eq_anomaly_iff, ← exists_or]
    simp only [isAnomalous_both_iff exact, and_or_left]
  case tolerant =>
    intro direction place count found near
    have usual : ¬ isAnomalous mean bound direction count = true := fun anomalous =>
      absurd near (not_le.2 ((isAnomalous_iff exact mean bound direction count).1 anomalous).1)
    rw [verdicts_ofCounts, List.getElem?_map, found, Option.map_some, verdict, if_neg usual]
    rfl
  case score =>
    intro direction
    rw [value_score_ofCounts exact, ← count_anomaly_verdicts]
    rfl
  case least =>
    intro direction
    have more : counts.countP (isAnomalous mean bound direction) ≤
        counts.countP (isAnomalous mean bound .both) :=
      List.countP_mono_left fun count _ anomalous => isAnomalous_both_of exact anomalous
    rw [exact.le_iff, value_score_ofCounts exact, value_score_ofCounts exact]
    exact div_le_div_of_nonneg_right (sub_le_sub_left (Nat.cast_le.2 more) _) (Nat.cast_nonneg _)

/-- The directions concur also under a bound below zero. -/
theorem judgements_concur_negative :
    ([4, 17, 10] : List Int) ≠ [] ∧
      ∃ judgement : Direction → Judgement ℝ,
        (∀ direction, Baseline.fit (Judgement.ofCounts (21 / 2) (-7) direction) 3 [4, 17, 10] =
          .ok (judgement direction)) ∧
        Concurring (fun x : ℝ => x) (21 / 2) (-7) [4, 17, 10] judgement :=
  ⟨by decide, judgements_concur Scalar.exactParts_real (21 / 2) (-7) 3 (by decide)⟩

/-! ## Baselines as real numbers -/

/-- The mean of counts. -/
noncomputable def average (counts : List Int) : ℝ :=
  (counts.sum : ℤ) / counts.length

/-- The standard deviation of counts. -/
noncomputable def deviation (counts : List Int) : ℝ :=
  √((counts.map fun count : Int => ((count : ℝ) - average counts) ^ 2).sum / counts.length)

theorem value_meanDeviation (exact : ExactParts value reach) {counts : List Int}
    (present : counts ≠ []) :
    value (meanDeviation counts : S × S).1 = average counts ∧
      value (meanDeviation counts : S × S).2 = deviation counts := by
  have nonempty : counts.isEmpty = false := by simpa using present
  have mean : value (meanDeviation counts : S × S).1 = average counts := by
    simp only [meanDeviation, nonempty, Bool.false_eq_true, if_false]
    rw [exact.div, exact.sum, exact.ofNat, List.map_map, average, Int.cast_list_sum]
    simp only [Function.comp_def, exact.cast]
  refine ⟨mean, ?_⟩
  simp only [meanDeviation, nonempty, Bool.false_eq_true, if_false] at mean ⊢
  rw [exact.sqrt, exact.div, exact.sum, exact.ofNat, List.map_map, deviation]
  simp only [Function.comp_def, exact.mul, exact.sub, exact.cast, mean, ← sq]

end Frequency

namespace Baseline

/-! ## Bounds of baselines -/

@[simp] theorem mean_ofCounts (share : S) (counts : List Int) :
    (ofCounts share counts).mean = (Frequency.meanDeviation counts : S × S).1 := by
  rw [ofCounts]
  split <;> rfl

/-- Counts that hardly vary are allowed a share of their mean, and others a multiple of their standard
deviation. -/
theorem bound_ofCounts (exact : ExactParts value reach) (share : S) {counts : List Int}
    (present : counts ≠ []) :
    (ofCounts share counts).bound =
      if Frequency.deviation counts < 1 / 10 then reach ⌈value share * Frequency.average counts⌉
      else reach ⌈5 * Frequency.deviation counts⌉ := by
  obtain ⟨mean, deviation⟩ := Frequency.value_meanDeviation exact present
  have steady : (Frequency.meanDeviation counts : S × S).2 < constantBelow ↔
      Frequency.deviation counts < 1 / 10 := by
    rw [exact.lt_iff, deviation, constantBelow, exact.ratio]
    norm_num
  rw [ofCounts]
  by_cases small : Frequency.deviation counts < 1 / 10
  · rw [if_pos (steady.2 small), if_pos small]
    show Scalar.ceil (share * (Frequency.meanDeviation counts : S × S).1) = _
    rw [exact.ceil, exact.mul, mean]
  · rw [if_neg (mt steady.1 small), if_neg small]
    show Scalar.ceil (deviations * (Frequency.meanDeviation counts : S × S).2) = _
    rw [exact.ceil, exact.mul, deviation, deviations, exact.ofNat]
    norm_num

end Baseline

namespace Frequency

/-! ## Deviations the other way -/

/-- A deviation beyond the tolerance that exceeds a limit does not go the other way, unless the limit
is far below zero. -/
theorem pos_of_exceeds (exact : ExactParts value reach) {deviation limit : ℝ}
    (far : tolerance < ⌊|deviation|⌋) (exceeds : reach ⌈limit⌉ < reach ⌊deviation⌋)
    (lenient : -7 < limit ∨ -8 < limit ∧ ∀ whole : ℤ, deviation ≠ whole) : 0 < deviation := by
  by_contra nonpos
  rw [not_lt] at nonpos
  rw [abs_of_nonpos nonpos] at far
  have apart : (6 : ℝ) ≤ -deviation := by
    exact_mod_cast Int.le_floor.1 (Int.add_one_le_of_lt far)
  have limited : ⌈limit⌉ < ⌊deviation⌋ := exact.monotone.reflect_lt exceeds
  have least : ⌊deviation⌋ ≤ -6 := by
    rw [← Int.lt_add_one_iff, Int.floor_lt]
    push_cast
    linarith
  rcases lenient with high | ⟨high, fractional⟩
  · have above : -7 < ⌈limit⌉ := Int.lt_ceil.2 (by exact_mod_cast high)
    omega
  · -- Only a whole deviation is as near as the tolerance lets it.
    have farther : ⌊deviation⌋ ≠ -6 := by
      intro same
      have below := Int.floor_le deviation
      rw [same] at below
      push_cast at below
      exact fractional (-6) (le_antisymm (by push_cast; linarith) (by push_cast; exact below))
    have above : -8 < ⌈limit⌉ := Int.lt_ceil.2 (by exact_mod_cast high)
    omega

/-- The deviation the other way that is nearest beyond the tolerance exceeds a limit that is far below
zero. -/
theorem exceeds_of_low (exact : ExactParts value reach) {deviation limit : ℝ}
    (near : -7 < deviation) (far : deviation ≤ -6)
    (low : limit ≤ -8 ∨ limit ≤ -7 ∧ deviation = -6) :
    tolerance < ⌊|deviation|⌋ ∧ reach ⌈limit⌉ < reach ⌊deviation⌋ := by
  constructor
  · rw [abs_of_nonpos (by linarith), tolerance, Int.lt_iff_add_one_le, Int.le_floor]
    push_cast
    linarith
  · rcases low with low | ⟨low, whole⟩
    · have limited : ⌈limit⌉ ≤ -8 := Int.ceil_le.2 (by exact_mod_cast low)
      have least : -7 ≤ ⌊deviation⌋ := Int.le_floor.2 (by exact_mod_cast near.le)
      exact exact.reach_lt_reach (by decide) (by decide) limited (by omega)
    · have limited : ⌈limit⌉ ≤ -7 := Int.ceil_le.2 (by exact_mod_cast low)
      have least : -6 ≤ ⌊deviation⌋ := Int.le_floor.2 (by rw [whole]; norm_num)
      exact exact.reach_lt_reach (by decide) (by decide) limited (by omega)

/-- Whether a limit is so far below zero that counts on the other side of a mean exceed it. -/
def Reversing (mean limit : ℝ) : Prop :=
  limit ≤ -8 ∨ limit ≤ -7 ∧ ∃ whole : ℤ, mean = whole

/-- Only counts above the mean exceed a limit that is not reversing, and only counts below it do so
downwards. -/
theorem side_of_isAnomalous (exact : ExactParts value reach) {mean : S} {limit : ℝ}
    (straight : ¬ Reversing (value mean) limit) (count : Int) :
    (isAnomalous mean (reach ⌈limit⌉) .higher count = true → value mean < count) ∧
      (isAnomalous mean (reach ⌈limit⌉) .lower count = true → (count : ℝ) < value mean) := by
  rw [Reversing, not_or, not_and_or, not_le, not_le] at straight
  obtain ⟨high, either⟩ := straight
  have lenient : ∀ deviation : ℝ, (∀ whole : ℤ, deviation = whole → ∃ whole : ℤ, value mean = whole) →
      -7 < limit ∨ -8 < limit ∧ ∀ whole : ℤ, deviation ≠ whole := by
    intro deviation shifted
    exact either.imp_right fun fractional => ⟨high, fun whole same => fractional (shifted whole same)⟩
  rw [isAnomalous_iff exact, isAnomalous_iff exact]
  constructor
  · rintro ⟨far, exceeds⟩
    refine sub_pos.1 (pos_of_exceeds exact far exceeds (lenient _ fun whole same => ?_))
    exact ⟨count - whole, by push_cast; linarith⟩
  · rintro ⟨far, exceeds⟩
    rw [← abs_neg] at far
    refine sub_neg.1 (neg_pos.1 (pos_of_exceeds exact far exceeds (lenient _ fun whole same => ?_)))
    exact ⟨count + whole, by push_cast; linarith⟩

/-- Some count below the mean exceeds a limit that is reversing. -/
theorem exists_reversed (exact : ExactParts value reach) {mean : S} {limit : ℝ}
    (reversing : Reversing (value mean) limit) :
    ∃ count : Int, isAnomalous mean (reach ⌈limit⌉) .higher count = true ∧ (count : ℝ) < value mean := by
  have above := Int.floor_le (value mean)
  have below := Int.lt_floor_add_one (value mean)
  refine ⟨⌊value mean⌋ - 6, (isAnomalous_iff exact ..).2 (exceeds_of_low exact ?_ ?_ ?_), ?_⟩
  · push_cast
    linarith
  · push_cast
    linarith
  · refine reversing.imp_right fun ⟨low, whole, same⟩ => ⟨low, ?_⟩
    rw [same, Int.floor_intCast]
    push_cast
    ring
  · push_cast
    linarith

end Frequency

namespace Detector

/-! ## Detectors -/

/-- Whether only counts above a mean are too high for a label, and only counts below it too low. -/
structure Directed (detector : Detector S) (label : Label) (mean : ℝ) : Prop where
  higher : ∀ counts judgement (place : Nat) (count : Int),
    detector.predict label .higher counts = .ok judgement → counts[place]? = some count →
      judgement.verdicts[place]? = some (-1) → mean < count
  lower : ∀ counts judgement (place : Nat) (count : Int),
    detector.predict label .lower counts = .ok judgement → counts[place]? = some count →
      judgement.verdicts[place]? = some (-1) → (count : ℝ) < mean

/-- A detector finds a count anomalous exactly when the baseline of the label does. -/
theorem exists_predict_iff {detector : Detector S} {label : Label} {baseline : Baseline S}
    (fitted : detector.baseline? label = some baseline) (direction : Direction) (count : Int) :
    (∃ counts judgement, ∃ place : Nat, detector.predict label direction counts = .ok judgement ∧
        counts[place]? = some count ∧ judgement.verdicts[place]? = some (-1)) ↔
      Frequency.isAnomalous baseline.mean baseline.bound direction count = true := by
  constructor
  · rintro ⟨counts, judgement, place, predicted, found, judged⟩
    have present : counts.isEmpty = false := by
      cases counts with
      | nil => cases found
      | cons => rfl
    rw [Frequency.predict_eq_ok fitted present] at predicted
    cases predicted
    obtain ⟨other, same, anomalous⟩ := Frequency.getElem?_verdicts_eq_anomaly_iff.1 judged
    rw [found] at same
    cases same
    exact anomalous
  · intro anomalous
    refine ⟨[count], _, 0, Frequency.predict_eq_ok fitted rfl, rfl, ?_⟩
    exact Frequency.getElem?_verdicts_eq_anomaly_iff.2 ⟨count, rfl, anomalous⟩

theorem directed_iff {detector : Detector S} {label : Label} {baseline : Baseline S}
    (fitted : detector.baseline? label = some baseline) {mean : ℝ} :
    detector.Directed label mean ↔ ∀ count : Int,
      (Frequency.isAnomalous baseline.mean baseline.bound .higher count = true → mean < count) ∧
      (Frequency.isAnomalous baseline.mean baseline.bound .lower count = true →
        (count : ℝ) < mean) := by
  simp only [← exists_predict_iff fitted]
  constructor
  · intro directed count
    constructor
    · rintro ⟨counts, judgement, place, predicted, found, judged⟩
      exact directed.higher counts judgement place count predicted found judged
    · rintro ⟨counts, judgement, place, predicted, found, judged⟩
      exact directed.lower counts judgement place count predicted found judged
  · intro sided
    constructor
    case higher =>
      intro counts judgement place count predicted found judged
      exact (sided count).1 ⟨counts, judgement, place, predicted, found, judged⟩
    case lower =>
      intro counts judgement place count predicted found judged
      exact (sided count).2 ⟨counts, judgement, place, predicted, found, judged⟩

/-- A detector that is fitted to counts finds only counts above their mean too high and only counts
below it too low, exactly when the counts vary or the share of their mean by which a count may move
is not far below zero. -/
theorem fit_directed_iff (exact : ExactParts value reach) (detector : Detector S) (label : Label)
    {counts : List Int} (present : counts ≠ []) :
    ∃ fitted, detector.fit label counts = .ok fitted ∧
      (fitted.Directed label (Frequency.average counts) ↔
        1 / 10 ≤ Frequency.deviation counts ∨ ¬ Frequency.Reversing (Frequency.average counts)
          (value detector.share * Frequency.average counts)) := by
  refine ⟨_, Frequency.fit_eq_ok (by simpa using present), ?_⟩
  have fitted : (detector.learn label counts).baseline? label =
      some (.ofCounts detector.share counts) := by simp
  have mean : value (Baseline.ofCounts detector.share counts).mean = Frequency.average counts := by
    rw [Baseline.mean_ofCounts, (Frequency.value_meanDeviation exact present).1]
  rw [directed_iff fitted, Baseline.bound_ofCounts exact detector.share present, ← mean]
  by_cases steady : Frequency.deviation counts < 1 / 10
  · rw [if_pos steady, or_iff_right (not_le.2 steady)]
    constructor
    · intro sided reversing
      obtain ⟨count, anomalous, below⟩ := Frequency.exists_reversed exact reversing
      exact absurd ((sided count).1 anomalous) (not_lt.2 below.le)
    · exact fun straight => Frequency.side_of_isAnomalous exact straight
  · rw [if_neg steady]
    refine iff_of_true (Frequency.side_of_isAnomalous exact ?_) (.inl (not_lt.1 steady))
    have nonneg : 0 ≤ 5 * Frequency.deviation counts := mul_nonneg (by norm_num) (Real.sqrt_nonneg _)
    rw [Frequency.Reversing, not_or, not_and_or]
    exact ⟨by linarith, .inl (by linarith)⟩

/-- Around counts that do not vary a share of a mean above zero keeps the directions apart. -/
theorem fit_directed_iff_steady :
    ∃ fitted, (⟨1 / 4, .empty⟩ : Detector ℝ).fit 1 [40, 40] = .ok fitted ∧
      fitted.Directed 1 40 := by
  have mean : Frequency.average [40, 40] = 40 := by norm_num [Frequency.average]
  have present : ([40, 40] : List Int) ≠ [] := by decide
  obtain ⟨fitted, taken, iff⟩ := fit_directed_iff Scalar.exactParts_real
    (⟨1 / 4, .empty⟩ : Detector ℝ) 1 present
  rw [mean] at iff
  refine ⟨fitted, taken, iff.2 (.inr ?_)⟩
  norm_num [Frequency.Reversing]

/-- Around a mean that is far below zero even the default share lets counts below the mean be too
high. -/
theorem defaultShare_not_directed :
    ∃ fitted judgement,
      (⟨AnalysisSettings.default.zeroDeviationThreshold, .empty⟩ : Detector Float).fit 1
        [-100, -100] = .ok fitted ∧
      fitted.predict 1 .higher [-110] = .ok judgement ∧ judgement.verdicts = [-1] ∧
      ((-110 : ℤ) : ℝ) < Frequency.average [-100, -100] ∧
      ¬ fitted.Directed 1 (Frequency.average [-100, -100]) := by
  have below : ((-110 : ℤ) : ℝ) < Frequency.average [-100, -100] := by
    norm_num [Frequency.average]
  have predicted : ((⟨AnalysisSettings.default.zeroDeviationThreshold, .empty⟩ :
      Detector Float).learn 1 [-100, -100]).predict 1 .higher [-110] =
        .ok ((Baseline.ofCounts AnalysisSettings.default.zeroDeviationThreshold
          [-100, -100]).judge .higher [-110]) :=
    Frequency.predict_eq_ok (by simp) rfl
  have judged : ((Baseline.ofCounts AnalysisSettings.default.zeroDeviationThreshold
      [-100, -100] : Baseline Float).judge .higher [-110]).verdicts = [-1] := by
    decide +kernel
  refine ⟨_, _, Frequency.fit_eq_ok rfl, predicted, judged, below, fun directed => ?_⟩
  refine absurd (directed.higher _ _ 0 (-110) predicted rfl ?_) (not_lt.2 below.le)
  rw [judged]
  rfl

end Detector

end LogDrift
