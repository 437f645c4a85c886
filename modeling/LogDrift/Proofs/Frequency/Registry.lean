import LogDrift.Proofs.Frequency.Detection
import Mathlib.Data.List.Basic
import Mathlib.Data.Set.Card

/-!
# Detectors as registries

A detector that has answered some requests judges the counts of a label as one that was only fitted
to the latest counts of the label. Predictions do not change it, and neither do fits that it refuses.
What was asked about other labels does not matter.
-/

namespace LogDrift.Detector

/-- A request to a detector. -/
inductive Request
  | fit (label : Label) (counts : List Int)
  | predict (label : Label) (direction : Direction) (counts : List Int)

namespace Request

/-- The label that a request is about. -/
def label : Request → Label
  | fit label _ => label
  | predict label _ _ => label

/-- The counts that a request fits a label to. Without counts it does not. -/
def fitted? (label : Label) : Request → Option (List Int)
  | fit other counts => if other = label ∧ counts ≠ [] then some counts else none
  | predict .. => none

/-- The counts that requests fit a label to, one after another. -/
def fits (requests : List Request) (label : Label) : List (List Int) :=
  requests.filterMap (fitted? label)

/-- The counts that requests fit a label to last. -/
def latest? (requests : List Request) (label : Label) : Option (List Int) :=
  (fits requests label).getLast?

@[simp]
theorem latest?_append_singleton (earlier : List Request) (request : Request) (label : Label) :
    latest? (earlier ++ [request]) label =
      (request.fitted? label).or (latest? earlier label) := by
  rw [latest?, fits, List.filterMap_append, List.getLast?_append, List.filterMap_cons]
  cases request.fitted? label with
  | none => rfl
  | some counts => rfl

@[simp] theorem isSome_latest? {requests : List Request} {label : Label} :
    (latest? requests label).isSome ↔ fits requests label ≠ [] := by
  rw [latest?, Option.isSome_iff_ne_none, ne_eq, List.getLast?_eq_none_iff]

/-- Only requests about a label fit it to counts. -/
@[simp] theorem fits_filter (requests : List Request) (label : Label) :
    fits (requests.filter fun request => request.label = label) label = fits requests label := by
  rw [fits, List.filterMap_filter]
  apply List.filterMap_congr
  intro request _
  by_cases same : request.label = label
  · simp [same]
  · cases request with
    | fit other counts => simp [same, fitted?, show other ≠ label from same]
    | predict => simp [same, fitted?]

/-- A label is only ever fitted to some counts. -/
theorem ne_nil_of_latest? {requests : List Request} {label : Label} {counts : List Int}
    (last : latest? requests label = some counts) : counts ≠ [] := by
  obtain ⟨request, _, fitted⟩ := List.mem_filterMap.1 (List.mem_of_getLast? last)
  cases request with
  | predict => cases fitted
  | fit other given =>
    rw [fitted?] at fitted
    split at fitted
    · next both =>
      cases fitted
      exact both.2
    · cases fitted

end Request

variable {S : Type} [Scalar S]

/-- What a detector answers to a request that it does not refuse. -/
inductive Answer (S : Type)
  | fitted
  | judged (judgement : Judgement S)

/-- The answer to a request, and the detector afterwards. One that is refused leaves it as it is. -/
def respond (detector : Detector S) : Request → Except Error (Answer S) × Detector S
  | .fit label counts =>
    match detector.fit label counts with
    | .error refusal => (.error refusal, detector)
    | .ok detector => (.ok .fitted, detector)
  | .predict label direction counts =>
    ((detector.predict label direction counts).map .judged, detector)

/-- The detector after some requests. -/
def after (detector : Detector S) (requests : List Request) : Detector S :=
  requests.foldl (fun detector request => (detector.respond request).2) detector

@[simp] theorem respond_fit_nil (detector : Detector S) (label : Label) :
    detector.respond (.fit label []) = (.error (.emptyCounts label), detector) := rfl

theorem respond_fit {detector : Detector S} {label : Label} {counts : List Int}
    (present : counts ≠ []) :
    detector.respond (.fit label counts) = (.ok .fitted, detector.learn label counts) := by
  rw [respond, Frequency.fit_eq_ok (by simpa using present)]

/-! ## Baselines -/

/-- A request changes the baseline of a label exactly when it fits the label to counts. -/
theorem baseline?_respond (detector : Detector S) (request : Request) (label : Label) :
    (detector.respond request).2.baseline? label =
      ((request.fitted? label).map (.ofCounts detector.share)).or (detector.baseline? label) := by
  cases request with
  | predict => rfl
  | fit other counts =>
    by_cases present : counts = []
    · simp [present, Request.fitted?]
    · rw [respond_fit present]
      by_cases same : other = label <;>
        simp [present, same, Request.fitted?]

@[simp] theorem share_respond (detector : Detector S) (request : Request) :
    (detector.respond request).2.share = detector.share := by
  cases request with
  | predict => rfl
  | fit label counts =>
    by_cases present : counts = []
    · rw [present, respond_fit_nil]
    · rw [respond_fit present, share_learn]

@[simp] theorem after_append (detector : Detector S) (earlier later : List Request) :
    detector.after (earlier ++ later) = (detector.after earlier).after later :=
  List.foldl_append

@[simp] theorem share_after (detector : Detector S) (requests : List Request) :
    (detector.after requests).share = detector.share := by
  induction requests generalizing detector with
  | nil => rfl
  | cons request rest ih => exact (ih _).trans (share_respond detector request)

/-- After some requests a label has the baseline of the latest counts that it was fitted to. -/
theorem baseline?_after (detector : Detector S) (requests : List Request) (label : Label) :
    (detector.after requests).baseline? label =
      ((Request.latest? requests label).map (.ofCounts detector.share)).or
        (detector.baseline? label) := by
  induction requests using List.reverseRecOn with
  | nil => rfl
  | append_singleton earlier request ih =>
    rw [after_append, Request.latest?_append_singleton]
    refine (baseline?_respond (detector.after earlier) request label).trans ?_
    rw [ih, share_after]
    cases request.fitted? label with
    | none => rfl
    | some counts => rfl

@[simp] theorem baseline?_after_start (share : S) (requests : List Request) (label : Label) :
    (after ⟨share, .empty⟩ requests).baseline? label =
      (Request.latest? requests label).map (.ofCounts share) := by
  rw [baseline?_after]
  exact Option.or_none

@[simp] theorem isSome_baseline?_after_start (share : S) (requests : List Request) (label : Label) :
    ((after ⟨share, .empty⟩ requests).baseline? label).isSome ↔ Request.fits requests label ≠ [] := by
  rw [baseline?_after_start, Option.isSome_map, Request.isSome_latest?]

/-- A detector has as many baselines as there are labels that it was fitted to. -/
theorem size_after_start (share : S) (requests : List Request) :
    {label | Request.fits requests label ≠ []}.encard = (after ⟨share, .empty⟩ requests).size := by
  have labels : {label | Request.fits requests label ≠ []} =
      (after ⟨share, .empty⟩ requests).baselines.keys.toFinset := by
    ext label
    rw [Set.mem_ofPred_eq, ← isSome_baseline?_after_start share, baseline?, ← SortedMap.mem_keys_iff,
      Finset.mem_coe, List.mem_toFinset]
  rw [labels, Set.encard_coe_eq_coe_finsetCard, List.toFinset_card_of_nodup (SortedMap.nodup_keys _),
    SortedMap.keys, List.length_map]
  rfl

/-! ## Predictions -/

theorem predict_congr {detector detector' : Detector S} {label : Label}
    (same : detector.baseline? label = detector'.baseline? label) (direction : Direction)
    (counts : List Int) :
    detector.predict label direction counts = detector'.predict label direction counts := by
  rw [predict, predict, same]

theorem predict_nil {detector : Detector S} {label : Label} {baseline : Baseline S}
    (fitted : detector.baseline? label = some baseline) (direction : Direction) :
    detector.predict label direction [] = .error (.emptyCounts label) := by
  rw [predict, fitted]
  rfl

/-- A prediction fails for want of a baseline exactly when there is none. -/
theorem predict_eq_notFitted_iff {detector : Detector S} {label : Label} {direction : Direction}
    {counts : List Int} :
    detector.predict label direction counts = .error (.notFitted label) ↔
      detector.baseline? label = none := by
  cases fitted : detector.baseline? label with
  | none => exact iff_of_true (by rw [predict, fitted]) rfl
  | some baseline =>
    refine iff_of_false ?_ (Option.some_ne_none _)
    cases counts with
    | nil =>
      rw [predict_nil fitted]
      simp
    | cons =>
      rw [Frequency.predict_eq_ok fitted rfl]
      simp

/-- What a detector has come to by some requests, when it started without baselines. -/
structure Registers (share : S) (requests : List Request) (detector : Detector S) : Prop where
  /-- Fitting is refused exactly when there are no counts. -/
  fit : ∀ label counts,
    (∃ refusal, (detector.respond (.fit label counts)).1 = .error refusal) ↔ counts = []
  refused : ∀ label, detector.respond (.fit label []) = (.error (.emptyCounts label), detector)
  /-- Predicting changes nothing. -/
  predicted : ∀ label direction counts,
    (detector.respond (.predict label direction counts)).2 = detector
  unfitted : ∀ label direction counts,
    detector.predict label direction counts = .error (.notFitted label) ↔
      Request.fits requests label = []
  empty : ∀ label direction, Request.fits requests label ≠ [] →
    detector.predict label direction [] = .error (.emptyCounts label)
  /-- Counts are judged as by a detector that is fitted once, to the latest counts of the label. -/
  latest : ∀ label direction counts latest, Request.latest? requests label = some latest →
    counts ≠ [] → ∃ fresh judgement,
      (⟨share, .empty⟩ : Detector S).fit label latest = .ok fresh ∧
      fresh.predict label direction counts = .ok judgement ∧
      detector.predict label direction counts = .ok judgement
  fitted : ∀ label, (detector.baseline? label).isSome ↔ Request.fits requests label ≠ []
  size : {label | Request.fits requests label ≠ []}.encard = detector.size
  /-- Requests about other labels do not matter. -/
  others : ∀ requests' label, requests'.filter (fun request => request.label = label) =
      requests.filter (fun request => request.label = label) →
    ∀ direction counts, (after ⟨share, .empty⟩ requests').predict label direction counts =
      detector.predict label direction counts

/-- A detector that starts without baselines only remembers the latest counts of every label. -/
theorem after_registers (share : S) (requests : List Request) :
    Registers share requests (after ⟨share, .empty⟩ requests) := by
  have baseline := baseline?_after_start share requests
  constructor
  case fit =>
    intro label counts
    by_cases present : counts = []
    · exact iff_of_true ⟨_, by rw [present, respond_fit_nil]⟩ present
    · refine iff_of_false ?_ present
      rw [respond_fit present]
      exact nofun
  case refused => exact respond_fit_nil _
  case predicted => exact fun _ _ _ => rfl
  case unfitted =>
    intro label direction counts
    rw [predict_eq_notFitted_iff, baseline, Option.map_eq_none_iff, Request.latest?,
      List.getLast?_eq_none_iff]
  case empty =>
    intro label direction asked
    obtain ⟨baseline, fitted⟩ := Option.isSome_iff_exists.1
      ((isSome_baseline?_after_start share requests label).2 asked)
    exact predict_nil fitted direction
  case latest =>
    intro label direction counts latest last present
    have nonempty : counts.isEmpty = false := by simpa using present
    have known : latest ≠ [] := Request.ne_nil_of_latest? last
    have fresh : ((⟨share, .empty⟩ : Detector S).learn label latest).baseline? label =
        .some (.ofCounts share latest) := by simp
    refine ⟨_, _, Frequency.fit_eq_ok (by simpa using known), Frequency.predict_eq_ok fresh nonempty,
      Frequency.predict_eq_ok ?_ nonempty⟩
    rw [baseline, last, Option.map_some]
  case fitted => exact isSome_baseline?_after_start share requests
  case size => exact size_after_start share requests
  case others =>
    intro requests' label same direction counts
    apply predict_congr
    rw [baseline, baseline?_after_start, Request.latest?, Request.latest?,
      ← Request.fits_filter requests', same, Request.fits_filter]

end LogDrift.Detector
