import LogDrift.Proofs.Matching.Relabelling

/-!
# Labels of unmatched events

Every unmatched event gets a label of its own. The labels are given out in ascending order, so that
no two events share one.
-/

namespace LogDrift.Matching

variable {S Model : Type}

/-- The labels of the events that have one of their own. -/
def ownLabels (events : List (Event S)) : List Label :=
  (unnamed events).map Event.label

@[simp] theorem ownLabels_append (left right : List (Event S)) :
    ownLabels (left ++ right) = ownLabels left ++ ownLabels right := by
  rw [ownLabels, unnamed, List.filter_append, List.map_append]
  rfl

/-- Labels counted up from `next` ascend. -/
theorem ascending_labelledFrom {α : Type} (next : Label) (elements : List α) :
    ((labelledFrom next elements).map Prod.fst).Pairwise (· < ·) := by
  rw [labelledFrom, List.map_map, List.pairwise_map]
  have places : (elements.zipIdx.map Prod.snd).Pairwise (· < ·) := by
    rw [List.zipIdx_map_snd]
    exact List.pairwise_lt_range'
  rw [List.pairwise_map] at places
  exact places.imp fun less => Int.add_lt_add_left (Int.ofNat_lt.2 less) next

/-- As many labels are used as there are elements. -/
theorem bounds_labelledFrom {α : Type} {next : Label} {elements : List α} {label : Label}
    (member : label ∈ (labelledFrom next elements).map Prod.fst) :
    next ≤ label ∧ label < next + elements.length := by
  rw [labelledFrom, List.map_map, List.mem_map] at member
  rcases member with ⟨⟨element, place⟩, present, rfl⟩
  have inBounds := (List.getElem?_eq_some_iff.1 (List.mem_zipIdx_iff_getElem?.1 present)).1
  exact ⟨Int.le_add_of_nonneg_right (Int.natCast_nonneg place),
    Int.add_lt_add_left (Int.ofNat_lt.2 inBounds) next⟩

/-- What holds of the labels of their own after some test labels were relabelled. -/
structure Ascending (next : Label) (events : List (Event S)) : Prop where
  /-- The next label is beyond those that were given out. -/
  below : ∀ label ∈ ownLabels events, label < next
  ascending : (ownLabels events).Pairwise (· < ·)

namespace Ascending

variable {next : Label} {events : List (Event S)}

/-- Events of clusters use no labels. -/
theorem append_named (kept : Ascending next events) {more : List (Event S)}
    (real : ∀ event ∈ more, Label.isReal event.label = true) : Ascending next (events ++ more) := by
  have unlabelled : ownLabels more = [] := by
    rw [ownLabels, unnamed_eq_nil real, List.map_nil]
  constructor
  case below =>
    rw [ownLabels_append, unlabelled, List.append_nil]
    exact kept.below
  case ascending =>
    rw [ownLabels_append, unlabelled, List.append_nil]
    exact kept.ascending

/-- Unmatched events take the labels from the next one on. -/
theorem append_labelled (kept : Ascending next events) {α : Type} (elements : List α)
    {more : List (Event S)}
    (labels : more.map Event.label = (labelledFrom next elements).map Prod.fst)
    (own : ∀ event ∈ more, Label.isReal event.label = false) :
    Ascending (next + elements.length) (events ++ more) := by
  have given : ownLabels more = (labelledFrom next elements).map Prod.fst := by
    rw [ownLabels, unnamed_eq_self own, labels]
  constructor
  case below =>
    rw [ownLabels_append, given, List.forall_mem_append]
    constructor
    · intro label member
      exact Int.lt_of_lt_of_le (kept.below label member)
        (Int.le_add_of_nonneg_right (Int.natCast_nonneg _))
    · exact fun label member => (bounds_labelledFrom member).2
  case ascending =>
    rw [ownLabels_append, given, List.pairwise_append]
    refine ⟨kept.ascending, ascending_labelledFrom next elements, ?_⟩
    intro earlier before later after
    exact Int.lt_of_lt_of_le (kept.below earlier before) (bounds_labelledFrom after).1

end Ascending

/-- Labels of their own ascend in store order. -/
theorem ascending_relabelTest [Zero S] {outcomes : SortedMap Label (MatchOutcome S)}
    {clustering : Clustering Model} {tagLimit : Nat} {events events' : EventMap S}
    {split : TestSplit S}
    (relabelled : relabelTest outcomes clustering tagLimit events = (.ok split, events')) :
    Ascending split.next events'.all := by
  have swept := relabelTest_eq_ok.1 relabelled
  rw [EventMap.all_eq_flatMap]
  have kept := OrderedMap.sweep_induction
    (fun (split : TestSplit S) _ after => Label.unknownBase ≤ split.next ∧
      Ascending split.next (after.flatMap Prod.snd)) ?_ ?_ swept
  · exact kept.2
  · exact ⟨Int.le_refl _, List.forall_mem_nil _, .nil⟩
  · intro split before after label group split' group' kept stepped
    rw [List.flatMap_append, List.flatMap_singleton]
    obtain ⟨outcome, found, ⟨cluster, isMatched, rfl, rfl⟩ | ⟨isUnmatched, rfl, rfl⟩⟩ :=
      testStep_cases stepped
    · refine ⟨kept.1, kept.2.append_named ?_⟩
      rw [List.forall_mem_map]
      exact fun _ _ => isReal_of_matched? isMatched
    · refine ⟨Int.le_trans kept.1 (Int.le_add_of_nonneg_right (Int.natCast_nonneg _)), ?_⟩
      apply kept.2.append_labelled group
      · rw [List.map_map]
        rfl
      · rw [List.forall_mem_map]
        exact fun _ member => not_isReal_of_mem_labelledFrom kept.1 member

/-- Where no two events share a label, one event has the label of an event. -/
theorem filter_label_of_nodup {events : List (Event S)}
    (distinct : (events.map Event.label).Nodup) {event : Event S} (member : event ∈ events) :
    (events.filter fun other => other.label = event.label) = [event] := by
  induction events with
  | nil => nomatch member
  | cons first rest ih =>
    rw [List.map_cons, List.nodup_cons] at distinct
    rcases List.mem_cons.1 member with rfl | later
    · have alone : (rest.filter fun other => other.label = event.label) = [] := by
        rw [List.filter_eq_nil_iff]
        intro other present same
        exact distinct.1 (of_decide_eq_true same ▸ List.mem_map_of_mem present)
      rw [List.filter_cons_of_pos (by simp), alone]
    · have differ : first.label ≠ event.label :=
        fun same => distinct.1 (same ▸ List.mem_map_of_mem later)
      rw [List.filter_cons_of_neg (by simpa using differ)]
      exact ih distinct.2 later

/-- The events with a label of their own are told apart by it. -/
theorem filter_label_of_own {events : List (Event S)}
    (ascending : (ownLabels events).Pairwise (· < ·)) {event : Event S} (member : event ∈ events)
    (own : Label.isReal event.label = false) :
    (events.filter fun other => other.label = event.label) = [event] := by
  have same : (events.filter fun other => other.label = event.label) =
      (unnamed events).filter fun other => other.label = event.label := by
    rw [unnamed, List.filter_filter]
    apply List.filter_congr
    intro other _
    by_cases equal : other.label = event.label
    · simp [equal, own]
    · simp [equal]
  rw [same]
  apply filter_label_of_nodup
  · exact ascending.imp Int.ne_of_lt
  · exact List.mem_filter.2 ⟨member, by rw [own]; rfl⟩

end LogDrift.Matching
