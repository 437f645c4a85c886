import LogDrift.Proofs.Matching.Relabelling

/-!
# How labels separate unmatched events from matched ones

Where every test label has an outcome, relabelling accepts the test events. All events of a key share
the fate that its outcome decides: they take the label of the cluster that it matches, or labels of
their own. Those are given out in store order, one after the other from the first one on, and every
unknown event stands for the event in its place.
-/

namespace LogDrift.Matching

variable {S Model : Type}

/-! ## Events and their outcomes -/

/-- What an outcome makes of an event. -/
structure Annotates (outcome : MatchOutcome S) (before after : Event S) : Prop where
  text : after.text = before.text
  occurrences : after.occurrences = before.occurrences
  controlScore : after.controlScore = some outcome.clusterScore
  testScore : after.testScore = some outcome.score
  /-- The label is that of a cluster exactly when the outcome matches one. -/
  real_iff : after.label < Label.unknownBase ↔ outcome.isMatched = true ∧
    ∃ cluster, outcome.nearest = some cluster ∧ cluster < Label.unknownBase
  /-- In that case the cluster is the matched one. -/
  matched : after.label < Label.unknownBase → outcome.nearest = some after.label

/-- All events of a key are annotated by its outcome. -/
def AnnotatedBy (outcomes : SortedMap Label (MatchOutcome S))
    (before after : Label × List (Event S)) : Prop :=
  after.1 = before.1 ∧ ∃ outcome, outcomes.get? before.1 = some outcome ∧
    List.Forall₂ (Annotates outcome) before.2 after.2

/-- An unknown event stands for an event under a key: it names the nearest cluster, or, where there is
none, the event itself. -/
def StandsFor (outcomes : SortedMap Label (MatchOutcome S)) (stored : Label × Event S)
    (unknown : UnknownEvent S) : Prop :=
  ∃ outcome, outcomes.get? stored.1 = some outcome ∧ unknown = {
    text := stored.2.text
    label := outcome.nearest.getD stored.2.label
    occurrences := stored.2.occurrences
    controlScore := outcome.clusterScore
    testScore := outcome.score }

/-- An event of a matched key takes the label of the cluster. -/
theorem annotates_matched {outcome : MatchOutcome S} {cluster : Label}
    (isMatched : matched? outcome = some cluster) (event : Event S) :
    Annotates outcome event (annotated outcome cluster event) := by
  obtain ⟨accepted, nearest, real⟩ := matched?_eq_some_iff.1 isMatched
  constructor
  case real_iff => exact ⟨fun _ => ⟨accepted, cluster, nearest, real⟩, fun _ => real⟩
  case matched => exact fun _ => nearest
  all_goals rfl

/-- An event of an unmatched key takes a label from the first one on. -/
theorem annotates_own {outcome : MatchOutcome S} (isUnmatched : matched? outcome = none)
    {label : Label} (own : Label.unknownBase ≤ label) (event : Event S) :
    Annotates outcome event (annotated outcome label event) := by
  constructor
  case real_iff =>
    constructor
    · exact fun real => absurd real (Int.not_lt.2 own)
    · rintro ⟨accepted, cluster, nearest, real⟩
      have isMatched := matched?_eq_some_iff.2 ⟨accepted, nearest, real⟩
      rw [isUnmatched] at isMatched
      contradiction
  case matched => exact fun real => absurd real (Int.not_lt.2 own)
  all_goals rfl

/-! ## Events set aside -/

/-- The events with labels of their own under their keys, in store order. -/
def aside (entries : List (Label × List (Event S))) : List (Label × Event S) :=
  entries.flatMap fun entry => (unnamed entry.2).map fun event => (entry.1, event)

@[simp] theorem aside_append (left right : List (Label × List (Event S))) :
    aside (left ++ right) = aside left ++ aside right :=
  List.flatMap_append

theorem aside_named {events : List (Event S)} (label : Label)
    (real : ∀ event ∈ events, Label.isReal event.label = true) : aside [(label, events)] = [] := by
  rw [aside, List.flatMap_singleton, unnamed_eq_nil real, List.map_nil]

theorem aside_own {events : List (Event S)} (label : Label)
    (own : ∀ event ∈ events, Label.isReal event.label = false) :
    aside [(label, events)] = events.map fun event => (label, event) := by
  rw [aside, List.flatMap_singleton, unnamed_eq_self own]

/-- Labels counted up from `next` are the next ones. -/
@[simp] theorem map_fst_labelledFrom {α : Type} (next : Label) (elements : List α) :
    (labelledFrom next elements).map Prod.fst =
      (List.range elements.length).map fun (place : Nat) => next + (place : Int) := by
  have places : elements.zipIdx.map Prod.snd = List.range elements.length := by
    rw [List.zipIdx_map_snd, List.range_eq_range']
  rw [← places, labelledFrom, List.map_map, List.map_map]
  rfl

@[simp] theorem length_labelledFrom {α : Type} (next : Label) (elements : List α) :
    (labelledFrom next elements).length = elements.length := by
  rw [labelledFrom, List.length_map, List.length_zipIdx]

/-! ## Relabelling -/

/-- What holds after the test labels `before` were relabelled to `after`. -/
structure Separated (outcomes : SortedMap Label (MatchOutcome S)) (split : TestSplit S)
    (before after : List (Label × List (Event S))) : Prop where
  /-- All events of a key share its fate. -/
  events : List.Forall₂ (AnnotatedBy outcomes) before after
  /-- The labels of the events set aside are counted up from the first one, without a gap, and there
  are as many as unknown events. -/
  labels : (aside after).map (fun stored => stored.2.label) =
    (List.range split.unknown.flatten.length).map fun (place : Nat) =>
      Label.unknownBase + (place : Int)
  /-- Every unknown event stands for the event set aside in its place. -/
  unknown : List.Forall₂ (StandsFor outcomes) (aside after) split.unknown.flatten
  next : split.next = Label.unknownBase + (split.unknown.flatten.length : Int)

namespace Separated

variable {outcomes : SortedMap Label (MatchOutcome S)} {split : TestSplit S}
  {before after : List (Label × List (Event S))} {label : Label} {outcome : MatchOutcome S}

theorem start : Separated outcomes ({} : TestSplit S) [] [] where
  events := .nil
  labels := rfl
  unknown := .nil
  next := (Int.add_zero _).symm

/-- The events of one more label take the cluster that is matched. -/
theorem matched (kept : Separated outcomes split before after)
    (found : outcomes.get? label = some outcome) {cluster : Label}
    (isMatched : matched? outcome = some cluster) (clusters : ClusterMap (TestEntry S))
    (events : List (Event S)) :
    Separated outcomes { split with clusters } (before ++ [(label, events)])
      (after ++ [(label, events.map (annotated outcome cluster))]) := by
  have real : ∀ event ∈ events.map (annotated outcome cluster),
      Label.isReal event.label = true := by
    rw [List.forall_mem_map]
    exact fun _ _ => isReal_of_matched? isMatched
  have same : aside (after ++ [(label, events.map (annotated outcome cluster))]) = aside after := by
    rw [aside_append, aside_named label real, List.append_nil]
  constructor
  case events =>
    refine List.rel_append kept.events (.cons ⟨rfl, outcome, found, ?_⟩ .nil)
    rw [List.forall₂_map_right_iff, List.forall₂_same]
    exact fun event _ => annotates_matched isMatched event
  case labels => exact same ▸ kept.labels
  case unknown => exact same ▸ kept.unknown
  case next => exact kept.next

/-- The events of one more label get the next labels of their own. -/
theorem unmatched (kept : Separated outcomes split before after)
    (found : outcomes.get? label = some outcome) (isUnmatched : matched? outcome = none)
    (events : List (Event S)) :
    let labelled := labelledFrom split.next events
    let group := labelled.map fun (own, event) => unknownEvent outcome own event
    Separated outcomes
      { split with
        unknown := if group.isEmpty then split.unknown else split.unknown ++ [group]
        next := split.next + events.length }
      (before ++ [(label, events)])
      (after ++ [(label, labelled.map fun (own, event) => annotated outcome own event)]) := by
  intro labelled group
  have base : Label.unknownBase ≤ split.next := by
    rw [kept.next]
    exact Int.le_add_of_nonneg_right (Int.natCast_nonneg _)
  have own : ∀ event ∈ labelled.map fun (own, event) => annotated outcome own event,
      Label.isReal event.label = false := by
    rw [List.forall_mem_map]
    exact fun _ member => not_isReal_of_mem_labelledFrom base member
  have more : aside (after ++ [(label, labelled.map fun (own, event) =>
      annotated outcome own event)]) = aside after ++ labelled.map fun (own, event) =>
        (label, annotated outcome own event) := by
    rw [aside_append, aside_own label own, List.map_map]
    rfl
  have flattened : (if group.isEmpty then split.unknown else split.unknown ++ [group]).flatten =
      split.unknown.flatten ++ group := by
    split
    · next unhosted => rw [List.isEmpty_iff.1 unhosted, List.append_nil]
    · rw [List.flatten_append, List.flatten_singleton]
  have length : group.length = events.length := by
    rw [List.length_map, length_labelledFrom]
  constructor
  case events =>
    refine List.rel_append kept.events (.cons ⟨rfl, outcome, found, ?_⟩ .nil)
    have each : List.Forall₂ (Annotates outcome) (labelled.map Prod.snd)
        (labelled.map fun (own, event) => annotated outcome own event) := by
      rw [List.forall₂_map_left_iff, List.forall₂_map_right_iff, List.forall₂_same]
      intro entry member
      have beyond := not_isReal_iff.1 (not_isReal_of_mem_labelledFrom base member)
      exact annotates_own isUnmatched beyond entry.2
    rwa [map_snd_labelledFrom] at each
  case labels =>
    have given : (labelled.map fun (own, event) => (label, annotated outcome own event)).map
        (fun stored => stored.2.label) =
        (List.range events.length).map fun (place : Nat) => split.next + (place : Int) := by
      rw [List.map_map]
      exact map_fst_labelledFrom split.next events
    rw [more, flattened, List.length_append, length, List.map_append, kept.labels, given, kept.next,
      List.range_add, List.map_append, List.map_map]
    simp only [Function.comp_def, Int.natCast_add, Int.add_assoc]
  case unknown =>
    rw [more, flattened]
    refine List.rel_append kept.unknown ?_
    rw [List.forall₂_map_left_iff, List.forall₂_map_right_iff, List.forall₂_same]
    exact fun _ _ => ⟨outcome, found, rfl⟩
  case next =>
    dsimp only
    rw [flattened, List.length_append, length, kept.next, Int.natCast_add, Int.add_assoc]

/-- Relabelling the events of one more label. -/
theorem step [Zero S] {clustering : Clustering Model} {tagLimit : Nat} {split' : TestSplit S}
    {events events' : List (Event S)} (kept : Separated outcomes split before after)
    (stepped : testStep outcomes clustering tagLimit split label events = .ok (split', events')) :
    Separated outcomes split' (before ++ [(label, events)]) (after ++ [(label, events')]) := by
  obtain ⟨outcome, found, ⟨cluster, isMatched, rfl, rfl⟩ | ⟨isUnmatched, rfl, rfl⟩⟩ :=
    testStep_cases stepped
  · exact kept.matched found isMatched _ events
  · exact kept.unmatched found isUnmatched events

end Separated

theorem separated_relabelTest [Zero S] {outcomes : SortedMap Label (MatchOutcome S)}
    {clustering : Clustering Model} {tagLimit : Nat} {events events' : EventMap S}
    {split : TestSplit S}
    (relabelled : relabelTest outcomes clustering tagLimit events = (.ok split, events')) :
    Separated outcomes split events.entries events'.entries := by
  have swept := relabelTest_eq_ok.1 relabelled
  refine OrderedMap.sweep_induction (Separated outcomes) .start ?_ swept
  intro split before after label group split' group' kept stepped
  exact kept.step stepped

/-- Relabelling separates the unmatched events from the matched ones, unless a test label has no
outcome. -/
theorem relabelTest_separates [Zero S] (outcomes : SortedMap Label (MatchOutcome S))
    (clustering : Clustering Model) (tagLimit : Nat) (events : EventMap S) :
    match relabelTest outcomes clustering tagLimit events with
    | (.ok split, events') => Separated outcomes split events.entries events'.entries
    | (.error _, _) => ∃ entry ∈ events.entries, outcomes.get? entry.1 = none := by
  rcases relabelled : relabelTest outcomes clustering tagLimit events with ⟨result, events'⟩
  cases result with
  | ok split => exact separated_relabelTest relabelled
  | error refusal =>
    by_cases answered : ∀ entry ∈ events.entries, (outcomes.get? entry.1).isSome
    · obtain ⟨split, final, accepted⟩ := relabelTest_total answered clustering tagLimit
      rw [relabelled] at accepted
      cases accepted
    · simpa using answered

/-- A key that is matched, one that is not, one whose match lies among the labels of unmatched events, and
one without a nearest cluster. -/
def mixedEvents : EventMap Float :=
  .ofList [
    (1, [{ label := 1, text := "disk full", occurrences := [{ count := 3, host := "web" }] }]),
    (2, [{ label := 2, text := "link lost", occurrences := [{ count := 1, host := "web" }] },
      { label := 2, text := "link lost", occurrences := [{ count := 2, host := "db" }] }]),
    (3, [{ label := 3, text := "odd", occurrences := [] }]),
    (4, [{ label := 4, text := "new", occurrences := [{ count := 5, host := "db" }] }])]

def mixedOutcomes : SortedMap Label (MatchOutcome Float) :=
  .ofList [(1, ⟨true, some 0, 0.9, 0.8⟩), (2, ⟨false, some 0, 0.9, 0.1⟩),
    (3, ⟨true, some 1000005, 0.9, 0.9⟩), (4, ⟨false, none, 0, 0⟩)]

theorem relabelTest_separates_mixed :
    ∃ split events', relabelTest mixedOutcomes (⟨.empty, .empty, ()⟩ : Clustering Unit) 5 mixedEvents =
        (.ok split, events') ∧
      Separated mixedOutcomes split mixedEvents.entries events'.entries ∧
      split.unknown.flatten.map UnknownEvent.label = [0, 0, 1000005, 1000003] ∧
      events'.all.map Event.label = [0, 1000000, 1000001, 1000002, 1000003] := by
  have separated := relabelTest_separates mixedOutcomes (⟨.empty, .empty, ()⟩ : Clustering Unit) 5
    mixedEvents
  exact ⟨_, _, rfl, separated, rfl, rfl⟩

end LogDrift.Matching
