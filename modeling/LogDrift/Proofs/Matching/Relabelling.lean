import LogDrift.Proofs.Map.Ordered
import LogDrift.Proofs.Matching.Filing
import Mathlib.Data.List.Forall2

/-!
# What relabelling keeps

Relabelling gives events labels and scores and leaves what they say as it is. The clusters that are
collected on the way hold exactly the relabelled events: all control events, and the test events
whose new label names a cluster. The test events with labels of their own stand in the unknown
groups.
-/

namespace LogDrift.Matching

variable {S Model σ : Type}

/-! ## Sweeps over events -/

/-- What a sweep over events comes to. -/
def ofSweep : σ × Option Error × EventMap S → Except Error σ × EventMap S
  | (_, some refusal, events) => (.error refusal, events)
  | (state, none, events) => (.ok state, events)

@[simp]
theorem snd_ofSweep (swept : σ × Option Error × EventMap S) : (ofSweep swept).2 = swept.2.2 := by
  obtain ⟨state, refusal, events⟩ := swept
  cases refusal <;> rfl

@[simp]
theorem ofSweep_eq_ok {swept : σ × Option Error × EventMap S} {state : σ} {events : EventMap S} :
    ofSweep swept = (.ok state, events) ↔ swept = (state, none, events) := by
  obtain ⟨state', refusal, events'⟩ := swept
  cases refusal <;> simp [ofSweep]

theorem relabelControl_eq_ofSweep (clustering : Clustering Model) (tagLimit : Nat)
    (events : EventMap S) :
    relabelControl clustering tagLimit events =
      ofSweep (events.sweep (controlStep clustering tagLimit) .empty) := by
  unfold relabelControl
  obtain ⟨_, _ | _, _⟩ := events.sweep (controlStep clustering tagLimit) .empty <;> rfl

theorem relabelControl_eq_ok {clustering : Clustering Model} {tagLimit : Nat}
    {events events' : EventMap S} {clusters : ClusterMap (ControlEntry S)} :
    relabelControl clustering tagLimit events = (.ok clusters, events') ↔
      events.sweep (controlStep clustering tagLimit) .empty = (clusters, none, events') := by
  rw [relabelControl_eq_ofSweep, ofSweep_eq_ok]

theorem relabelTest_eq_ofSweep [Zero S] (outcomes : SortedMap Label (MatchOutcome S))
    (clustering : Clustering Model) (tagLimit : Nat) (events : EventMap S) :
    relabelTest outcomes clustering tagLimit events =
      ofSweep (events.sweep (testStep outcomes clustering tagLimit) {}) := by
  unfold relabelTest
  obtain ⟨_, _ | _, _⟩ := events.sweep (testStep outcomes clustering tagLimit) {} <;> rfl

theorem relabelTest_eq_ok [Zero S] {outcomes : SortedMap Label (MatchOutcome S)}
    {clustering : Clustering Model} {tagLimit : Nat} {events events' : EventMap S}
    {split : TestSplit S} :
    relabelTest outcomes clustering tagLimit events = (.ok split, events') ↔
      events.sweep (testStep outcomes clustering tagLimit) {} = (split, none, events') := by
  rw [relabelTest_eq_ofSweep, ofSweep_eq_ok]

/-! ## Single labels -/

/-- The events of a control label take the cluster of the label and are collected in it. -/
theorem controlStep_cases {clustering : Clustering Model} {tagLimit : Nat}
    {clusters clusters' : ClusterMap (ControlEntry S)} {label : Label} {group group' : List (Event S)}
    (stepped : controlStep clustering tagLimit clusters label group = .ok (clusters', group')) :
    ∃ cluster, clustering.clusterOf? label = some cluster ∧
      clusters' = group.foldl (collectControl (clustering.tagsOf cluster tagLimit) cluster) clusters ∧
      group' = group.map fun event => { event with label := cluster } := by
  rw [controlStep] at stepped
  split at stepped
  · cases stepped
  · next cluster assigned =>
    cases stepped
    exact ⟨cluster, assigned, rfl, rfl⟩

/-- The events of a test label take the cluster that its outcome matches and are collected in it, or
they get labels of their own and are kept aside. -/
theorem testStep_cases [Zero S] {outcomes : SortedMap Label (MatchOutcome S)}
    {clustering : Clustering Model} {tagLimit : Nat} {split split' : TestSplit S} {label : Label}
    {group group' : List (Event S)}
    (stepped : testStep outcomes clustering tagLimit split label group = .ok (split', group')) :
    ∃ outcome, outcomes.get? label = some outcome ∧
      ((∃ cluster, matched? outcome = some cluster ∧
        split' = { split with
          clusters := group.foldl (collectTest (clustering.tagsOf cluster tagLimit) outcome cluster)
            split.clusters } ∧
        group' = group.map (annotated outcome cluster)) ∨
      (matched? outcome = none ∧
        let labelled := labelledFrom split.next group
        let unknown := labelled.map fun entry => unknownEvent outcome entry.1 entry.2
        split' = { split with
          unknown := if unknown.isEmpty then split.unknown else split.unknown ++ [unknown]
          next := split.next + group.length } ∧
        group' = labelled.map fun entry => annotated outcome entry.1 entry.2)) := by
  rw [testStep] at stepped
  split at stepped
  · cases stepped
  · next outcome found =>
    refine ⟨outcome, found, ?_⟩
    split at stepped
    · next cluster isMatched =>
      cases stepped
      exact .inl ⟨cluster, isMatched, rfl, rfl⟩
    · next isUnmatched =>
      cases stepped
      exact .inr ⟨isUnmatched, rfl, rfl⟩

/-! ## Single events -/

/-- The entry of a control event holds one event more. -/
theorem holds_collectControl {clusters : ClusterMap (ControlEntry S)} {events : List (Event S)}
    (holds : clusters.Holds ControlEntry.content events) (tags : List String) (cluster : Label)
    (event : Event S) :
    (collectControl tags cluster clusters event).Holds ControlEntry.content
      (events ++ [{ event with label := cluster }]) := by
  apply holds.collect { event with label := cluster }
  intro present
  cases present <;> rfl

@[simp] theorem label_annotated (outcome : MatchOutcome S) (label : Label) (event : Event S) :
    (annotated outcome label event).label = label := rfl

@[simp] theorem content_annotated (outcome : MatchOutcome S) (label : Label) (event : Event S) :
    (annotated outcome label event).content = event.content := rfl

@[simp] theorem content_unknownEvent (outcome : MatchOutcome S) (label : Label)
    (event : Event S) : (unknownEvent outcome label event).content = event.content := rfl

/-- The entry of a matched event holds one event more. -/
theorem holds_collectTest [Zero S] {clusters : ClusterMap (TestEntry S)}
    {events : List (Event S)} (holds : clusters.Holds TestEntry.content events)
    (tags : List String) (outcome : MatchOutcome S) (cluster : Label) (event : Event S) :
    (collectTest tags outcome cluster clusters event).Holds TestEntry.content
      (events ++ [annotated outcome cluster event]) := by
  apply holds.collect (annotated outcome cluster event)
  intro present
  cases present <;> rfl

/-- Collecting matched events judges no counts. -/
theorem unjudged_foldl [Zero S] (tags : List String) (outcome : MatchOutcome S) (cluster : Label)
    (group : List (Event S)) {clusters : ClusterMap (TestEntry S)}
    (unjudged : clusters.All fun entry => entry.verdicts = []) :
    (group.foldl (collectTest tags outcome cluster) clusters).All fun entry =>
      entry.verdicts = [] := by
  induction group generalizing clusters with
  | nil => exact unjudged
  | cons event rest ih =>
    apply ih
    apply unjudged.alterEntry
    intro present passes
    cases present with
    | none => rfl
    | some entry => exact passes entry rfl

/-- Collecting events one by one adds their relabelled forms in order. -/
theorem holds_foldl {E : Type} {content : E → String × List Occurrence}
    {collect : ClusterMap E → Event S → ClusterMap E} {relabel : Event S → Event S}
    (step : ∀ clusters events event, ClusterMap.Holds content clusters events →
      ClusterMap.Holds content (collect clusters event) (events ++ [relabel event]))
    (group : List (Event S)) {clusters : ClusterMap E} {events : List (Event S)}
    (holds : clusters.Holds content events) :
    (group.foldl collect clusters).Holds content (events ++ group.map relabel) := by
  induction group generalizing clusters events with
  | nil => simpa using holds
  | cons event rest ih =>
    have later := ih (step clusters events event holds)
    simpa using later

/-! ## Control events -/

/-- Relabelled control events say what they said, and the clusters hold exactly them. -/
theorem relabelControl_spec {clustering : Clustering Model} {tagLimit : Nat}
    {events events' : EventMap S} {clusters : ClusterMap (ControlEntry S)}
    (relabelled : relabelControl clustering tagLimit events = (.ok clusters, events')) :
    clusters.Holds ControlEntry.content events'.all ∧ events'.contents = events.contents := by
  have swept := relabelControl_eq_ok.1 relabelled
  rw [EventMap.all_eq_flatMap]
  refine OrderedMap.sweep_induction
    (fun clusters before after =>
      clusters.Holds ControlEntry.content (after.flatMap Prod.snd) ∧
      after.map (fun entry => (entry.1, entry.2.map Event.content)) =
        before.map fun entry => (entry.1, entry.2.map Event.content)) ?_ ?_ swept
  · exact ⟨ClusterMap.holds_empty _, rfl⟩
  · intro clusters before after label group clusters' group' kept stepped
    obtain ⟨cluster, _, rfl, rfl⟩ := controlStep_cases stepped
    constructor
    · have collected := holds_foldl (fun _ _ event holds => holds_collectControl holds
        (clustering.tagsOf cluster tagLimit) cluster event) group kept.1
      simpa using collected
    · simp [kept.2, Event.content]

/-- The events of a label take the cluster of the label. -/
def Taken (clustering : Clustering Model) (before after : Label × List (Event S)) : Prop :=
  after.1 = before.1 ∧ ∃ cluster, clustering.clusterOf? before.1 = some cluster ∧
    after.2 = before.2.map fun event => { event with label := cluster }

/-- Relabelling changes the control events label by label. -/
theorem relabelControl_taken {clustering : Clustering Model} {tagLimit : Nat}
    {events events' : EventMap S} {clusters : ClusterMap (ControlEntry S)}
    (relabelled : relabelControl clustering tagLimit events = (.ok clusters, events')) :
    List.Forall₂ (Taken clustering) events.entries events'.entries := by
  have swept := relabelControl_eq_ok.1 relabelled
  refine OrderedMap.sweep_induction
    (fun _ before after => List.Forall₂ (Taken clustering) before after) .nil ?_ swept
  intro clusters before after label group clusters' group' taken stepped
  obtain ⟨cluster, assigned, _, rfl⟩ := controlStep_cases stepped
  exact List.rel_append taken (.cons ⟨rfl, cluster, assigned, rfl⟩ .nil)

/-- An element of the first of two related lists is related to one of the second. -/
theorem exists_right_of_forall₂ {α β : Type} {related : α → β → Prop} {left : List α}
    {right : List β} (all : List.Forall₂ related left right) {element : α}
    (member : element ∈ left) : ∃ image ∈ right, related element image := by
  induction all with
  | nil => nomatch member
  | cons here _ ih =>
    rcases List.mem_cons.1 member with rfl | later
    · exact ⟨_, .head _, here⟩
    · rcases ih later with ⟨image, present, holds⟩
      exact ⟨image, .tail _ present, holds⟩

/-- An element of the second of two related lists is related to one of the first. -/
theorem exists_left_of_forall₂ {α β : Type} {related : α → β → Prop} {left : List α}
    {right : List β} (all : List.Forall₂ related left right) {image : β}
    (member : image ∈ right) : ∃ element ∈ left, related element image :=
  exists_right_of_forall₂ all.flip member

/-- The cluster of a label with events has an entry on the host of the first of them. -/
theorem exists_entry_of_relabelControl {clustering : Clustering Model} {tagLimit : Nat}
    {events events' : EventMap S} {clusters : ClusterMap (ControlEntry S)}
    (relabelled : relabelControl clustering tagLimit events = (.ok clusters, events'))
    {label : Label} {event : Event S} {rest : List (Event S)}
    (stored : (label, event :: rest) ∈ events.entries) {cluster : Label}
    (assigned : clustering.clusterOf? label = some cluster) :
    ∃ entry, clusters.find? cluster event.host = some entry := by
  rcases exists_right_of_forall₂ (relabelControl_taken relabelled) stored with
    ⟨image, present, _, other, assigned', same⟩
  rw [assigned] at assigned'
  cases assigned'
  have stored' : { event with label := cluster } ∈ events'.all :=
    EventMap.mem_all.2 ⟨image, present, by rw [same]; exact .head _⟩
  rcases (relabelControl_spec relabelled).1.exists_entry stored' with ⟨entry, filed, _⟩
  exact ⟨entry, filed⟩

/-! ## Test events -/

theorem isReal_iff {label : Label} : Label.isReal label = true ↔ label < Label.unknownBase :=
  decide_eq_true_iff

theorem not_isReal_iff {label : Label} :
    Label.isReal label = false ↔ Label.unknownBase ≤ label := by
  rw [Label.isReal, decide_eq_false_iff_not, Int.not_lt]

theorem matched?_eq_some_iff {outcome : MatchOutcome S} {cluster : Label} :
    matched? outcome = some cluster ↔
      outcome.isMatched = true ∧ outcome.nearest = some cluster ∧ cluster < Label.unknownBase := by
  rw [matched?, Option.filter_eq_some_iff, Bool.and_eq_true, isReal_iff]
  exact and_left_comm

/-- A matched label names a cluster. -/
theorem isReal_of_matched? {outcome : MatchOutcome S} {cluster : Label}
    (matched : matched? outcome = some cluster) : Label.isReal cluster = true :=
  isReal_iff.2 (matched?_eq_some_iff.1 matched).2.2

/-- A nearest cluster whose number is small enough is matched when the outcome says so. -/
theorem matched?_of_nearest {outcome : MatchOutcome S} {cluster : Label}
    (nearest : outcome.nearest = some cluster) (real : Label.isReal cluster = true) :
    matched? outcome = if outcome.isMatched then some cluster else none := by
  rw [matched?, nearest, Option.filter_some, real, Bool.and_true]

/-- Labels counted up from the first label of unmatched events name no cluster. -/
theorem not_isReal_of_mem_labelledFrom {α : Type} {next label : Label} {elements : List α}
    {element : α} (base : Label.unknownBase ≤ next)
    (member : (label, element) ∈ labelledFrom next elements) : Label.isReal label = false := by
  rw [labelledFrom, List.mem_map] at member
  rcases member with ⟨⟨_, place⟩, _, equal⟩
  cases equal
  exact not_isReal_iff.2
    (Int.le_trans base (Int.le_add_of_nonneg_right (Int.natCast_nonneg place)))

@[simp] theorem map_snd_labelledFrom {α : Type} (next : Label) (elements : List α) :
    (labelledFrom next elements).map Prod.snd = elements := by
  rw [labelledFrom, List.map_map]
  exact List.zipIdx_map_fst 0 elements

/-- Events keep what they say under labels of their own. -/
theorem content_labelledFrom (outcome : MatchOutcome S) (next : Label) (events : List (Event S)) :
    ((labelledFrom next events).map fun entry => annotated outcome entry.1 entry.2).map
      Event.content = events.map Event.content :=
  calc
    _ = ((labelledFrom next events).map Prod.snd).map Event.content := by
      simp only [List.map_map, Function.comp_def, content_annotated]
    _ = events.map Event.content := by rw [map_snd_labelledFrom]

/-- The events of a list whose label names a cluster. -/
def named (events : List (Event S)) : List (Event S) :=
  events.filter fun event => Label.isReal event.label

/-- The events of a list with a label of their own. -/
def unnamed (events : List (Event S)) : List (Event S) :=
  events.filter fun event => !Label.isReal event.label

/-- What the unknown groups for some groups of events say: there is one for every group with events
that have labels of their own. -/
def unnamedContents (groups : List (List (Event S))) : List (List (String × List Occurrence)) :=
  ((groups.map unnamed).filter fun group => !group.isEmpty).map fun group =>
    group.map Event.content

@[simp] theorem named_append (left right : List (Event S)) :
    named (left ++ right) = named left ++ named right :=
  List.filter_append left right

theorem named_eq_self {events : List (Event S)}
    (all : ∀ event ∈ events, Label.isReal event.label = true) : named events = events :=
  List.filter_eq_self.2 all

theorem named_eq_nil {events : List (Event S)}
    (all : ∀ event ∈ events, Label.isReal event.label = false) : named events = [] := by
  rw [named, List.filter_eq_nil_iff]
  intro event member
  simp [all event member]

theorem unnamed_eq_self {events : List (Event S)}
    (all : ∀ event ∈ events, Label.isReal event.label = false) : unnamed events = events := by
  rw [unnamed, List.filter_eq_self]
  intro event member
  simp [all event member]

theorem unnamed_eq_nil {events : List (Event S)}
    (all : ∀ event ∈ events, Label.isReal event.label = true) : unnamed events = [] := by
  rw [unnamed, List.filter_eq_nil_iff]
  intro event member
  simp [all event member]

theorem unnamedContents_cons (group : List (Event S)) (groups : List (List (Event S))) :
    unnamedContents (group :: groups) =
      (if (unnamed group).isEmpty then [] else [(unnamed group).map Event.content]) ++
        unnamedContents groups := by
  rw [unnamedContents, unnamedContents, List.map_cons, List.filter_cons]
  cases found : unnamed group with
  | nil => simp
  | cons event rest => simp

theorem unnamedContents_append (groups : List (List (Event S))) (group : List (Event S)) :
    unnamedContents (groups ++ [group]) =
      unnamedContents groups ++ if (unnamed group).isEmpty then [] else
        [(unnamed group).map Event.content] := by
  rw [unnamedContents, unnamedContents, List.map_append, List.filter_append, List.map_append]
  cases found : unnamed group with
  | nil => simp [found]
  | cons event rest => simp [found]

/-- What an outcome makes of the events of its test label: all take the cluster that is matched, or
none has a label that names a cluster. -/
def Decides (outcome : MatchOutcome S) (events : List (Event S)) : Prop :=
  (∃ cluster, matched? outcome = some cluster ∧ ∀ event ∈ events, event.label = cluster) ∨
    (matched? outcome = none ∧ ∀ event ∈ events, Label.isReal event.label = false)

theorem Decides.real {outcome : MatchOutcome S} {events : List (Event S)} {cluster : Label}
    (decides : Decides outcome events) (matched : matched? outcome = some cluster) :
    ∀ event ∈ events, Label.isReal event.label = true := by
  rcases decides with ⟨other, found, taken⟩ | ⟨unmatched, _⟩
  · intro event member
    rw [taken event member]
    exact isReal_of_matched? found
  · rw [matched] at unmatched
    cases unmatched

theorem Decides.own {outcome : MatchOutcome S} {events : List (Event S)}
    (decides : Decides outcome events) (unmatched : matched? outcome = none) :
    ∀ event ∈ events, Label.isReal event.label = false := by
  rcases decides with ⟨cluster, matched, _⟩ | ⟨_, own⟩
  · rw [unmatched] at matched
    cases matched
  · exact own

/-- What holds after the test labels `before` were relabelled to `after`. -/
structure Splitting (outcomes : SortedMap Label (MatchOutcome S)) (split : TestSplit S)
    (before after : List (Label × List (Event S))) : Prop where
  /-- The next label of an unmatched event names no cluster. -/
  base : Label.unknownBase ≤ split.next
  clusters : split.clusters.Holds TestEntry.content (named (after.flatMap Prod.snd))
  /-- Counts are judged later. -/
  unjudged : split.clusters.All fun entry => entry.verdicts = []
  unknown : split.unknown.map (fun group => group.map UnknownEvent.content) =
    unnamedContents (after.map Prod.snd)
  contents : after.map (fun entry => (entry.1, entry.2.map Event.content)) =
    before.map fun entry => (entry.1, entry.2.map Event.content)
  decided : ∀ entry ∈ after, ∃ outcome, outcomes.get? entry.1 = some outcome ∧
    Decides outcome entry.2

namespace Splitting

variable {outcomes : SortedMap Label (MatchOutcome S)} {split : TestSplit S}
  {before after : List (Label × List (Event S))} {label : Label} {outcome : MatchOutcome S}

/-- One more label whose events are decided. -/
theorem decided_append (kept : Splitting outcomes split before after) {events : List (Event S)}
    (found : outcomes.get? label = some outcome) (decides : Decides outcome events) :
    ∀ entry ∈ after ++ [(label, events)], ∃ outcome, outcomes.get? entry.1 = some outcome ∧
      Decides outcome entry.2 := by
  intro entry member
  rcases List.mem_append.1 member with earlier | last
  · exact kept.decided entry earlier
  · cases List.mem_singleton.1 last
    exact ⟨outcome, found, decides⟩

/-- The events of one more label take the cluster that is matched. -/
theorem matched [Zero S] (kept : Splitting outcomes split before after)
    (found : outcomes.get? label = some outcome) {cluster : Label}
    (isMatched : matched? outcome = some cluster) (tags : List String) (events : List (Event S)) :
    Splitting outcomes
      { split with clusters := events.foldl (collectTest tags outcome cluster) split.clusters }
      (before ++ [(label, events)])
      (after ++ [(label, events.map (annotated outcome cluster))]) := by
  have taken : ∀ event ∈ events.map (annotated outcome cluster), event.label = cluster := by
    simp
  have real : ∀ event ∈ events.map (annotated outcome cluster),
      Label.isReal event.label = true :=
    fun event member => taken event member ▸ isReal_of_matched? isMatched
  constructor
  case base => exact kept.base
  case clusters =>
    have collected := holds_foldl (fun _ _ event holds =>
      holds_collectTest holds tags outcome cluster event) events kept.clusters
    rw [List.flatMap_append, named_append]
    simpa [named_eq_self real] using collected
  case unjudged =>
    exact unjudged_foldl tags outcome cluster events kept.unjudged
  case unknown =>
    rw [List.map_append, List.map_singleton, unnamedContents_append, unnamed_eq_nil real,
      kept.unknown]
    simp
  case contents =>
    rw [List.map_append, List.map_append, kept.contents]
    simp
  case decided =>
    exact kept.decided_append found (.inl ⟨cluster, isMatched, taken⟩)

/-- The events of one more label get labels of their own. -/
theorem unmatched (kept : Splitting outcomes split before after)
    (found : outcomes.get? label = some outcome) (isUnmatched : matched? outcome = none)
    (events : List (Event S)) :
    let labelled := labelledFrom split.next events
    let group := labelled.map fun (own, event) => unknownEvent outcome own event
    Splitting outcomes
      { split with
        unknown := if group.isEmpty then split.unknown else split.unknown ++ [group]
        next := split.next + events.length }
      (before ++ [(label, events)])
      (after ++ [(label, labelled.map fun (own, event) => annotated outcome own event)]) := by
  intro labelled group
  have own : ∀ event ∈ labelled.map fun (own, event) => annotated outcome own event,
      Label.isReal event.label = false := by
    rw [List.forall_mem_map]
    exact fun _ member => not_isReal_of_mem_labelledFrom kept.base member
  have contents := content_labelledFrom outcome split.next events
  constructor
  case base =>
    exact Int.le_trans kept.base (Int.le_add_of_nonneg_right (Int.natCast_nonneg _))
  case clusters =>
    rw [List.flatMap_append, named_append]
    simpa [named_eq_nil own] using kept.clusters
  case unjudged => exact kept.unjudged
  case unknown =>
    rw [List.map_append, List.map_singleton, unnamedContents_append, unnamed_eq_self own,
      ← kept.unknown]
    cases found : labelled with
    | nil => simp [group, found]
    | cons first rest => simp [group, found]
  case contents =>
    rw [List.map_append, List.map_append, kept.contents]
    simpa using contents
  case decided =>
    exact kept.decided_append found (.inr ⟨isUnmatched, own⟩)

/-- Relabelling the events of one more label. -/
theorem step [Zero S] {clustering : Clustering Model} {tagLimit : Nat} {split' : TestSplit S}
    {events events' : List (Event S)} (kept : Splitting outcomes split before after)
    (stepped : testStep outcomes clustering tagLimit split label events = .ok (split', events')) :
    Splitting outcomes split' (before ++ [(label, events)]) (after ++ [(label, events')]) := by
  obtain ⟨outcome, found, ⟨cluster, isMatched, rfl, rfl⟩ | ⟨isUnmatched, rfl, rfl⟩⟩ :=
    testStep_cases stepped
  · exact kept.matched found isMatched _ events
  · exact kept.unmatched found isUnmatched events

end Splitting

/-- What holds of the split and of the relabelled test events. -/
theorem relabelTest_spec [Zero S] {outcomes : SortedMap Label (MatchOutcome S)}
    {clustering : Clustering Model} {tagLimit : Nat} {events events' : EventMap S}
    {split : TestSplit S}
    (relabelled : relabelTest outcomes clustering tagLimit events = (.ok split, events')) :
    Splitting outcomes split events.entries events'.entries := by
  have swept := relabelTest_eq_ok.1 relabelled
  refine OrderedMap.sweep_induction (Splitting outcomes) ?_ ?_ swept
  · constructor
    case base => exact Int.le_refl _
    case clusters => exact ClusterMap.holds_empty _
    case unjudged => exact ClusterMap.all_empty _
    case unknown => rfl
    case contents => rfl
    case decided => exact fun _ member => nomatch member
  · intro split before after label group split' group' kept stepped
    exact kept.step stepped

/-- When every outcome names a nearest cluster that passes, the labels of all unknown events pass. -/
theorem nearest_relabelTest [Zero S] {outcomes : SortedMap Label (MatchOutcome S)}
    {clustering : Clustering Model} {tagLimit : Nat} {events events' : EventMap S}
    {split : TestSplit S} {passes : Label → Prop}
    (named : ∀ label outcome, outcomes.get? label = some outcome →
      ∃ cluster, outcome.nearest = some cluster ∧ passes cluster)
    (relabelled : relabelTest outcomes clustering tagLimit events = (.ok split, events')) :
    ∀ group ∈ split.unknown, ∀ event ∈ group, passes event.label := by
  have swept := relabelTest_eq_ok.1 relabelled
  refine OrderedMap.sweep_induction
    (fun (split : TestSplit S) _ _ => ∀ group ∈ split.unknown, ∀ event ∈ group,
      passes event.label) (List.forall_mem_nil _) ?_ swept
  intro split _ _ label group split' group' passed stepped
  obtain ⟨outcome, found, ⟨_, _, rfl, _⟩ | ⟨_, rfl, _⟩⟩ := testStep_cases stepped
  · exact passed
  · rcases named label outcome found with ⟨cluster, nearest, passing⟩
    have own : ∀ event ∈ (labelledFrom split.next group).map fun entry =>
        unknownEvent outcome entry.1 entry.2, passes event.label := by
      rw [List.forall_mem_map]
      intro entry _
      rw [unknownEvent, nearest]
      exact passing
    dsimp only
    split
    · exact passed
    · rw [List.forall_mem_append, List.forall_mem_singleton]
      exact ⟨passed, own⟩

/-! ## Acceptance -/

/-- Control events are relabelled when every label has a cluster. -/
theorem relabelControl_total {clustering : Clustering Model} {events : EventMap S}
    (assigned : ∀ entry ∈ events.entries, (clustering.clusterOf? entry.1).isSome)
    (tagLimit : Nat) :
    ∃ clusters events', relabelControl clustering tagLimit events = (.ok clusters, events') := by
  have accepts : ∀ clusters, ∀ entry ∈ events.entries,
      ∃ image, controlStep clustering tagLimit clusters entry.1 entry.2 = .ok image := by
    intro clusters entry member
    rcases Option.isSome_iff_exists.1 (assigned entry member) with ⟨cluster, found⟩
    rw [controlStep, found]
    exact ⟨_, rfl⟩
  rcases OrderedMap.sweep_total accepts .empty with ⟨clusters, events', swept⟩
  exact ⟨clusters, events', relabelControl_eq_ok.2 swept⟩

/-- Test events are relabelled when every label has an outcome. -/
theorem relabelTest_total [Zero S] {outcomes : SortedMap Label (MatchOutcome S)}
    {events : EventMap S} (answered : ∀ entry ∈ events.entries, (outcomes.get? entry.1).isSome)
    (clustering : Clustering Model) (tagLimit : Nat) :
    ∃ split events', relabelTest outcomes clustering tagLimit events = (.ok split, events') := by
  have accepts : ∀ split, ∀ entry ∈ events.entries,
      ∃ image, testStep outcomes clustering tagLimit split entry.1 entry.2 = .ok image := by
    intro split entry member
    rcases Option.isSome_iff_exists.1 (answered entry member) with ⟨outcome, found⟩
    rw [testStep, found]
    cases isMatched : matched? outcome with
    | none => exact ⟨_, by simp only [isMatched]; rfl⟩
    | some cluster => exact ⟨_, by simp only [isMatched]; rfl⟩
  rcases OrderedMap.sweep_total accepts {} with ⟨split, events', swept⟩
  exact ⟨split, events', relabelTest_eq_ok.2 swept⟩

end LogDrift.Matching
