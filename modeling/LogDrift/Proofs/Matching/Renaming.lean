import LogDrift.Proofs.Matching.Relabelling
import LogDrift.Proofs.Store.Basic
import Mathlib.Data.List.Nodup

/-!
# Events under other labels

Relabelling reads of an event what it says, and of a label what is assigned to it. So it makes the
same clusters of two event maps that say the same under renamed labels, whatever labels and scores
their events had. Test events are given a label and both scores; control events are given a label
and keep their scores.
-/

namespace LogDrift

variable {S Model α : Type}

/-! ## Views of events -/

/-- An event but for its scores. -/
def Event.unscored (event : Event S) : Label × String × List Occurrence :=
  (event.label, event.content)

/-- The scores of an event. -/
def Event.scores (event : Event S) : Option S × Option S :=
  (event.controlScore, event.testScore)

/-- The event that says something under no particular label and without scores. -/
def Event.saying (content : String × List Occurrence) : Event S :=
  ⟨0, content.1, content.2, none, none⟩

/-- A text under a renamed label. -/
def LabelledText.renamed (rename : Label → Label) (text : LabelledText) : LabelledText :=
  ⟨rename text.label, text.text⟩

/-- Lists have the same images under two functions when they do so place by place. -/
theorem forall₂_iff_map_eq {β γ : Type} {image : α → γ} {image' : β → γ} {left : List α}
    {right : List β} :
    List.Forall₂ (fun element element' => image element = image' element') left right ↔
      left.map image = right.map image' := by
  rw [← List.forall₂_eq_eq_eq, List.forall₂_map_left_iff, List.forall₂_map_right_iff]

/-- Lists are equal when they have the same images under two functions that tell their elements apart
together. -/
theorem eq_of_map_eq_of_map_eq {β γ : Type} {image : α → β} {image' : α → γ}
    (separate : ∀ left right, image left = image right → image' left = image' right → left = right)
    {left right : List α} (same : left.map image = right.map image)
    (same' : left.map image' = right.map image') : left = right := by
  induction left generalizing right with
  | nil => simpa using same
  | cons head rest ih =>
    cases right with
    | nil => cases same
    | cons head' rest' =>
      rw [List.map_cons, List.map_cons, List.cons_eq_cons] at same same'
      rw [separate head head' same.1 same'.1, ih same.2 same'.2]

namespace EventMap

/-- What a view shows of the events of every label. -/
def shown (view : Event S → α) (events : EventMap S) : List (Label × List α) :=
  events.entries.map fun entry => (entry.1, entry.2.map view)

/-- Two event maps hold the same events in the same order, as far as a view shows them, the second
under renamed labels. -/
def Renamed (rename : Label → Label) (view : Event S → α) (events events' : EventMap S) : Prop :=
  events'.shown view = (events.shown view).map fun entry => (rename entry.1, entry.2)

namespace Renamed

variable {rename : Label → Label} {view : Event S → α} {events events' : EventMap S}

theorem keys_eq (renamed : Renamed rename view events events') :
    events'.keys = events.keys.map rename := by
  have keys := congrArg (List.map Prod.fst) renamed
  simpa [shown, OrderedMap.keys, Function.comp_def] using keys

theorem size_eq (renamed : Renamed rename view events events') : events'.size = events.size := by
  simpa [shown, OrderedMap.size] using congrArg List.length renamed

/-- No two labels of a map are renamed alike, since the labels that they are renamed to differ. -/
theorem apart (renamed : Renamed rename view events events') {label other : Label}
    (member : label ∈ events.keys) (member' : other ∈ events.keys)
    (same : rename label = rename other) : label = other := by
  have distinct : (events.keys.map rename).Nodup := renamed.keys_eq ▸ events'.distinct
  exact List.inj_on_of_nodup_map distinct member member' same

theorem texts_eq (renamed : Renamed rename Event.content events events') :
    events'.texts = events.texts.map (.renamed rename) := by
  have said : ∀ events : EventMap S, events.texts = (events.shown Event.content).filterMap
      fun entry => entry.2.head?.map fun content => ⟨entry.1, content.1⟩ := by
    intro events
    simp [texts, shown, List.filterMap_map, Function.comp_def, Event.content]
  rw [said, said, renamed, List.filterMap_map, List.map_filterMap]
  simp [Function.comp_def, LabelledText.renamed]

/-- What is shown of the same events is the same. -/
theorem of_id (renamed : Renamed rename id events events') : Renamed rename view events events' := by
  have seen : ∀ events : EventMap S, events.shown view =
      (events.shown id).map fun entry => (entry.1, entry.2.map view) := by
    simp [shown]
  rw [Renamed, seen, seen, renamed]
  simp [Function.comp_def]

/-- Events that keep their labels are renamed when they are shown alike. -/
@[simp]
theorem id_iff : Renamed id view events events' ↔ events'.shown view = events.shown view := by
  simp [Renamed]

/-- Events of which everything is shown are the same under their own labels. -/
theorem eq_of_id (renamed : Renamed id id events events') : events' = events := by
  ext : 1
  simpa [shown] using id_iff.1 renamed

/-- Events with the same labels, contents and scores are the same. -/
theorem eq_of_unscored_of_scores (unscored : Renamed id Event.unscored events events')
    (scores : Renamed id Event.scores events events') : events' = events := by
  have whole : ∀ left right : Event S, left.unscored = right.unscored →
      left.scores = right.scores → left = right := by
    rintro ⟨label, text, occurrences, controlScore, testScore⟩ ⟨_, _, _, _, _⟩ unscored scores
    cases unscored
    cases scores
    rfl
  ext : 1
  refine eq_of_map_eq_of_map_eq ?_ (id_iff.1 unscored) (id_iff.1 scores)
  rintro ⟨label, group⟩ ⟨_, group'⟩ unscored scores
  simp only [Prod.mk.injEq] at unscored scores ⊢
  exact ⟨unscored.1, eq_of_map_eq_of_map_eq whole unscored.2 scores.2⟩

/-- Renamed maps hold the same events label by label. -/
theorem iff_forall₂ : Renamed rename view events events' ↔
    List.Forall₂ (fun entry entry' : Label × List (Event S) =>
      entry'.1 = rename entry.1 ∧ entry'.2.map view = entry.2.map view)
      events.entries events'.entries := by
  have equal : ∀ entry entry' : Label × List (Event S),
      (entry'.1 = rename entry.1 ∧ entry'.2.map view = entry.2.map view) ↔
        (rename entry.1, entry.2.map view) = (entry'.1, entry'.2.map view) := by
    simp [eq_comm]
  simp only [equal, forall₂_iff_map_eq]
  simp [Renamed, shown, eq_comm, Function.comp_def]

/-- Two sweeps over renamed maps go in step where each step of the one is followed by the other under
the renamed label. -/
theorem sweep {σ ε β : Type} {view' : Event S → β}
    {step step' : σ → Label → List (Event S) → Except ε (σ × List (Event S))} {start final : σ}
    {after : EventMap S} (renamed : Renamed rename view events events')
    (follows : ∀ label ∈ events.keys, ∀ group group' : List (Event S),
      group'.map view = group.map view → ∀ state state' images,
      step state label group = .ok (state', images) →
      ∃ images', step' state (rename label) group' = .ok (state', images') ∧
        images'.map view' = images.map view')
    (swept : OrderedMap.sweep events step start = (final, none, after)) :
    ∃ after', OrderedMap.sweep events' step' start = (final, none, after') ∧
      Renamed rename view' after after' := by
  have entries := (List.forall₂_and_left _ _).2
    ⟨fun entry member => List.mem_map_of_mem (f := Prod.fst) member, iff_forall₂.1 renamed⟩
  have inStep : ∃ after', OrderedMap.sweep events' step' start = (final, none, after') ∧
      List.Forall₂ (fun entry entry' : Label × List (Event S) =>
        entry'.1 = rename entry.1 ∧ entry'.2.map view' = entry.2.map view')
        after.entries after'.entries := by
    apply OrderedMap.sweep_related entries _ swept
    rintro state ⟨label, group⟩ ⟨_, group'⟩ ⟨member, rfl, same⟩ state' images stepped
    obtain ⟨images', stepped', shown⟩ := follows label member group group' same _ _ _ stepped
    exact ⟨images', stepped', rfl, shown⟩
  obtain ⟨after', swept', related⟩ := inStep
  exact ⟨after', swept', iff_forall₂.2 related⟩

end Renamed

end EventMap

namespace Matching

variable {rename : Label → Label} {clustering clustering' : Clustering Model} {tagLimit : Nat}
  {label : Label} {group group' : List (Event S)}

/-- Groups that say the same have the same image under what depends on the contents alone. -/
theorem map_eq_of_content {image : Event S → α}
    (depends : ∀ event, image event = image (.saying event.content))
    (same : group'.map Event.content = group.map Event.content) :
    group'.map image = group.map image := by
  have said : ∀ group : List (Event S),
      group.map image = (group.map Event.content).map fun content => image (.saying content) := by
    intro group
    rw [List.map_map]
    exact List.map_congr_left fun event _ => depends event
  rw [said, said, same]

/-- Groups that say the same are collected alike. -/
theorem foldl_eq_of_content {collect : α → Event S → α}
    (depends : ∀ state event, collect state event = collect state (.saying event.content))
    (same : group'.map Event.content = group.map Event.content) (state : α) :
    group'.foldl collect state = group.foldl collect state := by
  have said : ∀ group : List (Event S), group.foldl collect state =
      (group.map Event.content).foldl (fun state content => collect state (.saying content))
        state := by
    intro group
    rw [List.foldl_map]
    simp only [← depends]
  rw [said, said, same]

theorem tagsOf_congr (tags : clustering'.tags = clustering.tags) :
    clustering'.tagsOf = clustering.tagsOf := by
  funext cluster limit
  rw [Clustering.tagsOf, Clustering.tagsOf, tags]

/-! ## Control events -/

/-- A step over control events that say the same, under a label that is assigned the same, comes to
the same clusters and gives the events the same labels. -/
theorem controlStep_renamed
    (assigned : clustering'.clusterOf? (rename label) = clustering.clusterOf? label)
    (tags : clustering'.tags = clustering.tags)
    (same : group'.map Event.content = group.map Event.content)
    {clusters clusters' : ClusterMap (ControlEntry S)} {after : List (Event S)}
    (stepped : controlStep clustering tagLimit clusters label group = .ok (clusters', after)) :
    ∃ after', controlStep clustering' tagLimit clusters (rename label) group' =
        .ok (clusters', after') ∧
      after'.map Event.unscored = after.map Event.unscored := by
  rw [controlStep] at stepped ⊢
  cases found : clustering.clusterOf? label with
  | none =>
    rw [found] at stepped
    cases stepped
  | some cluster =>
    rw [found] at stepped
    cases stepped
    have collected : group'.foldl (collectControl (clustering.tagsOf cluster tagLimit) cluster)
        clusters = group.foldl (collectControl (clustering.tagsOf cluster tagLimit) cluster)
          clusters := foldl_eq_of_content (fun _ _ => rfl) same clusters
    rw [assigned, found, tagsOf_congr tags, ← collected]
    refine ⟨_, rfl, ?_⟩
    rw [List.map_map, List.map_map]
    exact map_eq_of_content (fun _ => rfl) same

/-- Control events that say the same under renamed labels make the same clusters, and take the same
labels, when their labels are assigned the same. -/
theorem relabelControl_renamed {events events' after : EventMap S}
    {clusters : ClusterMap (ControlEntry S)}
    (same : events.Renamed rename Event.content events')
    (assigned : ∀ label ∈ events.keys,
      clustering'.clusterOf? (rename label) = clustering.clusterOf? label)
    (tags : clustering'.tags = clustering.tags)
    (relabelled : relabelControl clustering tagLimit events = (.ok clusters, after)) :
    ∃ after', relabelControl clustering' tagLimit events' = (.ok clusters, after') ∧
      after.Renamed rename Event.unscored after' := by
  have swept := relabelControl_eq_ok.1 relabelled
  obtain ⟨after', swept', renamed⟩ := same.sweep (fun label member _ _ same _ _ _ stepped =>
    controlStep_renamed (assigned label member) tags same stepped) swept
  exact ⟨after', relabelControl_eq_ok.2 swept', renamed⟩

/-- Relabelling leaves control events their scores. -/
theorem scores_relabelControl {events after : EventMap S} {clusters : ClusterMap (ControlEntry S)}
    (relabelled : relabelControl clustering tagLimit events = (.ok clusters, after)) :
    events.Renamed id Event.scores after := by
  rw [EventMap.Renamed.iff_forall₂]
  refine (relabelControl_taken relabelled).imp ?_
  rintro entry entry' ⟨label, cluster, _, taken⟩
  refine ⟨label, ?_⟩
  rw [taken, List.map_map]
  rfl

/-! ## Test events -/

@[simp] theorem labelledFrom_map {β : Type} (image : α → β) (next : Label) (elements : List α) :
    labelledFrom next (elements.map image) =
      (labelledFrom next elements).map fun entry => (entry.1, image entry.2) := by
  simp [labelledFrom, List.zipIdx_map, Function.comp_def]

/-- Test events that say the same have the same images under labels that are counted up. -/
theorem map_labelledFrom_eq_of_content {image : Label × Event S → α}
    (depends : ∀ entry, image entry = image (entry.1, .saying entry.2.content))
    (same : group'.map Event.content = group.map Event.content) (next : Label) :
    (labelledFrom next group').map image = (labelledFrom next group).map image := by
  have said : ∀ group : List (Event S), (labelledFrom next group).map image =
      (labelledFrom next (group.map Event.content)).map fun entry =>
        image (entry.1, .saying entry.2) := by
    intro group
    rw [labelledFrom_map, List.map_map]
    exact List.map_congr_left fun entry _ => depends entry
  rw [said, said, same]

/-- A step over test events that say the same, under a label with the same outcome, comes to the
same: nothing else of the events is kept. -/
theorem testStep_renamed [Zero S] {outcomes outcomes' : SortedMap Label (MatchOutcome S)}
    (answered : outcomes'.get? (rename label) = outcomes.get? label)
    (tags : clustering'.tags = clustering.tags)
    (same : group'.map Event.content = group.map Event.content) {split split' : TestSplit S}
    {after : List (Event S)}
    (stepped : testStep outcomes clustering tagLimit split label group = .ok (split', after)) :
    testStep outcomes' clustering' tagLimit split (rename label) group' = .ok (split', after) := by
  rw [testStep] at stepped ⊢
  cases found : outcomes.get? label with
  | none =>
    rw [found] at stepped
    cases stepped
  | some outcome =>
    rw [answered, found, tagsOf_congr tags]
    rw [found] at stepped
    have size : group'.length = group.length := by
      simpa using congrArg List.length same
    cases isMatched : matched? outcome with
    | some cluster =>
      simp only [isMatched] at stepped ⊢
      rw [foldl_eq_of_content (fun _ _ => rfl) same, map_eq_of_content (fun _ => rfl) same]
      exact stepped
    | none =>
      simp only [isMatched] at stepped ⊢
      rw [map_labelledFrom_eq_of_content (fun _ => rfl) same,
        map_labelledFrom_eq_of_content (fun _ => rfl) same, size]
      exact stepped

/-- Test events that say the same under renamed labels are split alike, and come to be the same, when
their labels have the same outcomes. -/
theorem relabelTest_renamed [Zero S] {outcomes outcomes' : SortedMap Label (MatchOutcome S)}
    {events events' after : EventMap S} {split : TestSplit S}
    (same : events.Renamed rename Event.content events')
    (answered : ∀ label ∈ events.keys, outcomes'.get? (rename label) = outcomes.get? label)
    (tags : clustering'.tags = clustering.tags)
    (relabelled : relabelTest outcomes clustering tagLimit events = (.ok split, after)) :
    ∃ after', relabelTest outcomes' clustering' tagLimit events' = (.ok split, after') ∧
      after.Renamed rename id after' := by
  have swept := relabelTest_eq_ok.1 relabelled
  obtain ⟨after', swept', renamed⟩ := same.sweep (fun label member _ _ same _ _ _ stepped =>
    ⟨_, testStep_renamed (answered label member) tags same stepped, rfl⟩) swept
  exact ⟨after', relabelTest_eq_ok.2 swept', renamed⟩

end Matching

end LogDrift
