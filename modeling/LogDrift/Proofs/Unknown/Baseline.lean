import LogDrift.Proofs.Unknown.Collection
import LogDrift.Similarity.Gram

/-!
# Which texts unknown messages are compared with

An entry of an unknown cluster has the label of one of its events, whatever group it comes from. If
the labels of all events are those of control clusters, then every entry has a live text to be
compared with, and texts of known clusters are never asked for.
-/

namespace LogDrift

variable {S C : Type}

/-- The text of the first host of a control cluster. -/
def Unknown.liveText (control : ClusterMap (ControlEntry S)) (label : Label) : Option String :=
  (control.get? label).bind fun hosts => hosts.values.head?.map ControlEntry.text

/-- Whether a label is that of a control cluster with entries. -/
def Unknown.Live (control : ClusterMap (ControlEntry S)) (label : Label) : Prop :=
  ∃ text, liveText control label = some text

namespace ClusterMap

variable {E : Type}

/-- Images that agree on all entries of a cluster map make the same map. -/
theorem mapValues_congr {clusters : ClusterMap E} {image image' : E → C}
    (same : clusters.All fun entry => image entry = image' entry) :
    (clusters.mapValues fun hosts => hosts.mapValues image) =
      clusters.mapValues fun hosts => hosts.mapValues image' := by
  apply SortedMap.mapValues_congr
  intro cluster present
  apply SortedMap.mapValues_congr
  intro entry inside
  exact same cluster.1 entry.1 _ (find?_of_mem_entries present inside)

end ClusterMap

namespace Unknown

/-! ## Live texts -/

theorem liveText_eq (control : ClusterMap (ControlEntry S)) (label : Label) :
    liveText control label =
      ((ClusterMap.contents ControlEntry.text control).get? label).bind fun texts =>
        texts.values.head? := by
  rw [liveText, ClusterMap.contents, SortedMap.get?_mapValues]
  cases control.get? label with
  | none => rfl
  | some hosts => simp

theorem live_of_find? {control : ClusterMap (ControlEntry S)} {label : Label} {host : String}
    {entry : ControlEntry S} (found : control.find? label host = some entry) :
    Live control label := by
  rcases ClusterMap.find?_eq_some_iff.1 found with ⟨hosts, present, found⟩
  have nonempty := List.ne_nil_of_mem (SortedMap.mem_values_of_get? found)
  rw [Live, liveText, present, Option.bind_some, List.head?_eq_some_head nonempty]
  exact ⟨_, rfl⟩

/-- A live text is compared with before any other. -/
theorem baselineText_of_live {control : ClusterMap (ControlEntry S)} {label : Label}
    {text : String} (live : liveText control label = some text) (known : KnownClusters) :
    baselineText label control known = some text := by
  rw [liveText] at live
  rw [baselineText, live]
  rfl

/-! ## Labels of entries -/

variable [Scalar S] {passes : Label → Prop}

/-- The labels of entries are labels of events. -/
theorem labels_groupEvents {groups : List (List (UnknownEvent S))}
    {assignments : SortedMap Label Label} {grouping : Grouping S}
    (passed : ∀ group ∈ groups, ∀ event ∈ group, passes event.label)
    (grouped : groupEvents groups assignments = .ok grouping) :
    grouping.clusters.All fun entry => passes entry.label := by
  intro cluster host entry found
  rw [(collected_groupEvents grouped).entries] at found
  obtain ⟨event, inside, same, _⟩ := exists_event_of_gathered found
  obtain ⟨group, listed, held⟩ := exists_group_of_mem_eventsAt inside
  exact same ▸ passed group listed event held

/-- Scoring keeps the labels of entries. -/
theorem labels_scoreEvents {grouping : Grouping S}
    (all : grouping.clusters.All fun entry => passes entry.label) :
    (scoreEvents grouping).clusters.All fun entry => passes entry.label :=
  ClusterMap.All.of_contents (contents_scoreEvents (fun _ _ _ => rfl) grouping) passes all

/-! ## Comparing -/

/-- Where every entry has a live text, known clusters make no difference. -/
theorem attachAlerts_known {control : ClusterMap (ControlEntry S)}
    {clusters : ClusterMap (UnknownEntry S)}
    (live : clusters.All fun entry => Live control entry.label)
    (comparer : Comparer S) (known known' : KnownClusters) (band : S × S) :
    attachAlerts comparer control known band clusters =
      attachAlerts comparer control known' band clusters := by
  apply ClusterMap.mapValues_congr
  intro cluster host entry found
  rcases live cluster host entry found with ⟨text, alive⟩
  rw [alerted, alerted, baselineText_of_live alive, baselineText_of_live alive]

/-- An entry scores the share of grams that its text has in common with a live text. -/
def ComparedLive (size : Nat) (control : ClusterMap (ControlEntry S)) (entry : UnknownEntry S) :
    Prop :=
  ∃ text, liveText control entry.label = some text ∧
    entry.alertScore = some (Gram.overlap size text entry.text)

/-- Whether an entry is compared with a live text depends on its text, label and score and on the
texts of the control clusters. -/
theorem comparedLive_iff (size : Nat) (control : ClusterMap (ControlEntry S))
    (entry : UnknownEntry S) :
    ComparedLive size control entry ↔ ∃ text,
      ((ClusterMap.contents ControlEntry.text control).get? entry.label).bind
        (fun texts => texts.values.head?) = some text ∧
      entry.alertScore = some (Gram.overlap size text entry.text) := by
  rw [ComparedLive, liveText_eq]

/-- Where every entry has a live text, all are compared with theirs. -/
theorem comparedLive_attachAlerts {control : ClusterMap (ControlEntry S)}
    {clusters : ClusterMap (UnknownEntry S)}
    (live : clusters.All fun entry => Live control entry.label) (size : Nat)
    (known : KnownClusters) (band : S × S) :
    (attachAlerts (Gram.comparer size) control known band clusters).All
      (ComparedLive size control) := by
  intro cluster host entry found
  have image : ClusterMap.find? (ClusterMap.contents
      (alerted (Gram.comparer size) control known band) clusters) cluster host = some entry := found
  rw [ClusterMap.find?_contents, Option.map_eq_some_iff] at image
  rcases image with ⟨before, present, rfl⟩
  rcases live cluster host before present with ⟨text, alive⟩
  have scored : ((Gram.comparer size : Comparer S).similarity text [before.text]).head? =
      some (Gram.overlap size text before.text) := rfl
  simp only [alerted, baselineText_of_live alive, compared, scored]
  split
  · exact ⟨text, alive, rfl⟩
  · exact ⟨text, alive, rfl⟩

end Unknown

end LogDrift
