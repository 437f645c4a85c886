import LogDrift.Proofs.Matching.Holding
import LogDrift.Proofs.Matching.Own
import LogDrift.Proofs.Session.Unchanged
import LogDrift.Proofs.Store.Restored

/-!
# Running again over a saved state

A run can be repeated over nothing but the state that it saved. The repetition completes, and it
never splits a cluster, since all events of a cluster come back under one label. But it learns its
own vocabulary from what was saved, in which the clusters count once each and unmatched events one
by one, so that it may unite clusters whose first texts have become similar.
-/

namespace LogDrift

variable {S : Type}

open Matching

/-- The first element that passes leads its group when the elements of every group all pass or all
fail. -/
theorem exists_head_of_filter {α : Type} {passes : α → Bool} {groups : List (List α)}
    (uniform : ∀ group ∈ groups, ∀ left ∈ group, ∀ right ∈ group, passes left = passes right)
    {first : α} (found : (groups.flatten.filter passes).head? = some first) :
    ∃ group ∈ groups, group.head? = some first := by
  induction groups with
  | nil => cases found
  | cons group rest ih =>
    rw [List.forall_mem_cons] at uniform
    rw [List.flatten_cons, List.filter_append] at found
    cases kept : group.filter passes with
    | nil =>
      rw [kept, List.nil_append] at found
      rcases ih uniform.2 found with ⟨other, isGroup, leads⟩
      exact ⟨other, .tail _ isGroup, leads⟩
    | cons passing others =>
      have all : group.filter passes = group := by
        rw [List.filter_eq_self]
        have passed : passing ∈ group.filter passes := kept ▸ .head _
        rw [List.mem_filter] at passed
        intro element member
        rw [uniform.1 element member passing passed.1, passed.2]
      rw [all] at found kept
      rw [kept] at found ⊢
      exact ⟨_, .head _, found⟩

namespace Session

open CentroidModel

variable {W : Type} [Scalar S]

/-- What a run with the clusterer at hand saves of the events of a store under a vocabulary. -/
structure Saves (threshold : S) (vocabulary : Vocabulary S) (store : Store S)
    (saved : Snapshot S) : Prop where
  control : List.Forall₂ (Taken (clustered threshold vocabulary store.controlTexts))
    store.control.entries saved.controlEvents.entries
  holds : saved.controlClusters.Holds ControlEntry.content saved.controlEvents.all
  keyed : saved.controlClusters.Keyed saved.controlEvents.all
  test : saved.testEvents.contents = store.test.contents
  decided : ∀ text ∈ store.testTexts, ∀ events,
    saved.testEvents.get? text.label = some events →
      Decides ((clustered threshold vocabulary store.controlTexts).model.matchText threshold
        text.text) events
  own : (ownLabels saved.testEvents.all).Pairwise (· < ·)

/-- A completed run learns a vocabulary and saves what it makes of the events under it. -/
theorem run_saves {threshold : S} {comparer : Comparer S} {store : Store S}
    {settings : AnalysisSettings S} {known : KnownClusters} {query : Option String} {world : W}
    {score : S} {unknown anomalies : Nat} {after : Session S × W}
    (ran : Yields (run (clusterer W threshold) comparer) (start store settings known query, world)
      (.completed score unknown anomalies) after) :
    ∃ vocabulary : Vocabulary S,
      Vocabulary.learnOrRelax (store.texts.map LabelledText.text) settings.termFilter =
        .ok vocabulary ∧
      (0 < store.control.size ∧ store.control.size ≤ settings.clusterLimit) ∧
      Saves threshold vocabulary store after.1.snapshot := by
  rcases run_decides ran with ⟨vocabulary, learnt, _, contents, decided⟩
  refine ⟨vocabulary, learnt, ?_⟩
  rcases run_cases ran with ⟨_, _, skipped, _⟩ | ⟨_, rated, ⟨course⟩, moved⟩
  · cases skipped
  · refine ⟨skipReason?_eq_none.1 course.analysed, ?_⟩
    rcases course.outline with ⟨outline⟩
    obtain ⟨_, learnt', clustering, _⟩ := exists_learnt_of_matched course.matched
    cases learnt.symm.trans learnt'
    have control := outline.control
    rw [clustering] at control
    have same : after.1.store = rated.1.store ∧
        ClusterMap.contents ControlEntry.content after.1.maps.control =
          ClusterMap.contents ControlEntry.content rated.1.maps.control := by
      rcases moved with same | ⟨points, same⟩
      · rw [same]
        exact ⟨rfl, rfl⟩
      · rw [same, store_moveClusters]
        exact ⟨rfl, contents_moveClusters .control (fun _ _ => rfl) _ points rated.1⟩
    rcases same with ⟨events, clusters⟩
    constructor
    case control =>
      rw [snapshot, events]
      exact relabelControl_taken control
    case holds =>
      rw [snapshot, events]
      exact (relabelControl_spec control).1.of_contents clusters
    case keyed =>
      rw [snapshot, events]
      exact (keyed_relabelControl control).of_contents clusters
    case test => exact contents
    case decided => exact decided
    case own =>
      rw [snapshot, events]
      exact (ascending_relabelTest outline.test).ascending

namespace Saves

variable {threshold : S} {vocabulary : Vocabulary S} {store : Store S} {saved : Snapshot S}

/-- Every saved control event says what an event of the store says whose label is in its cluster. -/
theorem exists_original (saves : Saves threshold vocabulary store saved) {key : Label}
    {group : List (Event S)} (member : (key, group) ∈ saved.controlEvents.entries) :
    ∃ cluster before, (key, before) ∈ store.control.entries ∧
      (clustered threshold vocabulary store.controlTexts).clusterOf? key = some cluster ∧
      group = before.map fun event => { event with label := cluster } := by
  rcases exists_left_of_forall₂ saves.control member with
    ⟨⟨key, before⟩, present, rfl, cluster, assigned, same⟩
  exact ⟨cluster, before, present, assigned, same⟩

/-- Every text that a saved control side is restored with is one of the store, in the cluster whose
number it is kept under. -/
theorem exists_original_text (saves : Saves threshold vocabulary store saved)
    {text : LabelledText} (member : text ∈ saved.restored.controlTexts) :
    ∃ original ∈ store.controlTexts, original.text = text.text ∧ ∃ cluster,
      (clustered threshold vocabulary store.controlTexts).clusterOf? original.label =
        some cluster ∧ text.label = cluster.moved := by
  rcases (Snapshot.mem_texts_restored .control).1 member with ⟨event, first, said⟩
  have moved := (List.mem_filter.1 (List.mem_of_mem_head? first)).2
  have uniform : ∀ group ∈ saved.controlEvents.values, ∀ left ∈ group, ∀ right ∈ group,
      left.label = right.label := by
    intro group isGroup left inLeft right inRight
    rcases List.mem_map.1 isGroup with ⟨⟨key, group⟩, stored, rfl⟩
    rcases saves.exists_original stored with ⟨cluster, before, _, _, same⟩
    simp only at inLeft inRight
    rw [same, List.mem_map] at inLeft inRight
    rcases inLeft with ⟨_, _, rfl⟩
    rcases inRight with ⟨_, _, rfl⟩
    rfl
  rcases exists_head_of_filter (fun group isGroup left inLeft right inRight => by
    rw [uniform group isGroup left inLeft right inRight]) first with ⟨group, isGroup, leads⟩
  rcases List.mem_map.1 isGroup with ⟨⟨key, group⟩, stored, rfl⟩
  rcases saves.exists_original stored with ⟨cluster, before, origin, assigned, rfl⟩
  rw [List.head?_map, Option.map_eq_some_iff] at leads
  rcases leads with ⟨source, leads, rfl⟩
  rcases List.head?_eq_some_iff.1 leads with ⟨rest, rfl⟩
  refine ⟨⟨key, text.text⟩, ?_, rfl, cluster, assigned, (of_decide_eq_true moved).symm⟩
  exact EventMap.mem_texts_iff.2 ⟨source, rest, origin, said⟩

/-- Every cluster has a text when the saved control side is restored. -/
theorem exists_restored_text (saves : Saves threshold vocabulary store saved)
    {original : LabelledText} (member : original ∈ store.controlTexts) :
    ∃ text ∈ saved.restored.controlTexts, ∃ cluster,
      (clustered threshold vocabulary store.controlTexts).clusterOf? original.label =
        some cluster ∧ text.label = cluster.moved := by
  rcases EventMap.exists_group_of_mem_texts member with ⟨event, rest, stored, _⟩
  rcases exists_right_of_forall₂ saves.control stored with
    ⟨⟨key, group⟩, present, _, cluster, assigned, same⟩
  have kept : { event with label := cluster } ∈ saved.controlEvents.all :=
    EventMap.mem_all.2 ⟨_, present, by rw [same]; exact .head _⟩
  rcases Snapshot.exists_text_restored .control kept with ⟨text, inside, label⟩
  exact ⟨text, inside, cluster, assigned, label⟩

/-- A restored control side has labels, but no more than the store. -/
theorem size_restored (saves : Saves threshold vocabulary store saved)
    (occupied : store.control.Occupied) (counted : 0 < store.control.size) :
    0 < saved.restored.control.size ∧ saved.restored.control.size ≤ store.control.size := by
  have filled := saved.built_restored.occupied.1
  constructor
  · rcases List.exists_mem_of_ne_nil _ (List.ne_nil_of_length_pos counted) with ⟨entry, stored⟩
    rcases EventMap.exists_text_of_mem occupied stored with ⟨original, member, _⟩
    rcases saves.exists_restored_text member with ⟨text, inside, _⟩
    rcases EventMap.exists_group_of_mem_texts inside with ⟨_, _, present, _⟩
    exact List.length_pos_of_mem present
  · have bounded : saved.restored.control.keys ⊆ store.controlTexts.map fun original =>
        Label.moved (((clustered threshold vocabulary store.controlTexts).clusterOf?
          original.label).getD 0) := by
      intro key member
      rcases List.mem_map.1 member with ⟨entry, stored, rfl⟩
      rcases EventMap.exists_text_of_mem filled stored with ⟨text, inside, label⟩
      rcases saves.exists_original_text inside with ⟨original, source, _, cluster, assigned, moved⟩
      refine List.mem_map.2 ⟨original, source, ?_⟩
      rw [assigned, Option.getD_some, ← moved, label]
    have fewer := (List.subperm_of_subset saved.restored.control.distinct bounded).length_le
    rw [List.length_map, List.length_map] at fewer
    exact fewer.trans store.control.length_texts_le

/-- A token of a control text is not lost, for the first text of its cluster has one as well. -/
theorem token_restored_control (saves : Saves threshold vocabulary store saved)
    (signs : Scalar.FaithfulSigns S) (positive : 0 < threshold)
    (token : HasToken store.controlTexts) : HasToken saved.restored.controlTexts := by
  rcases token with ⟨original, member, token⟩
  rcases saves.exists_restored_text member with ⟨text, inside, cluster, assigned, label⟩
  rcases saves.exists_original_text inside with ⟨first, source, said, other, assigned', label'⟩
  have same : cluster = other := Label.moved_injective (label.symm.trans label')
  have together : (clustered threshold vocabulary store.controlTexts).clusterOf? original.label =
      (clustered threshold vocabulary store.controlTexts).clusterOf? first.label := by
    rw [assigned, assigned', same]
  refine ⟨text, inside, ?_⟩
  rw [← said]
  exact token_of_cluster signs positive store.control.nodup_labels_texts member source together
    token

/-- A token of a store is not lost. A matched test text has a control text with a token, and an
unmatched one comes back under a label of its own. -/
theorem token_restored (saves : Saves threshold vocabulary store saved)
    (signs : Scalar.FaithfulSigns S) (positive : 0 < threshold) (token : HasToken store.texts) :
    HasToken saved.restored.texts := by
  have controlled : HasToken store.controlTexts → HasToken saved.restored.texts := by
    intro present
    rcases saves.token_restored_control signs positive present with ⟨text, inside, token⟩
    exact ⟨text, List.mem_append_left _ inside, token⟩
  rcases token with ⟨original, member, token⟩
  rcases List.mem_append.1 member with control | test
  · exact controlled ⟨original, control, token⟩
  · rcases EventMap.exists_group_of_mem_texts test with ⟨event, rest, stored, said⟩
    rcases EventMap.exists_get?_of_contents saves.test (OrderedMap.get?_eq_some_iff.2 stored) with
      ⟨events, found, same⟩
    rcases saves.decided original test events found with ⟨cluster, isMatched, _⟩ | ⟨_, own⟩
    · apply controlled
      apply token_of_matched signs positive token
      exact (matched?_eq_some_iff.1 isMatched).1
    · cases events with
      | nil => cases same
      | cons first others =>
        have kept : first ∈ saved.testEvents.all :=
          EventMap.mem_all.2 ⟨_, OrderedMap.get?_eq_some_iff.1 found, .head _⟩
        have alone := filter_label_of_own saves.own kept (own first (.head _))
        have text : first.text = original.text :=
          (congrArg Prod.fst (List.cons_eq_cons.1 same).1).trans said
        refine ⟨⟨first.label.moved, original.text⟩, ?_, token⟩
        apply List.mem_append_right
        apply (Snapshot.mem_texts_restored .test).2
        refine ⟨first, ?_, text⟩
        have moved : saved.movedTo .test first.label.moved = [first] := by
          rw [← alone, Snapshot.movedTo]
          apply List.filter_congr
          intro event _
          exact decide_eq_decide.2 Label.moved_injective.eq_iff
        rw [moved, List.head?_cons]

end Saves

/-! ## The clusters of the repetition -/

/-- The cluster that a saved cluster becomes part of: that of the text it comes back with. -/
def partOf {Model : Type} (clustering : Clustering Model) (cluster : Label) : Label :=
  (clustering.clusterOf? cluster.moved).getD 0

omit [Scalar S] in
/-- Relabelling events that are kept under their moved labels changes the labels cluster by
cluster. -/
theorem flatMap_of_taken {Model : Type} {clustering : Clustering Model}
    {before after : List (Label × List (Event S))}
    (taken : List.Forall₂ (Taken clustering) before after)
    (moved : ∀ entry ∈ before, ∀ event ∈ entry.2,
      event.label.moved = entry.1) :
    after.flatMap Prod.snd = (before.flatMap Prod.snd).map fun event =>
      { event with label := partOf clustering event.label } := by
  induction taken with
  | nil => rfl
  | cons here _ ih =>
    rw [List.forall_mem_cons] at moved
    rw [List.flatMap_cons, List.flatMap_cons, List.map_append, ih moved.2]
    congr 1
    rcases here with ⟨_, cluster, assigned, same⟩
    rw [same]
    apply List.map_congr_left
    intro event member
    rw [partOf, moved.1 event member, assigned, Option.getD_some]

namespace Saves

variable {threshold : S} {vocabulary again : Vocabulary S} {store : Store S}
  {saved later : Snapshot S}

/-- Clustering the restored texts unites saved clusters. -/
theorem unites (saves : Saves threshold vocabulary store saved)
    (repeats : Saves threshold again saved.restored later) :
    saved.controlClusters.Unites
      (partOf (clustered threshold again saved.restored.controlTexts)) later.controlClusters := by
  apply ClusterMap.unites_of_perm saves.holds saves.keyed repeats.holds repeats.keyed
  have kept : ∀ entry ∈ saved.restored.control.entries, ∀ event ∈ entry.2,
      event.label.moved = entry.1 := by
    intro entry stored event member
    have group := ((Snapshot.mem_entries_restored .control).1 stored).1
    rw [group, Snapshot.movedTo, List.mem_filter] at member
    exact of_decide_eq_true member.2
  rw [EventMap.all_eq_flatMap later.controlEvents, flatMap_of_taken repeats.control kept,
    ← EventMap.all_eq_flatMap]
  exact (saved.perm_restored .control).map _

/-- No clusters are united exactly when no restored text is similar to a later one. -/
theorem injOn_partOf_iff (saves : Saves threshold vocabulary store saved) :
    Set.InjOn (partOf (clustered threshold again saved.restored.controlTexts))
        saved.controlClusters.keys.toFinset ↔
      saved.restored.controlTexts.Pairwise fun left right =>
        ¬ Resembles threshold again left right := by
  have labels : (saved.restored.controlTexts.map LabelledText.label).Nodup :=
    saved.restored.control.nodup_labels_texts
  rw [← separate_iff labels]
  have keyed : ∀ text ∈ saved.restored.controlTexts,
      ∃ cluster ∈ saved.controlClusters.keys.toFinset,
        text.label = cluster.moved := by
    intro text member
    rcases Snapshot.exists_event_of_text .control member with ⟨event, present, moved⟩
    have isKey := (saves.keyed event.label).2 (List.mem_map_of_mem present)
    exact ⟨event.label, List.mem_toFinset.2 isKey, moved⟩
  have texted : ∀ cluster ∈ saved.controlClusters.keys.toFinset,
      ∃ text ∈ saved.restored.controlTexts, text.label = cluster.moved := by
    intro cluster member
    rcases List.mem_map.1 ((saves.keyed cluster).1 (List.mem_toFinset.1 member)) with
      ⟨event, present, rfl⟩
    exact Snapshot.exists_text_restored .control present
  constructor
  · intro injective left inLeft right inRight same
    rcases keyed left inLeft with ⟨cluster, isKey, moved⟩
    rcases keyed right inRight with ⟨cluster', isKey', moved'⟩
    rw [moved, moved'] at same
    have equal := injective isKey isKey' (congrArg (fun part => part.getD 0) same)
    apply List.inj_on_of_nodup_map labels inLeft inRight
    rw [moved, moved', equal]
  · intro separate cluster isKey cluster' isKey' same
    rcases texted cluster isKey with ⟨left, inLeft, moved⟩
    rcases texted cluster' isKey' with ⟨right, inRight, moved'⟩
    have assigned := isSome_clusterOf? threshold again inLeft
    have assigned' := isSome_clusterOf? threshold again inRight
    rcases Option.isSome_iff_exists.1 assigned with ⟨part, found⟩
    rcases Option.isSome_iff_exists.1 assigned' with ⟨part', found'⟩
    rw [partOf, partOf, ← moved, ← moved', found, found', Option.getD_some,
      Option.getD_some] at same
    have equal := separate left inLeft right inRight (by rw [found, found', same])
    rw [equal, moved'] at moved
    exact (Label.moved_injective moved).symm

end Saves

/-- What repeating a run over its saved state does to the control clusters. The repetition learns
the vocabulary of the restored texts, and keeps all clusters apart or unites some. -/
theorem exists_repetition (faithful : Scalar.FaithfulCounts S) (signs : Scalar.FaithfulSigns S)
    {threshold : S} (positive : 0 < threshold) (comparer : Comparer S) {store : Store S}
    (built : store.Built) {settings : AnalysisSettings S} {known : KnownClusters}
    {query : Option String} {world : W} {score : S} {unknown anomalies : Nat}
    {first : Session S × W}
    (ran : Yields (run (clusterer W threshold) comparer) (start store settings known query, world)
      (.completed score unknown anomalies) first)
    (known' : KnownClusters) (query' : Option String) (world' : W) :
    ∃ score' unknown' anomalies' second, ∃ vocabulary : Vocabulary S,
      Yields (run (clusterer W threshold) comparer)
        (start first.1.snapshot.restored settings known' query', world')
        (.completed score' unknown' anomalies') second ∧
      Vocabulary.learnOrRelax (first.1.snapshot.restored.texts.map LabelledText.text)
        settings.termFilter = .ok vocabulary ∧
      first.1.snapshot.controlClusters.Unites
        (partOf (clustered threshold vocabulary first.1.snapshot.restored.controlTexts))
        second.1.snapshot.controlClusters ∧
      (second.1.snapshot.controlClusters.holdings = first.1.snapshot.controlClusters.holdings ↔
        first.1.snapshot.restored.controlTexts.Pairwise fun left right =>
          ¬ Resembles threshold vocabulary left right) := by
  rcases run_saves ran with ⟨_, learnt, ⟨counted, few⟩, saves⟩
  have token : HasToken store.texts := by
    rcases Vocabulary.learnOrRelax_cases faithful (store.texts.map LabelledText.text)
      settings.termFilter with ⟨⟨document, member, token⟩, _⟩ | ⟨_, reason, refused⟩
    · rcases List.mem_map.1 member with ⟨text, present, rfl⟩
      exact ⟨text, present, token⟩
    · rw [refused] at learnt
      cases learnt
  rcases saves.size_restored built.occupied.1 counted with ⟨counted', fewer⟩
  have analysed : skipReason? (start first.1.snapshot.restored settings known' query') = none :=
    skipReason?_eq_none.2 ⟨counted', fewer.trans few⟩
  rcases course_of_token faithful threshold comparer
    (start first.1.snapshot.restored settings known' query', world') analysed
    first.1.snapshot.built_restored.occupied (saves.token_restored signs positive token) with
    ⟨rated, ⟨course⟩⟩
  rcases course.completes with ⟨second, ran'⟩
  rcases run_saves ran' with ⟨vocabulary, learnt', _, repeats⟩
  have unites := saves.unites repeats
  refine ⟨_, _, _, second, vocabulary, ran', learnt', unites, ?_⟩
  rw [unites.holdings_eq_iff]
  exact saves.injOn_partOf_iff

end Session

end LogDrift
