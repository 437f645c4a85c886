import LogDrift.Matching.Control
import LogDrift.Proofs.Layout.Position
import LogDrift.Proofs.Map.Sorted

/-!
# Layout order

Every cluster with hosts has a place: first come the control clusters, then the test clusters, then
the unknown clusters, each by label. The text of a cluster stands at its place among the texts, and
the point at its place is the one that the cluster gets.
-/

namespace LogDrift.Layout

variable {S E : Type}

/-! ## Places -/

/-- The labels of the clusters with hosts. -/
def occupied (clusters : List (Label × SortedMap String E)) : List Label :=
  (clusters.filter fun cluster => !cluster.2.isEmpty).map Prod.fst

/-- The clusters of a kind that have a place. -/
def slots (maps : ClusterMaps S) (kind : Kind) : List (Kind × Label) :=
  (occupied (kind.clusters maps).entries).map fun label => (kind, label)

/-- All clusters with a place, in layout order. -/
def order (maps : ClusterMaps S) : List (Kind × Label) :=
  slots maps .control ++ slots maps .test ++ slots maps .unknown

/-- The text of a cluster: that of its first host. -/
def firstText? (maps : ClusterMaps S) (slot : Kind × Label) : Option String :=
  ((slot.1.clusters maps).get? slot.2).bind fun hosts => hosts.values.head?.map slot.1.text

/-- The place of the first cluster of a kind. -/
def offset (maps : ClusterMaps S) : Kind → Nat
  | .control => 0
  | .test => (slots maps .control).length
  | .unknown => (slots maps .control).length + (slots maps .test).length

/-- One cluster comes before another: its kind comes earlier, or its label is less. -/
def Earlier (left right : Kind × Label) : Prop :=
  left.1.rank < right.1.rank ∨ left.1 = right.1 ∧ left.2 < right.2

/-- The places are those of the clusters with hosts, by kind and label, and the texts are theirs. -/
structure Ordered (maps : ClusterMaps S) : Prop where
  ascends : (order maps).Pairwise Earlier
  hosts : ∀ kind label, (kind, label) ∈ order maps ↔
    ∃ host entry, (kind.clusters maps).find? label host = some entry
  texts : (texts maps).map some = (order maps).map (firstText? maps)

/-- Each cluster has the point at its place, on every host. Where there is no such point, and where
a cluster has no place, nothing changes. -/
structure Placed (points : List (S × S)) (before after : ClusterMaps S) : Prop where
  moved : ∀ (place : Nat) (kind : Kind) (label : Label),
    (order before)[place]? = some (kind, label) →
      (kind.clusters after).get? label = ((kind.clusters before).get? label).map fun hosts =>
        hosts.mapValues fun entry => points[place]?.elim entry fun point => kind.move point entry
  kept : ∀ (kind : Kind) (label : Label), (kind, label) ∉ order before →
    (kind.clusters after).get? label = (kind.clusters before).get? label

/-! ## Clusters with hosts -/

section Occupied

variable {label : Label} {hosts : SortedMap String E} {rest : List (Label × SortedMap String E)}

@[simp] theorem occupied_cons_of_isEmpty (isEmpty : hosts.isEmpty = true) :
    occupied ((label, hosts) :: rest) = occupied rest := by
  simp [occupied, isEmpty]

@[simp] theorem occupied_cons_of_hosts (hosted : hosts.isEmpty = false) :
    occupied ((label, hosts) :: rest) = label :: occupied rest := by
  simp [occupied, hosted]

@[simp] theorem placeHosts_of_isEmpty (move : S × S → E → E) (points : List (S × S))
    (isEmpty : hosts.isEmpty = true) : placeHosts move points hosts = (points, hosts) := by
  simp [placeHosts, isEmpty]

@[simp] theorem placeHosts_of_hosts (move : S × S → E → E) (points : List (S × S))
    (hosted : hosts.isEmpty = false) :
    placeHosts move points hosts =
      (points.tail, hosts.mapValues fun entry => points.head?.elim entry (move · entry)) := by
  cases points <;> simp [placeHosts, hosted]

end Occupied

@[simp] theorem mem_occupied_iff {clusters : ClusterMap E} {label : Label} :
    label ∈ occupied clusters.entries ↔
      ∃ hosts, clusters.get? label = some hosts ∧ hosts.isEmpty = false := by
  simp only [occupied, List.mem_map, List.mem_filter, Bool.not_eq_true']
  constructor
  · rintro ⟨⟨label, hosts⟩, ⟨member, hosted⟩, rfl⟩
    exact ⟨hosts, SortedMap.get?_of_mem_entries member, hosted⟩
  · rintro ⟨hosts, found, hosted⟩
    exact ⟨(label, hosts), ⟨SortedMap.mem_entries_of_get? found, hosted⟩, rfl⟩

theorem ascending_occupied (clusters : ClusterMap E) :
    (occupied clusters.entries).Pairwise (· < ·) := by
  rw [occupied, List.pairwise_map]
  apply (clusters.sorted.filter _).imp
  intro left right
  exact Int.compare_eq_lt.1

theorem nodup_occupied (clusters : ClusterMap E) : (occupied clusters.entries).Nodup :=
  (ascending_occupied clusters).imp fun less => Int.ne_of_lt less

/-- The clusters with hosts are those with entries. -/
theorem mem_occupied_iff_find? {clusters : ClusterMap E} {label : Label} :
    label ∈ occupied clusters.entries ↔ ∃ host entry, clusters.find? label host = some entry := by
  simp only [mem_occupied_iff, ClusterMap.find?_eq_some_iff]
  constructor
  · rintro ⟨hosts, found, hosted⟩
    cases listed : hosts.entries with
    | nil => simp [SortedMap.isEmpty, listed] at hosted
    | cons head rest =>
      have present : head ∈ hosts.entries := by simp [listed]
      exact ⟨head.1, head.2, hosts, found, SortedMap.get?_of_mem_entries present⟩
  · rintro ⟨host, entry, hosts, found, present⟩
    refine ⟨hosts, found, ?_⟩
    have member := SortedMap.mem_entries_of_get? present
    cases listed : hosts.entries with
    | nil => simp [listed] at member
    | cons head rest => simp [SortedMap.isEmpty, listed]

/-- There is a text for every cluster with hosts. -/
theorem map_some_firstTexts (text : E → String) (clusters : ClusterMap E) :
    (firstTexts text clusters).map some = (occupied clusters.entries).map fun label =>
      (clusters.get? label).bind fun hosts => hosts.values.head?.map text := by
  have listed : ∀ entries : List (Label × SortedMap String E),
      (entries.filterMap fun cluster => cluster.2.values.head?.map text).map some =
        (entries.filter fun cluster => !cluster.2.isEmpty).map fun cluster =>
          cluster.2.values.head?.map text := by
    intro entries
    induction entries with
    | nil => rfl
    | cons head rest ih =>
      obtain ⟨label, ⟨_ | ⟨first, others⟩, sorted⟩⟩ := head <;>
        simpa [SortedMap.isEmpty, SortedMap.values, List.filterMap_cons] using ih
  calc (firstTexts text clusters).map some
    _ = (clusters.entries.filter fun cluster => !cluster.2.isEmpty).map fun cluster =>
        cluster.2.values.head?.map text := by
      rw [firstTexts, SortedMap.values, List.filterMap_map]
      exact listed clusters.entries
    _ = _ := by
      rw [occupied, List.map_map]
      apply List.map_congr_left
      intro cluster member
      have found : clusters.get? cluster.1 = some cluster.2 :=
        SortedMap.get?_of_mem_entries (List.mem_filter.1 member).1
      simp [found]

/-! ## The order -/

@[simp] theorem mem_slots_iff {maps : ClusterMaps S} {kind listed : Kind} {label : Label} :
    (kind, label) ∈ slots maps listed ↔
      kind = listed ∧ label ∈ occupied (listed.clusters maps).entries := by
  rw [slots, List.mem_map]
  constructor
  · rintro ⟨label, member, same⟩
    cases same
    exact ⟨rfl, member⟩
  · rintro ⟨rfl, member⟩
    exact ⟨label, member, rfl⟩

@[simp] theorem mem_order_iff {maps : ClusterMaps S} {kind : Kind} {label : Label} :
    (kind, label) ∈ order maps ↔ label ∈ occupied (kind.clusters maps).entries := by
  cases kind <;> simp [order]

theorem ascending_slots (maps : ClusterMaps S) (kind : Kind) :
    (slots maps kind).Pairwise Earlier := by
  rw [slots, List.pairwise_map]
  exact (ascending_occupied (kind.clusters maps)).imp fun less => .inr ⟨rfl, less⟩

/-- Clusters of an earlier kind come first. -/
theorem earlier_of_mem_slots {maps : ClusterMaps S} {first second : Kind}
    (less : first.rank < second.rank) :
    ∀ left ∈ slots maps first, ∀ right ∈ slots maps second, Earlier left right := by
  rintro ⟨kind, label⟩ early ⟨kind', label'⟩ late
  obtain ⟨rfl, _⟩ := mem_slots_iff.1 early
  obtain ⟨rfl, _⟩ := mem_slots_iff.1 late
  exact .inl less

theorem ascending_order (maps : ClusterMaps S) : (order maps).Pairwise Earlier := by
  rw [order, List.pairwise_append, List.pairwise_append]
  refine ⟨⟨ascending_slots maps .control, ascending_slots maps .test, ?_⟩,
    ascending_slots maps .unknown, ?_⟩
  · exact earlier_of_mem_slots (by decide)
  · intro left member
    rcases List.mem_append.1 member with control | test
    · exact earlier_of_mem_slots (by decide) left control
    · exact earlier_of_mem_slots (by decide) left test

/-- The texts are those of the clusters with a place, in layout order. -/
theorem map_some_texts (maps : ClusterMaps S) :
    (texts maps).map some = (order maps).map (firstText? maps) := by
  simp only [texts, order, slots, List.map_append, map_some_firstTexts, List.map_map]
  rfl

theorem ordered (maps : ClusterMaps S) : Ordered maps where
  ascends := ascending_order maps
  hosts _ _ := mem_order_iff.trans mem_occupied_iff_find?
  texts := map_some_texts maps

/-- The place of a cluster among all is its place among those of its kind, counted from where these
begin. -/
theorem exists_of_getElem?_order {maps : ClusterMaps S} {place : Nat} {kind : Kind} {label : Label}
    (there : (order maps)[place]? = some (kind, label)) :
    ∃ own, place = offset maps kind + own ∧
      (occupied (kind.clusters maps).entries)[own]? = some label := by
  have slot : ∀ {listed : Kind} {own : Nat}, (slots maps listed)[own]? = some (kind, label) →
      kind = listed ∧ (occupied (listed.clusters maps).entries)[own]? = some label := by
    intro listed own found
    simp only [slots, List.getElem?_map, Option.map_eq_some_iff, Prod.mk.injEq] at found
    obtain ⟨label', found, rfl, rfl⟩ := found
    exact ⟨rfl, found⟩
  rw [order, List.getElem?_append, List.getElem?_append] at there
  split at there
  · split at there
    · obtain ⟨rfl, found⟩ := slot there
      exact ⟨_, by simp [offset], found⟩
    · obtain ⟨rfl, found⟩ := slot there
      exact ⟨_, by simp only [offset]; omega, found⟩
  · next later =>
    obtain ⟨rfl, found⟩ := slot there
    rw [List.length_append] at later found
    exact ⟨_, by simp only [offset]; omega, found⟩

/-! ## Points -/

/-- Points are given in turn to the clusters with hosts. -/
theorem accumulateEntries_placeHosts (move : S × S → E → E)
    {clusters : List (Label × SortedMap String E)} (distinct : (clusters.map Prod.fst).Nodup)
    (points : List (S × S)) :
    SortedMap.accumulateEntries (fun points _ hosts => placeHosts move points hosts) points
        clusters =
      (points.drop (occupied clusters).length, clusters.map fun cluster =>
        (cluster.1, cluster.2.mapValues fun entry =>
          points[(occupied clusters).idxOf cluster.1]?.elim entry (move · entry))) := by
  induction clusters generalizing points with
  | nil => rfl
  | cons head rest ih =>
    obtain ⟨label, hosts⟩ := head
    rw [List.map_cons, List.nodup_cons] at distinct
    cases isEmpty : hosts.isEmpty with
    | true =>
      simp [SortedMap.accumulateEntries, isEmpty, ih distinct.2,
        SortedMap.mapValues_of_isEmpty isEmpty]
    | false =>
      have later : ∀ cluster ∈ rest,
          (label :: occupied rest).idxOf cluster.1 = (occupied rest).idxOf cluster.1 + 1 := by
        intro cluster member
        have differ : label ≠ cluster.1 := fun same =>
          distinct.1 (List.mem_map.2 ⟨cluster, member, same.symm⟩)
        rw [List.idxOf_cons, beq_eq_false_iff_ne.2 differ, cond_false]
      simp only [SortedMap.accumulateEntries, placeHosts_of_hosts move points isEmpty,
        ih distinct.2, occupied_cons_of_hosts isEmpty, List.drop_tail, List.getElem?_tail,
        List.length_cons, List.map_cons, List.idxOf_cons_self, List.head?_eq_getElem?,
        Prod.mk.injEq, true_and, List.cons.injEq]
      apply List.map_congr_left
      intro cluster member
      rw [later cluster member]

@[simp]
theorem fst_placeClusters (move : S × S → E → E) (points : List (S × S)) (clusters : ClusterMap E) :
    (placeClusters move points clusters).1 = points.drop (occupied clusters.entries).length := by
  have given := accumulateEntries_placeHosts move clusters.nodup_keys points
  simp only [placeClusters, SortedMap.accumulate, given]

theorem get?_placeClusters (move : S × S → E → E) (points : List (S × S)) (clusters : ClusterMap E)
    (label : Label) :
    (placeClusters move points clusters).2.get? label = (clusters.get? label).map fun hosts =>
      hosts.mapValues fun entry =>
        points[(occupied clusters.entries).idxOf label]?.elim entry (move · entry) := by
  have given := accumulateEntries_placeHosts move clusters.nodup_keys points
  have placed : (placeClusters move points clusters).2 = clusters.mapEntries fun label hosts =>
      hosts.mapValues fun entry =>
        points[(occupied clusters.entries).idxOf label]?.elim entry (move · entry) := by
    ext : 1
    simp only [placeClusters, SortedMap.accumulate, given]
    rfl
  rw [placed, SortedMap.get?_mapEntries]

/-- The clusters of a kind get the points that the earlier ones leave. -/
theorem clusters_place (points : List (S × S)) (maps : ClusterMaps S) (kind : Kind) :
    kind.clusters (place points maps) =
      (placeClusters (fun point => kind.move point) (points.drop (offset maps kind))
        (kind.clusters maps)).2 := by
  cases kind <;> simp only [place, fst_placeClusters, offset, slots, List.length_map,
    List.drop_drop, List.drop_zero] <;> rfl

theorem placed_place (points : List (S × S)) (maps : ClusterMaps S) :
    Placed points maps (place points maps) where
  moved place kind label there := by
    obtain ⟨own, rfl, found⟩ := exists_of_getElem?_order there
    obtain ⟨bound, same⟩ := List.getElem?_eq_some_iff.1 found
    have own : (occupied (kind.clusters maps).entries).idxOf label = own := by
      rw [← same]
      exact (nodup_occupied _).idxOf_getElem own bound
    rw [clusters_place, get?_placeClusters, own, List.getElem?_drop]
  kept kind label absent := by
    rw [mem_order_iff, mem_occupied_iff] at absent
    rw [clusters_place, get?_placeClusters]
    cases found : (kind.clusters maps).get? label with
    | none => rfl
    | some hosts =>
      have isEmpty : hosts.isEmpty = true := by
        simpa [found] using absent
      simp only [Option.map_some, SortedMap.mapValues_of_isEmpty isEmpty]

end LogDrift.Layout
