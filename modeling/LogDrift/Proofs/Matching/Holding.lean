import LogDrift.Proofs.Matching.Relabelling
import Mathlib.Algebra.BigOperators.Group.Finset.Basic
import Mathlib.Algebra.BigOperators.Pi
import Mathlib.Algebra.Group.WithOne.Defs
import Mathlib.Algebra.Order.Group.Multiset

/-!
# What clusters hold

A cluster holds occurrences on hosts. When its events move to other clusters, what these hold is the
sum of what their parts held, so that one clustering can be compared with a coarser one whatever the
clusters are called.
-/

namespace LogDrift

variable {S E Model : Type}

/-- The occurrences on every host in any order. It is zero for a host without an entry, and not for
an entry without occurrences. -/
abbrev Holding := String → WithZero (Multiset Occurrence)

namespace Holding

/-- Some occurrences on a host that is there. -/
def amount (occurrences : List Occurrence) : WithZero (Multiset Occurrence) :=
  ((occurrences : Multiset Occurrence) : WithZero (Multiset Occurrence))

theorem amount_add (left right : List Occurrence) :
    amount left + amount right = amount (left ++ right) := by
  rw [amount, amount, amount, ← WithZero.coe_add, Multiset.coe_add]

end Holding

/-- What an event brings to its cluster. -/
def Event.holding (event : Event S) : Holding :=
  Pi.single event.host (Holding.amount event.occurrences)

namespace Event

/-- Events on one host bring all their occurrences to it. -/
theorem sum_amounts (first : Event S) (rest : List (Event S)) :
    ((first :: rest).map fun event => Holding.amount event.occurrences).sum =
      Holding.amount ((first :: rest).flatMap Event.occurrences) := by
  induction rest generalizing first with
  | nil => simp
  | cons second rest ih =>
    rw [List.map_cons, List.sum_cons, ih, Holding.amount_add]
    rfl

/-- Events bring their occurrences to their hosts. -/
theorem sum_holding (events : List (Event S)) (host : String) :
    (events.map Event.holding).sum host =
      ((events.filter fun event => event.host = host).map fun event =>
        Holding.amount event.occurrences).sum := by
  induction events with
  | nil => rfl
  | cons event rest ih =>
    rw [List.map_cons, List.sum_cons, Pi.add_apply, ih]
    by_cases here : event.host = host
    · subst here
      rw [List.filter_cons_of_pos (by simp), List.map_cons, List.sum_cons, holding,
        Pi.single_eq_same]
    · rw [List.filter_cons_of_neg (by simpa using here), holding,
        Pi.single_eq_of_ne fun same => here same.symm, zero_add]

/-- What the events of one label hold together. -/
def holdingOf (events : List (Event S)) (cluster : Label) : Holding :=
  ((events.filter fun event => event.label = cluster).map Event.holding).sum

/-- Filing says what the events of a label hold on a host. -/
theorem holdingOf_apply (events : List (Event S)) (cluster : Label) (host : String) :
    holdingOf events cluster host =
      match filed events cluster host with
      | none => 0
      | some (_, occurrences) => Holding.amount occurrences := by
  rw [holdingOf, sum_holding, filed, List.filter_filter]
  simp only [Bool.and_comm]
  cases (events.filter fun event => event.label = cluster && event.host = host) with
  | nil => rfl
  | cons first rest => exact sum_amounts first rest

@[simp] theorem holdingOf_cons (event : Event S) (rest : List (Event S)) (cluster : Label) :
    holdingOf (event :: rest) cluster =
      (if event.label = cluster then event.holding else 0) + holdingOf rest cluster := by
  rw [holdingOf, holdingOf]
  by_cases here : event.label = cluster
  · rw [List.filter_cons_of_pos (by simpa using here), List.map_cons, List.sum_cons, if_pos here]
  · rw [List.filter_cons_of_neg (by simpa using here), if_neg here, zero_add]

/-- The order of events does not matter. -/
theorem holdingOf_perm {events events' : List (Event S)} (same : events.Perm events')
    (cluster : Label) : holdingOf events cluster = holdingOf events' cluster :=
  ((same.filter _).map _).sum_eq

/-- Where events move to other labels, what they held under all labels that go to one adds up. -/
theorem holdingOf_map (part : Label → Label) {events : List (Event S)} {labels : Finset Label}
    (covered : ∀ event ∈ events, event.label ∈ labels) (cluster : Label) :
    holdingOf (events.map fun event => { event with label := part event.label }) cluster =
      ∑ label ∈ labels with part label = cluster, holdingOf events label := by
  induction events with
  | nil => exact Finset.sum_const_zero.symm
  | cons event rest ih =>
    rw [List.forall_mem_cons] at covered
    simp only [List.map_cons, holdingOf_cons, ih covered.2, Finset.sum_add_distrib,
      Finset.sum_ite_eq, Finset.mem_filter, covered.1, true_and]
    rfl

end Event

namespace ClusterMap

/-- What a cluster holds. -/
def holding (clusters : ClusterMap (ControlEntry S)) (cluster : Label) : Holding := fun host =>
  match clusters.find? cluster host with
  | none => 0
  | some entry => Holding.amount entry.occurrences

/-- What all clusters hold, whatever they are called. -/
def holdings (clusters : ClusterMap (ControlEntry S)) : Multiset Holding :=
  (clusters.keys.map clusters.holding : List Holding)

/-- Some clusters are unions of others: each of them holds what those hold that `part` sends to
it. -/
structure Unites (part : Label → Label) (clusters united : ClusterMap (ControlEntry S)) :
    Prop where
  keys : united.keys.toFinset = clusters.keys.toFinset.image part
  holding : ∀ cluster, united.holding cluster =
    ∑ piece ∈ clusters.keys.toFinset with part piece = cluster, clusters.holding piece

/-- The clusters that hold something are those with events. -/
def Keyed (clusters : ClusterMap E) (events : List (Event S)) : Prop :=
  ∀ cluster, cluster ∈ clusters.keys ↔ cluster ∈ events.map Event.label

theorem Keyed.of_contents {C F : Type} {content : E → C} {content' : F → C}
    {clusters : ClusterMap E} {clusters' : ClusterMap F} {events : List (Event S)}
    (same : contents content' clusters' = contents content clusters)
    (keyed : Keyed clusters events) : Keyed clusters' events := by
  have keys := congrArg SortedMap.keys same
  rw [contents, contents, SortedMap.keys_mapValues, SortedMap.keys_mapValues] at keys
  intro cluster
  rw [keys]
  exact keyed cluster

theorem Keyed.collect {clusters : ClusterMap E} {events : List (Event S)}
    (keyed : Keyed clusters events) (event : Event S) (update : Option E → E) :
    Keyed (alterEntry clusters event.label event.host update) (events ++ [event]) := by
  intro cluster
  rw [SortedMap.mem_keys_iff, alterEntry, SortedMap.get?_alter, List.map_append, List.mem_append,
    List.map_singleton, List.mem_singleton]
  by_cases here : event.label = cluster
  · rw [if_pos here]
    exact ⟨fun _ => .inr here.symm, fun _ => rfl⟩
  · rw [if_neg here, ← SortedMap.mem_keys_iff, keyed cluster]
    exact ⟨.inl, fun either => either.resolve_right fun same => here same.symm⟩

/-- What a cluster holds is what the events hold that are filed under it. -/
theorem Holds.holding {clusters : ClusterMap (ControlEntry S)} {events : List (Event S)}
    (holds : clusters.Holds ControlEntry.content events) (cluster : Label) :
    clusters.holding cluster = Event.holdingOf events cluster := by
  funext host
  rw [Event.holdingOf_apply, ← holds cluster host, ClusterMap.holding]
  cases clusters.find? cluster host <;> rfl

/-- Events that move to other clusters unite the clusters that they were in. -/
theorem unites_of_perm {part : Label → Label} {clusters united : ClusterMap (ControlEntry S)}
    {events events' : List (Event S)} (holds : clusters.Holds ControlEntry.content events)
    (keyed : clusters.Keyed events) (holds' : united.Holds ControlEntry.content events')
    (keyed' : united.Keyed events')
    (moved : events'.Perm (events.map fun event => { event with label := part event.label })) :
    clusters.Unites part united := by
  constructor
  case keys =>
    ext cluster
    rw [List.mem_toFinset, keyed', (moved.map Event.label).mem_iff, List.map_map, Finset.mem_image,
      List.mem_map]
    constructor
    · intro found
      rcases found with ⟨event, member, rfl⟩
      exact ⟨event.label, List.mem_toFinset.2 ((keyed _).2 (List.mem_map_of_mem member)), rfl⟩
    · intro found
      rcases found with ⟨label, member, rfl⟩
      rcases List.mem_map.1 ((keyed _).1 (List.mem_toFinset.1 member)) with ⟨event, present, rfl⟩
      exact ⟨event, present, rfl⟩
  case holding =>
    intro cluster
    have covered : ∀ event ∈ events, event.label ∈ clusters.keys.toFinset := fun event member =>
      List.mem_toFinset.2 ((keyed _).2 (List.mem_map_of_mem member))
    rw [holds'.holding, Event.holdingOf_perm moved, Event.holdingOf_map part covered]
    exact Finset.sum_congr rfl fun label _ => (holds.holding label).symm

theorem holdings_eq (clusters : ClusterMap (ControlEntry S)) :
    clusters.holdings = clusters.keys.toFinset.val.map clusters.holding := by
  rw [holdings, List.toFinset_val, List.dedup_eq_self.2 clusters.nodup_keys, Multiset.map_coe]

/-- United clusters hold the same as their parts exactly when each of them has only one. -/
theorem Unites.holdings_eq_iff {part : Label → Label}
    {clusters united : ClusterMap (ControlEntry S)} (unites : clusters.Unites part united) :
    united.holdings = clusters.holdings ↔ Set.InjOn part clusters.keys.toFinset := by
  rw [holdings_eq, holdings_eq, unites.keys]
  constructor
  · intro same
    have sizes := congrArg Multiset.card same
    rw [Multiset.card_map, Multiset.card_map] at sizes
    exact Finset.card_image_iff.1 sizes
  · intro injective
    rw [Finset.image_val_of_injOn injective, Multiset.map_map]
    apply Multiset.map_congr rfl
    intro piece member
    have only : clusters.keys.toFinset.filter (fun other => part other = part piece) = {piece} := by
      ext other
      rw [Finset.mem_filter, Finset.mem_singleton]
      constructor
      · exact fun both => injective both.1 member both.2
      · intro same
        subst same
        exact ⟨member, rfl⟩
    rw [Function.comp_apply, unites.holding, only, Finset.sum_singleton]

end ClusterMap

namespace Matching

theorem keyed_foldl (tags : List String) (cluster : Label) (group : List (Event S))
    {clusters : ClusterMap (ControlEntry S)} {events : List (Event S)}
    (keyed : clusters.Keyed events) :
    (group.foldl (collectControl tags cluster) clusters).Keyed
      (events ++ group.map fun event => { event with label := cluster }) := by
  induction group generalizing clusters events with
  | nil => simpa using keyed
  | cons event rest ih =>
    have collected : (collectControl tags cluster clusters event).Keyed
        (events ++ [{ event with label := cluster }]) :=
      keyed.collect { event with label := cluster } _
    have later := ih collected
    rw [List.append_assoc] at later
    exact later

/-- Relabelling control events leaves the clusters that have events. -/
theorem keyed_relabelControl {clustering : Clustering Model} {tagLimit : Nat}
    {events events' : EventMap S} {clusters : ClusterMap (ControlEntry S)}
    (relabelled : relabelControl clustering tagLimit events = (.ok clusters, events')) :
    clusters.Keyed events'.all := by
  have swept := relabelControl_eq_ok.1 relabelled
  rw [EventMap.all_eq_flatMap]
  refine OrderedMap.sweep_induction
    (fun (clusters : ClusterMap (ControlEntry S)) _ after =>
      clusters.Keyed (after.flatMap Prod.snd)) ?_ ?_ swept
  · exact fun _ => Iff.rfl
  · intro clusters before after label group clusters' group' keyed stepped
    obtain ⟨cluster, _, rfl, rfl⟩ := controlStep_cases stepped
    rw [List.flatMap_append, List.flatMap_singleton]
    exact keyed_foldl _ cluster group keyed

end Matching

end LogDrift
