import Mathlib
import LogDrift.Proofs.FirstUses
import LogDrift.Proofs.Store.Keys

/-!
# Stores as groups

A store that is filled from nothing groups by label what is added to it and changes none of it. The
labels of a side stand in the order of their first use, and the events of a label in the order in
which they were added. One text stands for each label, that of its first event.
-/

namespace LogDrift

namespace OrderedMap

variable {K V : Type}

@[simp]
theorem keys_alter [DecidableEq K] (map : OrderedMap K V) (key : K) (update : Option V → V) :
    (map.alter key update).keys = if key ∈ map.keys then map.keys else map.keys ++ [key] :=
  keys_updateEntries key update map.entries

/-- The entries of a map are its keys with their values. -/
theorem entries_eq_map_keys [BEq K] [LawfulBEq K] {map : OrderedMap K V} {valueOf : K → V}
    (values : ∀ key value, map.get? key = some value → value = valueOf key) :
    map.entries = map.keys.map fun key => (key, valueOf key) := by
  rw [keys, List.map_map]
  refine (List.map_id map.entries).symm.trans (List.map_congr_left ?_)
  intro entry member
  exact Prod.ext rfl (values entry.1 entry.2 (get?_eq_some_iff.2 member))

end OrderedMap

variable {S : Type}

namespace Addition

/-- The labels under which something is added to a side, in order of first use. -/
def keys (additions : List (Addition S)) (side : Side) : List Label :=
  ((additions.filter fun addition => addition.origin.side = side).map key).eraseDups

/-- An addition brings a label in unless the label is there. -/
theorem keys_concat (additions : List (Addition S)) (addition : Addition S) (side : Side) :
    keys (additions ++ [addition]) side =
      if addition.origin.side = side ∧ addition.key ∉ keys additions side then
        keys additions side ++ [addition.key]
      else keys additions side := by
  rw [keys, keys, List.filter_append, List.map_append]
  by_cases here : addition.origin.side = side
  · rw [List.filter_cons_of_pos (by simpa using here), List.filter_nil, List.map_singleton,
      eraseDups_concat]
    by_cases used : addition.key ∈
        (additions.filter fun addition => addition.origin.side = side).map key
    · rw [if_pos used, if_neg fun both => both.2 (List.mem_eraseDups.2 used)]
    · rw [if_neg used, if_pos ⟨here, mt List.mem_eraseDups.1 used⟩]
  · rw [List.filter_cons_of_neg (by simpa using here), List.filter_nil, List.map_nil,
      List.append_nil, if_neg fun both => here both.1]

end Addition

/-- The number of events of a snapshot. -/
def Snapshot.size (snapshot : Snapshot S) : Nat :=
  ((snapshot.controlEvents.entries ++ snapshot.testEvents.entries).map fun entry =>
    entry.2.length).sum

theorem EventMap.length_all (events : EventMap S) :
    events.all.length = (events.entries.map fun entry => entry.2.length).sum := by
  rw [all, OrderedMap.values, List.length_flatten, List.map_map]
  rfl

@[simp] theorem Addition.length_ofSnapshot (snapshot : Snapshot S) :
    (ofSnapshot snapshot).length = snapshot.size := by
  rw [ofSnapshot, List.length_append, List.length_map, List.length_map, EventMap.length_all,
    EventMap.length_all, Snapshot.size, List.map_append, List.sum_append]

/-- Merging counts every event that it adds. -/
@[simp] theorem Store.mergeSnapshot_count (store : Store S) (snapshot : Snapshot S) :
    (store.mergeSnapshot snapshot).2 = snapshot.size := by
  rw [← Addition.length_ofSnapshot, Addition.ofSnapshot, List.length_append, List.length_map,
    List.length_map]
  rfl

/-! ## Texts of labels -/

/-- Every label that has events has one text, in the order of the labels. -/
theorem EventMap.Occupied.labels_texts {events : EventMap S} (occupied : events.Occupied) :
    events.texts.map LabelledText.label = events.keys := by
  rw [EventMap.texts, List.map_filterMap, OrderedMap.keys, ← List.filterMap_eq_map]
  apply List.filterMap_congr
  intro entry member
  obtain ⟨event, rest, same⟩ := List.exists_cons_of_ne_nil (occupied entry member)
  simp [same]

/-- What grouping additions to a side by their labels comes to, with a text for each label. -/
structure Grouped (additions : List (Addition S)) (side : Side) (events : EventMap S)
    (texts : List LabelledText) : Prop where
  /-- The labels stand in the order of their first use. -/
  keys : events.keys = Addition.keys additions side
  /-- Under a label stand exactly the events that were added under it, unchanged and in order. -/
  entries : events.entries = events.keys.map fun key =>
    (key, (Addition.under additions side key).map Addition.event)
  /-- No label is without events. -/
  occupied : events.Occupied
  /-- Every label has one text. -/
  labels : texts.map LabelledText.label = events.keys
  /-- The text of a label is that of the first event that was added under it. -/
  first : ∀ text ∈ texts, ∃ addition,
    (Addition.under additions side text.label).head? = some addition ∧
      text.text = addition.event.text

/-- Events that are added to nothing bring in their labels one after the other. -/
theorem Store.keys_addEach_empty (additions : List (Addition S)) (side : Side) :
    ((Store.empty.addEach additions).events side).keys = Addition.keys additions side := by
  induction additions using List.reverseRecOn with
  | nil => cases side <;> rfl
  | append_singleton earlier addition ih =>
    have last : (Store.empty : Store S).addEach (earlier ++ [addition]) =
        (Store.empty.addEach earlier).add addition.origin addition.event := by
      rw [addEach, List.foldl_append]
      rfl
    rw [last, events_add, Addition.keys_concat, ← ih]
    by_cases here : addition.origin.side = side
    · rw [if_pos here, EventMap.add, OrderedMap.keys_alter]
      by_cases used : addition.key ∈ ((Store.empty.addEach earlier).events side).keys
      · rw [if_pos used, if_neg fun both => both.2 used]
      · rw [if_neg used, if_pos ⟨here, used⟩]
    · rw [if_neg here, if_neg fun both => here both.1]

namespace Filling

@[simp] theorem filled_concat (steps : List Filling) (step : Filling) :
    filled (steps ++ [step]) = step.apply (filled steps) := by
  rw [filled, List.foldl_append]
  rfl

@[simp] theorem added_concat (steps : List Filling) (step : Filling) :
    added (steps ++ [step]) = added steps ++ step.additions := by
  rw [added, List.flatMap_append, List.flatMap_singleton]
  rfl

theorem entries_filled (steps : List Filling) (side : Side) :
    ((filled steps).events side).entries = ((filled steps).events side).keys.map fun key =>
      (key, (Addition.under (added steps) side key).map Addition.event) := by
  apply OrderedMap.entries_eq_map_keys
  intro key group found
  rw [get?_filled] at found
  split at found
  · cases found
  · exact (Option.some.inj found).symm

/-- Each side of a filled store is grouped. -/
theorem grouped_filled (steps : List Filling) (side : Side) :
    Grouped (added steps) side ((filled steps).events side) ((filled steps).events side).texts := by
  have occupied := (occupied_filled steps).side side
  constructor
  case keys => rw [filled_eq_addEach, Store.keys_addEach_empty]
  case entries => exact entries_filled steps side
  case occupied => exact occupied
  case labels => exact occupied.labels_texts
  case first =>
    intro text listed
    obtain ⟨event, rest, present, same⟩ := EventMap.mem_texts_iff.1 listed
    rw [entries_filled, List.mem_map] at present
    obtain ⟨key, _, entry⟩ := present
    obtain ⟨rfl, group⟩ := Prod.mk.inj entry
    obtain ⟨addition, others, under, rfl, _⟩ := List.map_eq_cons_iff.1 group
    exact ⟨addition, by rw [under, List.head?_cons], same.symm⟩

/-- What filling a store in some steps comes to. -/
structure Groups (steps : List Filling) (store : Store Float) : Prop where
  /-- A fresh event is kept under its own label. -/
  fresh : ∀ addition ∈ added steps, addition.origin.shape ≠ .saved →
    addition.key = addition.event.label
  /-- An event of an earlier run is moved from the label that it carries itself. -/
  moved : ∀ addition ∈ added steps, addition.origin.shape = .saved →
    Integer.Fits addition.event.label → addition.event.label.Moves addition.key
  control : Grouped (added steps) .control store.control store.controlTexts
  test : Grouped (added steps) .test store.test store.testTexts
  texts : store.texts = store.controlTexts ++ store.testTexts
  /-- A report that is refused adds nothing. -/
  refused : ∀ origin report refusal, store.addReport origin report = .error refusal →
    filled (steps ++ [.ofReport origin report]) = store ∧
      added (steps ++ [.ofReport origin report]) = added steps
  /-- A snapshot adds all of its events, control first, and they are counted. -/
  merged : ∀ snapshot, filled (steps ++ [.ofSnapshot snapshot]) = (store.mergeSnapshot snapshot).1 ∧
    added (steps ++ [.ofSnapshot snapshot]) = added steps ++ Addition.ofSnapshot snapshot ∧
      (store.mergeSnapshot snapshot).2 = snapshot.size

/-- An event of an earlier run that has the greatest of all labels. -/
def edgeSteps : List Filling :=
  [.ofEvent ⟨.control, .saved⟩ { label := Integer.greatest, text := "link lost", occurrences := [] }]

end Filling

end LogDrift
