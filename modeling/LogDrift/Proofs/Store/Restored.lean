import LogDrift.Proofs.Store.Keys
import Mathlib.Data.List.Nodup

/-!
# Restoring a snapshot

The store that a snapshot alone fills keeps the saved events under their moved labels. The text of a
label is that of the first saved event with the label, whatever key the event was saved under.
-/

namespace LogDrift.Snapshot

variable {S : Type}

/-- The store that a snapshot fills. -/
def restored (snapshot : Snapshot S) : Store S :=
  (Store.empty.mergeSnapshot snapshot).1

theorem built_restored (snapshot : Snapshot S) : snapshot.restored.Built :=
  .merge snapshot .empty

/-- A restored store has the saved events. -/
theorem perm_restored (snapshot : Snapshot S) (side : Side) :
    (snapshot.restored.events side).all.Perm (snapshot.events side).all := by
  have merged := Store.empty.perm_events_mergeSnapshot snapshot side
  have vacant : ((Store.empty : Store S).events side).all = [] := by
    cases side <;> rfl
  rw [vacant, List.nil_append] at merged
  exact merged

/-- The saved events with a label that is moved to a key. -/
def movedTo (snapshot : Snapshot S) (side : Side) (key : Label) : List (Event S) :=
  (snapshot.events side).all.filter fun event => event.label.moved = key

/-- Under a key are the events that are moved to it. -/
theorem mem_entries_restored {snapshot : Snapshot S} (side : Side) {key : Label}
    {group : List (Event S)} :
    (key, group) ∈ (snapshot.restored.events side).entries ↔
      group = snapshot.movedTo side key ∧ group ≠ [] := by
  have kept : (snapshot.restored.events side).group key = snapshot.movedTo side key := by
    rw [restored, Store.group_mergeSnapshot, Store.group_empty, List.nil_append, movedTo]
  have occupied := snapshot.built_restored.occupied.side side
  rw [← OrderedMap.get?_eq_some_iff, occupied.get?_eq, kept]
  split
  · next bare =>
    rw [bare]
    constructor
    · exact fun impossible => nomatch impossible
    · exact fun both => (both.2 both.1).elim
  · next nonempty =>
    rw [Option.some_inj]
    constructor
    · intro same
      exact ⟨same.symm, same ▸ nonempty⟩
    · exact fun both => both.1.symm

/-- The texts are those of the first events that are moved to a key. -/
theorem mem_texts_restored {snapshot : Snapshot S} (side : Side) {text : LabelledText} :
    text ∈ (snapshot.restored.events side).texts ↔
      ∃ event, (snapshot.movedTo side text.label).head? = some event ∧
        event.text = text.text := by
  rw [EventMap.mem_texts_iff]
  constructor
  · intro found
    rcases found with ⟨event, rest, present, same⟩
    refine ⟨event, ?_, same⟩
    rw [← ((mem_entries_restored side).1 present).1, List.head?_cons]
  · intro found
    rcases found with ⟨event, first, same⟩
    rw [List.head?_eq_some_iff] at first
    rcases first with ⟨rest, first⟩
    exact ⟨event, rest, (mem_entries_restored side).2 ⟨first.symm, List.cons_ne_nil _ _⟩, same⟩

/-- A text is kept under the moved label of a saved event. -/
theorem exists_event_of_text {snapshot : Snapshot S} (side : Side) {text : LabelledText}
    (member : text ∈ (snapshot.restored.events side).texts) :
    ∃ event ∈ (snapshot.events side).all, text.label = event.label.moved := by
  rcases (mem_texts_restored side).1 member with ⟨event, first, _⟩
  rcases List.mem_filter.1 (List.mem_of_mem_head? first) with ⟨present, moved⟩
  exact ⟨event, present, (of_decide_eq_true moved).symm⟩

/-- Every saved event has a key, and the key has a text. -/
theorem exists_text_restored {snapshot : Snapshot S} (side : Side) {event : Event S}
    (member : event ∈ (snapshot.events side).all) :
    ∃ text ∈ (snapshot.restored.events side).texts,
      text.label = event.label.moved := by
  have present : event ∈ snapshot.movedTo side event.label.moved :=
    List.mem_filter.2 ⟨member, decide_eq_true rfl⟩
  cases found : snapshot.movedTo side event.label.moved with
  | nil =>
    rw [found] at present
    nomatch present
  | cons first rest =>
    refine ⟨⟨event.label.moved, first.text⟩, ?_, rfl⟩
    exact (mem_texts_restored side).2 ⟨first, by rw [found, List.head?_cons], rfl⟩

/-- Where all saved labels differ, every event comes back with its text. -/
theorem texts_restored {snapshot : Snapshot S} (side : Side)
    (distinct : ((snapshot.events side).all.map Event.label).Nodup) :
    (snapshot.restored.events side).texts = (snapshot.events side).all.map fun event =>
      ⟨event.label.moved, event.text⟩ := by
  have vacant : ((Store.empty : Store S).events side).entries = [] := by
    cases side <;> rfl
  have keys : (snapshot.events side).all.map (fun event =>
      Addition.key ⟨⟨side, .saved⟩, event⟩) =
      ((snapshot.events side).all.map Event.label).map Label.moved := by
    rw [List.map_map]
    rfl
  have added := Store.entries_addEach (Addition.ofSnapshot snapshot) .empty side (by
    rw [OrderedMap.keys, vacant, Addition.filter_ofSnapshot, List.map_map]
    show ((snapshot.events side).all.map fun event => Addition.key ⟨⟨side, .saved⟩, event⟩).Nodup
    rw [keys]
    exact distinct.map Label.moved_injective)
  rw [← Store.mergeSnapshot_eq_addEach, vacant, Addition.filter_ofSnapshot, List.map_map,
    List.nil_append] at added
  rw [EventMap.texts, restored, added, List.filterMap_map]
  exact congrFun List.filterMap_eq_map _

end LogDrift.Snapshot
