import LogDrift.Proofs.Map.Ordered
import LogDrift.Proofs.Matching.Filing
import LogDrift.Store.Basic

/-!
# Filling stores

A store is filled event by event. Every event that is added stays in it, on its side, whatever label
it is kept under, and no label is ever without events.
-/

namespace LogDrift

variable {S : Type}

namespace EventMap

/-- Every label has an event. -/
def Occupied (events : EventMap S) : Prop :=
  ∀ entry ∈ events.entries, entry.2 ≠ []

theorem occupied_empty : Occupied (.empty : EventMap S) :=
  fun _ member => nomatch member

theorem Occupied.add {events : EventMap S} (occupied : events.Occupied) (label : Label)
    (event : Event S) : (events.add label event).Occupied := by
  intro entry member
  rcases OrderedMap.updateEntries_cases label (fun present => present.getD [] ++ [event])
    events.entries with ⟨before, group, after, equal, updated⟩ | ⟨_, updated⟩
  · have member : entry ∈ before ++ (label, group ++ [event]) :: after := updated ▸ member
    rw [List.mem_append, List.mem_cons] at member
    rcases member with earlier | rfl | later
    · apply occupied
      rw [equal]
      exact List.mem_append_left _ earlier
    · simp
    · apply occupied
      rw [equal]
      exact List.mem_append_right _ (List.mem_cons_of_mem _ later)
  · have member : entry ∈ events.entries ++ [(label, [event])] := updated ▸ member
    rcases List.mem_append.1 member with earlier | last
    · exact occupied entry earlier
    · cases List.mem_singleton.1 last
      exact List.cons_ne_nil _ _

/-- An event that is added joins the others. -/
theorem perm_all_add (events : EventMap S) (label : Label) (event : Event S) :
    (events.add label event).all.Perm (events.all ++ [event]) := by
  rw [all_eq_flatMap, all_eq_flatMap]
  rcases OrderedMap.updateEntries_cases label (fun present => present.getD [] ++ [event])
    events.entries with ⟨before, group, after, equal, updated⟩ | ⟨_, updated⟩
  · have added : (events.add label event).entries =
        before ++ (label, group ++ [event]) :: after := updated
    rw [added, equal]
    simp only [List.flatMap_append, List.flatMap_cons, List.append_assoc]
    exact (List.perm_append_comm.append_left group).append_left (before.flatMap Prod.snd)
  · have added : (events.add label event).entries = events.entries ++ [(label, [event])] := updated
    rw [added, List.flatMap_append]
    exact .refl _

@[simp] theorem isEmpty_add (events : EventMap S) (label : Label) (event : Event S) :
    (events.add label event).isEmpty = false := by
  have added : (events.add label event).entries = OrderedMap.updateEntries label
    (fun present => present.getD [] ++ [event]) events.entries := rfl
  rw [OrderedMap.isEmpty, added]
  obtain ⟨_, _, _, _, updated⟩ | ⟨_, updated⟩ := OrderedMap.updateEntries_cases label
    (fun present => present.getD [] ++ [event]) events.entries <;> simp [updated]

/-- Where events say the same, there are events under the same labels. -/
theorem exists_get?_of_contents {events events' : EventMap S}
    (same : events'.contents = events.contents) {label : Label} {group : List (Event S)}
    (found : events.get? label = some group) :
    ∃ group', events'.get? label = some group' ∧
      group'.map Event.content = group.map Event.content := by
  rw [OrderedMap.get?_eq_some_iff] at found
  have said : (label, group.map Event.content) ∈ events'.contents := by
    rw [same, contents]
    exact List.mem_map.2 ⟨(label, group), found, rfl⟩
  rcases List.mem_map.1 said with ⟨⟨other, group'⟩, member, equal⟩
  cases (Prod.mk.inj equal).1
  exact ⟨group', OrderedMap.get?_eq_some_iff.2 member, (Prod.mk.inj equal).2⟩

/-! ## Texts -/

/-- A text is that of the first event of its label. -/
theorem exists_group_of_mem_texts {events : EventMap S} {text : LabelledText}
    (member : text ∈ events.texts) :
    ∃ event rest, (text.label, event :: rest) ∈ events.entries ∧ event.text = text.text := by
  rw [texts, List.mem_filterMap] at member
  rcases member with ⟨⟨label, group⟩, present, found⟩
  cases group with
  | nil => cases found
  | cons event rest =>
    cases found
    exact ⟨event, rest, present, rfl⟩

/-- The texts are those of the first events of labels. -/
theorem mem_texts_iff {events : EventMap S} {text : LabelledText} :
    text ∈ events.texts ↔
      ∃ event rest, (text.label, event :: rest) ∈ events.entries ∧ event.text = text.text := by
  constructor
  · exact exists_group_of_mem_texts
  · intro found
    rcases found with ⟨event, rest, present, same⟩
    rw [texts, List.mem_filterMap]
    refine ⟨_, present, ?_⟩
    exact congrArg (fun content => some (LabelledText.mk text.label content)) same

/-- Every label has at most one text. -/
theorem labels_texts_sublist (events : EventMap S) :
    (events.texts.map LabelledText.label).Sublist (events.entries.map Prod.fst) := by
  rw [texts]
  induction events.entries with
  | nil => exact .slnil
  | cons entry rest ih =>
    rcases entry with ⟨label, group⟩
    cases group with
    | nil => exact .cons _ ih
    | cons event others => exact .cons_cons _ ih

theorem label_mem_keys {events : EventMap S} {text : LabelledText} (member : text ∈ events.texts) :
    text.label ∈ events.keys :=
  events.labels_texts_sublist.subset (List.mem_map_of_mem member)

theorem nodup_labels_texts (events : EventMap S) :
    (events.texts.map LabelledText.label).Nodup :=
  events.distinct.sublist events.labels_texts_sublist

theorem length_texts_le (events : EventMap S) : events.texts.length ≤ events.size := by
  have fewer := events.labels_texts_sublist.length_le
  rwa [List.length_map, List.length_map] at fewer

/-- A label with events has a text. -/
theorem exists_text_of_mem {events : EventMap S} (occupied : events.Occupied)
    {entry : Label × List (Event S)} (member : entry ∈ events.entries) :
    ∃ text ∈ events.texts, text.label = entry.1 := by
  rcases entry with ⟨label, group⟩
  cases group with
  | nil => exact (occupied _ member rfl).elim
  | cons event rest =>
    refine ⟨⟨label, event.text⟩, ?_, rfl⟩
    rw [texts, List.mem_filterMap]
    exact ⟨_, member, rfl⟩

end EventMap

namespace Store

@[simp] theorem hasData_add (store : Store S) (origin : Origin) (event : Event S) :
    (store.add origin event).hasData = true := by
  obtain ⟨side, shape⟩ := origin
  cases side <;> simp [add, hasData]

/-- The stores that can be filled from nothing. -/
inductive Built : Store S → Prop where
  | empty : Built .empty
  | add {store : Store S} (origin : Origin) (event : Event S) :
      Built store → Built (store.add origin event)
  | merge {store : Store S} (snapshot : Snapshot S) :
      Built store → Built (store.mergeSnapshot snapshot).1

/-- What `add` does to both sides holds of `addAll` when it holds of every step. -/
theorem addAll_induction {motive : Store S → Prop} {origin : Origin}
    (step : ∀ store event, motive store → motive (store.add origin event))
    (events : List (Event S)) {store : Store S} (holds : motive store) :
    motive (store.addAll origin events) := by
  rw [addAll]
  induction events generalizing store with
  | nil => exact holds
  | cons event rest ih => exact ih (step store event holds)

/-- No label of either side is without events. -/
def Occupied (store : Store S) : Prop :=
  store.control.Occupied ∧ store.test.Occupied

theorem Occupied.add {store : Store S} (occupied : store.Occupied) (origin : Origin)
    (event : Event S) : (store.add origin event).Occupied := by
  rw [Store.add]
  split
  · exact ⟨occupied.1.add _ _, occupied.2⟩
  · exact ⟨occupied.1, occupied.2.add _ _⟩

theorem Built.occupied {store : Store S} (built : store.Built) : store.Occupied := by
  induction built with
  | empty => exact ⟨EventMap.occupied_empty, EventMap.occupied_empty⟩
  | add origin event _ ih => exact ih.add origin event
  | merge snapshot _ ih =>
    apply addAll_induction fun _ event occupied => occupied.add _ event
    apply addAll_induction fun _ event occupied => occupied.add _ event
    exact ih

end Store

end LogDrift
