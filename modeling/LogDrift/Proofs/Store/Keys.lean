import LogDrift.Proofs.Numeral.Wrapping
import LogDrift.Proofs.Store.Loader

/-!
# Which events share a label

Under a label of a side a store keeps exactly the events that were added under it, in order. Events
of an earlier run are moved by a fixed distance. That keeps them apart from fresh events only as
long as no fresh label lies exactly where an earlier one is moved to.
-/

namespace LogDrift

variable {S : Type}

/-- The events under a label. -/
def EventMap.group (events : EventMap S) (label : Label) : List (Event S) :=
  (events.get? label).getD []

@[simp]
theorem EventMap.group_add (events : EventMap S) (key : Label) (event : Event S) (label : Label) :
    (events.add key event).group label =
      events.group label ++ if key = label then [event] else [] := by
  rw [group, add, OrderedMap.get?_alter]
  split
  · next same =>
    subst same
    rfl
  · rw [List.append_nil, group]

/-- No label is kept without events, so the events under a label say whether it is kept. -/
theorem EventMap.Occupied.get?_eq {events : EventMap S} (occupied : events.Occupied)
    (label : Label) :
    events.get? label = if events.group label = [] then none else some (events.group label) := by
  rw [group]
  cases found : events.get? label with
  | none => rfl
  | some group =>
    have filled := occupied _ (OrderedMap.get?_eq_some_iff.1 found)
    rw [Option.getD_some, if_neg filled]

/-- An event with the origin under which it is added. -/
structure Addition (S : Type) where
  origin : Origin
  event : Event S

namespace Addition

/-- The label under which the event is kept. -/
def key (addition : Addition S) : Label :=
  Store.keyOf addition.origin addition.event

@[simp] theorem key_of_previous {addition : Addition S}
    (isPrevious : addition.origin.isPrevious = true) :
    addition.key = addition.event.label.moved :=
  if_pos isPrevious

@[simp] theorem key_of_fresh {addition : Addition S}
    (isFresh : addition.origin.isPrevious = false) : addition.key = addition.event.label :=
  if_neg (Bool.eq_false_iff.1 isFresh)

/-- The additions to a side under a label, in order. -/
def under (additions : List (Addition S)) (side : Side) (label : Label) : List (Addition S) :=
  additions.filter fun addition => addition.origin.side = side && addition.key = label

@[simp] theorem mem_under {additions : List (Addition S)} {side : Side} {label : Label}
    {addition : Addition S} :
    addition ∈ under additions side label ↔
      addition ∈ additions ∧ addition.origin.side = side ∧ addition.key = label := by
  rw [under, List.mem_filter, Bool.and_eq_true, decide_eq_true_eq, decide_eq_true_eq]

@[simp] theorem under_append (left right : List (Addition S)) (side : Side) (label : Label) :
    under (left ++ right) side label = under left side label ++ under right side label :=
  List.filter_append left right

/-- The additions that merging a snapshot makes. -/
def ofSnapshot (snapshot : Snapshot S) : List (Addition S) :=
  snapshot.controlEvents.all.map (Addition.mk ⟨.control, .saved⟩) ++
    snapshot.testEvents.all.map (Addition.mk ⟨.test, .saved⟩)

theorem filter_ofSnapshot (snapshot : Snapshot S) (side : Side) :
    (ofSnapshot snapshot).filter (fun addition => addition.origin.side = side) =
      (snapshot.events side).all.map (Addition.mk ⟨side, .saved⟩) := by
  have each : ∀ (origin : Origin) (events : List (Event S)),
      (events.map (Addition.mk origin)).filter (fun addition => addition.origin.side = side) =
        if origin.side = side then events.map (Addition.mk origin) else [] := by
    intro origin events
    split
    · next here =>
      rw [List.filter_eq_self, List.forall_mem_map]
      exact fun _ _ => decide_eq_true here
    · next other =>
      rw [List.filter_eq_nil_iff, List.forall_mem_map]
      exact fun _ _ accepted => other (of_decide_eq_true accepted)
  rw [ofSnapshot, List.filter_append, each, each]
  cases side
  case control => exact List.append_nil _
  case test => exact List.nil_append _

/-- Merging adds the events of a side under their own labels, moved. -/
@[simp] theorem under_ofSnapshot (snapshot : Snapshot S) (side : Side) (label : Label) :
    (under (ofSnapshot snapshot) side label).map event =
      (snapshot.events side).all.filter fun event =>
        event.label.moved = label := by
  rw [ofSnapshot, under_append, List.map_append]
  cases side <;> simp [under, List.filter_map, Function.comp_def, key, Store.keyOf,
    Origin.isPrevious, Snapshot.events]

/-- Whether events of an earlier run are among fresh events. -/
def Mixed (additions : List (Addition S)) : Prop :=
  ∃ earlier ∈ additions, ∃ fresh ∈ additions,
    earlier.origin.isPrevious = true ∧ fresh.origin.isPrevious = false

end Addition

namespace Store

/-- Appends events of various origins in order. -/
def addEach (store : Store S) (additions : List (Addition S)) : Store S :=
  additions.foldl (fun store addition => store.add addition.origin addition.event) store

theorem addAll_eq_addEach (store : Store S) (origin : Origin) (events : List (Event S)) :
    store.addAll origin events = store.addEach (events.map (Addition.mk origin)) := by
  rw [addAll, addEach, List.foldl_map]

theorem mergeSnapshot_eq_addEach (store : Store S) (snapshot : Snapshot S) :
    (store.mergeSnapshot snapshot).1 = store.addEach (Addition.ofSnapshot snapshot) := by
  rw [mergeSnapshot, Addition.ofSnapshot, addEach, List.foldl_append]
  simp only [addAll_eq_addEach, addEach, EventMap.all]

/-- An event is added on its own side only. -/
theorem events_add (store : Store S) (addition : Addition S) (side : Side) :
    (store.add addition.origin addition.event).events side =
      if addition.origin.side = side then
        (store.events side).add addition.key addition.event
      else store.events side := by
  rcases addition with ⟨⟨target, shape⟩, event⟩
  cases target <;> cases side <;> rfl

/-- An event is added to the end of its group. -/
theorem group_add (store : Store S) (addition : Addition S) (side : Side) (label : Label) :
    ((store.add addition.origin addition.event).events side).group label =
      (store.events side).group label ++
        (Addition.under [addition] side label).map Addition.event := by
  rw [events_add, Addition.under, List.filter_cons]
  by_cases here : addition.origin.side = side
  · rw [if_pos here, EventMap.group_add]
    by_cases same : addition.key = label
    · simp [here, same]
    · simp [same]
  · rw [if_neg here]
    simp [here]

/-- Events that are added to a side under new labels, all of them different, follow one by one. -/
theorem entries_addEach (additions : List (Addition S)) (store : Store S) (side : Side)
    (distinct : ((store.events side).keys ++
      (additions.filter fun addition => addition.origin.side = side).map Addition.key).Nodup) :
    ((store.addEach additions).events side).entries = (store.events side).entries ++
      (additions.filter fun addition => addition.origin.side = side).map fun addition =>
        (addition.key, [addition.event]) := by
  induction additions generalizing store with
  | nil => exact (List.append_nil _).symm
  | cons addition rest ih =>
    have step := events_add store addition side
    by_cases here : addition.origin.side = side
    · rw [if_pos here] at step
      rw [List.filter_cons_of_pos (by simpa using here), List.map_cons] at distinct ⊢
      have absent : addition.key ∉ (store.events side).keys := fun present =>
        (List.nodup_append.1 distinct).2.2 _ present _ (.head _) rfl
      have added : ((store.add addition.origin addition.event).events side).entries =
          (store.events side).entries ++ [(addition.key, [addition.event])] := by
        rw [step]
        exact OrderedMap.updateEntries_append_of_not_mem _ absent
      have later := ih (store.add addition.origin addition.event) (by
        rw [OrderedMap.keys, added, List.map_append, List.append_assoc]
        exact distinct)
      rw [added, List.append_assoc] at later
      exact later
    · rw [if_neg here] at step
      rw [List.filter_cons_of_neg (by simpa using here)] at distinct ⊢
      have later := ih (store.add addition.origin addition.event) (by rwa [step])
      rw [step] at later
      exact later

/-- Under every label come the events that are added under it, in order. -/
theorem group_addEach (additions : List (Addition S)) (store : Store S) (side : Side)
    (label : Label) :
    ((store.addEach additions).events side).group label =
      (store.events side).group label ++
        (Addition.under additions side label).map Addition.event := by
  induction additions generalizing store with
  | nil => exact (List.append_nil _).symm
  | cons addition rest ih =>
    have split := Addition.under_append [addition] rest side label
    rw [List.singleton_append] at split
    rw [split, List.map_append, ← List.append_assoc, ← group_add]
    exact ih _

@[simp] theorem group_empty (side : Side) (label : Label) :
    ((Store.empty : Store S).events side).group label = [] := by
  cases side <;> rfl

/-- A merged snapshot's events are kept under their own labels, moved. -/
theorem group_mergeSnapshot (store : Store S) (snapshot : Snapshot S) (side : Side)
    (label : Label) :
    ((store.mergeSnapshot snapshot).1.events side).group label =
      (store.events side).group label ++ (snapshot.events side).all.filter fun event =>
        event.label.moved = label := by
  rw [mergeSnapshot_eq_addEach, group_addEach, Addition.under_ofSnapshot]

theorem Occupied.side {store : Store S} (occupied : store.Occupied) :
    (side : Side) → (store.events side).Occupied
  | .control => occupied.1
  | .test => occupied.2

end Store

/-! ## Filling from nothing -/

/-- A step in which a store is filled. -/
inductive Filling
  | ofEvent (origin : Origin) (event : Event Float)
  | ofReport (origin : Origin) (report : Json)
  | ofSnapshot (snapshot : Snapshot Float)

namespace Filling

/-- The store after a step. A report that is refused leaves it as it is. -/
def apply (store : Store Float) : Filling → Store Float
  | .ofEvent origin event => store.add origin event
  | .ofReport origin report => (store.addReport origin report).toOption.getD store
  | .ofSnapshot snapshot => (store.mergeSnapshot snapshot).1

/-- What a step adds. -/
def additions : Filling → List (Addition Float)
  | .ofEvent origin event => [⟨origin, event⟩]
  | .ofReport origin report =>
    (Event.ofReport origin.shape report).toOption.toList.map (Addition.mk origin)
  | .ofSnapshot snapshot => Addition.ofSnapshot snapshot

theorem apply_eq_addEach (store : Store Float) (step : Filling) :
    step.apply store = store.addEach step.additions := by
  cases step with
  | ofEvent origin event => rfl
  | ofReport origin report =>
    rw [apply, additions, Store.addReport]
    cases Event.ofReport origin.shape report <;> rfl
  | ofSnapshot snapshot => exact store.mergeSnapshot_eq_addEach snapshot

/-- The store that some steps fill. -/
def filled (steps : List Filling) : Store Float :=
  steps.foldl apply .empty

/-- Everything that some steps add. -/
def added (steps : List Filling) : List (Addition Float) :=
  steps.flatMap additions

theorem filled_eq_addEach (steps : List Filling) :
    filled steps = Store.empty.addEach (added steps) := by
  have all : ∀ (steps : List Filling) (store : Store Float),
      steps.foldl apply store = store.addEach (added steps) := by
    intro steps
    induction steps with
    | nil => exact fun _ => rfl
    | cons step rest ih =>
      intro store
      rw [List.foldl_cons, ih, apply_eq_addEach, added, added, List.flatMap_cons, Store.addEach,
        Store.addEach, Store.addEach, List.foldl_append]
  exact all steps .empty

/-- Filling keeps no label without events. -/
theorem occupied_filled (steps : List Filling) : (filled steps).Occupied := by
  have each : ∀ (additions : List (Addition Float)) (store : Store Float), store.Occupied →
      (store.addEach additions).Occupied := by
    intro additions
    induction additions with
    | nil => exact fun _ occupied => occupied
    | cons addition rest ih => exact fun store occupied => ih _ (occupied.add _ _)
  rw [filled_eq_addEach]
  exact each _ _ Store.Built.empty.occupied

/-- A filled store keeps under every label what was added under it, and nothing else. -/
theorem get?_filled (steps : List Filling) (side : Side) (label : Label) :
    ((filled steps).events side).get? label =
      if Addition.under (added steps) side label = [] then none
      else some ((Addition.under (added steps) side label).map Addition.event) := by
  rw [((occupied_filled steps).side side).get?_eq, filled_eq_addEach, Store.group_addEach,
    Store.group_empty, List.nil_append]
  simp only [List.map_eq_nil_iff]

/-- Whether events of an earlier run are kept apart from fresh ones: what is kept under a label of
either side was added under it, and all of it comes from earlier runs or none of it. -/
def Apart (steps : List Filling) : Prop :=
  ∀ side label group, ((filled steps).events side).get? label = some group →
    group = (Addition.under (added steps) side label).map Addition.event ∧
      ¬ Addition.Mixed (Addition.under (added steps) side label)

/-- Events of earlier runs that are moved to no label of a fresh event on their side stay apart. -/
theorem apart_of_distant {steps : List Filling}
    (distant : ∀ earlier ∈ added steps, ∀ fresh ∈ added steps,
      earlier.origin.isPrevious = true → fresh.origin.isPrevious = false →
        earlier.origin.side = fresh.origin.side →
          fresh.event.label ≠ earlier.event.label.moved) : Apart steps := by
  intro side label group kept
  rw [get?_filled] at kept
  split at kept
  · cases kept
  · cases kept
    refine ⟨rfl, ?_⟩
    intro mixed
    rcases mixed with ⟨earlier, earlierUnder, fresh, freshUnder, isPrevious, isFresh⟩
    rw [Addition.mem_under] at earlierUnder freshUnder
    rcases earlierUnder with ⟨earlierAdded, earlierSide, earlierKey⟩
    rcases freshUnder with ⟨freshAdded, freshSide, freshKey⟩
    apply distant earlier earlierAdded fresh freshAdded isPrevious isFresh
      (earlierSide.trans freshSide.symm)
    rw [Addition.key_of_previous isPrevious] at earlierKey
    rw [Addition.key_of_fresh isFresh] at freshKey
    rw [freshKey, earlierKey]

/-- Moving the events of earlier runs keeps them apart from fresh ones exactly as long as no fresh
event has the label to which an earlier one on its side is moved. -/
theorem apart_iff (steps : List Filling) :
    Apart steps ↔ ∀ earlier ∈ added steps, ∀ fresh ∈ added steps,
      earlier.origin.isPrevious = true → fresh.origin.isPrevious = false →
        earlier.origin.side = fresh.origin.side →
          fresh.event.label ≠ earlier.event.label.moved := by
  constructor
  case mpr => exact apart_of_distant
  case mp =>
    intro apart earlier earlierAdded fresh freshAdded isPrevious isFresh sameSide sameLabel
    have earlierKey : earlier.key = fresh.event.label :=
      (Addition.key_of_previous isPrevious).trans sameLabel.symm
    have freshKey : fresh.key = fresh.event.label := Addition.key_of_fresh isFresh
    have earlierUnder :
        earlier ∈ Addition.under (added steps) fresh.origin.side fresh.event.label :=
      Addition.mem_under.2 ⟨earlierAdded, sameSide, earlierKey⟩
    have freshUnder : fresh ∈ Addition.under (added steps) fresh.origin.side fresh.event.label :=
      Addition.mem_under.2 ⟨freshAdded, rfl, freshKey⟩
    have kept := get?_filled steps fresh.origin.side fresh.event.label
    rw [if_neg (List.ne_nil_of_mem freshUnder)] at kept
    exact (apart _ _ _ kept).2 ⟨earlier, earlierUnder, fresh, freshUnder, isPrevious, isFresh⟩

/-- A fresh event, and an event of an earlier run whose label lies as far below as it is moved. -/
def distantSteps : List Filling := [
  .ofEvent ⟨.control, .search⟩
    { label := 10001, text := "disk ready", occurrences := [{ count := 1, host := "a" }] },
  .ofEvent ⟨.control, .saved⟩
    { label := 1, text := "link lost", occurrences := [{ count := 2, host := "b" }] }]

/-- The two end up under one label, and only the text of the first of them is ever clustered. -/
theorem distantSteps_not_apart :
    ¬ Apart distantSteps ∧ (filled distantSteps).controlTexts = [⟨10001, "disk ready"⟩] := by
  constructor
  case right => rfl
  case left =>
    intro apart
    apply (apart .control 10001 _ rfl).2
    exact ⟨_, .tail _ (.head _), _, .head _, rfl, rfl⟩

end Filling

end LogDrift
