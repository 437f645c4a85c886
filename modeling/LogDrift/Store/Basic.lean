import LogDrift.Document.Record
import LogDrift.LabelledText
import LogDrift.Snapshot

/-!
# The store of events

The events of a run, by side and label, in the order in which they were added.
-/

namespace LogDrift

namespace EventMap

variable {S : Type}

/-- Appends an event under a label. -/
def add (events : EventMap S) (label : Label) (event : Event S) : EventMap S :=
  events.alter label fun present => present.getD [] ++ [event]

/-- The text of the first event of every label. -/
def texts (events : EventMap S) : List LabelledText :=
  events.entries.filterMap fun (label, group) =>
    group.head?.map fun event => ⟨label, event.text⟩

end EventMap

/-- The events of both windows. -/
structure Store (S : Type) where
  control : EventMap S := .empty
  test : EventMap S := .empty

namespace Store

variable {S : Type}

/-- The store without events. -/
def empty : Store S := {}

/-- Whether there are events. -/
def hasData (store : Store S) : Bool :=
  !store.control.isEmpty || !store.test.isEmpty

/-- The label under which an event is kept. Those of an earlier run are moved out of the way. -/
def keyOf (origin : Origin) (event : Event S) : Label :=
  if origin.isPrevious then event.label.moved else event.label

/-- Appends an event. -/
def add (store : Store S) (origin : Origin) (event : Event S) : Store S :=
  match origin.side with
  | .control => { store with control := EventMap.add store.control (keyOf origin event) event }
  | .test => { store with test := EventMap.add store.test (keyOf origin event) event }

/-- Appends events in order. -/
def addAll (store : Store S) (origin : Origin) (events : List (Event S)) : Store S :=
  events.foldl (add · origin) store

/-- Appends the event of a report, unless the report is refused. -/
def addReport (store : Store Float) (origin : Origin) (report : Json) :
    Except Error (Store Float) :=
  (Event.ofReport origin.shape report).map (store.add origin)

/-- Appends the events of an earlier run. The result counts them. -/
def mergeSnapshot (store : Store S) (snapshot : Snapshot S) : Store S × Nat :=
  let control := snapshot.controlEvents.values.flatten
  let test := snapshot.testEvents.values.flatten
  let store := store.addAll ⟨.control, .saved⟩ control
  let store := store.addAll ⟨.test, .saved⟩ test
  (store, control.length + test.length)

/-- One text per control label. -/
def controlTexts (store : Store S) : List LabelledText :=
  EventMap.texts store.control

/-- One text per test label. -/
def testTexts (store : Store S) : List LabelledText :=
  EventMap.texts store.test

/-- The texts of both sides, control first. -/
def texts (store : Store S) : List LabelledText :=
  store.controlTexts ++ store.testTexts

end Store

end LogDrift
