import LogDrift.Proofs.Store.Basic
import LogDrift.Store.Loader

/-!
# What loading and merging add

Loading reports adds their events, each on its side, and merging a snapshot adds the events of both
of its sides. Nothing that was in the store is lost. A report in one of the shapes of producers
becomes an event with a single occurrence.
-/

namespace LogDrift

variable {S : Type}

/-- The events of a side. -/
def Store.events (store : Store S) : Side → EventMap S
  | .control => store.control
  | .test => store.test

/-- The saved events of a side. -/
def Snapshot.events (snapshot : Snapshot S) : Side → EventMap S
  | .control => snapshot.controlEvents
  | .test => snapshot.testEvents

namespace Report

/-- The events of the reports for a side. -/
def events (side : Side) (reports : List (Origin × Json)) : List (Event Float) :=
  reports.filterMap fun (origin, report) =>
    if origin.side = side then (Event.ofReport origin.shape report).toOption else none

@[simp] theorem events_append (side : Side) (left right : List (Origin × Json)) :
    events side (left ++ right) = events side left ++ events side right :=
  List.filterMap_append

end Report

namespace Record

/-- What a producer says about one occurrence becomes an event with that occurrence. -/
theorem single_toEvent {record : Record} {event : Event Float}
    (made : record.toEvent = .ok event) : ∃ occurrence, event.occurrences = [occurrence] := by
  rw [toEvent] at made
  split at made
  · cases made
  · cases made
    exact ⟨_, rfl⟩

/-- A report in the shape of a producer becomes an event with one occurrence. -/
theorem single_ofReport {shape : Shape} {report : Json} {event : Event Float}
    (fresh : shape ≠ .saved) (made : Event.ofReport shape report = .ok event) :
    ∃ occurrence, event.occurrences = [occurrence] := by
  have through : ∀ names, (do (← Error.readValue (decode names) report).toEvent) = .ok event →
      ∃ occurrence, event.occurrences = [occurrence] := by
    intro names made
    cases found : Error.readValue (decode names) report with
    | error refusal =>
      rw [found] at made
      cases made
    | ok record =>
      rw [found] at made
      exact single_toEvent made
  cases shape with
  | search => exact through _ made
  | production => exact through _ made
  | saved => exact (fresh rfl).elim

end Record

namespace Store

/-- An event joins the events of its side. -/
theorem perm_events_add (store : Store S) (origin : Origin) (event : Event S) (side : Side) :
    ((store.add origin event).events side).all.Perm
      ((store.events side).all ++ if origin.side = side then [event] else []) := by
  rcases origin with ⟨target, shape⟩
  cases target <;> cases side
  case control.control => exact EventMap.perm_all_add _ _ _
  case control.test => exact .of_eq (List.append_nil _).symm
  case test.control => exact .of_eq (List.append_nil _).symm
  case test.test => exact EventMap.perm_all_add _ _ _

/-- Events join the events of their side. -/
theorem perm_events_addAll (origin : Origin) (events : List (Event S)) (store : Store S)
    (side : Side) :
    ((store.addAll origin events).events side).all.Perm
      ((store.events side).all ++ if origin.side = side then events else []) := by
  induction events generalizing store with
  | nil => simp [addAll]
  | cons event rest ih =>
    have later := (ih (store.add origin event)).trans
      ((perm_events_add store origin event side).append_right _)
    by_cases here : origin.side = side
    · rw [if_pos here] at later ⊢
      rw [if_pos here, List.append_assoc] at later
      exact later
    · rw [if_neg here] at later ⊢
      rw [if_neg here, List.append_assoc] at later
      exact later

/-- Merging adds the events of both sides. -/
theorem perm_events_mergeSnapshot (store : Store S) (snapshot : Snapshot S) (side : Side) :
    ((store.mergeSnapshot snapshot).1.events side).all.Perm
      ((store.events side).all ++ (snapshot.events side).all) := by
  have merged := (perm_events_addAll ⟨.test, .saved⟩ snapshot.testEvents.all _ side).trans
    ((perm_events_addAll ⟨.control, .saved⟩ snapshot.controlEvents.all store side).append_right _)
  cases side with
  | control =>
    rw [if_pos rfl, if_neg (by decide), List.append_nil] at merged
    exact merged
  | test =>
    rw [if_neg (by decide), if_pos rfl, List.append_nil] at merged
    exact merged

/-- A report that is no event ends the loading. -/
theorem addReports_of_refused {store : Store Float} {origin : Origin} {report : Json}
    {refusal : Error} (refused : Event.ofReport origin.shape report = .error refusal)
    (rest : List (Origin × Json)) :
    store.addReports ((origin, report) :: rest) = (store, .error refusal) := by
  rw [addReports, addReport, refused]
  rfl

/-- A report that is an event adds it. -/
theorem addReports_of_made {store : Store Float} {origin : Origin} {report : Json}
    {event : Event Float} (made : Event.ofReport origin.shape report = .ok event)
    (rest : List (Origin × Json)) :
    store.addReports ((origin, report) :: rest) =
      (((store.add origin event).addReports rest).1,
        ((store.add origin event).addReports rest).2.map (· + 1)) := by
  rw [addReports, addReport, made]
  rfl

/-- Reports are loaded one after another, and each of them is an event. -/
theorem addReports_cons {origin : Origin} {report : Json} {rest : List (Origin × Json)}
    {store store' : Store Float} {count : Nat}
    (added : store.addReports ((origin, report) :: rest) = (store', .ok count)) :
    ∃ event others, Event.ofReport origin.shape report = .ok event ∧
      (store.add origin event).addReports rest = (store', .ok others) := by
  cases made : Event.ofReport origin.shape report with
  | error refusal =>
    rw [addReports_of_refused made] at added
    cases added
  | ok event =>
    rw [addReports_of_made made] at added
    cases later : (store.add origin event).addReports rest with
    | mk filled result =>
      rw [later] at added
      cases result with
      | error refusal => cases added
      | ok others =>
        cases added
        exact ⟨event, others, rfl, later⟩

/-- Loading that has ended looks at no further reports. -/
theorem addReports_append_of_error {left : List (Origin × Json)} {store store' : Store Float}
    {refusal : Error} (stopped : store.addReports left = (store', .error refusal))
    (right : List (Origin × Json)) :
    store.addReports (left ++ right) = (store', .error refusal) := by
  induction left generalizing store with
  | nil => cases stopped
  | cons head rest ih =>
    rw [List.cons_append]
    cases made : Event.ofReport head.1.shape head.2 with
    | error reason =>
      rw [addReports_of_refused made] at stopped ⊢
      exact stopped
    | ok event =>
      rw [addReports_of_made made] at stopped ⊢
      cases later : (store.add head.1 event).addReports rest with
      | mk filled result =>
        rw [later] at stopped
        cases result with
        | ok count => cases stopped
        | error reason =>
          cases stopped
          rw [ih later]
          rfl

/-- Loading goes on where it has come to. -/
theorem addReports_append_of_ok {left : List (Origin × Json)} {store store' : Store Float}
    {count : Nat} (added : store.addReports left = (store', .ok count))
    (right : List (Origin × Json)) :
    store.addReports (left ++ right) =
      ((store'.addReports right).1, (store'.addReports right).2.map (count + ·)) := by
  induction left generalizing store count with
  | nil =>
    cases added
    cases found : store'.addReports right with
    | mk filled result => cases result <;> simp [found, Except.map]
  | cons head rest ih =>
    obtain ⟨event, others, made, later⟩ := addReports_cons added
    rw [addReports_of_made made, later] at added
    cases added
    rw [List.cons_append, addReports_of_made made, ih later]
    cases (store'.addReports right).2 with
    | error refusal => rfl
    | ok count => simp only [Except.map, Nat.add_right_comm]

/-- Loading yields data unless there are no reports. -/
theorem hasData_addReports {reports : List (Origin × Json)} {store store' : Store Float}
    {count : Nat} (added : store.addReports reports = (store', .ok count)) :
    store'.hasData = (store.hasData || !reports.isEmpty) := by
  induction reports generalizing store count with
  | nil =>
    cases added
    simp
  | cons head rest ih =>
    obtain ⟨event, others, _, later⟩ := addReports_cons added
    rw [ih later, hasData_add]
    simp

/-- All reports that are loaded are events. -/
theorem ofReport_of_addReports {reports : List (Origin × Json)} {store store' : Store Float}
    {count : Nat} (added : store.addReports reports = (store', .ok count)) :
    ∀ report ∈ reports, ∃ event, Event.ofReport report.1.shape report.2 = .ok event := by
  induction reports generalizing store count with
  | nil => exact List.forall_mem_nil _
  | cons head rest ih =>
    rcases addReports_cons added with ⟨event, others, made, later⟩
    exact List.forall_mem_cons.2 ⟨⟨event, made⟩, ih later⟩

/-- Loading adds the events of all reports. -/
theorem perm_events_addReports {reports : List (Origin × Json)} {store store' : Store Float}
    {count : Nat} (added : store.addReports reports = (store', .ok count)) (side : Side) :
    (store'.events side).all.Perm ((store.events side).all ++ Report.events side reports) := by
  induction reports generalizing store count with
  | nil =>
    cases added
    exact .of_eq (List.append_nil _).symm
  | cons head rest ih =>
    rcases addReports_cons added with ⟨event, others, made, later⟩
    have joined := (ih later).trans
      ((perm_events_add store head.1 event side).append_right _)
    by_cases here : head.1.side = side
    · simpa [Report.events, here, made, Except.toOption] using joined
    · simpa [Report.events, here] using joined

/-- A store that is filled from nothing holds the events of the reports. -/
theorem perm_events_of_filled {reports : List (Origin × Json)} {store : Store Float} {count : Nat}
    (filled : Store.empty.addReports reports = (store, .ok count)) (side : Side) :
    (store.events side).all.Perm (Report.events side reports) := by
  have added := perm_events_addReports filled side
  cases side with
  | control => exact added
  | test => exact added

end Store

/-- There is one event for every report of a side. -/
theorem Report.length_events {reports : List (Origin × Json)}
    (normal : ∀ report ∈ reports, ∃ event, Event.ofReport report.1.shape report.2 = .ok event)
    (side : Side) :
    (events side reports).length = reports.countP fun report => report.1.side = side := by
  induction reports with
  | nil => rfl
  | cons head rest ih =>
    rw [List.forall_mem_cons] at normal
    rcases normal with ⟨⟨event, made⟩, normal⟩
    have later := ih normal
    by_cases here : head.1.side = side
    · simpa [events, here, made, Except.toOption] using later
    · simpa [events, here] using later

/-- Fresh reports become events with one occurrence each. -/
theorem Report.single_of_mem {reports : List (Origin × Json)} {side : Side} {event : Event Float}
    (fresh : ∀ report ∈ reports, report.1.shape ≠ .saved)
    (member : event ∈ Report.events side reports) :
    ∃ occurrence, event.occurrences = [occurrence] := by
  rcases List.mem_filterMap.1 member with ⟨⟨origin, report⟩, present, made⟩
  simp only at made
  split at made
  · apply Record.single_ofReport (fresh _ present)
    cases found : Event.ofReport origin.shape report with
    | error refusal =>
      rw [found] at made
      cases made
    | ok other =>
      rw [found] at made
      cases made
      rfl
  · cases made

end LogDrift
