import LogDrift.Proofs.Store.Grouping

/-!
# What the sides take of some reports

Each side takes some of the reports in a list. Loading adds their events to the side, in the order
of the list, and counts them. A report that neither side takes is passed over, whatever it looks
like. The first taken report that is no event ends the loading with its refusal, and by then the
sides have what they take of the reports before it and nothing else.
-/

namespace LogDrift

variable {S : Type}

/-- What belongs to a side. -/
def Side.pick {α : Type} (control test : α) : Side → α
  | .control => control
  | .test => test

/-! ## Events that a side gains -/

/-- Events join others, each under its own label. -/
structure EventMap.Gains (before : EventMap S) (events : List (Event S)) (after : EventMap S) :
    Prop where
  /-- Under every label they follow those that were there. -/
  group : ∀ label, after.group label =
    before.group label ++ events.filter fun event => event.label = label
  /-- New labels follow those that were there, in the order of their first use. -/
  keys : after.keys = (before.keys ++ events.map Event.label).eraseDups

namespace EventMap.Gains

theorem none (events : EventMap S) : events.Gains [] events where
  group label := (List.append_nil _).symm
  keys := by
    rw [List.map_nil, List.append_nil]
    exact (eraseDups_of_nodup events.distinct).symm

/-- One event more is gained by adding it under its label. -/
theorem concat {before after : EventMap S} {events : List (Event S)}
    (gains : before.Gains events after) (event : Event S) :
    before.Gains (events ++ [event]) (after.add event.label event) where
  group label := by
    rw [EventMap.group_add, gains.group, List.filter_append, List.append_assoc,
      List.filter_singleton, Bool.cond_decide]
  keys := by
    rw [EventMap.add, OrderedMap.keys_alter, gains.keys, List.map_append, ← List.append_assoc,
      List.map_singleton, eraseDups_concat]
    simp only [List.mem_eraseDups]

end EventMap.Gains

/-- A side receives reports: all of them are events, and it gains these. -/
def Report.Received (shape : Shape) (reports : List Json) (before after : EventMap Float) : Prop :=
  ∃ events, List.Forall₂ (fun report event => Event.ofReport shape report = .ok event)
    reports events ∧ before.Gains events after

namespace Report

theorem received_nil (shape : Shape) (events : EventMap Float) : Received shape [] events events :=
  ⟨[], .nil, .none events⟩

theorem Received.concat {shape : Shape} {reports : List Json} {before after : EventMap Float}
    (received : Received shape reports before after) {report : Json} {event : Event Float}
    (made : Event.ofReport shape report = .ok event) :
    Received shape (reports ++ [report]) before (after.add event.label event) := by
  obtain ⟨events, all, gains⟩ := received
  exact ⟨events ++ [event], List.rel_append all (.cons made .nil), gains.concat event⟩

end Report

/-! ## What the sides take -/

/-- Which reports of a list a side takes, by their places in it. -/
abbrev Taking := Side → Nat → Json → Bool

namespace Taking

/-- The reports that a side takes, in the order of the list. -/
def taken (taking : Taking) (side : Side) (reports : List Json) : List Json :=
  (reports.zipIdx.filter fun entry => taking side entry.2 entry.1).map Prod.fst

/-- The sides that take the report at a place. -/
def sides (taking : Taking) (place : Nat) (report : Json) : List Side :=
  [.control, .test].filter fun side => taking side place report

/-- The reports that some side takes, with the sides and in a given shape. -/
def origins (taking : Taking) (shape : Shape) (reports : List Json) : List (Origin × Json) :=
  reports.zipIdx.flatMap fun entry =>
    (taking.sides entry.2 entry.1).map fun side => (⟨side, shape⟩, entry.1)

@[simp] theorem taken_concat (taking : Taking) (side : Side) (reports : List Json) (report : Json) :
    taking.taken side (reports ++ [report]) = taking.taken side reports ++
      if taking side reports.length report then [report] else [] := by
  rw [taken, taken, List.zipIdx_append, List.filter_append, List.map_append, Nat.zero_add]
  congr 1
  cases found : taking side reports.length report <;> simp [found]

theorem origins_concat (taking : Taking) (shape : Shape) (reports : List Json) (report : Json) :
    taking.origins shape (reports ++ [report]) = taking.origins shape reports ++
      (taking.sides reports.length report).map fun side => (⟨side, shape⟩, report) := by
  rw [origins, origins, List.zipIdx_append, List.flatMap_append, Nat.zero_add]
  simp

@[simp] theorem mem_sides {taking : Taking} {place : Nat} {report : Json} {side : Side} :
    side ∈ taking.sides place report ↔ taking side place report = true := by
  rw [sides, List.mem_filter, and_iff_right]
  cases side <;> simp

/-- No report is selected just if neither side takes any. -/
@[simp] theorem origins_eq_nil_iff {taking : Taking} {shape : Shape} {reports : List Json} :
    taking.origins shape reports = [] ↔ ∀ side, taking.taken side reports = [] := by
  simp only [origins, taken, List.flatMap_eq_nil_iff, List.map_eq_nil_iff, List.filter_eq_nil_iff,
    List.eq_nil_iff_forall_not_mem (l := sides _ _ _), mem_sides]
  exact ⟨fun untaken side entry member => untaken entry member side,
    fun untaken entry member side => untaken side entry member⟩

theorem nodup_sides (taking : Taking) (place : Nat) (report : Json) :
    (taking.sides place report).Nodup :=
  List.Pairwise.filter _ (by simp)

/-- How many reports the sides take, those that both of them take counted twice. -/
def count (taking : Taking) (reports : List Json) : Nat :=
  (taking.taken .control reports).length + (taking.taken .test reports).length

@[simp] theorem count_concat (taking : Taking) (reports : List Json) (report : Json) :
    taking.count (reports ++ [report]) =
      taking.count reports + (taking.sides reports.length report).length := by
  rw [count, count, taken_concat, taken_concat, sides, List.length_append, List.length_append]
  cases control : taking .control reports.length report <;>
    cases test : taking .test reports.length report <;>
      simp [control, test] <;> omega

end Taking

/-- What loading reports comes to. -/
inductive Taking.Loads (taking : Taking) (shape : Shape) (reports : List Json)
    (store : Store Float) : Store Float × Except Error Nat → Prop where
  /-- Both sides receive everything that they take, and the result counts it. -/
  | complete {store' : Store Float}
    (received : ∀ side, Report.Received shape (taking.taken side reports)
      (store.events side) (store'.events side)) :
    Loads taking shape reports store (store', .ok (taking.count reports))
  /-- A report that some side takes is no event. Both sides receive what they take of the reports
  before it. -/
  | stopped {store' : Store Float} {before after : List Json} {report : Json} {refusal : Error}
    (split : reports = before ++ report :: after)
    (isTaken : ∃ side, taking side before.length report = true)
    (refused : Event.ofReport shape report = .error refusal)
    (received : ∀ side, Report.Received shape (taking.taken side before)
      (store.events side) (store'.events side)) :
    Loads taking shape reports store (store', .error refusal)

namespace Store

/-- A fresh event is added to its side under its own label. -/
theorem events_add_fresh {shape : Shape} (fresh : shape ≠ .saved) (store : Store Float)
    (target : Side) (event : Event Float) (side : Side) :
    (store.add ⟨target, shape⟩ event).events side =
      if target = side then (store.events side).add event.label event else store.events side := by
  have key : Addition.key ⟨⟨target, shape⟩, event⟩ = event.label :=
    Addition.key_of_fresh (decide_eq_false fresh)
  rw [← key]
  exact events_add store ⟨⟨target, shape⟩, event⟩ side

/-- An event that several sides take is added to each of them once. -/
theorem events_foldl_add {shape : Shape} (fresh : shape ≠ .saved) (event : Event Float)
    {sides : List Side} (distinct : sides.Nodup) (store : Store Float) (side : Side) :
    (sides.foldl (fun store side => store.add ⟨side, shape⟩ event) store).events side =
      if side ∈ sides then (store.events side).add event.label event else store.events side := by
  induction sides generalizing store with
  | nil => rfl
  | cons first rest ih =>
    rw [List.nodup_cons] at distinct
    rw [List.foldl_cons, ih distinct.2, events_add_fresh fresh]
    by_cases here : first = side
    · subst here
      rw [if_neg distinct.1, if_pos rfl, if_pos List.mem_cons_self]
    · simp [here, Ne.symm here]

/-- Loading a report that some sides take, when it is an event. -/
theorem addReports_sides {shape : Shape} {report : Json} {event : Event Float}
    (made : Event.ofReport shape report = .ok event) (sides : List Side) (store : Store Float) :
    store.addReports (sides.map fun side => (⟨side, shape⟩, report)) =
      (sides.foldl (fun store side => store.add ⟨side, shape⟩ event) store, .ok sides.length) := by
  induction sides generalizing store with
  | nil => rfl
  | cons side rest ih =>
    rw [List.map_cons, addReports_of_made made, ih]
    rfl

end Store

/-! ## Loading reports -/

namespace Taking

variable {taking : Taking} {shape : Shape} {store store' : Store Float}

/-- A report that no side takes is passed over. -/
theorem taken_concat_of_passed {reports : List Json} {report : Json}
    (passed : taking.sides reports.length report = []) (side : Side) :
    taking.taken side (reports ++ [report]) = taking.taken side reports := by
  have untaken : ¬ taking side reports.length report = true := by
    rw [← mem_sides, passed]
    exact List.not_mem_nil
  rw [taken_concat, if_neg untaken, List.append_nil]

/-- The sides that take a report receive it when it is an event. -/
theorem received_concat (fresh : shape ≠ .saved) {reports : List Json}
    (received : ∀ side, Report.Received shape (taking.taken side reports) (store.events side)
      (store'.events side)) {report : Json} {event : Event Float}
    (made : Event.ofReport shape report = .ok event) (side : Side) :
    Report.Received shape (taking.taken side (reports ++ [report])) (store.events side)
      (((taking.sides reports.length report).foldl
        (fun store side => store.add ⟨side, shape⟩ event) store').events side) := by
  rw [taken_concat, Store.events_foldl_add fresh event (taking.nodup_sides _ _)]
  simp only [mem_sides]
  split
  · exact (received side).concat made
  · rw [List.append_nil]
    exact received side

/-- Loading the reports that the sides take, of which none comes from an earlier run. -/
theorem loads_addReports (fresh : shape ≠ .saved) (taking : Taking) (store : Store Float)
    (reports : List Json) :
    taking.Loads shape reports store (store.addReports (taking.origins shape reports)) := by
  -- A place is counted from the first report on, so the induction takes reports from the end.
  induction reports using List.reverseRecOn with
  | nil => exact .complete fun side => Report.received_nil shape _
  | append_singleton before report ih =>
    rw [origins_concat]
    cases loaded : store.addReports (taking.origins shape before) with
    | mk store' result =>
      rw [loaded] at ih
      cases ih with
      | stopped split isTaken refused received =>
        rw [Store.addReports_append_of_error loaded]
        exact .stopped (by rw [split, List.append_assoc, List.cons_append]) isTaken refused received
      | complete received =>
        have counted := taking.count_concat before report
        rw [Store.addReports_append_of_ok loaded]
        cases made : Event.ofReport shape report with
        | ok event =>
          rw [Store.addReports_sides made, Except.map, ← counted]
          exact .complete (received_concat fresh received made)
        | error refusal =>
          -- The refusal matters only where some side takes the report.
          cases sides : taking.sides before.length report with
          | nil =>
            rw [sides, List.length_nil] at counted
            rw [List.map_nil, Store.addReports, Except.map, ← counted]
            refine .complete fun side => ?_
            rw [taken_concat_of_passed sides]
            exact received side
          | cons side others =>
            rw [List.map_cons, Store.addReports_of_refused made]
            refine .stopped rfl ⟨side, ?_⟩ made received
            rw [← mem_sides, sides]
            exact List.mem_cons_self

end Taking

end LogDrift
