import LogDrift.Brief
import LogDrift.Proofs.Document.Snapshot
import LogDrift.Proofs.Session.Rederivation
import LogDrift.Proofs.Store.Loader

/-!
# Chains of runs

Every run of a chain loads fresh reports, merges what the run before it has saved and saves its own
result. An event is relabelled in every run and kept under another label in the next, but what it
says survives all of this: the events of the last result are those of all reports ever loaded.
-/

namespace LogDrift

variable {S : Type}

/-- The text of an event with each of its occurrences. -/
def Event.records (event : Event S) : List (String × Occurrence) :=
  event.occurrences.map fun occurrence => (event.text, occurrence)

/-- Whether every occurrence in a cluster map is kept under its own host. -/
def ClusterMap.Homes {E : Type} (occurrences : E → List Occurrence) (clusters : ClusterMap E) :
    Prop :=
  ∀ cluster host entry, clusters.find? cluster host = some entry →
    ∀ occurrence ∈ occurrences entry, occurrence.host = host

namespace Event

/-- A lone occurrence is on the host of its event. -/
theorem host_of_single {event : Event S} {occurrence : Occurrence}
    (single : ∃ occurrence, event.occurrences = [occurrence])
    (member : occurrence ∈ event.occurrences) : occurrence.host = event.host := by
  rcases single with ⟨lone, same⟩
  rw [same, List.mem_singleton] at member
  rw [host, same, member]
  rfl

/-- Having one occurrence is a matter of what an event says. -/
theorem single_iff_content (event : Event S) :
    (∃ occurrence, event.occurrences = [occurrence]) ↔
      ∃ occurrence, event.content.2 = [occurrence] :=
  Iff.rfl

/-- Records are a matter of what events say. -/
theorem flatMap_records (events : List (Event S)) :
    events.flatMap records =
      (events.map content).flatMap fun said => said.2.map fun occurrence => (said.1, occurrence) := by
  rw [List.flatMap_map]
  rfl

end Event

/-- Filing lone occurrences keeps each of them under its own host. -/
theorem ClusterMap.Holds.homes {E : Type} {content : E → String × List Occurrence}
    {clusters : ClusterMap E} {events : List (Event S)} (holds : clusters.Holds content events)
    (single : ∀ event ∈ events, ∃ occurrence, event.occurrences = [occurrence]) :
    clusters.Homes fun entry => (content entry).2 := by
  intro cluster host entry found occurrence member
  have filed := holds cluster host
  rw [found, Option.map_some, Event.filed, eq_comm, Option.map_eq_some_iff] at filed
  rcases filed with ⟨first, _, same⟩
  have inside : occurrence ∈ (content entry).2 := member
  rw [← same] at inside
  rcases List.mem_flatMap.1 inside with ⟨event, here, member⟩
  rw [List.mem_filter, Bool.and_eq_true, decide_eq_true_eq, decide_eq_true_eq] at here
  rw [← here.2.2]
  exact Event.host_of_single (single event here.1) member

namespace Snapshot

/-- When every event has one occurrence, all occurrences in the clusters are kept under their own
hosts. -/
structure AtHome (snapshot : Snapshot S) : Prop where
  control : snapshot.controlClusters.Homes ControlEntry.occurrences
  test : snapshot.testClusters.Homes TestEntry.occurrences
  unknown : snapshot.unknownClusters.Homes UnknownEntry.occurrences

theorem Rederivable.atHome {snapshot : Snapshot S} (derived : snapshot.Rederivable)
    (single : ∀ side, ∀ event ∈ (snapshot.events side).all,
      ∃ occurrence, event.occurrences = [occurrence]) : snapshot.AtHome := by
  constructor
  case control => exact derived.control.homes (single .control)
  case test =>
    apply derived.test.homes
    intro event member
    exact single .test event (List.mem_filter.1 member).1
  case unknown =>
    intro cluster host entry found occurrence member
    have kept : occurrence ∈ Unknown.recordsAt snapshot.unknownClusters host :=
      List.mem_flatMap.2 ⟨entry, ClusterMap.mem_entriesAt_of_find? found, member⟩
    rcases List.mem_flatMap.1 ((derived.hosts host).mem_iff.1 kept) with ⟨event, here, inside⟩
    rw [List.mem_filter, decide_eq_true_eq] at here
    rw [← here.2]
    exact Event.host_of_single (single .test event (List.mem_filter.1 here.1).1) inside

end Snapshot

/-- What an analysis leaves of a store. -/
structure Store.Kept (store : Store S) (saved : Snapshot S) : Prop where
  contents : ∀ side, (saved.events side).contents = (store.events side).contents
  storable : saved.Storable
  /-- Without an analysis there are no clusters. -/
  derived : saved.Rederivable ∨ saved.controlClusters = .empty ∧ saved.testClusters = .empty ∧
    saved.unknownClusters = .empty

namespace Session

variable {Model W : Type} [Scalar S]

omit [Scalar S] in
/-- Verdicts that are one of two can be saved. -/
theorem storable_of_judged {entry : TestEntry S} (judged : Frequency.Judged entry) :
    entry.Storable := by
  intro verdict member
  rcases judged verdict member with rfl | rfl <;> decide

/-- What a course leaves of its store. -/
theorem Course.kept {clusterer : Clusterer S Model W} {comparer : Comparer S}
    {before rated : Session S × W} (course : Course clusterer comparer before rated)
    (fresh : before.1.maps.unknown = .empty) : before.1.store.Kept rated.1.snapshot := by
  rcases course.outline with ⟨outline⟩
  constructor
  case contents =>
    intro side
    cases side with
    | control => exact (Matching.relabelControl_spec outline.control).2
    | test => exact (Matching.relabelTest_spec outline.test).contents
  case storable =>
    exact ⟨outline.judged.imp fun _ => storable_of_judged, outline.settled fresh⟩
  case derived => exact .inl (outline.rederivable fresh)

omit [Scalar S] in
/-- Points change nothing that an analysis leaves. -/
theorem Kept.moveClusters {store : Store S} {session : Session S} (texts : List String)
    (points : List (S × S)) (kept : store.Kept session.snapshot)
    (derived : session.snapshot.Rederivable) :
    store.Kept (moveClusters texts points session).snapshot := by
  have moved := Rederivable.moveClusters texts points derived
  rw [snapshot_moveClusters] at moved ⊢
  constructor
  case contents => exact kept.contents
  case storable =>
    constructor
    case test =>
      exact ClusterMap.All.of_contents
        (contents_moveClusters .test (fun _ _ => rfl) texts points session)
        (fun verdicts : List Verdict => ∀ verdict ∈ verdicts, -128 ≤ verdict ∧ verdict ≤ 127)
        kept.storable.test
    case unknown =>
      exact ClusterMap.All.of_contents
        (contents_moveClusters .unknown (fun _ _ => rfl) texts points session) (· = [])
        kept.storable.unknown
  case derived => exact .inl moved

/-- A run that starts with a store keeps what its events say. -/
theorem run_kept {clusterer : Clusterer S Model W} {comparer : Comparer S} {store : Store S}
    {settings : AnalysisSettings S} {known : KnownClusters} {query : Option String} {world : W}
    {status : RunStatus S} {after : Session S × W}
    (ran : Yields (run clusterer comparer) (start store settings known query, world) status after) :
    store.Kept after.1.snapshot := by
  rcases run_cases ran with ⟨_, _, _, rfl⟩ | ⟨_, rated, ⟨course⟩, moved⟩
  · constructor
    case contents => exact fun side => by cases side <;> rfl
    case storable => exact ⟨ClusterMap.all_empty _, ClusterMap.all_empty _⟩
    case derived => exact .inr ⟨rfl, rfl, rfl⟩
  · have kept := course.kept rfl
    rcases moved with same | ⟨points, same⟩
    · rw [same]
      exact kept
    · rcases course.outline with ⟨outline⟩
      rw [same]
      exact Kept.moveClusters _ points kept (outline.rederivable rfl)

end Session

/-- An analysis is a run with the collaborators at hand. -/
theorem Brief.analyse_eq_ok {brief : Brief} {store : Store Float} {saved : Snapshot Float}
    (analysed : brief.analyse store = .ok saved) :
    ∃ status after, Session.Yields
      (Session.run (CentroidModel.clusterer Unit brief.settings.matchThreshold)
        (Gram.comparer Gram.defaultSize))
      (Session.start store brief.settings brief.known brief.query, ()) status after ∧
      saved = after.1.snapshot := by
  rw [analyse] at analysed
  generalize ran : (Session.run (CentroidModel.clusterer Unit brief.settings.matchThreshold)
    (Gram.comparer Gram.defaultSize)).run.run
      (Session.start store brief.settings brief.known brief.query, ()) = progress at analysed
  rcases progress with ⟨result, after⟩
  cases result with
  | error refusal => cases analysed
  | ok status =>
    cases analysed
    exact ⟨status, after, ran, rfl⟩

/-- An analysis keeps what the events of its store say. -/
theorem Brief.kept_of_analyse {brief : Brief} {store : Store Float} {saved : Snapshot Float}
    (analysed : brief.analyse store = .ok saved) : store.Kept saved := by
  rcases analyse_eq_ok analysed with ⟨status, after, ran, rfl⟩
  exact Session.run_kept ran

/-- What a chain of runs has loaded in reports, oldest first, and what it has saved in the end. -/
inductive Lineage : List (Origin × Json) → Snapshot Float → Prop where
  | first {reports : List (Origin × Json)} {store : Store Float} {count : Nat} {brief : Brief}
      {saved : Snapshot Float} (fresh : ∀ report ∈ reports, report.1.shape ≠ .saved)
      (filled : Store.empty.addReports reports = (store, .ok count))
      (analysed : brief.analyse store = .ok saved) : Lineage reports saved
  | next {earlier reports : List (Origin × Json)} {previous merged : Snapshot Float}
      {store : Store Float} {count : Nat} {brief : Brief} {saved : Snapshot Float}
      (lineage : Lineage earlier previous) (legible : previous.Legible)
      (fresh : ∀ report ∈ reports, report.1.shape ≠ .saved)
      (filled : Store.empty.addReports reports = (store, .ok count))
      (loaded : Snapshot.load previous.save = .ok merged)
      (analysed : brief.analyse (store.mergeSnapshot merged).1 = .ok saved) :
      Lineage (earlier ++ reports) saved

/-- What a chain of runs owes to its reports. -/
structure Conserves (reports : List (Origin × Json)) (saved : Snapshot Float) : Prop where
  /-- Every saved event has one occurrence. -/
  single : ∀ side, ∀ event ∈ (saved.events side).all, ∃ occurrence, event.occurrences = [occurrence]
  /-- Texts and occurrences are those of the reports, with the same multiplicities. -/
  records : ∀ side, ((saved.events side).all.flatMap Event.records).Perm
    ((Report.events side reports).flatMap Event.records)
  /-- There is one saved event for every report. -/
  count : ∀ side,
    (saved.events side).all.length = reports.countP fun report => report.1.side = side
  homes : saved.AtHome
  /-- What is saved can be loaded by the next run. -/
  loads : saved.Legible → Snapshot.load saved.save = .ok saved

namespace Lineage

variable {reports : List (Origin × Json)} {saved : Snapshot Float}

theorem fresh (lineage : Lineage reports saved) :
    ∀ report ∈ reports, report.1.shape ≠ .saved := by
  induction lineage with
  | first fresh _ _ => exact fresh
  | next _ _ fresh _ _ _ ih =>
    rw [List.forall_mem_append]
    exact ⟨ih, fresh⟩

/-- The last run of a chain keeps what the events of its store say. -/
theorem kept (lineage : Lineage reports saved) : ∃ store : Store Float, store.Kept saved := by
  cases lineage with
  | first _ _ analysed => exact ⟨_, Brief.kept_of_analyse analysed⟩
  | next _ _ _ _ _ analysed => exact ⟨_, Brief.kept_of_analyse analysed⟩

/-- What the saved events say is what the events of all reports say. -/
theorem perm_content (lineage : Lineage reports saved) (side : Side) :
    ((saved.events side).all.map Event.content).Perm
      ((Report.events side reports).map Event.content) := by
  induction lineage with
  | first _ filled analysed =>
    have kept := (Brief.kept_of_analyse analysed).contents side
    rw [EventMap.content_all, kept, ← EventMap.content_all]
    exact (Store.perm_events_of_filled filled side).map Event.content
  | @next _ _ previous _ store _ _ _ lineage legible _ filled loaded analysed ih =>
    rcases lineage.kept with ⟨_, left⟩
    rw [Snapshot.load_save left.storable legible] at loaded
    cases loaded
    have kept := (Brief.kept_of_analyse analysed).contents side
    rw [EventMap.content_all, kept, ← EventMap.content_all, Report.events_append, List.map_append]
    have joined := (Store.perm_events_mergeSnapshot store previous side).map Event.content
    rw [List.map_append] at joined
    have filled := (Store.perm_events_of_filled filled side).map Event.content
    exact joined.trans ((filled.append ih).trans List.perm_append_comm)

/-- All reports that a chain has loaded are events. -/
theorem normal (lineage : Lineage reports saved) :
    ∀ report ∈ reports, ∃ event, Event.ofReport report.1.shape report.2 = .ok event := by
  induction lineage with
  | first _ filled _ => exact Store.ofReport_of_addReports filled
  | next _ _ _ filled _ _ ih =>
    rw [List.forall_mem_append]
    exact ⟨ih, Store.ofReport_of_addReports filled⟩

/-- Every saved event has one occurrence. -/
theorem single (lineage : Lineage reports saved) (side : Side) :
    ∀ event ∈ (saved.events side).all, ∃ occurrence, event.occurrences = [occurrence] := by
  intro event member
  have said := (lineage.perm_content side).mem_iff.1 (List.mem_map_of_mem member)
  rcases List.mem_map.1 said with ⟨original, reported, same⟩
  rw [Event.single_iff_content, ← same, ← Event.single_iff_content]
  exact Report.single_of_mem lineage.fresh reported

/-- Nothing is lost and nothing is doubled in a chain of runs: its last result conserves all reports
that were ever loaded. -/
theorem conserves (lineage : Lineage reports saved) : Conserves reports saved := by
  rcases lineage.kept with ⟨store, kept⟩
  constructor
  case single => exact lineage.single
  case records =>
    intro side
    rw [Event.flatMap_records, Event.flatMap_records]
    exact (lineage.perm_content side).flatMap_right _
  case count =>
    intro side
    have size := (lineage.perm_content side).length_eq
    rw [List.length_map, List.length_map] at size
    rw [size, Report.length_events lineage.normal]
  case homes =>
    rcases kept.derived with derived | ⟨control, test, unknown⟩
    · exact derived.atHome lineage.single
    · constructor
      case control =>
        rw [control]
        exact fun _ _ _ found => nomatch found
      case test =>
        rw [test]
        exact fun _ _ _ found => nomatch found
      case unknown =>
        rw [unknown]
        exact fun _ _ _ found => nomatch found
  case loads => exact Snapshot.load_save kept.storable

/-- A control message in the result of a search, and a message of either window as a production
system reports it later. -/
def diskReports : List (Origin × Json) := [
  (⟨.control, .search⟩, .obj [("cluster_label", .int 1), ("_raw", .str "disk ready"),
    ("cluster_count", .int 3), ("_time", .int 7), ("host", .str "a")]),
  (⟨.control, .production⟩, .obj [("clusterLabel", .int 2), ("logMessage", .str "disk ready"),
    ("count", .int 4), ("host", .str "b")]),
  (⟨.test, .production⟩, .obj [("clusterLabel", .int 2), ("logMessage", .str "disk lost"),
    ("count", .int 1), ("host", .str "b")])]

/-- Settings under which at most one control label is analysed, without tags. -/
def untagged : Brief where
  settings := { AnalysisSettings.default with clusterLimit := 1, maxTags := 0 }
  known := {}
  query := none

/-- A chain of a run that completes and one that finds too many control labels. -/
theorem conserves_diskReports :
    ∃ saved, Lineage diskReports saved ∧ Conserves diskReports saved := by
  have done : ∃ previous saved,
      untagged.analyse (Store.empty.addReports (diskReports.take 1)).1 = .ok previous ∧
      previous.Legible ∧
      untagged.analyse ((Store.empty.addReports (diskReports.drop 1)).1.mergeSnapshot
        previous).1 = .ok saved := by
    have evaluated : (match untagged.analyse (Store.empty.addReports (diskReports.take 1)).1 with
        | .ok previous => decide previous.Legible &&
          (match untagged.analyse ((Store.empty.addReports (diskReports.drop 1)).1.mergeSnapshot
            previous).1 with
          | .ok _ => true
          | .error _ => false)
        | .error _ => false) = true := by decide +kernel
    split at evaluated
    · next previous completed =>
      rw [Bool.and_eq_true, decide_eq_true_eq] at evaluated
      rcases evaluated with ⟨legible, evaluated⟩
      split at evaluated
      · next saved skipped => exact ⟨previous, saved, completed, legible, skipped⟩
      · cases evaluated
    · cases evaluated
  rcases done with ⟨previous, saved, completed, legible, skipped⟩
  have first : Lineage (diskReports.take 1) previous :=
    .first (by decide) (Prod.ext rfl rfl) completed
  rcases first.kept with ⟨_, kept⟩
  have lineage : Lineage (diskReports.take 1 ++ diskReports.drop 1) saved :=
    .next first legible (by decide) (Prod.ext rfl rfl)
      (Snapshot.load_save kept.storable legible) skipped
  exact ⟨saved, lineage, lineage.conserves⟩

end Lineage

end LogDrift
