import LogDrift.Proofs.Layout.Position
import LogDrift.Proofs.Matching.Relabelling
import LogDrift.Proofs.Session.Course
import LogDrift.Proofs.Session.Stages
import LogDrift.Proofs.Unknown.Records

/-!
# Deriving the clusters of a run from its events

A completed run leaves nothing in its cluster maps that its events do not say. Whatever the
clusterer answers, the control and test clusters are the events filed under their labels and hosts,
the unknown events are the test events with labels of their own, and every host keeps in the unknown
clusters exactly the occurrences of its unknown events.
-/

namespace LogDrift

variable {S : Type}

open Matching

/-- The cluster maps of a snapshot can be derived from its events. -/
structure Snapshot.Rederivable (snapshot : Snapshot S) : Prop where
  control : snapshot.controlClusters.Holds ControlEntry.content snapshot.controlEvents.all
  test : snapshot.testClusters.Holds TestEntry.content (named snapshot.testEvents.all)
  /-- There is one group for every key of the test events with events of their own labels. -/
  groups : snapshot.unknownEvents.map (fun group => group.map UnknownEvent.content) =
    unnamedContents snapshot.testEvents.values
  /-- All groups together are the test events with labels of their own, in store order. -/
  unknown : snapshot.unknownEvents.flatten.map UnknownEvent.content =
    (unnamed snapshot.testEvents.all).map Event.content
  hosts : ∀ host, (Unknown.recordsAt snapshot.unknownClusters host).Perm
    (((unnamed snapshot.testEvents.all).filter fun event => event.host = host).flatMap
      Event.occurrences)

namespace Matching

theorem unnamed_flatten (groups : List (List (Event S))) :
    unnamed groups.flatten = (groups.map unnamed).flatten := by
  rw [unnamed, List.filter_flatten]
  rfl

/-- The groups together say what all events with labels of their own say. -/
theorem flatten_unnamedContents (groups : List (List (Event S))) :
    (unnamedContents groups).flatten = (unnamed groups.flatten).map Event.content := by
  rw [unnamedContents, unnamed_flatten, List.map_flatten]
  induction groups with
  | nil => rfl
  | cons group rest ih =>
    simp only [List.map_cons, List.flatten_cons, ← ih]
    cases found : unnamed group with
    | nil => simp
    | cons event events => simp

end Matching

namespace Unknown

/-- The records of a host depend only on what the events say. -/
theorem hostRecords_eq_of_content {unknown : List (UnknownEvent S)} {events : List (Event S)}
    (same : unknown.map UnknownEvent.content = events.map Event.content) (host : String) :
    hostRecords unknown host =
      (events.filter fun event => event.host = host).flatMap Event.occurrences := by
  have left : hostRecords unknown host =
      ((unknown.map UnknownEvent.content).filter fun content =>
        Occurrence.hostOf content.2 = host).flatMap Prod.snd := by
    rw [List.filter_map, List.flatMap_map]
    rfl
  have right : (events.filter fun event => event.host = host).flatMap Event.occurrences =
      ((events.map Event.content).filter fun content =>
        Occurrence.hostOf content.2 = host).flatMap Prod.snd := by
    rw [List.filter_map, List.flatMap_map]
    rfl
  rw [left, same, right]

end Unknown

namespace Session

variable {Model W : Type} [Scalar S]

omit [Scalar S] in
/-- Points change nothing that is derived from the events. -/
theorem Rederivable.moveClusters {session : Session S} (texts : List String)
    (points : List (S × S)) (derived : session.snapshot.Rederivable) :
    (moveClusters texts points session).snapshot.Rederivable := by
  rw [snapshot_moveClusters]
  constructor
  case control =>
    exact derived.control.of_contents
      (contents_moveClusters .control (fun _ _ => rfl) texts points session)
  case test =>
    exact derived.test.of_contents
      (contents_moveClusters .test (fun _ _ => rfl) texts points session)
  case groups => exact derived.groups
  case unknown => exact derived.unknown
  case hosts =>
    intro host
    have kept := Unknown.recordsAt_of_contents
      (contents_moveClusters .unknown (fun _ _ => rfl) texts points session) host
    exact kept ▸ derived.hosts host

/-- Clustering the unknown events changes nothing but their clusters and scores. The clusters keep
the occurrences of the unknown events, host by host, and leave nothing to be summed up. -/
theorem clusterUnknown_spec {clusterer : Clusterer S Model W} {before after : Session S × W}
    (clustered : Yields (clusterUnknown clusterer) before () after) :
    ∃ unknown scores,
      after.1 = { before.1 with maps.unknown := unknown, scores.unknown := scores } ∧
      (before.1.maps.unknown = .empty →
        (∀ host, (Unknown.recordsAt unknown host).Perm
          (Unknown.hostRecords before.1.unknownEvents.flatten host)) ∧
        unknown.All fun entry => entry.pending = []) := by
  rcases yields_clusterUnknown.1 clustered with ⟨empty, rfl⟩ | ⟨_, assignments, _, grouped⟩
  · refine ⟨after.1.maps.unknown, after.1.scores.unknown, rfl, ?_⟩
    intro fresh
    rw [fresh, empty]
    exact ⟨fun _ => .refl _, ClusterMap.all_empty _⟩
  · rcases groupUnknown_eq_ok.1 grouped with ⟨grouping, found, same⟩
    refine ⟨_, _, same, ?_⟩
    intro _
    refine ⟨?_, Unknown.settled_scoreEvents grouping⟩
    intro host
    rw [Unknown.recordsAt_of_contents
      (Unknown.contents_scoreEvents (fun _ _ _ => rfl) grouping) host]
    exact Unknown.perm_recordsAt_groupEvents found host

/-- What a course makes of the events, and which clusters it leaves. -/
structure Outline (clustering : Clustering Model) (outcomes : SortedMap Label (MatchOutcome S))
    (before rated : Session S) where
  split : TestSplit S
  control : Matching.relabelControl clustering before.settings.maxTags before.store.control =
    (.ok rated.maps.control, rated.store.control)
  test : Matching.relabelTest outcomes clustering before.settings.maxTags before.store.test =
    (.ok split, rated.store.test)
  unknown : rated.unknownEvents = split.unknown
  clusters : ClusterMap.contents TestEntry.content rated.maps.test =
    ClusterMap.contents TestEntry.content split.clusters
  judged : rated.maps.test.All Frequency.Judged
  settled : before.maps.unknown = .empty →
    rated.maps.unknown.All fun entry => entry.pending = []
  hosts : before.maps.unknown = .empty → ∀ host,
    (Unknown.recordsAt rated.maps.unknown host).Perm
      (Unknown.hostRecords rated.unknownEvents.flatten host)

theorem Course.outline {clusterer : Clusterer S Model W} {comparer : Comparer S}
    {before rated : Session S × W} (course : Course clusterer comparer before rated) :
    Nonempty (Outline course.clustering course.outcomes before.1 rated.1) := by
  rcases relabelControl_eq_ok.1 course.control with ⟨clusters, controlEvents, control, first⟩
  rcases relabelTest_eq_ok.1 course.test with ⟨split, testEvents, test, second⟩
  have unjudged := (Matching.relabelTest_spec test).unjudged
  have judged : split.clusters.All Frequency.Judged := by
    refine unjudged.imp ?_
    intro entry bare verdict member
    rw [bare] at member
    cases member
  rcases clusterUnknown_spec course.unknown with ⟨unknownClusters, scores, third, unknown⟩
  have frequencies := course.frequencies
  have rating := course.rated
  simp only at third unknown
  rw [compareFrequencies_eq_ok, third, second, first] at frequencies
  rw [second, first] at unknown
  rw [first] at test
  rw [rating, ← (Prod.mk.inj frequencies).2]
  constructor
  constructor
  case split => exact split
  case control => exact control
  case test => exact test
  case unknown => rfl
  case clusters => exact Frequency.contents_compare _ _ _ _
  case judged => exact Frequency.judged_compare _ _ judged _
  case settled =>
    intro fresh
    refine ClusterMap.All.of_contents ?_ (· = []) (unknown fresh).2
    exact Unknown.contents_attachAlerts (fun _ _ _ => rfl) _ _ _ _ _
  case hosts =>
    intro fresh host
    refine .trans (.of_eq ?_) ((unknown fresh).1 host)
    apply Unknown.recordsAt_of_contents
    exact Unknown.contents_attachAlerts (fun _ _ _ => rfl) _ _ _ _ _

/-- What a course derives from the events of a session without unknown clusters. -/
theorem Outline.rederivable {clustering : Clustering Model}
    {outcomes : SortedMap Label (MatchOutcome S)} {before rated : Session S}
    (outline : Outline clustering outcomes before rated) (fresh : before.maps.unknown = .empty) :
    rated.snapshot.Rederivable := by
  have control := relabelControl_spec outline.control
  have test := relabelTest_spec outline.test
  have flat : rated.unknownEvents.flatten.map UnknownEvent.content =
      (unnamed rated.store.test.all).map Event.content := by
    rw [outline.unknown, List.map_flatten, test.unknown, flatten_unnamedContents]
    rfl
  constructor
  case control => exact control.1
  case test =>
    have clusters := test.clusters
    rw [← EventMap.all_eq_flatMap] at clusters
    exact clusters.of_contents outline.clusters
  case groups =>
    exact (congrArg _ outline.unknown).trans test.unknown
  case unknown => exact flat
  case hosts =>
    intro host
    have hosts := outline.hosts fresh host
    rw [Unknown.hostRecords_eq_of_content flat host] at hosts
    exact hosts

/-- A completed run follows a course and ends with its events. -/
theorem exists_course {clusterer : Clusterer S Model W} {comparer : Comparer S}
    {before after : Session S × W} {score : S} {unknown anomalies : Nat}
    (ran : Yields (run clusterer comparer) before (.completed score unknown anomalies) after) :
    ∃ rated, Nonempty (Course clusterer comparer before rated) ∧ after.1.store = rated.1.store := by
  rcases run_cases ran with ⟨_, _, skipped, _⟩ | ⟨_, rated, course, moved⟩
  · cases skipped
  · refine ⟨rated, course, ?_⟩
    rcases moved with same | ⟨points, same⟩
    · rw [same]
    · rw [same, store_moveClusters]

/-- A run of a session without unknown clusters leaves it as it is or derives its clusters from its
events. -/
theorem run_rederivable {clusterer : Clusterer S Model W} {comparer : Comparer S}
    {before after : Session S × W} {status : RunStatus S} (fresh : before.1.maps.unknown = .empty)
    (ran : Yields (run clusterer comparer) before status after) :
    (∃ reason, status = .skipped reason ∧ after = before) ∨
      (status = after.1.status ∧ after.1.snapshot.Rederivable) := by
  rcases run_cases ran with ⟨reason, _, skipped, same⟩ | ⟨completed, rated, ⟨course⟩, moved⟩
  · exact .inl ⟨reason, skipped, same⟩
  · refine .inr ⟨completed, ?_⟩
    rcases course.outline with ⟨outline⟩
    have derived := outline.rederivable fresh
    rcases moved with same | ⟨points, same⟩
    · rw [same]
      exact derived
    · rw [same]
      exact Rederivable.moveClusters _ points derived

/-- A session that starts with a store ends either with the events as they were loaded and nothing
derived from them, or with clusters that are exactly what its events say. -/
theorem run_from_start_rederivable (clusterer : Clusterer S Model W) (comparer : Comparer S)
    (store : Store S) (settings : AnalysisSettings S) (known : KnownClusters)
    (query : Option String) (world : W) {status : RunStatus S} {after : Session S × W}
    (ran : Yields (run clusterer comparer) (start store settings known query, world) status after) :
    match status with
    | .completed .. => after.1.snapshot.Rederivable
    | .skipped _ => after.1.snapshot =
        { query, controlEvents := store.control, testEvents := store.test, score := 0 } := by
  rcases run_rederivable rfl ran with ⟨reason, rfl, rfl⟩ | ⟨rfl, derived⟩
  · rfl
  · exact derived

/-- A clusterer that answers from tables and cannot lay anything out. -/
def tabled (assignments : SortedMap Label Label) (outcomes : SortedMap Label (MatchOutcome S)) :
    Clusterer S Unit Unit where
  cluster _ _ _ := pure ⟨assignments, .empty, ()⟩
  classify _ _ := pure outcomes
  distances _ := throw (.collaborator "no distances")
  place _ := pure []

/-- One message that both windows have, and one of the test window alone. -/
def diskStore : Store Float where
  control := .ofList [(1, [⟨1, "disk ready", [{ count := 3, host := "a" }], none, none⟩])]
  test := .ofList [(1, [⟨1, "disk ready", [{ count := 4, host := "a" }], none, none⟩]),
    (2, [⟨2, "disk lost", [{ count := 1, host := "b" }], none, none⟩])]

theorem run_from_start_rederivable_tabled :
    ∃ score unknown anomalies after,
      Yields (run (tabled (.ofList [(0, 3), (1, 7)])
          (.ofList [(1, ⟨true, some 7, 1, 1⟩), (2, ⟨false, some 7, 1, 0⟩)]))
          ⟨fun _ _ => [], fun _ _ => []⟩)
        (start diskStore .default {} none, ()) (.completed score unknown anomalies) after ∧
      after.1.snapshot.Rederivable := by
  have done : completes (run (tabled (.ofList [(0, 3), (1, 7)])
      (.ofList [(1, ⟨true, some 7, 1, 1⟩), (2, ⟨false, some 7, 1, 0⟩)]))
      ⟨fun _ _ => [], fun _ _ => []⟩) (start diskStore .default {} none, ()) = true := by
    decide +kernel
  rcases yields_of_completes done with ⟨score, unknown, anomalies, after, ran⟩
  refine ⟨score, unknown, anomalies, after, ran, ?_⟩
  exact run_from_start_rederivable _ _ _ _ _ _ _ ran

end Session

end LogDrift
