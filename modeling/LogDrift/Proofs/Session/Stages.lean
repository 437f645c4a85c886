import LogDrift.Proofs.Frequency.Detection
import LogDrift.Proofs.Layout.Position
import LogDrift.Session

/-!
# What a stage makes of a session

Each stage of a run changes a few fields of the session and leaves all others as they are. The
lemmas here say which, so that a stage which did not fail can be replaced by its result.
-/

namespace LogDrift.Session

variable {S Model : Type}

/-- Relabelling the control events replaces them and their clusters. -/
theorem relabelControl_eq_ok {clustering : Clustering Model} {session session' : Session S} :
    relabelControl clustering session = (.ok (), session') ↔
      ∃ clusters events,
        Matching.relabelControl clustering session.settings.maxTags session.store.control =
          (.ok clusters, events) ∧
        session' = { session with store.control := events, maps.control := clusters } := by
  rw [relabelControl]
  cases found : Matching.relabelControl clustering session.settings.maxTags
      session.store.control with
  | mk result events =>
    constructor
    · intro relabelled
      cases result with
      | error refusal => cases relabelled
      | ok clusters =>
        cases relabelled
        exact ⟨clusters, events, rfl, rfl⟩
    · intro found
      rcases found with ⟨clusters, events, equal, rfl⟩
      cases equal
      rfl

variable [Scalar S]

/-- Relabelling the test events replaces them, their clusters and the unknown events. -/
theorem relabelTest_eq_ok {outcomes : SortedMap Label (MatchOutcome S)}
    {clustering : Clustering Model} {session session' : Session S} :
    relabelTest outcomes clustering session = (.ok (), session') ↔
      ∃ split events,
        Matching.relabelTest outcomes clustering session.settings.maxTags session.store.test =
          (.ok split, events) ∧
        session' = { session with
          store.test := events
          maps.test := split.clusters
          unknownEvents := split.unknown } := by
  rw [relabelTest]
  cases found : Matching.relabelTest outcomes clustering session.settings.maxTags
      session.store.test with
  | mk result events =>
    constructor
    · intro relabelled
      cases result with
      | error refusal => cases relabelled
      | ok split =>
        cases relabelled
        exact ⟨split, events, rfl, rfl⟩
    · intro found
      rcases found with ⟨split, events, equal, rfl⟩
      cases equal
      rfl

/-- Grouping the unknown events replaces their clusters and the scores of these. -/
theorem groupUnknown_eq_ok {assignments : SortedMap Label Label} {session session' : Session S} :
    groupUnknown assignments session = (.ok (), session') ↔
      ∃ grouping, Unknown.groupEvents session.unknownEvents assignments = .ok grouping ∧
        session' = { session with
          maps.unknown := (Unknown.scoreEvents grouping).clusters
          scores.unknown := (Unknown.scoreEvents grouping).scores } := by
  rw [groupUnknown]
  cases found : Unknown.groupEvents session.unknownEvents assignments with
  | error refusal =>
    constructor
    · intro grouped
      cases grouped
    · intro found
      rcases found with ⟨grouping, equal, _⟩
      cases equal
  | ok grouping =>
    constructor
    · intro grouped
      cases grouped
      exact ⟨grouping, rfl, rfl⟩
    · intro found
      rcases found with ⟨grouping, equal, rfl⟩
      cases equal
      rfl

/-- Comparing frequencies never fails. It replaces the detector, the test clusters and the scores
of these. -/
theorem compareFrequencies_eq_ok (session : Session S) :
    compareFrequencies session = (.ok (),
      let comparison := Frequency.compare session.detector session.maps.control session.maps.test
        session.settings.direction
      { session with
        detector := comparison.detector
        maps.test := comparison.test
        scores.test := comparison.scores }) := by
  rw [compareFrequencies, Frequency.detect_eq_ok]

omit [Scalar S] in
/-- Points change nothing but the clusters, and these only when there is a point for every text. -/
theorem moveClusters_eq (texts : List String) (points : List (S × S)) (session : Session S) :
    moveClusters texts points session = { session with
      maps :=
        if points.length = texts.length then Layout.place points session.maps
        else session.maps } := by
  rw [moveClusters]
  split <;> rfl

omit [Scalar S] in
@[simp]
theorem store_moveClusters (texts : List String) (points : List (S × S)) (session : Session S) :
    (moveClusters texts points session).store = session.store := by
  rw [moveClusters_eq]

omit [Scalar S] in
/-- Points change nothing of what is saved but the clusters. -/
theorem snapshot_moveClusters (texts : List String) (points : List (S × S))
    (session : Session S) :
    (moveClusters texts points session).snapshot = { session.snapshot with
      controlClusters := (moveClusters texts points session).maps.control
      testClusters := (moveClusters texts points session).maps.test
      unknownClusters := (moveClusters texts points session).maps.unknown } := by
  rw [moveClusters_eq]
  rfl

omit [Scalar S] in
/-- Points change no part of an entry but where it lies. -/
theorem contents_moveClusters {C : Type} (kind : Layout.Kind) {content : kind.Entry S → C}
    (keeps : ∀ point entry, content (kind.move point entry) = content entry)
    (texts : List String) (points : List (S × S)) (session : Session S) :
    ClusterMap.contents content (kind.clusters (moveClusters texts points session).maps) =
      ClusterMap.contents content (kind.clusters session.maps) := by
  rw [moveClusters]
  split
  · exact Layout.contents_place kind keeps points session.maps
  · rfl

end LogDrift.Session
