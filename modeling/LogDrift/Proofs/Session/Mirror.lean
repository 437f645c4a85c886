import LogDrift.Proofs.Matching.Renaming
import LogDrift.Proofs.Session.Purity
import LogDrift.Proofs.Session.Rederivation

/-!
# Courses over sessions that say the same

A session mirrors another one when it holds the same messages in the same order, perhaps under other
labels. A course over the one can then be followed over the other, provided that the clusterer
answers alike for the labels that correspond. Both derive the same, and they differ in their events
only: these keep the labels that they are stored under, and the control events their scores.
-/

namespace LogDrift.Session

variable {S Model W : Type}

/-- The second session holds the messages of the first under renamed labels, and is run with the
same settings. -/
structure Mirrors (rename : Side → Label → Label) (session session' : Session S) : Prop where
  control : session.store.control.Renamed (rename .control) Event.content session'.store.control
  test : session.store.test.Renamed (rename .test) Event.content session'.store.test
  settings : session'.settings = session.settings
  known : session'.known = session.known
  query : session'.query = session.query

/-- What is answered for the labels of a store is also answered, under other names, for what they
are renamed to. -/
structure SameAnswers (rename : Side → Label → Label) (store : Store S)
    (clustering : Clustering Model) (outcomes : SortedMap Label (MatchOutcome S))
    (clustering' : Clustering Model) (outcomes' : SortedMap Label (MatchOutcome S)) : Prop where
  assigned : ∀ label ∈ store.control.keys,
    clustering'.clusterOf? (rename .control label) = clustering.clusterOf? label
  tags : clustering'.tags = clustering.tags
  answered : ∀ label ∈ store.test.keys, outcomes'.get? (rename .test label) = outcomes.get? label

/-- The second session has derived what the first one has. Their events differ in the labels that
they are stored under, and the control events may differ in their scores. -/
structure Matches (rename : Side → Label → Label) (session session' : Session S) : Prop where
  derived : session' = { session with store := session'.store }
  control : session.store.control.Renamed (rename .control) Event.unscored session'.store.control
  test : session.store.test.Renamed (rename .test) id session'.store.test

variable [Scalar S]

/-- Unknown events are clustered alike in sessions that have the same ones. Sessions without any
keep the clusters and scores that they have. -/
theorem clusterUnknown_again {clusterer : Clusterer S Model W} (isPure : clusterer.IsPure)
    {before after : Session S × W} (clustered : Yields (clusterUnknown clusterer) before () after)
    (session : Session S) (events : session.unknownEvents = before.1.unknownEvents)
    (settings : session.settings = before.1.settings)
    (idle : before.1.unknownEvents = [] → session.maps.unknown = before.1.maps.unknown ∧
      session.scores.unknown = before.1.scores.unknown) (world : W) :
    ∃ unknown scores world',
      after.1 = { before.1 with maps.unknown := unknown, scores.unknown := scores } ∧
      Yields (clusterUnknown clusterer) (session, world) ()
        ({ session with maps.unknown := unknown, scores.unknown := scores }, world') := by
  obtain ⟨bare, rfl⟩ | ⟨present, assignments, answered, grouped⟩ := yields_clusterUnknown.1 clustered
  · obtain ⟨maps, scores⟩ := idle bare
    refine ⟨after.1.maps.unknown, after.1.scores.unknown, world, rfl, ?_⟩
    rw [← maps, ← scores]
    exact yields_clusterUnknown.2 (.inl ⟨events.trans bare, rfl⟩)
  · obtain ⟨grouping, found, same⟩ := groupUnknown_eq_ok.1 grouped
    have asked : assignUnknown clusterer session = assignUnknown clusterer before.1 := by
      rw [assignUnknown, assignUnknown, events, settings]
    obtain ⟨world', answered'⟩ := (isPure_assignUnknown isPure before.1).again answered world
    refine ⟨_, _, world', same, yields_clusterUnknown.2 (.inr ⟨?_, assignments, ?_, ?_⟩)⟩
    · rwa [events]
    · rw [asked]
      exact answered'
    · exact groupUnknown_eq_ok.2 ⟨grouping, by rw [events, found], rfl⟩

/-- A course leaves control events their scores. -/
theorem Course.scores_eq {clusterer : Clusterer S Model W} {comparer : Comparer S}
    {before rated : Session S × W} (course : Course clusterer comparer before rated) :
    before.1.store.control.Renamed id Event.scores rated.1.store.control := by
  obtain ⟨outline⟩ := course.outline
  exact Matching.scores_relabelControl outline.control

/-- A course can be followed over a session that mirrors its own, and the two derive the same. -/
theorem Course.mirrored {clusterer : Clusterer S Model W} (isPure : clusterer.IsPure)
    {comparer : Comparer S} {before rated : Session S × W}
    (course : Course clusterer comparer before rated) (before' : Session S × W)
    {rename : Side → Label → Label} (mirrors : Mirrors rename before.1 before'.1)
    {clustering' : Clustering Model} {outcomes' : SortedMap Label (MatchOutcome S)} {world' : W}
    (matched : (matchTexts clusterer before'.1).run.run before'.2 =
      (.ok (clustering', outcomes'), world'))
    (answers : SameAnswers rename before.1.store course.clustering course.outcomes clustering'
      outcomes')
    (idle : course.split.unknownEvents = [] →
      before'.1.maps.unknown = before.1.maps.unknown ∧
      before'.1.scores.unknown = before.1.scores.unknown)
    (learnt : Frequency.compare before'.1.detector course.relabelled.maps.control
        course.split.maps.test before.1.settings.direction =
      Frequency.compare before.1.detector course.relabelled.maps.control course.split.maps.test
        before.1.settings.direction) :
    ∃ rated', Nonempty (Course clusterer comparer before' rated') ∧
      Matches rename rated.1 rated'.1 := by
  obtain ⟨session', start'⟩ := before'
  obtain ⟨sameControl, sameTest, settings, known, query⟩ := mirrors
  simp only at sameControl sameTest settings known query
  rcases course with ⟨clustering, outcomes, world, analysed, _, relabelled, control, split, test,
    grouped, unknown, compared, frequencies, rating⟩
  obtain ⟨clusters, controlEvents, relabel, rfl⟩ := relabelControl_eq_ok.1 control
  obtain ⟨parts, testEvents, divide, rfl⟩ := relabelTest_eq_ok.1 test
  -- The stages over the second session.
  obtain ⟨controlEvents', relabel', control'⟩ :=
    Matching.relabelControl_renamed sameControl answers.assigned answers.tags relabel
  obtain ⟨testEvents', divide', test'⟩ :=
    Matching.relabelTest_renamed sameTest answers.answered answers.tags divide
  simp only [← settings] at relabel' divide'
  have first : ∃ relabelled', relabelControl clustering' session' = (.ok (), relabelled') ∧
      relabelled' = { session' with store.control := controlEvents', maps.control := clusters } :=
    ⟨_, relabelControl_eq_ok.2 ⟨_, _, relabel', rfl⟩, rfl⟩
  obtain ⟨relabelled', first, rfl⟩ := first
  have second : ∃ split', relabelTest outcomes' clustering' { session' with
        store.control := controlEvents', maps.control := clusters } = (.ok (), split') ∧
      split' = { session' with
        store := ⟨controlEvents', testEvents'⟩
        maps := ⟨clusters, parts.clusters, session'.maps.unknown⟩
        unknownEvents := parts.unknown } :=
    ⟨_, relabelTest_eq_ok.2 ⟨_, _, divide', rfl⟩, rfl⟩
  obtain ⟨split', second, rfl⟩ := second
  obtain ⟨unknownClusters, unknownScores, world'', same, third⟩ :=
    clusterUnknown_again isPure unknown
      { session' with
        store := ⟨controlEvents', testEvents'⟩
        maps := ⟨clusters, parts.clusters, session'.maps.unknown⟩
        unknownEvents := parts.unknown } rfl settings idle world'
  simp only at same
  subst same
  rw [compareFrequencies_eq_ok] at frequencies
  obtain ⟨_, rfl⟩ := Prod.mk.inj frequencies
  have analysed' : skipReason? session' = none := by
    rw [skipReason?_eq_none] at analysed ⊢
    rwa [sameControl.size_eq, settings]
  have fourth := compareFrequencies_eq_ok (attachAlerts comparer
    { session' with
      store := ⟨controlEvents', testEvents'⟩
      maps := ⟨clusters, parts.clusters, unknownClusters⟩
      scores.unknown := unknownScores
      unknownEvents := parts.unknown })
  refine ⟨(rate _, world''), ⟨⟨clustering', outcomes', world', analysed', matched, _, first, _,
    second, _, third, _, fourth, rfl⟩⟩, ?_⟩
  rw [rating]
  refine ⟨?_, control', test'⟩
  simp only [attachAlerts, rate, settings, known, query] at learnt ⊢
  rw [learnt]

omit [Scalar S] in
/-- A pure clusterer lays out alike what matches. -/
theorem Matches.arrange {clusterer : Clusterer S Model W} (isPure : clusterer.IsPure)
    {rename : Side → Label → Label} {before after before' : Session S × W}
    (agree : Matches rename before.1 before'.1)
    (arranged : Yields (Session.arrange clusterer) before () after) :
    ∃ after', Yields (Session.arrange clusterer) before' () after' ∧
      Matches rename after.1 after'.1 ∧
      after.1.store = before.1.store ∧ after'.1.store = before'.1.store := by
  have maps : before'.1.maps = before.1.maps := by rw [agree.derived]
  obtain ⟨moved, later, arranged'⟩ := arrange_again isPure arranged maps before'.2
  refine ⟨_, arranged', ?_, ?_, rfl⟩
  · rw [moved]
    refine ⟨?_, agree.control, agree.test⟩
    rw [agree.derived]
  · rw [moved]

end LogDrift.Session
