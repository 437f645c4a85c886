import LogDrift.Proofs.Exact.Scalar
import LogDrift.Proofs.Session.Independence
import LogDrift.Proofs.Session.Mirror
import LogDrift.Proofs.Session.Totality
import LogDrift.Proofs.Similarity.Renaming

/-!
# Runs under other labels

The clusterer at hand reads of a label which text it belongs to, and of an event what it says. So the
labels that events come with decide nothing: two stores that hold the same messages in the same order
are analysed alike. Of what earlier runs wrote into the events, only the scores of control events
stay, which no run sets.
-/

namespace LogDrift.Session

open CentroidModel

variable {S W : Type} {rename : Side → Label → Label} {session session' : Session S}

namespace Mirrors

theorem controlTexts_eq (mirrors : Mirrors rename session session') :
    session'.store.controlTexts = session.store.controlTexts.map (.renamed (rename .control)) :=
  mirrors.control.texts_eq

theorem testTexts_eq (mirrors : Mirrors rename session session') :
    session'.store.testTexts = session.store.testTexts.map (.renamed (rename .test)) :=
  mirrors.test.texts_eq

/-- Both sessions make up the same corpus. -/
theorem documents_eq (mirrors : Mirrors rename session session') :
    session'.store.texts.map LabelledText.text = session.store.texts.map LabelledText.text := by
  rw [Store.texts, Store.texts, mirrors.controlTexts_eq, mirrors.testTexts_eq, List.map_append,
    List.map_append, List.map_map, List.map_map]
  rfl

theorem skipReason?_eq (mirrors : Mirrors rename session session') :
    skipReason? session' = skipReason? session := by
  rw [skipReason?, skipReason?, mirrors.control.size_eq, mirrors.settings]

variable [Scalar S]

/-- Under one vocabulary the clusterer at hand answers alike for both sessions. -/
theorem sameAnswers (mirrors : Mirrors rename session session') (threshold : S)
    (vocabulary : Vocabulary S) :
    SameAnswers rename session.store
      (clustered threshold vocabulary session.store.controlTexts)
      (classify threshold (clustered threshold vocabulary session.store.controlTexts).model
        session.store.testTexts)
      (clustered threshold vocabulary session'.store.controlTexts)
      (classify threshold (clustered threshold vocabulary session'.store.controlTexts).model
        session'.store.testTexts) where
  assigned label member := by
    rw [mirrors.controlTexts_eq]
    apply clusterOf?_renamed
    intro text listed
    exact mirrors.control.apart (EventMap.label_mem_keys listed) member
  tags := by rw [mirrors.controlTexts_eq, clustered_renamed]
  answered label member := by
    rw [mirrors.controlTexts_eq, mirrors.testTexts_eq, clustered_renamed]
    apply get?_classify_renamed
    intro text listed
    exact mirrors.test.apart (EventMap.label_mem_keys listed) member

end Mirrors

variable [Scalar S] {threshold : S} {comparer : Comparer S}

/-- Without a vocabulary there is no run. -/
theorem run_of_unlearnt {before : Session S × W} {refusal : Error}
    (analysed : skipReason? before.1 = none)
    (unlearnt : Vocabulary.learnOrRelax (before.1.store.texts.map LabelledText.text)
      before.1.settings.termFilter = .error refusal) :
    (run (clusterer W threshold) comparer).run.run before = (.error refusal, before) := by
  apply run_of_refused analysed
  rw [run_matchTexts, unlearnt]
  rfl

/-- Under its vocabulary a course gets the answers of the clusterer at hand. -/
theorem Course.answers_eq {before rated : Session S × W}
    (course : Course (clusterer W threshold) comparer before rated) {vocabulary : Vocabulary S}
    (learnt : Vocabulary.learnOrRelax (before.1.store.texts.map LabelledText.text)
      before.1.settings.termFilter = .ok vocabulary) :
    course.clustering = clustered threshold vocabulary before.1.store.controlTexts ∧
    course.outcomes = classify threshold course.clustering.model before.1.store.testTexts := by
  obtain ⟨_, learnt', answers⟩ := exists_learnt_of_matched course.matched
  cases learnt.symm.trans learnt'
  exact answers

/-- Where there is a vocabulary, runs over sessions that mirror each other derive the same. -/
theorem Mirrors.run_eq (mirrors : Mirrors rename session session')
    (fresh : session'.maps.unknown = session.maps.unknown ∧
      session'.scores.unknown = session.scores.unknown ∧ session'.detector = session.detector)
    (analysed : skipReason? session = none) (occupied : session.store.Occupied)
    {vocabulary : Vocabulary S}
    (learnt : Vocabulary.learnOrRelax (session.store.texts.map LabelledText.text)
      session.settings.termFilter = .ok vocabulary) (threshold : S) (comparer : Comparer S)
    (world : W) :
    ∃ after after', Yields (run (clusterer W threshold) comparer) (session, world) after.1.status
        after ∧
      Yields (run (clusterer W threshold) comparer) (session', world) after.1.status after' ∧
      Matches rename after.1 after'.1 ∧
      session.store.control.Renamed id Event.scores after.1.store.control ∧
      session'.store.control.Renamed id Event.scores after'.1.store.control := by
  obtain ⟨rated, ⟨course⟩⟩ :=
    course_of_learnt threshold comparer (session, world) analysed occupied learnt
  have learnt' : Vocabulary.learnOrRelax (session'.store.texts.map LabelledText.text)
      session'.settings.termFilter = .ok vocabulary := by
    rw [mirrors.documents_eq, mirrors.settings, learnt]
  have matched := matchTexts_of_learnt learnt' threshold world
  have answers := mirrors.sameAnswers threshold vocabulary
  rw [← (course.answers_eq learnt).1, ← (course.answers_eq learnt).2] at answers
  obtain ⟨⟨ended, world'⟩, ⟨course'⟩, agree⟩ := course.mirrored (isPure_clusterer W threshold)
    (session', world) mirrors matched answers (fun _ => ⟨fresh.1, fresh.2.1⟩)
    (congrArg (fun detector => Frequency.compare detector _ _ _) fresh.2.2)
  obtain ⟨after, arranged, _⟩ := arrange_total (clusterer W threshold) rated
  obtain ⟨after', arranged', agree', store, store'⟩ :=
    agree.arrange (isPure_clusterer W threshold) arranged
  have same : after'.1.status = after.1.status := by
    rw [agree'.derived]
    rfl
  refine ⟨after, after', course.run arranged, same ▸ course'.run arranged', agree', ?_, ?_⟩
  · rw [store]
    exact course.scores_eq
  · rw [store']
    exact course'.scores_eq

/-- What runs over two stores that hold the same messages leave of the events. Completed runs leave
the same events under the labels of either store, but every control event with the scores that it had
before. Other runs leave both stores as they are. -/
def Leaves (rename : Side → Label → Label) (store store' : Store S)
    (result : Except Error (RunStatus S)) (after after' : Store S) : Prop :=
  match result with
  | .ok (.completed ..) =>
    after.control.Renamed (rename .control) Event.unscored after'.control ∧
    store.control.Renamed id Event.scores after.control ∧
    store'.control.Renamed id Event.scores after'.control ∧
    after.test.Renamed (rename .test) id after'.test
  | _ => after = store ∧ after' = store'

/-- Runs with the clusterer at hand over stores that hold the same messages in the same order come to
the same result and derive the same, whatever labels and scores the events have. -/
theorem run_at_hand_ignores_labels (threshold : S) (comparer : Comparer S)
    {rename : Side → Label → Label} {store store' : Store S} (occupied : store.Occupied)
    (control : store.control.Renamed (rename .control) Event.content store'.control)
    (test : store.test.Renamed (rename .test) Event.content store'.test)
    (settings : AnalysisSettings S) (known : KnownClusters) (query : Option String) (world : W) :
    ∃ result after after',
      (run (clusterer W threshold) comparer).run.run (start store settings known query, world) =
        (result, after) ∧
      (run (clusterer W threshold) comparer).run.run (start store' settings known query, world) =
        (result, after') ∧
      after'.1 = { after.1 with store := after'.1.store } ∧
      Leaves rename store store' result after.1.store after'.1.store := by
  have mirrors : Mirrors rename (start store settings known query)
      (start store' settings known query) := ⟨control, test, rfl, rfl, rfl⟩
  cases analysed : skipReason? (start store settings known query) with
  | some reason =>
    have analysed' := mirrors.skipReason?_eq.trans analysed
    exact ⟨_, _, _, run_of_skipped analysed, run_of_skipped analysed', rfl, rfl, rfl⟩
  | none =>
    cases learnt : Vocabulary.learnOrRelax (store.texts.map LabelledText.text)
        settings.termFilter with
    | error refusal =>
      have analysed' := mirrors.skipReason?_eq.trans analysed
      have unlearnt := (congrArg (Vocabulary.learnOrRelax · settings.termFilter)
        mirrors.documents_eq).trans learnt
      exact ⟨_, _, _, run_of_unlearnt analysed learnt, run_of_unlearnt analysed' unlearnt, rfl,
        rfl, rfl⟩
    | ok vocabulary =>
      obtain ⟨after, after', ran, ran', agree, scores, scores'⟩ :=
        mirrors.run_eq ⟨rfl, rfl, rfl⟩ analysed occupied learnt threshold comparer world
      exact ⟨_, after, after', ran, ran', agree.derived, agree.control, scores, scores', agree.test⟩

/-! ## Messages that come with other labels and scores -/

/-- The messages of `lostStore` under other labels, with scores of an earlier run. -/
noncomputable def markedStore : Store ℝ :=
  (Store.empty.add ⟨.control, .search⟩
    ⟨7, "ready", [{ count := 1, host := "a" }], some (Scalar.ratio 1 2), some 1⟩).add
    ⟨.test, .search⟩ ⟨3, "lost", [{ count := 1, host := "a" }], some 1, none⟩

/-- The labels of `markedStore`. -/
def markedLabel : Side → Label → Label
  | .control, _ => 7
  | .test, _ => 3

theorem renamed_markedStore :
    lostStore.control.Renamed (markedLabel .control) Event.content markedStore.control ∧
    lostStore.test.Renamed (markedLabel .test) Event.content markedStore.test :=
  ⟨rfl, rfl⟩

theorem occupied_lostStore : lostStore.Occupied :=
  (Store.Built.add _ _ (.add _ _ .empty)).occupied

/-- Runs over both stores agree. -/
theorem run_at_hand_ignores_labels_marked :
    ∃ result after after',
      (run (clusterer Unit (2 : ℝ)) (Gram.comparer Gram.defaultSize)).run.run
        (start lostStore .default {} none, ()) = (result, after) ∧
      (run (clusterer Unit (2 : ℝ)) (Gram.comparer Gram.defaultSize)).run.run
        (start markedStore .default {} none, ()) = (result, after') ∧
      after'.1 = { after.1 with store := after'.1.store } ∧
      Leaves markedLabel lostStore markedStore result after.1.store after'.1.store :=
  run_at_hand_ignores_labels 2 _ occupied_lostStore renamed_markedStore.1 renamed_markedStore.2 _ _
    _ ()

/-- The control event keeps the scores that it came with, so that the events are not the same under
any renaming of the labels. -/
theorem run_at_hand_keeps_scores :
    lostStore.control.Renamed (markedLabel .control) Event.content markedStore.control ∧
    lostStore.test.Renamed (markedLabel .test) Event.content markedStore.test ∧
    ∃ score unknown anomalies after after',
      Yields (run (clusterer Unit (2 : ℝ)) (Gram.comparer Gram.defaultSize))
        (start lostStore .default {} none, ()) (.completed score unknown anomalies) after ∧
      Yields (run (clusterer Unit (2 : ℝ)) (Gram.comparer Gram.defaultSize))
        (start markedStore .default {} none, ()) (.completed score unknown anomalies) after' ∧
      ∀ rename, ¬ after.1.store.control.Renamed rename id after'.1.store.control := by
  refine ⟨renamed_markedStore.1, renamed_markedStore.2, ?_⟩
  have mirrors : Mirrors markedLabel (start lostStore .default {} none)
      (start markedStore .default {} none) :=
    ⟨renamed_markedStore.1, renamed_markedStore.2, rfl, rfl, rfl⟩
  obtain ⟨_, vocabulary, learnt⟩ | ⟨bare, _⟩ := Vocabulary.learnOrRelax_cases
    Scalar.faithfulCounts_real (lostStore.texts.map LabelledText.text)
    AnalysisSettings.default.termFilter
  · obtain ⟨after, after', ran, ran', _, scores, scores'⟩ := mirrors.run_eq ⟨rfl, rfl, rfl⟩
      (skipReason?_eq_none.2 ⟨by decide, by decide⟩) occupied_lostStore learnt 2
      (Gram.comparer Gram.defaultSize) ()
    refine ⟨_, _, _, after, after', ran, ran', ?_⟩
    intro rename renamed
    have shown : after.1.store.control.Renamed rename Event.scores after'.1.store.control :=
      renamed.of_id
    rw [EventMap.Renamed, EventMap.Renamed.id_iff.1 scores, EventMap.Renamed.id_iff.1 scores']
      at shown
    cases congrArg (List.map Prod.snd) shown
  · exact absurd (bare "ready" (.head _)) (by decide)

end LogDrift.Session
