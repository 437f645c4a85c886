import LogDrift.Proofs.Session.Independence
import LogDrift.Proofs.Session.Mirror

/-!
# Running again over the same session

A run leaves in its session what the next run starts from: relabelled events, the baselines that the
detector has learnt, and clusters that lie somewhere in the plane. None of this changes what a pure
clusterer answers, and all of it is derived anew, so that the next run comes to the same session.
-/

namespace LogDrift

variable {S Model W : Type}

namespace Session

variable {session session' : Session S}

/-- Texts under the same labels are matched alike. -/
theorem Mirrors.matchTexts_eq [Scalar S] (mirrors : Mirrors (fun _ => id) session session')
    (clusterer : Clusterer S Model W) :
    matchTexts clusterer session' = matchTexts clusterer session := by
  have control : session'.store.controlTexts = session.store.controlTexts :=
    mirrors.control.texts_eq.trans (List.map_id _)
  have test : session'.store.testTexts = session.store.testTexts :=
    mirrors.test.texts_eq.trans (List.map_id _)
  simp only [matchTexts, Store.texts, control, test, mirrors.settings]

/-- Nothing is left to differ once the control events have the same scores. -/
theorem Matches.eq (matched : Matches (fun _ => id) session session')
    (scores : session.store.control.Renamed id Event.scores session'.store.control) :
    session' = session := by
  have control := matched.control.eq_of_unscored_of_scores scores
  have test := matched.test.eq_of_id
  have store : session'.store = session.store := congrArg₂ Store.mk control test
  rw [matched.derived, store]

variable [Scalar S] {clusterer : Clusterer S Model W} {comparer : Comparer S}
  {before rated : Session S × W}

/-- What a course makes of the session, but for its events. Without unknown events their clusters
are those of the start, compared once more. -/
theorem Course.rated_eq (course : Course clusterer comparer before rated) :
    ∃ unknown scores,
      (course.split.unknownEvents = [] →
        unknown = before.1.maps.unknown ∧ scores = before.1.scores.unknown) ∧
      rated.1 =
        let comparison := Frequency.compare before.1.detector course.relabelled.maps.control
          course.split.maps.test before.1.settings.direction
        rate { before.1 with
          store := rated.1.store
          detector := comparison.detector
          unknownEvents := course.split.unknownEvents
          maps := ⟨course.relabelled.maps.control, comparison.test,
            Unknown.attachAlerts comparer course.relabelled.maps.control before.1.known
              before.1.settings.diffBand unknown⟩
          scores := ⟨scores, comparison.scores⟩ } := by
  rcases course with ⟨clustering, outcomes, world, _, _, relabelled, control, split, test, grouped,
    unknown, compared, frequencies, rating⟩
  obtain ⟨clusters, controlEvents, _, rfl⟩ := relabelControl_eq_ok.1 control
  obtain ⟨parts, testEvents, _, rfl⟩ := relabelTest_eq_ok.1 test
  rw [compareFrequencies_eq_ok] at frequencies
  obtain ⟨_, rfl⟩ := Prod.mk.inj frequencies
  obtain ⟨bare, same⟩ | ⟨present, assignments, _, grouped⟩ := yields_clusterUnknown.1 unknown
  · cases (Prod.mk.inj same).1
    refine ⟨before.1.maps.unknown, before.1.scores.unknown, fun _ => ⟨rfl, rfl⟩, ?_⟩
    rw [rating]
    rfl
  · obtain ⟨grouping, _, rfl⟩ := groupUnknown_eq_ok.1 grouped
    refine ⟨(Unknown.scoreEvents grouping).clusters, (Unknown.scoreEvents grouping).scores,
      fun empty => (present empty).elim, ?_⟩
    rw [rating]
    rfl

/-- A course changes labels and scores of events, but not what they say. -/
theorem Course.mirrors (course : Course clusterer comparer before rated) :
    Mirrors (fun _ => id) before.1 rated.1 := by
  obtain ⟨outline⟩ := course.outline
  obtain ⟨unknown, scores, _, same⟩ := course.rated_eq
  have kept : rated.1.settings = before.1.settings ∧ rated.1.known = before.1.known ∧
      rated.1.query = before.1.query := by
    rw [same]
    exact ⟨rfl, rfl, rfl⟩
  exact {
    control := EventMap.Renamed.id_iff.2 (Matching.relabelControl_spec outline.control).2
    test := EventMap.Renamed.id_iff.2 (Matching.relabelTest_spec outline.test).contents
    settings := kept.1
    known := kept.2.1
    query := kept.2.2 }

/-- The detector has learnt the baselines of the course, so that comparing with it again makes no
difference. -/
theorem Course.compare_again (course : Course clusterer comparer before rated) :
    Frequency.compare rated.1.detector course.relabelled.maps.control course.split.maps.test
        before.1.settings.direction =
      Frequency.compare before.1.detector course.relabelled.maps.control course.split.maps.test
        before.1.settings.direction := by
  obtain ⟨unknown, scores, _, same⟩ := course.rated_eq
  rw [same]
  exact Frequency.compare_again _ _ _ _

/-- Without unknown events there are no clusters of them, unless there were some before. -/
theorem Course.unknown_eq_empty (course : Course clusterer comparer before rated)
    (fresh : before.1.maps.unknown = .empty ∧ before.1.scores.unknown = .empty)
    (bare : course.split.unknownEvents = []) :
    rated.1.maps.unknown = .empty ∧ rated.1.scores.unknown = .empty := by
  obtain ⟨unknown, scores, idle, same⟩ := course.rated_eq
  obtain ⟨rfl, rfl⟩ := idle bare
  rw [same, fresh.1, fresh.2]
  exact ⟨rfl, rfl⟩

omit [Scalar S] in
/-- Points give nothing to clusters that are not there. -/
theorem unknown_arranged {clusterer : Clusterer S Model W} {before after : Session S × W}
    (arranged : Yields (arrange clusterer) before () after)
    (bare : before.1.maps.unknown = .empty) : after.1.maps.unknown = .empty := by
  obtain ⟨reached, total, same | ⟨points, moved⟩⟩ := arrange_total clusterer before
  · cases yields_unique arranged total
    rw [same, bare]
  · cases yields_unique arranged total
    rw [moved, moveClusters_eq]
    split
    · simp only [Layout.place, bare]
      rfl
    · exact bare

/-- Whatever a pure clusterer answers, a second run over the session of a first one ends in the same
way and changes nothing. -/
theorem run_again (isPure : clusterer.IsPure) (comparer : Comparer S) (store : Store S)
    (settings : AnalysisSettings S) (known : KnownClusters) (query : Option String) (world : W)
    {status : RunStatus S} {after : Session S × W}
    (ran : Yields (run clusterer comparer) (start store settings known query, world) status after)
    (world' : W) :
    ∃ later, Yields (run clusterer comparer) (after.1, world') status (after.1, later) := by
  obtain ⟨reason, skip, rfl, rfl⟩ | ⟨rfl, rated, ⟨course⟩, arranged⟩ := run_follows ran
  · exact ⟨world', run_of_skipped skip⟩
  · obtain ⟨moved, _⟩ := arrange_again isPure arranged rfl world'
    -- The session after the run mirrors that at its start, so the same is answered for it.
    have mirrors : Mirrors (fun _ => id) (start store settings known query) after.1 := by
      have mirrors := course.mirrors
      rw [moved]
      exact ⟨mirrors.control, mirrors.test, mirrors.settings, mirrors.known, mirrors.query⟩
    obtain ⟨_, matched⟩ := (isPure_matchTexts isPure _).again course.matched world'
    rw [← mirrors.matchTexts_eq] at matched
    -- What is not derived anew is as it was at the start, or makes no difference.
    have idle : course.split.unknownEvents = [] →
        after.1.maps.unknown = .empty ∧ after.1.scores.unknown = .empty := by
      intro bare
      obtain ⟨clusters, scores⟩ := course.unknown_eq_empty ⟨rfl, rfl⟩ bare
      exact ⟨unknown_arranged arranged clusters,
        (congrArg (fun session => session.scores.unknown) moved).trans scores⟩
    have learnt := course.compare_again
    rw [← congrArg detector moved] at learnt
    obtain ⟨⟨session, reached⟩, ⟨course'⟩, agree⟩ := course.mirrored isPure (after.1, world')
      mirrors matched ⟨fun _ _ => rfl, rfl, fun _ _ => rfl⟩ idle learnt
    have scores : rated.1.store.control.Renamed id Event.scores session.store.control := by
      have kept := course'.scores_eq
      rw [moved] at kept
      exact kept
    -- The second course ends where the first one did, and the clusters are laid out as before.
    obtain rfl : session = rated.1 := agree.eq scores
    obtain ⟨_, later, arranged'⟩ := arrange_again isPure arranged rfl reached
    rw [← moved] at arranged'
    exact ⟨later, course'.run arranged'⟩

/-- Running again over a message of either window keeps the cluster of the unknown one. -/
theorem run_again_lost :
    ∃ score unknown anomalies after,
      Yields (run (CentroidModel.clusterer Unit (2 : ℝ)) (Gram.comparer Gram.defaultSize))
        (start lostStore .default {} none, ()) (.completed score unknown anomalies) after ∧
      Yields (run (CentroidModel.clusterer Unit (2 : ℝ)) (Gram.comparer Gram.defaultSize))
        after (.completed score unknown anomalies) after ∧
      ∃ cluster entry, after.1.snapshot.unknownClusters.find? cluster "a" = some entry := by
  have occupied : lostStore.Occupied := (Store.Built.add _ _ (.add _ _ .empty)).occupied
  obtain ⟨rated, ⟨course⟩⟩ := course_of_token Scalar.faithfulCounts_real 2
    (Gram.comparer Gram.defaultSize) (start lostStore .default {} none, ())
    (skipReason?_eq_none.2 ⟨by decide, by decide⟩) occupied ⟨⟨1, "ready"⟩, .head _, by decide⟩
  obtain ⟨after, ran⟩ := course.completes
  obtain ⟨_, again⟩ := run_again (CentroidModel.isPure_clusterer Unit 2) _ _ _ _ _ _ ran after.2
  exact ⟨_, _, _, after, ran, again, exists_unknown_lostStore ran⟩

end Session

end LogDrift
