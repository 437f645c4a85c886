import LogDrift.Proofs.Exact.Scalar
import LogDrift.Proofs.Session.Rederivation
import LogDrift.Proofs.Similarity.Centroid
import LogDrift.Proofs.Store.Basic
import LogDrift.Proofs.Unknown.Collection

/-!
# When a run with the collaborators at hand completes

A stage fails only when a collaborator leaves out a label, and the clusterer at hand leaves out none
that a filled store can produce. What remains is that there are no terms at all, and this is decided
by the texts of the store.
-/

namespace LogDrift

variable {S Model W : Type}

namespace Matching

/-- Every unknown group has an event. -/
theorem Splitting.groups_ne_nil {outcomes : SortedMap Label (MatchOutcome S)}
    {split : TestSplit S} {before after : List (Label × List (Event S))}
    (kept : Splitting outcomes split before after) : ∀ group ∈ split.unknown, group ≠ [] := by
  intro group member same
  subst same
  have content : [] ∈ unnamedContents (after.map Prod.snd) := by
    rw [← kept.unknown]
    exact List.mem_map_of_mem member
  rw [unnamedContents, List.mem_map] at content
  rcases content with ⟨events, present, empty⟩
  rw [List.map_eq_nil_iff] at empty
  rw [List.mem_filter, empty] at present
  simp at present

end Matching

namespace Unknown

variable [Scalar S]

omit [Scalar S] in
/-- Every group with an event has a text, under its number. -/
theorem exists_groupText {groups : List (List (UnknownEvent S))}
    (occupied : ∀ group ∈ groups, group ≠ []) {number : Nat} (inBounds : number < groups.length) :
    ∃ text ∈ groupTexts groups, text.label = (number : Int) := by
  have member : (groups[number], number) ∈ groups.zipIdx := by
    rw [List.mem_zipIdx_iff_getElem?, List.getElem?_eq_getElem inBounds]
  have present := occupied _ (List.getElem_mem inBounds)
  cases found : groups[number] with
  | nil => exact (present found).elim
  | cons event rest =>
    rw [found] at member
    refine ⟨⟨(number : Int), event.text⟩, ?_, rfl⟩
    rw [groupTexts, List.mem_filterMap]
    exact ⟨_, member, rfl⟩

/-- Texts on their own have clusters. -/
theorem isSome_get?_singletons {texts : List LabelledText} {text : LabelledText}
    (member : text ∈ texts) : ((singletons texts).get? text.label).isSome := by
  rw [singletons, SortedMap.isSome_get?_ofList, List.map_map]
  exact List.mem_map_of_mem member

end Unknown

namespace Session

open CentroidModel

variable [Scalar S]

/-- With a token in the store the texts are clustered and matched, without one there are no
terms. -/
theorem matchTexts_cases (faithful : Scalar.FaithfulCounts S) (threshold : S)
    (session : Session S) (world : W) :
    (HasToken session.store.texts ∧ ∃ vocabulary,
      (matchTexts (clusterer W threshold) session).run.run world =
        (.ok (clustered threshold vocabulary session.store.controlTexts,
          classify threshold (clustered threshold vocabulary session.store.controlTexts).model
            session.store.testTexts), world)) ∨
    (¬ HasToken session.store.texts ∧ ∃ reason,
      (matchTexts (clusterer W threshold) session).run.run world =
        (.error (.emptyVocabulary reason), world)) := by
  have clustering := clusterTexts_cases faithful threshold session.settings.termFilter
    session.store.controlTexts session.store.texts world
  rw [run_clusterTexts] at clustering
  rw [run_matchTexts]
  cases found : Vocabulary.learnOrRelax (session.store.texts.map LabelledText.text)
      session.settings.termFilter with
  | ok vocabulary =>
    rw [found] at clustering
    rcases clustering with ⟨present, _⟩ | ⟨_, reason, impossible⟩
    · exact .inl ⟨present, vocabulary, rfl⟩
    · cases impossible
  | error refusal =>
    rw [found] at clustering
    rcases clustering with ⟨_, vocabulary, impossible⟩ | ⟨absent, reason, refused⟩
    · cases impossible
    · cases refused
      exact .inr ⟨absent, reason, rfl⟩

/-- Every group of unknown events gets a secondary cluster, with or without terms. -/
theorem assignUnknown_total (threshold : S) (session : Session S) (world : W) :
    ∃ assignments,
      (assignUnknown (clusterer W threshold) session).run.run world = (.ok assignments, world) ∧
      ∀ text ∈ Unknown.groupTexts session.unknownEvents,
        (assignments.get? text.label).isSome := by
  rw [assignUnknown]
  simp only [run_tryCatch, run_bind, run_clusterTexts]
  rcases Vocabulary.learnOrRelax_refusal ((Unknown.groupTexts session.unknownEvents).map
    LabelledText.text) session.settings.termFilter with ⟨vocabulary, learnt⟩ | ⟨reason, refused⟩
  · rw [learnt]
    exact ⟨_, rfl, fun text member => isSome_clusterOf? threshold vocabulary member⟩
  · rw [refused]
    exact ⟨_, rfl, fun text member => Unknown.isSome_get?_singletons member⟩

/-- Unknown events are clustered whenever every group has an event. -/
theorem clusterUnknown_total (threshold : S) (before : Session S × W)
    (occupied : ∀ group ∈ before.1.unknownEvents, group ≠ []) :
    ∃ after, Yields (clusterUnknown (clusterer W threshold)) before () after := by
  cases unknown : before.1.unknownEvents with
  | nil => exact ⟨before, yields_clusterUnknown.2 (.inl ⟨unknown, rfl⟩)⟩
  | cons group rest =>
    rcases assignUnknown_total threshold before.1 before.2 with
      ⟨assignments, answered, assigned⟩
    have numbered : ∀ number : Nat, number < before.1.unknownEvents.length →
        (assignments.get? (number : Int)).isSome := by
      intro number inBounds
      rcases Unknown.exists_groupText occupied inBounds with ⟨text, member, label⟩
      exact label ▸ assigned text member
    rcases Unknown.groupEvents_total numbered with ⟨grouping, grouped⟩
    have collected : ∃ after, groupUnknown assignments before.1 = (.ok (), after) :=
      ⟨_, groupUnknown_eq_ok.2 ⟨grouping, grouped, rfl⟩⟩
    rcases collected with ⟨after, collected⟩
    have present : before.1.unknownEvents ≠ [] := by
      rw [unknown]
      exact List.cons_ne_nil group rest
    exact ⟨(after, before.2),
      yields_clusterUnknown.2 (.inr ⟨present, assignments, answered, collected⟩)⟩

/-- Every label of a filled store gets a cluster or an outcome, so that a run which has terms goes
through all its stages. -/
theorem course_of_learnt (threshold : S) (comparer : Comparer S) (before : Session S × W)
    (analysed : skipReason? before.1 = none) (occupied : before.1.store.Occupied)
    {vocabulary : Vocabulary S}
    (learnt : Vocabulary.learnOrRelax (before.1.store.texts.map LabelledText.text)
      before.1.settings.termFilter = .ok vocabulary) :
    ∃ rated, Nonempty (Course (clusterer W threshold) comparer before rated) := by
  have matched := matchTexts_of_learnt learnt threshold before.2
  have assigned : ∀ entry ∈ before.1.store.control.entries,
      ((clustered threshold vocabulary before.1.store.controlTexts).clusterOf?
        entry.1).isSome := by
    intro entry member
    rcases EventMap.exists_text_of_mem occupied.1 member with ⟨text, present, label⟩
    exact label ▸ isSome_clusterOf? threshold vocabulary present
  have answered : ∀ entry ∈ before.1.store.test.entries,
      ((classify threshold (clustered threshold vocabulary
        before.1.store.controlTexts).model before.1.store.testTexts).get? entry.1).isSome := by
    intro entry member
    rcases EventMap.exists_text_of_mem occupied.2 member with ⟨text, present, label⟩
    exact label ▸ isSome_get?_classify threshold _ present
  rcases Matching.relabelControl_total assigned before.1.settings.maxTags with
    ⟨clusters, controlEvents, control⟩
  rcases Matching.relabelTest_total answered (clustered threshold vocabulary
    before.1.store.controlTexts) before.1.settings.maxTags with ⟨split, testEvents, test⟩
  have groups := (Matching.relabelTest_spec test).groups_ne_nil
  have first : ∃ relabelled, relabelControl (clustered threshold vocabulary
      before.1.store.controlTexts) before.1 = (.ok (), relabelled) ∧
      relabelled.settings = before.1.settings ∧
      relabelled.store.test = before.1.store.test :=
    ⟨_, relabelControl_eq_ok.2 ⟨clusters, controlEvents, control, rfl⟩, rfl, rfl⟩
  rcases first with ⟨relabelled, control, settings, events⟩
  rw [← settings, ← events] at test
  have second : ∃ divided, relabelTest _ (clustered threshold vocabulary
      before.1.store.controlTexts) relabelled = (.ok (), divided) ∧
      divided.unknownEvents = split.unknown :=
    ⟨_, relabelTest_eq_ok.2 ⟨split, testEvents, test, rfl⟩, rfl⟩
  rcases second with ⟨divided, test, unknown⟩
  rcases clusterUnknown_total threshold (divided, before.2)
    (by rw [unknown]; exact groups) with ⟨⟨grouped, world⟩, third⟩
  have fourth : ∃ compared,
      compareFrequencies (attachAlerts comparer grouped) = (.ok (), compared) :=
    ⟨_, compareFrequencies_eq_ok _⟩
  rcases fourth with ⟨compared, frequencies⟩
  refine ⟨(rate compared, world), ⟨?_⟩⟩
  exact {
    analysed, matched, relabelled, control, test, grouped, compared, frequencies
    clustering := clustered threshold vocabulary before.1.store.controlTexts
    outcomes := _
    world := before.2
    split := divided
    unknown := third
    rated := rfl }

/-- With a token in the store there are terms. -/
theorem course_of_token (faithful : Scalar.FaithfulCounts S) (threshold : S)
    (comparer : Comparer S) (before : Session S × W) (analysed : skipReason? before.1 = none)
    (occupied : before.1.store.Occupied) (token : HasToken before.1.store.texts) :
    ∃ rated, Nonempty (Course (clusterer W threshold) comparer before rated) := by
  rcases Vocabulary.learnOrRelax_cases faithful (before.1.store.texts.map LabelledText.text)
    before.1.settings.termFilter with ⟨_, vocabulary, learnt⟩ | ⟨bare, _⟩
  · exact course_of_learnt threshold comparer before analysed occupied learnt
  · rcases token with ⟨text, member, token⟩
    exact (token (bare _ (List.mem_map_of_mem member))).elim

end Session

end LogDrift
