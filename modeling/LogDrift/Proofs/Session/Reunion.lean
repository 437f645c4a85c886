import LogDrift.Proofs.Session.Replay

/-!
# Clusters that a repetition unites

A term that is in every text says nothing, and the default filter drops it. When a saved state has a
text without that term, the term counts in the repetition, and texts that had nothing else become
the same.
-/

namespace LogDrift.Session

open CentroidModel

variable {S W : Type} [Scalar S]

/-! ## A term of every message -/

/-- Two control messages that say the same, and two test messages under one label, of which the
second says nothing. -/
def pingStore : Store ℝ :=
  (((Store.empty.add ⟨.control, .search⟩ (seen 1 "ping")).add ⟨.control, .search⟩
    (seen 2 "ping")).add ⟨.test, .search⟩ (seen 1 "ping alpha")).add ⟨.test, .search⟩ (seen 1 "-")

theorem built_pingStore : pingStore.Built :=
  .add _ _ (.add _ _ (.add _ _ (.add _ _ .empty)))

/-- The vocabulary of the first run. The term of all texts is dropped. -/
noncomputable def alphaVocabulary : Vocabulary ℝ :=
  ⟨[("alpha", Vocabulary.weight 3 1)]⟩

theorem learnOrRelax_pingStore :
    Vocabulary.learnOrRelax (pingStore.texts.map LabelledText.text) .default =
      .ok alphaVocabulary := by
  have texts : pingStore.texts.map LabelledText.text = ["ping", "ping", "ping alpha"] := rfl
  rw [texts]
  have counts : (Vocabulary.documentCounts ["ping", "ping", "ping alpha"]).entries =
      [("alpha", 1), ("ping", 3)] := by
    decide +kernel
  refine Vocabulary.learnOrRelax_of_kept ?_ (List.cons_ne_nil ("alpha", 1) [])
  rw [counts]
  have kept : Vocabulary.keeps (.default : TermFilter ℝ) 3 1 = true :=
    (Vocabulary.keeps_default Scalar.exact_real).2 (by decide)
  have dropped : Vocabulary.keeps (.default : TermFilter ℝ) 3 3 = false := by
    rw [Bool.eq_false_iff, Ne, Vocabulary.keeps_default Scalar.exact_real]
    decide
  simp [kept, dropped]

/-- The vocabulary of the repetition. The message that says nothing is a text of its own. -/
noncomputable def pingVocabulary : Vocabulary ℝ :=
  ⟨[("alpha", Vocabulary.weight 4 1), ("ping", Vocabulary.weight 4 3)]⟩

theorem learnOrRelax_pings :
    Vocabulary.learnOrRelax ["ping", "ping", "ping alpha", "-"] .default = .ok pingVocabulary := by
  have counts : (Vocabulary.documentCounts ["ping", "ping", "ping alpha", "-"]).entries =
      [("alpha", 1), ("ping", 3)] := by
    decide +kernel
  refine Vocabulary.learnOrRelax_of_kept ?_ (List.cons_ne_nil ("alpha", 1) [("ping", 3)])
  rw [counts, List.filter_eq_self]
  intro entry member
  rw [Vocabulary.keeps_default Scalar.exact_real]
  revert member entry
  decide

/-- With its only term a message equals itself. -/
theorem resembles_pings {left right : LabelledText} (isLeft : left.text = "ping")
    (isRight : right.text = "ping") :
    Resembles AnalysisSettings.default.matchThreshold pingVocabulary left right := by
  have heavy : (1 : ℝ) ≤ Vocabulary.weight 4 3 :=
    Vocabulary.one_le_weight Scalar.exact_real (by decide)
  have vector : pingVocabulary.vector "ping" = [0, 1] := by
    have counted : pingVocabulary.vector "ping" = Vector.normalized
        [((Text.tokens "ping").count "alpha" : ℝ) * Vocabulary.weight 4 1,
          ((Text.tokens "ping").count "ping" : ℝ) * Vocabulary.weight 4 3] := rfl
    have tokens : Text.tokens "ping" = ["ping"] := by decide +kernel
    have same : ((Text.tokens "ping").count "alpha" : ℝ) * Vocabulary.weight 4 1 =
        (0 : ℝ) * Vocabulary.weight 4 3 := by
      simp [tokens]
    rw [counted, same, Vector.normalized_pair heavy]
    · simp [tokens]
    · simp [tokens]
  rw [Resembles, isLeft, isRight, vector, matchThreshold_real,
    Vector.le_cosine_pair (by norm_num) (by norm_num)]
  norm_num

/-- A message without terms has a vector without a sign. -/
theorem null_ping : Vector.Null (alphaVocabulary.vector "ping") := by
  apply Vocabulary.null_vector Scalar.faithfulSigns_real
  intro term member
  rw [List.mem_singleton.1 member]
  decide +kernel

theorem text_control_ping : ∀ text ∈ pingStore.controlTexts, text.text = "ping" := by
  decide

section Saved

variable {threshold : ℝ} (positive : 0 < threshold) {saved : Snapshot ℝ}
  (saves : Saves threshold alphaVocabulary pingStore saved)

include positive saves

/-- Both control messages come back, since without terms they were clusters of their own. -/
theorem controlTexts_restored_ping : saved.restored.controlTexts.map LabelledText.text =
    ["ping", "ping"] := by
  have entries : pingStore.control.entries = [(1, [seen 1 "ping"]), (2, [seen 2 "ping"])] := rfl
  have control := saves.control
  rw [entries, List.forall₂_cons_left_iff] at control
  rcases control with ⟨⟨_, _⟩, rest, ⟨rfl, left, assigned, rfl⟩, control, stored⟩
  rw [List.forall₂_cons_left_iff] at control
  rcases control with ⟨⟨_, _⟩, rest, ⟨rfl, right, assigned', rfl⟩, control, rfl⟩
  cases control
  have differ : left ≠ right := by
    intro same
    have apart : pingStore.controlTexts.Pairwise fun left right =>
        ¬ Resembles threshold alphaVocabulary left right := by
      apply List.pairwise_of_forall_mem_list
      intro left inLeft right _
      rw [Resembles, text_control_ping left inLeft]
      exact Scalar.faithfulSigns_real.not_le positive
        (Vector.null_cosine_left Scalar.faithfulSigns_real null_ping _)
    have equal := (separate_iff pingStore.control.nodup_labels_texts).2 apart ⟨1, "ping"⟩ (.head _)
      ⟨2, "ping"⟩ (.tail _ (.head _)) (assigned.trans (same ▸ assigned'.symm))
    cases equal
  have all : saved.controlEvents.all =
      [{ seen 1 "ping" with label := left }, { seen 2 "ping" with label := right }] := by
    rw [EventMap.all_eq_flatMap, stored]
    rfl
  have distinct : ((saved.events .control).all.map Event.label).Nodup := by
    show (saved.controlEvents.all.map Event.label).Nodup
    rw [all]
    simpa using differ
  have texts := Snapshot.texts_restored .control distinct
  show (saved.restored.events .control).texts.map LabelledText.text = _
  rw [texts]
  show (saved.controlEvents.all.map _).map LabelledText.text = _
  rw [all]
  rfl

/-- Both test messages come back under labels of their own, since the first of them is unmatched. -/
theorem testTexts_restored_ping : saved.restored.testTexts.map LabelledText.text =
    ["ping alpha", "-"] := by
  have said : saved.testEvents.entries.map (fun entry => (entry.1, entry.2.map Event.content)) =
      [(1, [(seen 1 "ping alpha").content, (seen 1 "-").content])] := saves.test
  rcases List.map_eq_singleton_iff.1 said with ⟨⟨label, events⟩, stored, same⟩
  rcases Prod.mk.inj same with ⟨rfl, same⟩
  rcases List.map_eq_cons_iff.1 same with ⟨first, rest, rfl, content, same⟩
  rcases List.map_eq_singleton_iff.1 same with ⟨second, rfl, content'⟩
  have all : saved.testEvents.all = [first, second] := by
    rw [EventMap.all_eq_flatMap, stored]
    rfl
  have found : saved.testEvents.get? 1 = some [first, second] :=
    OrderedMap.get?_eq_some_iff.2 (stored ▸ .head _)
  have own : ∀ event ∈ [first, second], Label.isReal event.label = false := by
    rcases saves.decided ⟨1, "ping alpha"⟩ (.head _) _ found with ⟨_, isMatched, _⟩ | ⟨_, own⟩
    · have accepted := (Matching.matched?_eq_some_iff.1 isMatched).1
      rcases matched_cases Scalar.faithfulSigns_real positive accepted with
        ⟨member, present, equal⟩ | ⟨member, present, signed⟩
      · rw [text_control_ping _ (source_of_member present).1] at equal
        exact absurd equal (by decide)
      · rcases source_of_member present with ⟨source, vector⟩
        rw [vector, text_control_ping _ source] at signed
        exact (signed null_ping).elim
    · exact own
  have distinct : ((saved.events .test).all.map Event.label).Nodup := by
    have ascending := saves.own
    rw [all, Matching.ownLabels, Matching.unnamed_eq_self own] at ascending
    show (saved.testEvents.all.map Event.label).Nodup
    rw [all]
    exact ascending.imp Int.ne_of_lt
  have texts := Snapshot.texts_restored .test distinct
  show (saved.restored.events .test).texts.map LabelledText.text = _
  rw [texts]
  show (saved.testEvents.all.map _).map LabelledText.text = _
  rw [all]
  show [first.text, second.text] = _
  rw [show first.text = _ from congrArg Prod.fst content,
    show second.text = _ from congrArg Prod.fst content']
  rfl

end Saved

/-! ## Repeating a run -/

theorem default_matchThreshold_pos : (0 : ℝ) < AnalysisSettings.default.matchThreshold := by
  rw [matchThreshold_real]
  norm_num

end LogDrift.Session
