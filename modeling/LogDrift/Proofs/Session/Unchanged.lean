import LogDrift.Proofs.Exact.Matching
import LogDrift.Proofs.Session.Rederivation
import LogDrift.Proofs.Session.Totality

/-!
# What becomes of unchanged messages

A test message that equals a control message is matched when it is recognised, and is reported as
unknown otherwise: nothing in between happens to its events. It is recognised when it has no terms,
and, up to rounding, when it is similar to every other message of its cluster. Being clustered alone
is not enough, since a cluster may be a chain whose centre is far from its ends.
-/

namespace LogDrift

variable {S : Type}

open Matching

namespace Snapshot

/-- The test events of a label were matched. -/
structure Accepts (snapshot : Snapshot S) (label : Label) (events : List (Event S)) : Prop where
  named : ∀ event ∈ events, event.label < Label.unknownBase
  /-- The occurrences of each event are in the test cluster of its new label, on its host. -/
  filed : ∀ event ∈ events, ∃ entry,
    snapshot.testClusters.find? event.label event.host = some entry ∧
      event.occurrences <:+: entry.occurrences
  /-- All unknown events are of other labels. -/
  absent : snapshot.unknownEvents.map (fun group => group.map UnknownEvent.content) =
    unnamedContents ((snapshot.testEvents.entries.filter fun entry => entry.1 ≠ label).map Prod.snd)

/-- Test events were reported as unknown. -/
structure Reports (snapshot : Snapshot S) (events : List (Event S)) : Prop where
  unnamed : ∀ event ∈ events, Label.unknownBase ≤ event.label
  /-- The events are a group of unknown events. -/
  grouped : events.map Event.content ∈
    snapshot.unknownEvents.map fun group => group.map UnknownEvent.content

end Snapshot

namespace Matching

/-- Groups without events of their own labels leave nothing. -/
theorem unnamedContents_filter {groups : List (Label × List (Event S))} {label : Label}
    (matched : ∀ group ∈ groups, group.1 = label → unnamed group.2 = []) :
    unnamedContents ((groups.filter fun group => group.1 ≠ label).map Prod.snd) =
      unnamedContents (groups.map Prod.snd) := by
  induction groups with
  | nil => rfl
  | cons group rest ih =>
    rw [List.forall_mem_cons] at matched
    rw [List.filter_cons]
    split
    · rw [List.map_cons, List.map_cons, unnamedContents_cons, unnamedContents_cons, ih matched.2]
    · next same =>
      rw [decide_eq_true_eq, not_not] at same
      rw [ih matched.2, List.map_cons, unnamedContents_cons, matched.1 same]
      rfl

end Matching

namespace Snapshot

variable {snapshot : Snapshot S} {label : Label} {events : List (Event S)}

/-- Events with labels that name clusters were matched. -/
theorem Rederivable.accepts (derived : snapshot.Rederivable)
    (found : snapshot.testEvents.get? label = some events)
    (real : ∀ event ∈ events, Label.isReal event.label = true) :
    snapshot.Accepts label events := by
  rw [OrderedMap.get?_eq_some_iff] at found
  constructor
  case named =>
    intro event member
    exact isReal_iff.1 (real event member)
  case filed =>
    intro event member
    have stored : event ∈ named snapshot.testEvents.all :=
      List.mem_filter.2 ⟨EventMap.mem_all.2 ⟨(label, events), found, member⟩, real event member⟩
    exact derived.test.exists_entry stored
  case absent =>
    rw [unnamedContents_filter, derived.groups, OrderedMap.values]
    intro group member same
    rcases group with ⟨other, others⟩
    cases same
    have equal := SortedMap.value_unique snapshot.testEvents.distinct found member
    rw [← equal]
    exact unnamed_eq_nil real

/-- Events with labels of their own were reported. -/
theorem Rederivable.reports (derived : snapshot.Rederivable)
    (found : snapshot.testEvents.get? label = some events) (present : events ≠ [])
    (own : ∀ event ∈ events, Label.isReal event.label = false) : snapshot.Reports events := by
  rw [OrderedMap.get?_eq_some_iff] at found
  constructor
  case unnamed =>
    intro event member
    exact Int.not_lt.1 (of_decide_eq_false (own event member))
  case grouped =>
    rw [derived.groups, unnamedContents]
    apply List.mem_map_of_mem
    rw [List.mem_filter]
    constructor
    · rw [← unnamed_eq_self own]
      exact List.mem_map_of_mem (List.mem_map.2 ⟨(label, events), found, rfl⟩)
    · rw [Bool.not_eq_true', List.isEmpty_eq_false_iff]
      exact present

end Snapshot

namespace Session

open CentroidModel

variable {W : Type} [Scalar S]

/-- A completed run with the clusterer at hand decides about the test events of every label by the
outcome for their text. -/
theorem run_decides {threshold : S} {comparer : Comparer S} {store : Store S}
    {settings : AnalysisSettings S} {known : KnownClusters} {query : Option String} {world : W}
    {score : S} {unknown anomalies : Nat} {after : Session S × W}
    (ran : Yields (run (clusterer W threshold) comparer) (start store settings known query, world)
      (.completed score unknown anomalies) after) :
    ∃ vocabulary : Vocabulary S,
      Vocabulary.learnOrRelax (store.texts.map LabelledText.text) settings.termFilter =
        .ok vocabulary ∧
      store.controlTexts.length ≤ settings.clusterLimit ∧
      after.1.snapshot.testEvents.contents = store.test.contents ∧
      ∀ text ∈ store.testTexts, ∀ events,
        after.1.snapshot.testEvents.get? text.label = some events →
        Decides ((clustered threshold vocabulary store.controlTexts).model.matchText threshold
          text.text) events := by
  rcases exists_course ran with ⟨rated, ⟨course⟩, stays⟩
  have few := (skipReason?_eq_none.1 course.analysed).2
  rcases course.outline with ⟨outline⟩
  have test := relabelTest_spec outline.test
  obtain ⟨vocabulary, learnt, clustering, outcomes⟩ := exists_learnt_of_matched course.matched
  refine ⟨vocabulary, learnt, store.control.length_texts_le.trans few, ?_, ?_⟩
  · show after.1.store.test.contents = _
    rw [stays]
    exact test.contents
  · intro text member events found
    have found : after.1.store.test.get? text.label = some events := found
    rw [stays, OrderedMap.get?_eq_some_iff] at found
    rcases test.decided _ found with ⟨outcome, answered, decides⟩
    have classified : (classify threshold (clustered threshold vocabulary
        store.controlTexts).model store.testTexts).get? text.label = some _ :=
      get?_classify threshold _ store.test.nodup_labels_texts member
    rw [outcomes, clustering] at answered
    cases classified.symm.trans answered
    exact decides

/-- The events of a test text that equals a control text are all matched, if the text is recognised,
and all reported, if it is not. -/
theorem run_treats {threshold : S} {comparer : Comparer S} {store : Store S}
    {settings : AnalysisSettings S} {known : KnownClusters} {query : Option String} {world : W}
    {score : S} {unknown anomalies : Nat} {after : Session S × W}
    (few : settings.clusterLimit ≤ 1000000)
    (ran : Yields (run (clusterer W threshold) comparer) (start store settings known query, world)
      (.completed score unknown anomalies) after) :
    ∃ vocabulary : Vocabulary S,
      Vocabulary.learnOrRelax (store.texts.map LabelledText.text) settings.termFilter =
        .ok vocabulary ∧
      ∀ text ∈ store.testTexts, (∃ known ∈ store.controlTexts, known.text = text.text) →
        ∃ before events, store.test.get? text.label = some before ∧ before ≠ [] ∧
          after.1.snapshot.testEvents.get? text.label = some events ∧
          events.map Event.content = before.map Event.content ∧
          (Recognises threshold (clustered threshold vocabulary store.controlTexts).model text.text →
            after.1.snapshot.Accepts text.label events) ∧
          (¬ Recognises threshold (clustered threshold vocabulary store.controlTexts).model
            text.text → after.1.snapshot.Reports events) := by
  rcases run_decides ran with ⟨vocabulary, learnt, limit, contents, decided⟩
  have derived : after.1.snapshot.Rederivable := by
    rcases run_rederivable rfl ran with ⟨_, skipped, _⟩ | ⟨_, derived⟩
    · cases skipped
    · exact derived
  refine ⟨vocabulary, learnt, ?_⟩
  intro text member unchanged
  rcases EventMap.exists_group_of_mem_texts member with ⟨event, rest, stored, _⟩
  have before := OrderedMap.get?_eq_some_iff.2 stored
  rcases EventMap.exists_get?_of_contents contents before with ⟨events, found, same⟩
  have present : events ≠ [] := by
    intro bare
    rw [bare] at same
    cases same
  rcases matchText_of_known threshold vocabulary unchanged with ⟨cluster, small, nearest, iff⟩
  have real : Label.isReal cluster = true :=
    isReal_iff.2 (Int.ofNat_lt.2 (Nat.lt_of_lt_of_le small (limit.trans few)))
  have outcome := matched?_of_nearest nearest real
  have decides := decided text member events found
  refine ⟨event :: rest, events, before, List.cons_ne_nil event rest, found, same, ?_, ?_⟩
  · intro recognised
    rw [if_pos (iff.2 recognised)] at outcome
    exact derived.accepts found (decides.real outcome)
  · intro unrecognised
    rw [if_neg fun matched => unrecognised (iff.1 matched)] at outcome
    exact derived.reports found present (decides.own outcome)

/-! ## A chain of control messages -/

/-- A message that was seen once. -/
def seen (label : Label) (text : String) : Event ℝ :=
  ⟨label, text, [{ count := 1, host := "a" }], none, none⟩

/-- A message of both windows, and a chain of control messages that leads away from it. -/
def chainStore : Store ℝ :=
  ((((Store.empty.add ⟨.control, .search⟩ (seen 1 "timeout")).add ⟨.control, .search⟩
    (seen 2 "timeout database")).add ⟨.control, .search⟩ (seen 3 "database")).add
    ⟨.control, .search⟩ (seen 4 "database")).add ⟨.test, .search⟩ (seen 1 "timeout")

theorem built_chainStore : chainStore.Built :=
  .add _ _ (.add _ _ (.add _ _ (.add _ _ (.add _ _ .empty))))

theorem texts_chainStore : chainStore.texts.map LabelledText.text =
    ["timeout", "timeout database", "database", "database", "timeout"] := rfl

/-- Both terms are in three of five texts, so that they weigh the same. -/
noncomputable def chainVocabulary : Vocabulary ℝ :=
  ⟨[("database", Vocabulary.weight 5 3), ("timeout", Vocabulary.weight 5 3)]⟩

theorem learnOrRelax_chainStore :
    Vocabulary.learnOrRelax (chainStore.texts.map LabelledText.text) .default =
      .ok chainVocabulary := by
  rw [texts_chainStore]
  have counts : (Vocabulary.documentCounts
      ["timeout", "timeout database", "database", "database", "timeout"]).entries =
        [("database", 3), ("timeout", 3)] := by
    decide +kernel
  refine Vocabulary.learnOrRelax_of_kept ?_ (List.cons_ne_nil ("database", 3) [("timeout", 3)])
  rw [counts, List.filter_eq_self]
  intro entry member
  rw [Vocabulary.keeps_default Scalar.exact_real]
  revert member entry
  decide

/-- The middle of the chain has both terms, and each end has one of them. -/
theorem vector_chainVocabulary :
    chainVocabulary.vector "timeout" = [0, 1] ∧
    chainVocabulary.vector "timeout database" = [1 / √2, 1 / √2] ∧
    chainVocabulary.vector "database" = [1, 0] := by
  have heavy : (1 : ℝ) ≤ Vocabulary.weight 5 3 :=
    Vocabulary.one_le_weight Scalar.exact_real (by decide)
  have counted : ∀ text, chainVocabulary.vector text = Vector.normalized
      [((Text.tokens text).count "database" : ℝ) * Vocabulary.weight 5 3,
        ((Text.tokens text).count "timeout" : ℝ) * Vocabulary.weight 5 3] := fun _ => rfl
  have left : Text.tokens "timeout" = ["timeout"] := by decide +kernel
  have middle : Text.tokens "timeout database" = ["timeout", "database"] := by decide +kernel
  have right : Text.tokens "database" = ["database"] := by decide +kernel
  rw [counted, counted, counted, left, middle, right, Vector.normalized_pair heavy,
    Vector.normalized_pair heavy, Vector.normalized_pair heavy]
  all_goals norm_num [List.count_cons]

/-- The middle of the chain is similar to both ends, which are not similar to each other. -/
theorem similar_chain :
    (7 / 10 : ℝ) ≤ Vector.cosine [0, 1] [1 / √2, 1 / √2] ∧
    (7 / 10 : ℝ) ≤ Vector.cosine [1 / √2, 1 / √2] [1, 0] ∧
    ¬ (7 / 10 : ℝ) ≤ Vector.cosine [0, 1] [1, 0] := by
  have root : (7 : ℝ) / 10 ≤ 1 / √2 := by
    have small : √2 ≤ 10 / 7 := by
      rw [Real.sqrt_le_left (by norm_num)]
      norm_num
    rw [le_div_iff₀ (by positivity)]
    linarith
  have unit : (1 : ℝ) / √2 * (1 / √2) + 1 / √2 * (1 / √2) = 1 := by
    field_simp
    norm_num
  rw [Vector.le_cosine_pair (by norm_num) (by norm_num),
    Vector.le_cosine_pair (by norm_num) (by norm_num),
    Vector.le_cosine_pair (by norm_num) (by norm_num), unit]
  norm_num
  simpa using root

/-- All control texts of the chain are in one group. -/
theorem groups_chainStore : groups (7 / 10) chainVocabulary chainStore.controlTexts =
    [[⟨0, ⟨1, "timeout"⟩, [0, 1]⟩, ⟨1, ⟨2, "timeout database"⟩, [1 / √2, 1 / √2]⟩,
      ⟨2, ⟨3, "database"⟩, [1, 0]⟩, ⟨3, ⟨4, "database"⟩, [1, 0]⟩]] := by
  have texts : members chainVocabulary chainStore.controlTexts =
      [⟨0, ⟨1, "timeout"⟩, [0, 1]⟩, ⟨1, ⟨2, "timeout database"⟩, [1 / √2, 1 / √2]⟩,
        ⟨2, ⟨3, "database"⟩, [1, 0]⟩, ⟨3, ⟨4, "database"⟩, [1, 0]⟩] := by
    rw [← vector_chainVocabulary.1, ← vector_chainVocabulary.2.1, ← vector_chainVocabulary.2.2]
    rfl
  rcases similar_chain with ⟨start, rest, apart⟩
  rw [groups, texts]
  apply Component.components_eq_singleton
  apply Component.unreached_chain
  · exact decide_eq_true start
  · rw [List.forall_mem_cons, List.forall_mem_singleton]
    exact ⟨decide_eq_false apart, decide_eq_false apart⟩
  · rw [List.forall_mem_cons, List.forall_mem_singleton]
    exact ⟨decide_eq_true rest, decide_eq_true rest⟩

/-- The centre of the chain is far from its lighter end. -/
theorem not_le_cosine_centre :
    ¬ (7 / 10 : ℝ) ≤ Vector.cosine [0, 1]
      (Vector.mean 2 [[0, 1], [1 / √2, 1 / √2], [1, 0], [1, 0]]) := by
  have centre : Vector.mean 2 [[0, 1], [1 / √2, 1 / √2], [1, 0], [1, 0]] =
      [(2 + 1 / √2) / 4, (1 + 1 / √2) / 4] := by
    show [(0 + 0 + 1 / √2 + 1 + 1) / (((4 : ℕ) : ℤ) : ℝ),
      (0 + 1 + 1 / √2 + 0 + 0) / (((4 : ℕ) : ℤ) : ℝ)] = _
    norm_num
    ring
  rw [centre, Vector.le_cosine_pair (by norm_num) (by norm_num)]
  intro found
  rcases found with ⟨_, _, close⟩
  have unit : √((0 : ℝ) * 0 + 1 * 1) = 1 := by norm_num
  have short : 1 / √2 ≤ 1 := by
    rw [div_le_one (by positivity)]
    exact Real.one_le_sqrt.2 one_le_two
  have long : (2 + 1 / √2) / 4 ≤ √((2 + 1 / √2) / 4 * ((2 + 1 / √2) / 4) +
      (1 + 1 / √2) / 4 * ((1 + 1 / √2) / 4)) := by
    apply Real.le_sqrt_of_sq_le
    rw [sq]
    exact le_add_of_nonneg_right (mul_self_nonneg _)
  rw [unit] at close
  linarith

theorem not_recognises_chainStore :
    ¬ Recognises (7 / 10) (clustered (7 / 10) chainVocabulary chainStore.controlTexts).model
      "timeout" := by
  have centroids : (clustered (7 / 10) chainVocabulary chainStore.controlTexts).model.centroids =
      [.ofMembers 0 2 [[0, 1], [1 / √2, 1 / √2], [1, 0], [1, 0]]] := by
    show ((groups (7 / 10) chainVocabulary chainStore.controlTexts).zipIdx.map _).map _ = _
    rw [groups_chainStore]
    rfl
  have vector : (clustered (7 / 10) chainVocabulary chainStore.controlTexts).model.vocabulary.vector
      "timeout" = [0, 1] := vector_chainVocabulary.1
  rw [Recognises, vector]
  intro either
  rcases either with zero | ⟨centroid, similarity, nearest, close⟩
  · simp [Vector.isZero_iff Scalar.exact_real] at zero
  · rw [nearest_eq, centroids] at nearest
    cases nearest
    exact not_le_cosine_centre close

theorem matchThreshold_real : (AnalysisSettings.default.matchThreshold : ℝ) = 7 / 10 :=
  (Scalar.exact_real.ratio 7 10).trans (by norm_num)

/-! ## Runs under the default settings -/

/-- A run over real numbers completes when the store has a control label and a text with a token. -/
theorem exists_completed_real {store : Store ℝ} (built : store.Built)
    (present : 0 < store.control.size) (few : store.control.size ≤ 500)
    (token : HasToken store.texts) :
    ∃ score unknown anomalies after,
      Yields (run (clusterer Unit AnalysisSettings.default.matchThreshold)
          (Gram.comparer Gram.defaultSize))
        (start store .default {} none, ()) (.completed score unknown anomalies) after := by
  rcases course_of_token Scalar.faithfulCounts_real AnalysisSettings.default.matchThreshold
    (Gram.comparer Gram.defaultSize) (start store .default {} none, ())
    (skipReason?_eq_none.2 ⟨present, few⟩) built.occupied token with ⟨rated, ⟨course⟩⟩
  rcases course.completes with ⟨after, ran⟩
  exact ⟨_, _, _, after, ran⟩

/-- A lone message of both windows. -/
def readyStore : Store ℝ :=
  (Store.empty.add ⟨.control, .search⟩ (seen 1 "ready")).add ⟨.test, .search⟩ (seen 1 "ready")

/-- What a completed run under the default settings makes of a test text that equals a control text.
Its events are all matched when the text is recognised, and all reported when it is not. With exact
scalars a text is recognised when it is similar to every other control text of its cluster. -/
theorem run_at_hand_unchanged (comparer : Comparer S) (store : Store S) (known : KnownClusters)
    (query : Option String) (world : W) {score : S} {unknown anomalies : Nat}
    {after : Session S × W}
    (ran : Yields (run (clusterer W AnalysisSettings.default.matchThreshold) comparer)
      (start store .default known query, world) (.completed score unknown anomalies) after) :
    ∃ vocabulary : Vocabulary S,
      Vocabulary.learnOrRelax (store.texts.map LabelledText.text) .default = .ok vocabulary ∧
      ∀ text ∈ store.testTexts, (∃ known ∈ store.controlTexts, known.text = text.text) →
        ∃ before events, store.test.get? text.label = some before ∧ before ≠ [] ∧
          after.1.snapshot.testEvents.get? text.label = some events ∧
          events.map Event.content = before.map Event.content ∧
          (Recognises AnalysisSettings.default.matchThreshold
            (clustered AnalysisSettings.default.matchThreshold vocabulary store.controlTexts).model
            text.text → after.1.snapshot.Accepts text.label events) ∧
          (¬ Recognises AnalysisSettings.default.matchThreshold
            (clustered AnalysisSettings.default.matchThreshold vocabulary store.controlTexts).model
            text.text → after.1.snapshot.Reports events) ∧
          ∀ value : S → ℝ, Scalar.Exact value →
            Central AnalysisSettings.default.matchThreshold vocabulary store.controlTexts
              text.text → after.1.snapshot.Accepts text.label events := by
  have few : (AnalysisSettings.default : AnalysisSettings S).clusterLimit ≤ 1000000 := by
    show 500 ≤ 1000000
    decide
  rcases run_treats few ran with ⟨vocabulary, learnt, treated⟩
  refine ⟨vocabulary, learnt, ?_⟩
  intro text member unchanged
  rcases treated text member unchanged with
    ⟨before, events, stored, present, found, same, accepts, reports⟩
  refine ⟨before, events, stored, present, found, same, accepts, reports, ?_⟩
  intro value exact central
  apply accepts
  have threshold : value AnalysisSettings.default.matchThreshold = 7 / 10 :=
    (exact.ratio 7 10).trans (by norm_num)
  rcases Vocabulary.learn_of_learnOrRelax learnt with ⟨_, learnt⟩
  apply recognises_of_central exact _ _ (Vocabulary.one_le_weight_of_learn exact learnt)
    store.control.nodup_labels_texts central
  · rw [threshold, exact.epsilon]
    norm_num
  · rw [threshold]
    norm_num

/-- A lone control message is matched again. -/
theorem run_at_hand_unchanged_ready :
    ∃ score unknown anomalies after,
      Yields (run (clusterer Unit AnalysisSettings.default.matchThreshold)
          (Gram.comparer Gram.defaultSize))
        (start readyStore .default {} none, ()) (.completed score unknown anomalies) after ∧
      ∃ events, after.1.snapshot.testEvents.get? 1 = some events ∧
        after.1.snapshot.Accepts 1 events := by
  have built : readyStore.Built := .add _ _ (.add _ _ .empty)
  rcases exists_completed_real built (by decide) (by decide)
    ⟨⟨1, "ready"⟩, .head _, by decide⟩ with ⟨score, unknown, anomalies, after, ran⟩
  refine ⟨score, unknown, anomalies, after, ran, ?_⟩
  rcases run_at_hand_unchanged _ _ _ _ _ ran with ⟨vocabulary, _, treated⟩
  rcases treated ⟨1, "ready"⟩ (.head _) ⟨⟨1, "ready"⟩, .head _, rfl⟩ with
    ⟨_, events, _, _, found, _, _, _, accepts⟩
  refine ⟨events, found, accepts _ Scalar.exact_real ?_⟩
  refine ⟨⟨1, "ready"⟩, .head _, rfl, ?_⟩
  intro other member differ
  cases List.mem_singleton.1 member
  exact (differ rfl).elim

/-- A control message at the end of a chain is reported when the test window repeats it. -/
theorem run_at_hand_reports_chained :
    ∃ score unknown anomalies after,
      Yields (run (clusterer Unit AnalysisSettings.default.matchThreshold)
          (Gram.comparer Gram.defaultSize))
        (start chainStore .default {} none, ()) (.completed score unknown anomalies) after ∧
      ∃ text ∈ chainStore.testTexts, (∃ known ∈ chainStore.controlTexts, known.text = text.text) ∧
        ∃ events, after.1.snapshot.testEvents.get? text.label = some events ∧ events ≠ [] ∧
          after.1.snapshot.Reports events ∧ ¬ after.1.snapshot.Accepts text.label events := by
  rcases exists_completed_real built_chainStore (by decide) (by decide)
    ⟨⟨1, "timeout"⟩, .head _, by decide⟩ with ⟨score, unknown, anomalies, after, ran⟩
  refine ⟨score, unknown, anomalies, after, ran, ⟨1, "timeout"⟩, .head _, ⟨_, .head _, rfl⟩, ?_⟩
  rcases run_treats (show 500 ≤ 1000000 by decide) ran with ⟨vocabulary, learnt, treated⟩
  rw [show AnalysisSettings.default.termFilter = (TermFilter.default : TermFilter ℝ) from rfl,
    learnOrRelax_chainStore] at learnt
  cases learnt
  rcases treated ⟨1, "timeout"⟩ (.head _) ⟨⟨1, "timeout"⟩, .head _, rfl⟩ with
    ⟨before, events, _, present, found, same, _, reports⟩
  have present : events ≠ [] := by
    intro same
    subst same
    exact present (List.map_eq_nil_iff.1 same.symm)
  rw [matchThreshold_real] at reports
  have reported := reports not_recognises_chainStore
  refine ⟨events, found, present, reported, ?_⟩
  intro accepted
  rcases List.exists_mem_of_ne_nil events present with ⟨event, member⟩
  exact Int.not_lt.2 (reported.unnamed event member) (accepted.named event member)

end Session

end LogDrift
