import LogDrift.Proofs.Session.Course
import LogDrift.Proofs.Similarity.Search
import LogDrift.Proofs.Similarity.Vocabulary
import LogDrift.Similarity.Centroid
import LogDrift.Similarity.Collaborators

/-!
# What the clusterer at hand answers

Clustering by term vectors groups the members for the texts into their connected components. It
gives every text it is asked about a cluster, and matching gives every text an outcome. The only
refusal is that of a corpus without tokens, and asking once more with the relaxed filter meets it
only then.
-/

namespace LogDrift

variable {S : Type} [Scalar S]

namespace CentroidModel

instance : BEq (Member S) := ⟨fun left right => left.place == right.place⟩

/-! ## Members -/

theorem mem_members {vocabulary : Vocabulary S} {texts : List LabelledText} {member : Member S} :
    member ∈ members vocabulary texts ↔
      ∃ inBounds : member.place < texts.length, member.source = texts[member.place] ∧
        member.vector = vocabulary.vector member.source.text := by
  rw [members, List.mem_map]
  constructor
  · intro found
    rcases found with ⟨⟨source, place⟩, present, rfl⟩
    rw [List.mem_zipIdx_iff_getElem?, List.getElem?_eq_some_iff] at present
    rcases present with ⟨inBounds, same⟩
    exact ⟨inBounds, same.symm, rfl⟩
  · intro found
    rcases found with ⟨inBounds, same, vector⟩
    refine ⟨(member.source, member.place), ?_, ?_⟩
    · rw [List.mem_zipIdx_iff_getElem?, List.getElem?_eq_getElem inBounds, same]
    · show Member.mk member.place member.source (vocabulary.vector member.source.text) = member
      rw [← vector]

/-- Every text has a member. -/
theorem exists_member (vocabulary : Vocabulary S) {texts : List LabelledText}
    {text : LabelledText} (present : text ∈ texts) :
    ∃ member ∈ members vocabulary texts, member.source = text := by
  rcases List.mem_iff_getElem.1 present with ⟨place, inBounds, same⟩
  exact ⟨⟨place, text, vocabulary.vector text.text⟩,
    mem_members.2 ⟨inBounds, same.symm, rfl⟩, rfl⟩

/-- Every member has a text, and its vector. -/
theorem source_of_member {vocabulary : Vocabulary S} {texts : List LabelledText}
    {member : Member S} (present : member ∈ members vocabulary texts) :
    member.source ∈ texts ∧ member.vector = vocabulary.vector member.source.text := by
  rcases mem_members.1 present with ⟨inBounds, source, vector⟩
  exact ⟨source ▸ List.getElem_mem inBounds, vector⟩

@[simp] theorem map_source_members (vocabulary : Vocabulary S) (texts : List LabelledText) :
    (members vocabulary texts).map Member.source = texts := by
  rw [members, List.map_map]
  exact List.zipIdx_map_fst 0 texts

/-- Members are told apart by their places. -/
theorem distinct_members (vocabulary : Vocabulary S) (texts : List LabelledText) :
    Component.Distinct (members vocabulary texts) where
  nodup := by
    apply List.Nodup.of_map Member.place
    rw [members, List.map_map]
    show ((texts.zipIdx).map Prod.snd).Nodup
    rw [List.zipIdx_map_snd]
    exact List.nodup_range'
  beq_iff := by
    intro left inLeft right inRight
    rcases left with ⟨place, source, vector⟩
    rcases right with ⟨place', source', vector'⟩
    rcases mem_members.1 inLeft with ⟨inBounds, same, vectors⟩
    rcases mem_members.1 inRight with ⟨inBounds', same', vectors'⟩
    simp only at same same' vectors vectors'
    show (place == place') = true ↔ _
    rw [beq_iff_eq]
    constructor
    · intro same
      subst same
      rw [vectors, vectors', same, same']
    · intro equal
      cases equal
      rfl

/-- The groups of a clustering. -/
def groups (threshold : S) (vocabulary : Vocabulary S) (texts : List LabelledText) :
    List (List (Member S)) :=
  Component.components (linked threshold) (members vocabulary texts)

/-- The number of the group that a member is in. -/
def groupOf (groups : List (List (Member S))) (member : Member S) : Label :=
  (Component.numberIn groups member : Nat)

/-- The clustering of texts under a vocabulary that has been learnt. -/
def clustered (threshold : S) (vocabulary : Vocabulary S) (texts : List LabelledText) :
    Clustering (CentroidModel S) :=
  ofGroups vocabulary
    ((members vocabulary texts).map fun member =>
      (member.source.label, groupOf (groups threshold vocabulary texts) member))
    (groups threshold vocabulary texts)

/-- Members are numbered by their groups. -/
theorem number_members (threshold : S) (vocabulary : Vocabulary S) (texts : List LabelledText) :
    number threshold (members vocabulary texts) =
      (members vocabulary texts).map fun member =>
        (member, Component.numberIn (groups threshold vocabulary texts) member) := by
  rw [number, Component.numbers_getElem (distinct_members vocabulary texts)]
  conv => lhs; enter [1]; rw [← List.map_id (members vocabulary texts)]
  exact List.zip_map'

/-- Every text of a clustering has a cluster. -/
theorem isSome_clusterOf? (threshold : S) (vocabulary : Vocabulary S) {texts : List LabelledText}
    {text : LabelledText} (member : text ∈ texts) :
    ((clustered threshold vocabulary texts).clusterOf? text.label).isSome := by
  rw [Clustering.clusterOf?, clustered, ofGroups, SortedMap.isSome_get?_ofList, List.map_map]
  rcases List.mem_iff_getElem.1 member with ⟨place, inBounds, found⟩
  rw [List.mem_map]
  refine ⟨⟨place, text, vocabulary.vector text.text⟩, ?_, rfl⟩
  rw [members, List.mem_map]
  refine ⟨(text, place), ?_, rfl⟩
  rw [List.mem_zipIdx_iff_getElem?, List.getElem?_eq_getElem inBounds, found]

/-- Every text has an outcome. -/
theorem isSome_get?_classify (threshold : S) (model : CentroidModel S)
    {texts : List LabelledText} {text : LabelledText} (member : text ∈ texts) :
    ((classify threshold model texts).get? text.label).isSome := by
  rw [classify, SortedMap.isSome_get?_ofList, List.map_map]
  exact List.mem_map_of_mem member

/-- Where labels differ, the outcome of a label is that of its text. -/
theorem get?_classify (threshold : S) (model : CentroidModel S) {texts : List LabelledText}
    (labels : (texts.map LabelledText.label).Nodup) {text : LabelledText} (member : text ∈ texts) :
    (classify threshold model texts).get? text.label =
      some (model.matchText threshold text.text) := by
  apply SortedMap.get?_ofList_of_nodup
  · rw [List.map_map]
    exact labels
  · exact List.mem_map.2 ⟨text, member, rfl⟩

/-- Clustering fails exactly when the vocabulary cannot be learnt. Otherwise it finds the groups. -/
theorem cluster_eq (threshold : S) (texts corpus : List LabelledText) (filter : TermFilter S) :
    cluster threshold texts corpus filter =
      (Vocabulary.learn (corpus.map LabelledText.text) filter).map fun vocabulary =>
        clustered threshold vocabulary texts := by
  rw [cluster]
  cases Vocabulary.learn (corpus.map LabelledText.text) filter with
  | error refusal => rfl
  | ok vocabulary =>
    have gathered : Component.gather ((members vocabulary texts).map fun member =>
        (member, Component.numberIn (groups threshold vocabulary texts) member)) =
          groups threshold vocabulary texts :=
      Component.gather_components (distinct_members vocabulary texts)
    show Except.ok (ofGroups vocabulary _ _) = Except.ok (clustered threshold vocabulary texts)
    rw [number_members, gathered, List.map_map]
    rfl

end CentroidModel

namespace Session

open CentroidModel

variable {W : Type}

/-- Whether some text has a token. -/
def HasToken (texts : List LabelledText) : Prop :=
  ∃ text ∈ texts, Text.tokens text.text ≠ []

/-- Clustering texts asks once more, with the relaxed filter, when there are no terms. -/
theorem run_clusterTexts (threshold : S) (filter : TermFilter S)
    (texts corpus : List LabelledText) (world : W) :
    (clusterTexts (clusterer W threshold) filter texts corpus).run.run world =
      ((Vocabulary.learnOrRelax (corpus.map LabelledText.text) filter).map fun vocabulary =>
        clustered threshold vocabulary texts, world) := by
  rw [clusterTexts, Vocabulary.learnOrRelax]
  have asked : ∀ filter, (clusterer W threshold).cluster texts corpus filter =
      ExceptT.mk (pure ((Vocabulary.learn (corpus.map LabelledText.text) filter).map
        fun vocabulary => clustered threshold vocabulary texts)) :=
    fun filter => congrArg (fun answer => ExceptT.mk (pure answer)) (cluster_eq _ _ _ _)
  simp only [asked]
  cases Vocabulary.learn (corpus.map LabelledText.text) filter with
  | ok vocabulary => rfl
  | error refusal => cases refusal <;> rfl

/-- With a token in the corpus there is a clustering of the texts, and without one there are no
terms. -/
theorem clusterTexts_cases (faithful : Scalar.FaithfulCounts S) (threshold : S)
    (filter : TermFilter S) (texts corpus : List LabelledText) (world : W) :
    (HasToken corpus ∧ ∃ vocabulary,
      (clusterTexts (clusterer W threshold) filter texts corpus).run.run world =
        (.ok (clustered threshold vocabulary texts), world)) ∨
    (¬ HasToken corpus ∧ ∃ reason,
      (clusterTexts (clusterer W threshold) filter texts corpus).run.run world =
        (.error (.emptyVocabulary reason), world)) := by
  rw [run_clusterTexts]
  rcases Vocabulary.learnOrRelax_cases faithful (corpus.map LabelledText.text) filter with
    ⟨⟨document, member, token⟩, vocabulary, learnt⟩ | ⟨bare, reason, refused⟩
  · rw [learnt]
    rcases List.mem_map.1 member with ⟨text, present, rfl⟩
    exact .inl ⟨⟨text, present, token⟩, vocabulary, rfl⟩
  · rw [refused]
    refine .inr ⟨?_, reason, rfl⟩
    intro found
    rcases found with ⟨text, present, token⟩
    exact token (bare _ (List.mem_map_of_mem present))

/-- Matching the texts of a store clusters the control texts and looks up the test texts. -/
theorem run_matchTexts (threshold : S) (session : Session S) (world : W) :
    (matchTexts (clusterer W threshold) session).run.run world =
      ((Vocabulary.learnOrRelax (session.store.texts.map LabelledText.text)
        session.settings.termFilter).map fun vocabulary =>
          let clustering := clustered threshold vocabulary session.store.controlTexts
          (clustering, classify threshold clustering.model session.store.testTexts), world) := by
  rw [matchTexts]
  simp only [run_bind, run_clusterTexts]
  cases Vocabulary.learnOrRelax (session.store.texts.map LabelledText.text)
      session.settings.termFilter with
  | error refusal => rfl
  | ok vocabulary => cases found : session.store.testTexts <;> rfl

theorem matchTexts_of_learnt {session : Session S} {vocabulary : Vocabulary S}
    (learnt : Vocabulary.learnOrRelax (session.store.texts.map LabelledText.text)
      session.settings.termFilter = .ok vocabulary) (threshold : S) (world : W) :
    (matchTexts (clusterer W threshold) session).run.run world =
      (.ok (clustered threshold vocabulary session.store.controlTexts,
        classify threshold (clustered threshold vocabulary session.store.controlTexts).model
          session.store.testTexts), world) := by
  rw [run_matchTexts, learnt]
  rfl

/-- Texts that have been matched were matched under some vocabulary. -/
theorem exists_learnt_of_matched {threshold : S} {session : Session S} {world after : W}
    {clustering : Clustering (CentroidModel S)} {outcomes : SortedMap Label (MatchOutcome S)}
    (matched : (matchTexts (clusterer W threshold) session).run.run world =
      (.ok (clustering, outcomes), after)) :
    ∃ vocabulary, Vocabulary.learnOrRelax (session.store.texts.map LabelledText.text)
        session.settings.termFilter = .ok vocabulary ∧
      clustering = clustered threshold vocabulary session.store.controlTexts ∧
      outcomes = classify threshold clustering.model session.store.testTexts := by
  rw [run_matchTexts] at matched
  cases learnt : Vocabulary.learnOrRelax (session.store.texts.map LabelledText.text)
      session.settings.termFilter with
  | error refusal =>
    rw [learnt] at matched
    cases matched
  | ok vocabulary =>
    rw [learnt] at matched
    cases matched
    exact ⟨vocabulary, rfl, rfl, rfl⟩

end Session

end LogDrift
