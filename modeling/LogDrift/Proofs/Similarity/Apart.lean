import LogDrift.Proofs.Similarity.Matching

/-!
# Texts that stay apart

A text that shares no term with the vocabulary has a vector without any positive component. It is
similar to nothing, so that it is a cluster of its own and matches nothing but its equals. Every
text is a cluster of its own exactly when none is similar to a later one.
-/

namespace LogDrift

variable {S : Type} [Scalar S]

/-! ## Scalars without a sign -/

namespace Scalar

/-- Whether a scalar has no sign: it is zero or undefined. -/
def Null (x : S) : Prop :=
  ¬ x < 0 ∧ ¬ 0 < x

/-- What of signs the comparison of vectors needs: what is computed from scalars without a sign has
none either. -/
structure FaithfulSigns (S : Type) [Scalar S] : Prop where
  zero : Null (0 : S)
  ofNat_zero : Null (Scalar.ofNat 0 : S)
  add : ∀ {x y : S}, Null x → Null y → Null (x + y)
  mul_left : ∀ {x : S}, Null x → ∀ y, Null (x * y)
  mul_right : ∀ x : S, ∀ {y : S}, Null y → Null (x * y)
  div : ∀ {x : S}, Null x → ∀ y, Null (x / y)
  pos_of_one_lt : ∀ {x : S}, 1 < x → 0 < x
  pos_of_le : ∀ {x y : S}, 0 < x → x ≤ y → 0 < y

variable (signs : FaithfulSigns S)

include signs in
/-- A sum of scalars without a sign has none. -/
theorem FaithfulSigns.sum {values : List S} (null : ∀ x ∈ values, Null x) :
    Null (Scalar.sum values) := by
  have started : ∀ start : S, Null start → Null (values.foldl (· + ·) start) := by
    induction values with
    | nil => exact fun _ null => null
    | cons head rest ih =>
      intro start before
      rw [List.forall_mem_cons] at null
      exact ih null.2 _ (signs.add before null.1)
  exact started 0 signs.zero

include signs in
/-- Clamping a scalar without a sign leaves it as it is. -/
theorem FaithfulSigns.clampUnit {x : S} (null : Null x) : Null (Scalar.clampUnit x) := by
  rw [Scalar.clampUnit, if_neg null.1, if_neg fun large => null.2 (signs.pos_of_one_lt large)]
  exact null

include signs in
/-- Nothing without a sign reaches a positive bound. -/
theorem FaithfulSigns.not_le {bound x : S} (positive : 0 < bound) (null : Null x) : ¬ bound ≤ x :=
  fun large => null.2 (signs.pos_of_le positive large)

end Scalar

/-! ## Vectors without a sign -/

namespace Vector

/-- Whether no component of a vector has a sign. -/
def Null (vector : List S) : Prop :=
  ∀ x ∈ vector, Scalar.Null x

variable (signs : Scalar.FaithfulSigns S)

include signs in
theorem null_normalized {vector : List S} (null : Null vector) : Null (normalized vector) := by
  rw [normalized]
  split
  · intro x member
    rcases List.mem_map.1 member with ⟨y, present, rfl⟩
    exact signs.div (null y present) _
  · exact null

include signs in
/-- The cosine of two vectors has no sign when their products have none. -/
theorem null_cosine {left right : List S}
    (null : ∀ x ∈ List.zipWith (· * ·) left right, Scalar.Null x) :
    Scalar.Null (cosine left right) := by
  rw [cosine]
  split
  · exact signs.zero
  · exact signs.clampUnit (signs.div (signs.sum null) _)

include signs in
/-- A vector without a sign is similar to nothing. -/
theorem null_cosine_left {left : List S} (null : Null left) (right : List S) :
    Scalar.Null (cosine left right) := by
  apply null_cosine signs
  intro x member
  rcases List.mem_iff_getElem.1 member with ⟨place, inBounds, rfl⟩
  rw [List.getElem_zipWith]
  exact signs.mul_left (null _ (List.getElem_mem _)) _

include signs in
/-- Nothing is similar to a vector without a sign. -/
theorem null_cosine_right (left : List S) {right : List S} (null : Null right) :
    Scalar.Null (cosine left right) := by
  apply null_cosine signs
  intro x member
  rcases List.mem_iff_getElem.1 member with ⟨place, inBounds, rfl⟩
  rw [List.getElem_zipWith]
  exact signs.mul_right _ (null _ (List.getElem_mem _))

include signs in
/-- The mean of vectors without a sign has none. -/
theorem null_mean (size : Nat) {vectors : List (List S)} (null : ∀ vector ∈ vectors, Null vector) :
    Null (mean size vectors) := by
  have added : ∀ start : List S, Null start → Null (vectors.foldl add start) := by
    induction vectors with
    | nil => exact fun _ null => null
    | cons head rest ih =>
      intro start before
      rw [List.forall_mem_cons] at null
      apply ih null.2
      intro x member
      rcases List.mem_iff_getElem.1 member with ⟨place, inBounds, rfl⟩
      simp only [add, List.getElem_zipWith]
      exact signs.add (before _ (List.getElem_mem _)) (null.1 _ (List.getElem_mem _))
  intro x member
  rcases List.mem_map.1 member with ⟨y, present, rfl⟩
  refine signs.div (added _ ?_ y present) _
  intro zero repeated
  rw [List.eq_of_mem_replicate repeated]
  exact signs.zero

end Vector

/-- A text without any term of the vocabulary has a vector without a sign. -/
theorem Vocabulary.null_vector (signs : Scalar.FaithfulSigns S) {vocabulary : Vocabulary S}
    {text : String} (foreign : ∀ term ∈ vocabulary.words, term ∉ Text.tokens text) :
    Vector.Null (vocabulary.vector text) := by
  apply Vector.null_normalized signs
  intro x member
  rcases List.mem_map.1 member with ⟨⟨term, weight⟩, present, rfl⟩
  have absent : (Text.tokens text).count term = 0 :=
    List.count_eq_zero.2 (foreign term (List.mem_map.2 ⟨_, present, rfl⟩))
  simp only [absent]
  exact signs.mul_left signs.ofNat_zero weight

namespace CentroidModel

variable {texts : List LabelledText} {threshold : S} {vocabulary : Vocabulary S}

/-- Whether a text is similar enough to another one to be linked to it. -/
def Resembles (threshold : S) (vocabulary : Vocabulary S) (left right : LabelledText) : Prop :=
  threshold ≤ Vector.cosine (vocabulary.vector left.text) (vocabulary.vector right.text)

/-! ## Texts without terms -/

section Signs

variable (signs : Scalar.FaithfulSigns S)

include signs in
/-- A member without a sign is in a group of its own. -/
theorem eq_singleton_of_null (positive : 0 < threshold) {group : List (Member S)}
    (isGroup : group ∈ groups threshold vocabulary texts) {member : Member S}
    (inside : member ∈ group) (null : Vector.Null member.vector) : group = [member] := by
  apply Component.eq_singleton_of_isolated (linked threshold) (distinct_members vocabulary texts)
    _ isGroup inside
  intro other _
  constructor
  · exact decide_eq_false (signs.not_le positive (Vector.null_cosine_left signs null _))
  · exact decide_eq_false (signs.not_le positive (Vector.null_cosine_right signs _ null))

include signs in
/-- In one cluster either all texts have tokens or none has. -/
theorem token_of_cluster (positive : 0 < threshold)
    (labels : (texts.map LabelledText.label).Nodup) {left right : LabelledText}
    (inLeft : left ∈ texts) (inRight : right ∈ texts)
    (same : (clustered threshold vocabulary texts).clusterOf? left.label =
      (clustered threshold vocabulary texts).clusterOf? right.label)
    (token : Text.tokens left.text ≠ []) : Text.tokens right.text ≠ [] := by
  intro bare
  rcases exists_member vocabulary inLeft with ⟨member, isMember, rfl⟩
  rcases exists_member vocabulary inRight with ⟨other, isOther, rfl⟩
  rcases exists_group threshold isOther with ⟨group, isGroup, present⟩
  have null : Vector.Null other.vector := by
    rw [(source_of_member isOther).2]
    apply Vocabulary.null_vector signs
    intro term _
    rw [bare]
    exact List.not_mem_nil
  have alone := eq_singleton_of_null signs positive isGroup present null
  rcases List.mem_iff_getElem.1 isGroup with ⟨number, inBounds, rfl⟩
  rw [clusterOf?_clustered threshold labels isMember, clusterOf?_clustered threshold labels isOther,
    (groupOf_eq_iff isOther inBounds).2 present, Option.some_inj,
    groupOf_eq_iff isMember inBounds, alone, List.mem_singleton] at same
  rw [same] at token
  exact token bare

include signs in
/-- What a text matches is a member that equals it, or a group with a member that has a sign. -/
theorem matched_cases (positive : 0 < threshold) {text : String}
    (isMatched : ((clustered threshold vocabulary texts).model.matchText threshold text).isMatched =
      true) :
    (∃ member ∈ members vocabulary texts, member.source.text = text) ∨
      ∃ member ∈ members vocabulary texts, ¬ Vector.Null member.vector := by
  have vocabularies : (clustered threshold vocabulary texts).model.vocabulary = vocabulary := rfl
  rw [matchText, vocabularies] at isMatched
  split at isMatched
  · next cluster found =>
    split at found
    · rcases List.lookup_eq_some_iff.1 found with ⟨before, after, same, _⟩
      have listed : (text, cluster) ∈ (clustered threshold vocabulary texts).model.featureless := by
        rw [same]
        exact List.mem_append_right _ (.head _)
      rcases mem_featureless.1 listed with ⟨number, inBounds, _, member, inside, _, equal⟩
      exact .inl ⟨member, mem_members_of_group (List.getElem_mem inBounds) inside, equal⟩
    · cases found
  · right
    apply Classical.byContradiction
    intro bare
    have null : ∀ centroid ∈ (clustered threshold vocabulary texts).model.centroids,
        Vector.Null centroid.vector := by
      intro centroid present
      rcases mem_centroids.1 present with ⟨number, inBounds, rfl⟩
      apply Vector.null_mean signs
      rw [List.forall_mem_map]
      intro member inside
      apply Classical.byContradiction
      intro signed
      exact bare ⟨member, mem_members_of_group (List.getElem_mem inBounds) inside, signed⟩
    rw [matchVector] at isMatched
    split at isMatched
    · next centroid similarity nearest =>
      have nonempty : (clustered threshold vocabulary texts).model.centroids ≠ [] := by
        intro empty
        rw [nearest_eq, empty] at nearest
        cases nearest
      rcases exists_foldl_nearer nonempty (vocabulary.vector text) with ⟨other, present, found⟩
      rw [nearest_eq, found] at nearest
      cases nearest
      exact signs.not_le positive (Vector.null_cosine_right signs _ (null _ present))
        (of_decide_eq_true isMatched)
    · cases isMatched

include signs in
/-- A text with a token that matches something matches a text with a token. -/
theorem token_of_matched (positive : 0 < threshold) {text : String}
    (token : Text.tokens text ≠ [])
    (isMatched : ((clustered threshold vocabulary texts).model.matchText threshold text).isMatched =
      true) : Session.HasToken texts := by
  rcases matched_cases signs positive isMatched with
    ⟨member, present, equal⟩ | ⟨member, present, signed⟩
  · exact ⟨member.source, (source_of_member present).1, equal ▸ token⟩
  · refine ⟨member.source, (source_of_member present).1, ?_⟩
    intro bare
    apply signed
    rw [(source_of_member present).2]
    apply Vocabulary.null_vector signs
    intro term _
    rw [bare]
    exact List.not_mem_nil

end Signs

/-! ## Texts on their own -/

/-- Members are linked when their texts are similar. -/
theorem pairwise_members_iff :
    ((members vocabulary texts).Pairwise fun left right => linked threshold left right = false) ↔
      texts.Pairwise fun left right => ¬ Resembles threshold vocabulary left right := by
  have sources : texts = texts.zipIdx.map Prod.fst := (List.zipIdx_map_fst 0 texts).symm
  rw [members, List.pairwise_map]
  conv => rhs; rw [sources, List.pairwise_map]
  apply List.Pairwise.iff
  intro left right
  exact decide_eq_false_iff_not

/-- Texts of different labels are in different clusters exactly when none is similar to a later
one. -/
theorem separate_iff (labels : (texts.map LabelledText.label).Nodup) :
    (∀ left ∈ texts, ∀ right ∈ texts,
      (clustered threshold vocabulary texts).clusterOf? left.label =
        (clustered threshold vocabulary texts).clusterOf? right.label → left = right) ↔
      texts.Pairwise fun left right => ¬ Resembles threshold vocabulary left right := by
  have distinct := distinct_members vocabulary texts
  rw [← pairwise_members_iff, ← Component.forall_eq_singleton_iff _ distinct]
  have numbered : ∀ member ∈ members vocabulary texts, ∀ (number : Nat)
      (inBounds : number < (groups threshold vocabulary texts).length),
      (clustered threshold vocabulary texts).clusterOf? member.source.label =
          some (number : Label) ↔
        member ∈ (groups threshold vocabulary texts)[number] := by
    intro member present number inBounds
    rw [clusterOf?_clustered threshold labels present, Option.some_inj,
      groupOf_eq_iff present inBounds]
  constructor
  · intro separate group isGroup
    have shared := Component.perm_flatten_components (linked threshold) distinct
    have nodup := (List.nodup_flatten.1 (shared.nodup_iff.2 distinct.nodup)).1 _ isGroup
    have same : ∀ left ∈ group, ∀ right ∈ group, left = right := by
      intro left inLeft right inRight
      have isLeft := mem_members_of_group isGroup inLeft
      have isRight := mem_members_of_group isGroup inRight
      rcases List.mem_iff_getElem.1 isGroup with ⟨number, inBounds, rfl⟩
      apply List.inj_on_of_nodup_map _ isLeft isRight
      · apply separate _ (source_of_member isLeft).1 _ (source_of_member isRight).1
        rw [(numbered left isLeft number inBounds).2 inLeft,
          (numbered right isRight number inBounds).2 inRight]
      · rw [map_source_members]
        exact labels.of_map
    cases group with
    | nil => exact (Component.ne_nil_of_mem_components isGroup rfl).elim
    | cons first rest =>
      cases rest with
      | nil => rfl
      | cons second rest =>
        have equal := same first (.head _) second (.tail _ (.head _))
        rw [equal] at nodup
        simp at nodup
  · intro single left inLeft right inRight same
    rcases exists_member vocabulary inLeft with ⟨member, isMember, rfl⟩
    rcases exists_member vocabulary inRight with ⟨other, isOther, rfl⟩
    rcases exists_group threshold isMember with ⟨group, isGroup, inside⟩
    have one := single group isGroup
    rcases List.mem_iff_getElem.1 isGroup with ⟨number, inBounds, rfl⟩
    rw [(numbered member isMember number inBounds).2 inside] at same
    have present := (numbered other isOther number inBounds).1 same.symm
    rcases List.length_eq_one_iff.1 one with ⟨only, found⟩
    rw [found, List.mem_singleton] at inside present
    rw [inside, present]

end CentroidModel

end LogDrift
