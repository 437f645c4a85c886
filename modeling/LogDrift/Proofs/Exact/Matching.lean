import LogDrift.Proofs.Exact.Vector
import LogDrift.Proofs.Similarity.Matching

/-!
# Matching with exact scalars

With exact scalars the vector of a text with terms has length one, and the nearest centroid is as
near as any other. A text that is similar to every other text of its cluster is therefore recognised
again. In a cluster that hangs together by a chain of similar texts, one that is far from the others
need not be.
-/

namespace LogDrift

variable {S : Type} [Scalar S] {value : S → ℝ}

namespace Vocabulary

/-! ## Vectors of texts -/

/-- No term that is counted weighs less than one. -/
theorem one_le_weight (exact : Scalar.Exact value) {total count : ℕ} (few : count ≤ total) :
    1 ≤ value (weight total count) := by
  have more : (1 : ℝ) ≤ (1 + total) / (1 + count) := by
    rw [one_le_div (by positivity)]
    exact add_le_add_right (Nat.cast_le.2 few) 1
  rw [weight, exact.add, exact.ln, exact.div, exact.add, exact.add, exact.ofNat, exact.ofNat,
    exact.one]
  exact le_add_of_nonneg_left (Real.log_nonneg more)

/-- No term of a vocabulary that was learnt weighs less than one. -/
theorem one_le_weight_of_learn (exact : Scalar.Exact value) {documents : List String}
    {filter : TermFilter S} {vocabulary : Vocabulary S}
    (learnt : learn documents filter = .ok vocabulary) :
    ∀ entry ∈ vocabulary.terms, 1 ≤ value entry.2 := by
  intro entry member
  rw [(weight_of_learn learnt entry member).2]
  exact one_le_weight exact (holders_le documents entry.1)

/-- The default filter drops the terms of more than 95 in 100 documents. -/
theorem keeps_default (exact : Scalar.Exact value) {total count : ℕ} :
    keeps (.default : TermFilter S) total count = true ↔
      0 < count ∧ 100 * count ≤ 95 * total := by
  rw [keeps, Bool.and_eq_true, decide_eq_true_iff, decide_eq_true_iff, exact.le_iff, exact.mul,
    exact.ofNat, exact.ofNat, TermFilter.default, exact.ratio, div_mul_eq_mul_div,
    le_div_iff₀ (by norm_num)]
  refine and_congr Iff.rfl ?_
  rw [mul_comm]
  exact_mod_cast Iff.rfl

/-- The vector of a text is zero or has length one. -/
theorem isZero_or_norm_eq_one (exact : Scalar.Exact value) {vocabulary : Vocabulary S}
    (weights : ∀ entry ∈ vocabulary.terms, 1 ≤ value entry.2) (text : String) :
    Vector.isZero (vocabulary.vector text) = true ∨
      ‖Vector.point value vocabulary.size (vocabulary.vector text)‖ = 1 := by
  rw [vector]
  generalize counted : (vocabulary.terms.map fun entry =>
    Scalar.ofNat ((Text.tokens text).count entry.1) * entry.2) = components
  have sized : components.length = vocabulary.size := by
    rw [← counted, List.length_map, size]
  cases zero : Vector.isZero components with
  | true =>
    have short : ¬ Scalar.epsilon < Vector.norm components := by
      rw [exact.lt_iff, Vector.value_norm exact sized, Vector.point_of_isZero exact zero, norm_zero]
      exact exact.epsilon_pos.not_gt
    left
    rw [Vector.normalized, if_neg short]
    exact zero
  | false =>
    have present : ∃ component ∈ components, value component ≠ 0 := by
      apply Classical.byContradiction
      intro absent
      simp only [not_exists, not_and, not_not] at absent
      rw [(Vector.isZero_iff exact).2 absent] at zero
      cases zero
    rcases present with ⟨component, member, nonzero⟩
    have long : 1 ≤ value component := by
      rw [← counted, List.mem_map] at member
      rcases member with ⟨entry, inside, same⟩
      rw [← same, exact.mul, exact.ofNat] at nonzero ⊢
      have often : (1 : ℝ) ≤ (Text.tokens text).count entry.1 := by
        rw [Nat.one_le_cast, Nat.one_le_iff_ne_zero]
        intro never
        simp [never] at nonzero
      exact one_le_mul_of_one_le_of_one_le often (weights entry inside)
    right
    apply Vector.norm_point_normalized exact sized
    exact exact.epsilon_lt_one.trans_le (long.trans (Vector.le_norm_point sized member))

end Vocabulary

namespace CentroidModel

/-! ## The nearest centroid -/

/-- No centroid is nearer than the nearest. -/
theorem cosine_le_of_nearest (exact : Scalar.Exact value) {model : CentroidModel S}
    {vector : List S} {nearest : Centroid S × S}
    (found : model.nearest vector = some nearest) :
    ∀ centroid ∈ model.centroids,
      value (Vector.cosine vector centroid.vector) ≤ value nearest.2 := by
  rw [nearest_eq] at found
  generalize model.centroids = centroids at found
  induction centroids using List.reverseRecOn generalizing nearest with
  | nil => exact List.forall_mem_nil _
  | append_singleton earlier last ih =>
    rw [List.foldl_append, List.foldl_cons, List.foldl_nil] at found
    rw [List.forall_mem_append, List.forall_mem_singleton]
    cases before : earlier.foldl (nearer vector) none with
    | none =>
      rw [before] at found
      cases found
      constructor
      · cases earlier with
        | nil => exact List.forall_mem_nil _
        | cons first rest =>
          rcases exists_foldl_nearer (List.cons_ne_nil first rest) vector with ⟨_, _, nearest⟩
          rw [before] at nearest
          cases nearest
      · exact le_rfl
    | some best =>
      rcases best with ⟨kept, greatest⟩
      rw [before, nearer] at found
      split at found
      · next close =>
        cases found
        rw [exact.le_iff] at close
        exact ⟨ih before, close⟩
      · next far =>
        cases found
        rw [exact.le_iff, not_le] at far
        exact ⟨fun centroid member => (ih before centroid member).trans far.le, le_rfl⟩

/-- With a threshold beyond one, a text is matched only as it is. -/
theorem isMatched_eq_false_of_one_lt (exact : Scalar.Exact value) {threshold : S}
    (beyond : 1 < value threshold) {model : CentroidModel S} {text : String}
    (unlisted : model.featureless.lookup text = none) :
    (model.matchText threshold text).isMatched = false := by
  rw [matchText, unlisted, ite_self, matchVector]
  cases found : model.nearest (model.vocabulary.vector text) with
  | none => rfl
  | some best =>
    rcases best with ⟨centroid, similarity⟩
    have nonempty : model.centroids ≠ [] := by
      intro bare
      rw [nearest_eq, bare] at found
      cases found
    rcases exists_foldl_nearer nonempty (model.vocabulary.vector text) with ⟨_, _, nearest⟩
    rw [← nearest_eq, found] at nearest
    cases nearest
    apply decide_eq_false
    rw [exact.le_iff, not_le]
    exact (Vector.cosine_le_one exact _ _).trans_lt beyond

/-! ## Texts that are recognised -/

/-- Whether a text is similar to every other text of the cluster that it is in. -/
def Central (threshold : S) (vocabulary : Vocabulary S) (texts : List LabelledText)
    (text : String) : Prop :=
  ∃ known ∈ texts, known.text = text ∧ ∀ other ∈ texts, other.text ≠ text →
    (clustered threshold vocabulary texts).clusterOf? other.label =
      (clustered threshold vocabulary texts).clusterOf? known.label →
    threshold ≤ Vector.cosine (vocabulary.vector text) (vocabulary.vector other.text)

variable {threshold : S} {vocabulary : Vocabulary S} {texts : List LabelledText}

/-- A text that equals a text with terms or is similar to it has length one and is close to it. -/
theorem norm_and_inner_of_similar (exact : Scalar.Exact value) (positive : 0 < value threshold)
    (small : value threshold ≤ 1) (weights : ∀ entry ∈ vocabulary.terms, 1 ≤ value entry.2)
    {text other : String}
    (unit : ‖Vector.point value vocabulary.size (vocabulary.vector text)‖ = 1)
    (close : other ≠ text →
      threshold ≤ Vector.cosine (vocabulary.vector text) (vocabulary.vector other)) :
    ‖Vector.point value vocabulary.size (vocabulary.vector other)‖ = 1 ∧
      value threshold ≤ inner ℝ (Vector.point value vocabulary.size (vocabulary.vector text))
        (Vector.point value vocabulary.size (vocabulary.vector other)) := by
  by_cases same : other = text
  · rw [same, real_inner_self_eq_norm_sq, unit, one_pow]
    exact ⟨rfl, small⟩
  · have similar := close same
    rw [Vector.le_cosine_iff exact positive small (vocabulary.length_vector text)
      (vocabulary.length_vector other), unit, one_mul] at similar
    rcases similar with ⟨_, long, similar⟩
    rcases vocabulary.isZero_or_norm_eq_one exact weights other with zero | length
    · rw [Vector.point_of_isZero exact zero, norm_zero] at long
      exact (exact.epsilon_pos.not_gt long).elim
    · rw [length, mul_one] at similar
      exact ⟨length, similar⟩

/-- A text that is similar to every other text of its cluster is as near to the centroid of the
cluster as to the farthest of them. -/
theorem le_cosine_centroid (exact : Scalar.Exact value)
    (relevant : value Scalar.epsilon < value threshold) (small : value threshold ≤ 1)
    (weights : ∀ entry ∈ vocabulary.terms, 1 ≤ value entry.2) {text : String}
    (terms : Vector.isZero (vocabulary.vector text) = false) {group : List (Member S)}
    (present : group ≠ [])
    (members : ∀ member ∈ group, member.vector = vocabulary.vector member.source.text)
    (close : ∀ member ∈ group, member.source.text ≠ text →
      threshold ≤ Vector.cosine (vocabulary.vector text) (vocabulary.vector member.source.text)) :
    threshold ≤ Vector.cosine (vocabulary.vector text)
      (Vector.mean vocabulary.size (group.map Member.vector)) := by
  have unit : ‖Vector.point value vocabulary.size (vocabulary.vector text)‖ = 1 := by
    rcases vocabulary.isZero_or_norm_eq_one exact weights text with zero | unit
    · rw [zero] at terms
      cases terms
    · exact unit
  have each : ∀ member ∈ group,
      ‖Vector.point value vocabulary.size member.vector‖ = 1 ∧
      value threshold ≤ inner ℝ (Vector.point value vocabulary.size (vocabulary.vector text))
        (Vector.point value vocabulary.size member.vector) := by
    intro member inside
    rw [members member inside]
    exact norm_and_inner_of_similar exact (exact.epsilon_pos.trans relevant) small weights unit
      (close member inside)
  apply Vector.le_cosine_mean exact relevant small (vocabulary.length_vector text) unit
  · rw [ne_eq, List.map_eq_nil_iff]
    exact present
  · rw [List.forall_mem_map]
    intro member inside
    rw [members member inside]
    exact vocabulary.length_vector _
  · exact List.forall_mem_map.2 fun member inside => (each member inside).1
  · exact List.forall_mem_map.2 fun member inside => (each member inside).2

/-- A text that is similar to every other text of its cluster is recognised. -/
theorem recognises_of_central (exact : Scalar.Exact value)
    (relevant : value Scalar.epsilon < value threshold) (small : value threshold ≤ 1)
    (weights : ∀ entry ∈ vocabulary.terms, 1 ≤ value entry.2)
    (labels : (texts.map LabelledText.label).Nodup) {text : String}
    (central : Central threshold vocabulary texts text) :
    Recognises threshold (clustered threshold vocabulary texts).model text := by
  cases terms : Vector.isZero (vocabulary.vector text) with
  | true => exact .inl terms
  | false =>
    rcases central with ⟨known, present, rfl, close⟩
    rcases exists_member vocabulary present with ⟨member, isMember, same⟩
    rcases exists_group threshold isMember with ⟨group, isGroup, inside⟩
    rcases List.mem_iff_getElem.1 isGroup with ⟨number, inBounds, rfl⟩
    have cluster : ∀ other ∈ (groups threshold vocabulary texts)[number],
        (clustered threshold vocabulary texts).clusterOf? other.source.label =
          some (number : Label) := by
      intro other together
      have isOther := mem_members_of_group isGroup together
      rw [clusterOf?_clustered threshold labels isOther, (groupOf_eq_iff isOther inBounds).2 together]
    have near : threshold ≤ Vector.cosine (vocabulary.vector known.text)
        (Vector.mean vocabulary.size
          ((groups threshold vocabulary texts)[number].map Member.vector)) := by
      apply le_cosine_centroid exact relevant small weights terms (List.ne_nil_of_mem inside)
      · intro other together
        rcases mem_members.1 (mem_members_of_group isGroup together) with ⟨_, _, vector⟩
        exact vector
      · intro other together differ
        rcases mem_members.1 (mem_members_of_group isGroup together) with ⟨place, source, _⟩
        apply close other.source
        · rw [source]
          exact List.getElem_mem place
        · exact differ
        · rw [cluster other together, ← same, cluster member inside]
    have listed : Centroid.ofMembers number vocabulary.size
        ((groups threshold vocabulary texts)[number].map Member.vector) ∈
          (clustered threshold vocabulary texts).model.centroids :=
      mem_centroids.2 ⟨number, inBounds, rfl⟩
    rcases exists_foldl_nearer (List.ne_nil_of_mem listed) (vocabulary.vector known.text) with
      ⟨centroid, _, found⟩
    refine .inr ⟨centroid, _, found, ?_⟩
    rw [exact.le_iff] at near ⊢
    exact near.trans (cosine_le_of_nearest exact found _ listed)

end CentroidModel

end LogDrift
