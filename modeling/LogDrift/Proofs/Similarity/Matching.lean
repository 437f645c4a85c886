import LogDrift.Proofs.Similarity.Centroid
import LogDrift.Proofs.Similarity.Component
import Mathlib.Data.List.Induction

/-!
# Matching texts against their own clusters

A text that was clustered is known to the model twice: by the centroid of its cluster and, when it
has no terms, by itself. Matching a text that equals a clustered one always names a cluster; what it
takes to be matched is to have no terms or to be near enough to the nearest centroid.
-/

namespace LogDrift.CentroidModel

variable {S : Type} [Scalar S]

/-! ## Groups of members -/

variable (threshold : S) (vocabulary : Vocabulary S) {texts : List LabelledText}

theorem length_groups_le (texts : List LabelledText) :
    (groups threshold vocabulary texts).length ≤ texts.length := by
  have fewer := Component.length_components_le (linked threshold) (members vocabulary texts)
  rwa [members, List.length_map, List.length_zipIdx] at fewer

/-- Every member is in a group. -/
theorem exists_group {vocabulary : Vocabulary S} {member : Member S}
    (present : member ∈ members vocabulary texts) :
    ∃ group ∈ groups threshold vocabulary texts, member ∈ group := by
  have shared := Component.perm_flatten_components (linked threshold)
    (distinct_members vocabulary texts)
  exact List.mem_flatten.1 (shared.mem_iff.2 present)

theorem mem_members_of_group {threshold : S} {vocabulary : Vocabulary S} {group : List (Member S)}
    (present : group ∈ groups threshold vocabulary texts) {member : Member S}
    (inside : member ∈ group) : member ∈ members vocabulary texts := by
  have shared := Component.perm_flatten_components (linked threshold)
    (distinct_members vocabulary texts)
  exact shared.mem_iff.1 (List.mem_flatten.2 ⟨group, present, inside⟩)

/-- A member is in the group whose number it is given. -/
theorem groupOf_eq_iff {threshold : S} {vocabulary : Vocabulary S} {member : Member S}
    (present : member ∈ members vocabulary texts) {number : Nat}
    (inBounds : number < (groups threshold vocabulary texts).length) :
    groupOf (groups threshold vocabulary texts) member = (number : Label) ↔
      member ∈ (groups threshold vocabulary texts)[number] :=
  Int.natCast_inj.trans
    (Component.findIdx_contains_iff _ (distinct_members vocabulary texts) present inBounds)

/-- Texts of different labels are in the clusters of their members. -/
theorem clusterOf?_clustered (labels : (texts.map LabelledText.label).Nodup)
    {vocabulary : Vocabulary S} {member : Member S}
    (present : member ∈ members vocabulary texts) :
    (clustered threshold vocabulary texts).clusterOf? member.source.label =
      some (groupOf (groups threshold vocabulary texts) member) := by
  apply SortedMap.get?_ofList_of_nodup
  · rw [← map_source_members vocabulary texts, List.map_map] at labels
    rw [List.map_map]
    exact labels
  · exact List.mem_map.2 ⟨member, present, rfl⟩

/-- Every group is the cluster of a text. -/
theorem exists_text_of_group (labels : (texts.map LabelledText.label).Nodup)
    {vocabulary : Vocabulary S} {number : Nat}
    (inBounds : number < (groups threshold vocabulary texts).length) :
    ∃ text ∈ texts,
      (clustered threshold vocabulary texts).clusterOf? text.label = some (number : Label) := by
  have isGroup := List.getElem_mem inBounds
  rcases List.exists_mem_of_ne_nil _ (Component.ne_nil_of_mem_components isGroup) with
    ⟨member, inside⟩
  have isMember := mem_members_of_group isGroup inside
  refine ⟨member.source, (source_of_member isMember).1, ?_⟩
  rw [clusterOf?_clustered threshold labels isMember, (groupOf_eq_iff isMember inBounds).2 inside]

/-- There is one centroid for every group, under the number of the group. -/
theorem mem_centroids {threshold : S} {vocabulary : Vocabulary S} {centroid : Centroid S} :
    centroid ∈ (clustered threshold vocabulary texts).model.centroids ↔
      ∃ number : Nat, ∃ inBounds : number < (groups threshold vocabulary texts).length,
        centroid = .ofMembers number vocabulary.size
          ((groups threshold vocabulary texts)[number].map Member.vector) := by
  show centroid ∈ ((groups threshold vocabulary texts).zipIdx.map fun entry =>
    ((entry.2 : Label), entry.1)).map (fun entry =>
      Centroid.ofMembers entry.1 vocabulary.size (entry.2.map Member.vector)) ↔ _
  rw [List.map_map, List.mem_map]
  constructor
  · intro found
    rcases found with ⟨⟨group, number⟩, present, rfl⟩
    rw [List.mem_zipIdx_iff_getElem?, List.getElem?_eq_some_iff] at present
    rcases present with ⟨inBounds, same⟩
    exact ⟨number, inBounds, by rw [← show _ = group from same]; rfl⟩
  · intro found
    rcases found with ⟨number, inBounds, rfl⟩
    refine ⟨((groups threshold vocabulary texts)[number], number), ?_, rfl⟩
    rw [List.mem_zipIdx_iff_getElem?, List.getElem?_eq_getElem inBounds]

/-- The texts that are matched as they are belong to members without terms. -/
theorem mem_featureless {threshold : S} {vocabulary : Vocabulary S} {text : String}
    {cluster : Label} :
    (text, cluster) ∈ (clustered threshold vocabulary texts).model.featureless ↔
      ∃ number : Nat, ∃ inBounds : number < (groups threshold vocabulary texts).length,
        cluster = number ∧ ∃ member ∈ (groups threshold vocabulary texts)[number],
          Vector.isZero member.vector = true ∧ member.source.text = text := by
  show (text, cluster) ∈ ((groups threshold vocabulary texts).zipIdx.map fun entry =>
    ((entry.2 : Label), entry.1)).flatMap (fun entry =>
      (entry.2.filter fun member => Vector.isZero member.vector).map fun member =>
        (member.source.text, entry.1)) ↔ _
  rw [List.flatMap_map, List.mem_flatMap]
  constructor
  · intro found
    rcases found with ⟨⟨group, number⟩, present, inside⟩
    rw [List.mem_zipIdx_iff_getElem?, List.getElem?_eq_some_iff] at present
    rcases present with ⟨inBounds, found⟩
    rcases List.mem_map.1 inside with ⟨member, kept, same⟩
    rw [List.mem_filter, ← show _ = group from found] at kept
    cases same
    exact ⟨number, inBounds, rfl, member, kept.1, kept.2, rfl⟩
  · intro found
    rcases found with ⟨number, inBounds, rfl, member, inside, zero, rfl⟩
    refine ⟨((groups threshold vocabulary texts)[number], number), ?_, ?_⟩
    · rw [List.mem_zipIdx_iff_getElem?, List.getElem?_eq_getElem inBounds]
    · exact List.mem_map.2 ⟨member, List.mem_filter.2 ⟨inside, zero⟩, rfl⟩

/-! ## The nearest centroid -/

/-- The nearer of the best centroid so far and another one. -/
def nearer (vector : List S) (best : Option (Centroid S × S)) (centroid : Centroid S) :
    Option (Centroid S × S) :=
  let similarity := Vector.cosine vector centroid.vector
  match best with
  | some (kept, greatest) =>
    if similarity ≤ greatest then some (kept, greatest) else some (centroid, similarity)
  | none => some (centroid, similarity)

theorem nearest_eq (model : CentroidModel S) (vector : List S) :
    model.nearest vector = model.centroids.foldl (nearer vector) none := rfl

/-- Of some centroids one is the nearest. -/
theorem exists_foldl_nearer {centroids : List (Centroid S)} (present : centroids ≠ [])
    (vector : List S) :
    ∃ centroid ∈ centroids, centroids.foldl (nearer vector) none =
      some (centroid, Vector.cosine vector centroid.vector) := by
  induction centroids using List.reverseRecOn with
  | nil => exact (present rfl).elim
  | append_singleton earlier centroid ih =>
    rw [List.foldl_append, List.foldl_cons, List.foldl_nil]
    cases earlier with
    | nil => exact ⟨centroid, .head _, rfl⟩
    | cons first rest =>
      rcases ih (List.cons_ne_nil first rest) with ⟨kept, inside, found⟩
      rw [found, nearer]
      split
      · exact ⟨kept, List.mem_append_left _ inside, rfl⟩
      · exact ⟨centroid, List.mem_append_right _ (.head _), rfl⟩

/-! ## Recognition -/

/-- Whether a text is recognised: it has no terms, or the nearest centroid is near enough. -/
def Recognises (threshold : S) (model : CentroidModel S) (text : String) : Prop :=
  Vector.isZero (model.vocabulary.vector text) = true ∨
    ∃ centroid similarity, model.nearest (model.vocabulary.vector text) = some (centroid, similarity) ∧
      threshold ≤ similarity

/-- Texts that are matched as they are are matched with a group. -/
theorem exists_group_of_lookup {vocabulary : Vocabulary S} {text : String} {cluster : Label}
    (found : (clustered threshold vocabulary texts).model.featureless.lookup text = some cluster) :
    ∃ number : Nat, number < (groups threshold vocabulary texts).length ∧ cluster = number := by
  rcases List.lookup_eq_some_iff.1 found with ⟨before, after, same, _⟩
  have listed : (text, cluster) ∈ (clustered threshold vocabulary texts).model.featureless := by
    rw [same]
    exact List.mem_append_right _ (.head _)
  rcases mem_featureless.1 listed with ⟨number, inBounds, rfl, _⟩
  exact ⟨number, inBounds, rfl⟩

/-- A text without terms that equals a clustered one is matched as it is. -/
theorem lookup_featureless {vocabulary : Vocabulary S} {text : LabelledText}
    (present : text ∈ texts)
    (zero : Vector.isZero (vocabulary.vector text.text) = true) :
    ∃ cluster : Nat, cluster < texts.length ∧
      (clustered threshold vocabulary texts).model.featureless.lookup text.text =
        some (cluster : Label) := by
  rcases exists_member vocabulary present with ⟨member, isMember, rfl⟩
  rcases exists_group threshold isMember with ⟨group, isGroup, inside⟩
  rcases List.mem_iff_getElem.1 isGroup with ⟨number, inBounds, rfl⟩
  rcases mem_members.1 isMember with ⟨_, _, vector⟩
  have listed : (member.source.text, (number : Label)) ∈
      (clustered threshold vocabulary texts).model.featureless :=
    mem_featureless.2 ⟨number, inBounds, rfl, member, inside, by rw [vector, zero], rfl⟩
  cases found : (clustered threshold vocabulary texts).model.featureless.lookup
      member.source.text with
  | none =>
    have absent := List.lookup_eq_none_iff.1 found _ listed
    simp at absent
  | some cluster =>
    rcases exists_group_of_lookup threshold found with ⟨place, within, rfl⟩
    exact ⟨place, Nat.lt_of_lt_of_le within (length_groups_le threshold vocabulary texts), rfl⟩

theorem centroids_ne_nil (present : texts ≠ []) :
    (clustered threshold vocabulary texts).model.centroids ≠ [] := by
  obtain ⟨text, member⟩ := List.exists_mem_of_ne_nil _ present
  obtain ⟨first, isMember, _⟩ := exists_member vocabulary member
  obtain ⟨group, isGroup, _⟩ := exists_group threshold isMember
  obtain ⟨number, inBounds, _⟩ := List.mem_iff_getElem.1 isGroup
  exact List.ne_nil_of_mem (mem_centroids.2 ⟨number, inBounds, rfl⟩)

/-- Where there are texts, some centroid is nearest, and it is that of a group. -/
theorem exists_nearest_group (present : texts ≠ []) (vector : List S) :
    ∃ number : Nat, number < (groups threshold vocabulary texts).length ∧ ∃ centroid similarity,
      (clustered threshold vocabulary texts).model.nearest vector = some (centroid, similarity) ∧
      centroid.cluster = (number : Label) := by
  rcases exists_foldl_nearer (centroids_ne_nil threshold vocabulary present) vector with
    ⟨centroid, inside, found⟩
  rcases mem_centroids.1 inside with ⟨number, inBounds, same⟩
  refine ⟨number, inBounds, centroid, _, found, ?_⟩
  rw [same]
  rfl

/-- Where there are texts, some centroid is nearest, and it is that of a cluster. -/
theorem exists_nearest_clustered (present : texts ≠ []) (vector : List S) :
    ∃ cluster : Nat, cluster < texts.length ∧ ∃ centroid similarity,
      (clustered threshold vocabulary texts).model.nearest vector = some (centroid, similarity) ∧
      centroid.cluster = (cluster : Label) := by
  rcases exists_nearest_group threshold vocabulary present vector with ⟨number, inBounds, found⟩
  exact ⟨number, Nat.lt_of_lt_of_le inBounds (length_groups_le threshold vocabulary texts), found⟩

/-- Where there are texts, every other text has a nearest cluster, matched or not, and that is the
cluster of one of them. -/
theorem exists_nearest_text (labels : (texts.map LabelledText.label).Nodup) (present : texts ≠ [])
    (text : String) :
    ∃ cluster, ((clustered threshold vocabulary texts).model.matchText threshold text).nearest =
        some cluster ∧
      ∃ other ∈ texts,
        (clustered threshold vocabulary texts).clusterOf? other.label = some cluster := by
  have ofNumber : ∀ number : Nat, number < (groups threshold vocabulary texts).length →
      ((clustered threshold vocabulary texts).model.matchText threshold text).nearest =
        some (number : Label) →
      ∃ cluster, ((clustered threshold vocabulary texts).model.matchText threshold text).nearest =
          some cluster ∧ ∃ other ∈ texts,
        (clustered threshold vocabulary texts).clusterOf? other.label = some cluster :=
    fun number inBounds nearest =>
      ⟨number, nearest, exists_text_of_group threshold labels inBounds⟩
  rcases exists_nearest_group threshold vocabulary present (vocabulary.vector text) with
    ⟨number, inBounds, centroid, similarity, found, named⟩
  have byVector : (matchVector threshold (clustered threshold vocabulary texts).model
      (vocabulary.vector text)).nearest = some (number : Label) := by
    rw [matchVector, found]
    exact congrArg some named
  have vocabularies : (clustered threshold vocabulary texts).model.vocabulary = vocabulary := rfl
  rw [matchText, vocabularies] at ofNumber ⊢
  cases known : (if Vector.isZero (vocabulary.vector text) then
      (clustered threshold vocabulary texts).model.featureless.lookup text else none) with
  | none =>
    simp only [known] at ofNumber ⊢
    exact ofNumber number inBounds byVector
  | some cluster =>
    simp only [known] at ofNumber ⊢
    split at known
    · rcases exists_group_of_lookup threshold known with ⟨number, inBounds, rfl⟩
      exact ofNumber number inBounds rfl
    · cases known

/-- Matching a text that equals a clustered one names a cluster, and matches exactly when the text is
recognised. -/
theorem matchText_of_known {text : String} (known : ∃ other ∈ texts, other.text = text) :
    ∃ cluster : Nat, cluster < texts.length ∧
      ((clustered threshold vocabulary texts).model.matchText threshold text).nearest =
        some (cluster : Label) ∧
      (((clustered threshold vocabulary texts).model.matchText threshold text).isMatched = true ↔
        Recognises threshold (clustered threshold vocabulary texts).model text) := by
  rcases known with ⟨other, present, rfl⟩
  have vocabularies : (clustered threshold vocabulary texts).model.vocabulary = vocabulary := rfl
  rw [matchText, Recognises, vocabularies]
  cases zero : Vector.isZero (vocabulary.vector other.text) with
  | true =>
    rcases lookup_featureless threshold present zero with ⟨cluster, small, found⟩
    simp only [if_true, found]
    exact ⟨cluster, small, rfl, by simp⟩
  | false =>
    rcases exists_nearest_clustered threshold vocabulary (List.ne_nil_of_mem present)
      (vocabulary.vector other.text) with ⟨cluster, small, centroid, similarity, found, named⟩
    simp only [Bool.false_eq_true, if_false, matchVector, found]
    exact ⟨cluster, small, congrArg some named, by simp⟩

end LogDrift.CentroidModel
