import LogDrift.Proofs.Numeral.Comparison
import LogDrift.Proofs.Similarity.Apart
import LogDrift.Proofs.Similarity.Chain

/-!
# Clusters are connected components

Two texts share a cluster exactly when a chain of similar texts joins them. Clusters are numbered in
the order of their first texts, and every cluster has one centroid and its tags, made of the texts in
it.
-/

namespace LogDrift

/-- Where products do not depend on the order of their factors, neither does similarity. -/
theorem Vector.cosine_comm {S : Type} [Scalar S] (commutes : ∀ x y : S, x * y = y * x)
    (left right : List S) : cosine left right = cosine right left := by
  have products : dot left right = dot right left := by
    rw [dot, dot, List.zipWith_comm]
    simp only [commutes]
  simp only [cosine, products, commutes (norm left), or_comm]

namespace CentroidModel

variable {S : Type} [Scalar S] {threshold : S} {vocabulary : Vocabulary S}
  {texts : List LabelledText}

/-! ## Texts -/

/-- Whether a chain of similar texts of a list leads from one text to another. -/
def Chained (threshold : S) (vocabulary : Vocabulary S) (texts : List LabelledText) :
    LabelledText → LabelledText → Prop :=
  Relation.ReflTransGen fun left right =>
    left ∈ texts ∧ right ∈ texts ∧ Resembles threshold vocabulary left right

/-- Texts of different labels are joined by a chain exactly when their members are. -/
theorem connected_members_iff (labels : (texts.map LabelledText.label).Nodup)
    {left right : Member S} (inLeft : left ∈ members vocabulary texts)
    (inRight : right ∈ members vocabulary texts) :
    Component.Connected (linked threshold) (members vocabulary texts) left right ↔
      Chained threshold vocabulary texts left.source right.source := by
  constructor
  · refine fun connected => Relation.ReflTransGen.lift Member.source ?_ _ _ connected
    rintro left right ⟨inLeft, inRight, near⟩
    obtain ⟨isLeft, leftVector⟩ := source_of_member inLeft
    obtain ⟨isRight, rightVector⟩ := source_of_member inRight
    refine ⟨isLeft, isRight, ?_⟩
    rw [Resembles, ← leftVector, ← rightVector]
    exact of_decide_eq_true near
  · intro chained
    have reached : ∀ text, Chained threshold vocabulary texts left.source text →
        ∃ member ∈ members vocabulary texts, member.source = text ∧
          Component.Connected (linked threshold) (members vocabulary texts) left member := by
      intro text chained
      induction chained with
      | refl => exact ⟨left, inLeft, rfl, .refl⟩
      | tail _ step ih =>
        obtain ⟨member, present, rfl, connected⟩ := ih
        obtain ⟨_, isNext, similar⟩ := step
        obtain ⟨next, listed, rfl⟩ := exists_member vocabulary isNext
        refine ⟨next, listed, rfl, connected.tail ⟨present, listed, ?_⟩⟩
        rw [Resembles, ← (source_of_member present).2, ← (source_of_member listed).2] at similar
        exact decide_eq_true similar
    obtain ⟨member, present, same, connected⟩ := reached _ chained
    have distinct : ((members vocabulary texts).map Member.source).Nodup := by
      rw [map_source_members]
      exact labels.of_map
    rwa [← List.inj_on_of_nodup_map distinct present inRight same]

/-- A text is in the cluster whose number its group has. -/
theorem clusterOf?_eq_iff (labels : (texts.map LabelledText.label).Nodup) {member : Member S}
    (present : member ∈ members vocabulary texts) (number : Nat) :
    (clustered threshold vocabulary texts).clusterOf? member.source.label =
        some (number : Label) ↔
      Component.numberIn (groups threshold vocabulary texts) member = number := by
  rw [clusterOf?_clustered threshold labels present, Option.some_inj]
  exact Int.natCast_inj

/-- What is made of texts is made of their members. -/
theorem map_filter_members {β : Type} (vocabulary : Vocabulary S) (texts : List LabelledText)
    (image : LabelledText → β) (accepts : LabelledText → Bool) :
    (texts.filter accepts).map image =
      ((members vocabulary texts).filter fun member => accepts member.source).map fun member =>
        image member.source := by
  conv => lhs; rw [← map_source_members vocabulary texts, List.filter_map, List.map_map]
  rfl

/-! ## Centroids and tags -/

theorem centroids_eq (threshold : S) (vocabulary : Vocabulary S) (texts : List LabelledText) :
    (clustered threshold vocabulary texts).model.centroids =
      (groups threshold vocabulary texts).zipIdx.map fun entry =>
        .ofMembers (entry.2 : Label) vocabulary.size (entry.1.map Member.vector) :=
  List.map_map ..

/-- Centroids stand in the order of their clusters. -/
theorem map_cluster_centroids (threshold : S) (vocabulary : Vocabulary S)
    (texts : List LabelledText) :
    (clustered threshold vocabulary texts).model.centroids.map Centroid.cluster =
      (List.range (groups threshold vocabulary texts).length).map fun number : Nat =>
        (number : Label) := by
  rw [List.range_eq_range', ← List.zipIdx_map_snd, centroids_eq, List.map_map, List.map_map]
  rfl

theorem pairwise_centroids (threshold : S) (vocabulary : Vocabulary S)
    (texts : List LabelledText) :
    (clustered threshold vocabulary texts).model.centroids.Pairwise fun first second =>
      first.cluster < second.cluster := by
  rw [← List.pairwise_map (f := Centroid.cluster), map_cluster_centroids, List.pairwise_map]
  exact List.pairwise_lt_range.imp Int.ofNat_lt.2

/-- The cohesion of a cluster is that of its centroid. -/
theorem cohesion_of_mem {centroid : Centroid S}
    (present : centroid ∈ (clustered threshold vocabulary texts).model.centroids) :
    (clustered threshold vocabulary texts).model.cohesion centroid.cluster = centroid.cohesion := by
  have apart : ((clustered threshold vocabulary texts).model.centroids.map
      Centroid.cluster).Nodup :=
    List.pairwise_map.2 ((pairwise_centroids threshold vocabulary texts).imp Int.ne_of_lt)
  rw [cohesion]
  cases found : (clustered threshold vocabulary texts).model.centroids.find?
      (·.cluster == centroid.cluster) with
  | none => simpa using List.find?_eq_none.1 found centroid present
  | some other =>
    have same : other.cluster = centroid.cluster := by simpa using List.find?_some found
    rw [List.inj_on_of_nodup_map apart (List.mem_of_find?_eq_some found) present same]
    rfl

/-- Every cluster has the heaviest terms of its centroid for tags. -/
theorem tags_clustered (threshold : S) (vocabulary : Vocabulary S) (texts : List LabelledText) :
    (clustered threshold vocabulary texts).tags.entries =
      (clustered threshold vocabulary texts).model.centroids.map fun centroid =>
        (centroid.cluster, vocabulary.heaviest tagLimit centroid.vector) := by
  have ascending := (pairwise_centroids threshold vocabulary texts).imp Std.compare_eq_lt.2
  refine SortedMap.entries_foldl_insert_of_sorted _ .empty ?_
  rw [SortedMap.entries_empty, List.nil_append]
  exact List.pairwise_map.2 ascending

/-! ## Clusters -/

/-- What the clusters of texts are. They are numbered from zero. -/
structure Clusters (threshold : S) (vocabulary : Vocabulary S) (texts : List LabelledText)
    (clustering : Clustering (CentroidModel S)) (count : Nat) : Prop where
  /-- Every text is in a cluster. -/
  assigned : ∀ text ∈ texts, ∃ number < count,
    clustering.clusterOf? text.label = some (number : Label)
  /-- Every cluster has a text. -/
  inhabited : ∀ number < count, ∃ text ∈ texts,
    clustering.clusterOf? text.label = some (number : Label)
  /-- Two texts are in one cluster exactly when a chain of similar texts joins them. -/
  together : ∀ left ∈ texts, ∀ right ∈ texts,
    clustering.clusterOf? left.label = clustering.clusterOf? right.label ↔
      Chained threshold vocabulary texts left right
  /-- Clusters are numbered in the order of their first texts. -/
  numbered : (texts.map fun text => clustering.clusterOf? text.label).eraseDups =
    (List.range count).map fun number : Nat => some (number : Label)
  /-- Every cluster has one centroid, made of the texts in it. -/
  centroids : clustering.model.centroids = (List.range count).map fun number : Nat =>
    .ofMembers number vocabulary.size ((texts.filter fun text =>
      clustering.clusterOf? text.label == some (number : Label)).map fun text =>
        vocabulary.vector text.text)
  /-- Every cluster has one cohesion. -/
  cohesion : ∀ centroid ∈ clustering.model.centroids,
    clustering.model.cohesion centroid.cluster = centroid.cohesion
  /-- Every cluster has one list of tags. -/
  tags : clustering.tags.entries = clustering.model.centroids.map fun centroid =>
    (centroid.cluster, vocabulary.heaviest tagLimit centroid.vector)

variable (labels : (texts.map LabelledText.label).Nodup)

include labels in
/-- The clusters of texts have the numbers of their members. -/
theorem map_clusterOf?_clustered :
    (texts.map fun text => (clustered threshold vocabulary texts).clusterOf? text.label) =
      (members vocabulary texts).map fun member =>
        some (Component.numberIn (groups threshold vocabulary texts) member : Label) := by
  have all := map_filter_members vocabulary texts
    (fun text => (clustered threshold vocabulary texts).clusterOf? text.label) fun _ => true
  rw [List.filter_true, List.filter_true] at all
  rw [all]
  apply List.map_congr_left
  intro member present
  exact clusterOf?_clustered threshold labels present

include labels in
/-- The texts in a cluster are those of its group. -/
theorem filter_clusterOf?_clustered {number : Nat}
    (inBounds : number < (groups threshold vocabulary texts).length) :
    ((texts.filter fun text => (clustered threshold vocabulary texts).clusterOf? text.label ==
        some (number : Label)).map fun text => vocabulary.vector text.text) =
      (groups threshold vocabulary texts)[number].map Member.vector := by
  have chosen : ((members vocabulary texts).filter fun member =>
      (clustered threshold vocabulary texts).clusterOf? member.source.label ==
        some (number : Label)) = (groups threshold vocabulary texts)[number] := by
    refine .trans ?_ (Component.filter_number (distinct_members vocabulary texts) inBounds)
    apply List.filter_congr
    intro member present
    rw [Bool.eq_iff_iff, beq_iff_eq, beq_iff_eq, clusterOf?_eq_iff labels present]
    rfl
  rw [map_filter_members vocabulary, chosen]
  apply List.map_congr_left
  intro member inside
  exact (source_of_member (mem_members_of_group (List.getElem_mem inBounds) inside)).2.symm

include labels in
/-- There is one centroid for every group. -/
theorem centroids_clustered :
    (clustered threshold vocabulary texts).model.centroids =
      (List.range (groups threshold vocabulary texts).length).map fun number : Nat =>
        .ofMembers number vocabulary.size ((texts.filter fun text =>
          (clustered threshold vocabulary texts).clusterOf? text.label ==
            some (number : Label)).map fun text => vocabulary.vector text.text) := by
  rw [centroids_eq]
  apply List.ext_getElem
  · simp
  · intro number inLeft inRight
    rw [List.length_map, List.length_zipIdx] at inLeft
    simp only [List.getElem_map, List.getElem_zipIdx, List.getElem_range, Nat.zero_add,
      filter_clusterOf?_clustered labels inLeft]

include labels in
/-- What is clustered by similarity falls into the connected components. -/
theorem clusters_clustered (commutes : ∀ x y : S, x * y = y * x) :
    Clusters threshold vocabulary texts (clustered threshold vocabulary texts)
      (groups threshold vocabulary texts).length where
  assigned := by
    intro text present
    obtain ⟨member, isMember, rfl⟩ := exists_member vocabulary present
    obtain ⟨inBounds, _⟩ := Component.exists_number (distinct_members vocabulary texts) isMember
    exact ⟨_, inBounds, (clusterOf?_eq_iff labels isMember _).2 rfl⟩
  inhabited _ inBounds := exists_text_of_group threshold labels inBounds
  together := by
    intro left inLeft right inRight
    obtain ⟨first, isFirst, rfl⟩ := exists_member vocabulary inLeft
    obtain ⟨second, isSecond, rfl⟩ := exists_member vocabulary inRight
    have symmetric : ∀ left ∈ members vocabulary texts, ∀ right ∈ members vocabulary texts,
        linked threshold left right = linked threshold right left := by
      intro left _ right _
      rw [linked, linked, Vector.cosine_comm commutes]
    rw [← connected_members_iff labels isFirst isSecond,
      ← Component.numberIn_eq_iff (distinct_members vocabulary texts) symmetric isFirst isSecond,
      clusterOf?_clustered threshold labels isFirst, clusterOf?_clustered threshold labels isSecond,
      Option.some_inj]
    exact Int.natCast_inj
  numbered := by
    have injective : Function.Injective fun number : Nat => some (number : Label) :=
      fun _ _ same => Int.ofNat.inj (Option.some.inj same)
    rw [map_clusterOf?_clustered labels, groups,
      ← Component.eraseDups_numbers (distinct_members vocabulary texts),
      ← eraseDups_map injective, List.map_map]
    rfl
  centroids := centroids_clustered labels
  cohesion _ := cohesion_of_mem
  tags := tags_clustered threshold vocabulary texts

/-- Clustering, when it succeeds, learns the vocabulary of the corpus and finds the connected
components of the texts. -/
theorem cluster_connects {corpus : List LabelledText} {filter : TermFilter S}
    {clustering : Clustering (CentroidModel S)} (commutes : ∀ x y : S, x * y = y * x)
    (labels : (texts.map LabelledText.label).Nodup)
    (made : cluster threshold texts corpus filter = .ok clustering) :
    Vocabulary.learn (corpus.map LabelledText.text) filter = .ok clustering.model.vocabulary ∧
      ∃ count, Clusters threshold clustering.model.vocabulary texts clustering count := by
  rw [cluster_eq] at made
  cases learnt : Vocabulary.learn (corpus.map LabelledText.text) filter with
  | error refusal =>
    rw [learnt] at made
    cases made
  | ok vocabulary =>
    rw [learnt] at made
    cases made
    exact ⟨rfl, _, clusters_clustered labels commutes⟩

/-- Three messages, of which the first and the last are the same. -/
def diskTexts : List LabelledText :=
  [⟨7, "disk ready"⟩, ⟨3, "-"⟩, ⟨5, "disk ready"⟩]

/-- What doubles make of the terms of the three messages. -/
def diskVocabulary : Vocabulary Float :=
  ⟨[("disk", Vocabulary.weight 3 2), ("ready", Vocabulary.weight 3 2)]⟩

theorem cluster_diskTexts :
    cluster (defaultThreshold : Float) diskTexts diskTexts .default =
      .ok (clustered defaultThreshold diskVocabulary diskTexts) := by
  have learnt : Vocabulary.learn (diskTexts.map LabelledText.text) (.default : TermFilter Float) =
      .ok diskVocabulary := by
    have counts : (Vocabulary.documentCounts ["disk ready", "-", "disk ready"]).entries =
        [("disk", 2), ("ready", 2)] := by
      decide +kernel
    refine Vocabulary.learn_of_kept ?_ (List.cons_ne_nil ("disk", 2) [("ready", 2)])
    rw [diskTexts, List.map_cons, List.map_cons, List.map_cons, List.map_nil, counts]
    decide
  rw [cluster_eq, learnt]
  rfl

theorem cluster_connects_disk :
    (diskTexts.map LabelledText.label).Nodup ∧
    cluster (defaultThreshold : Float) diskTexts diskTexts .default =
      .ok (clustered defaultThreshold diskVocabulary diskTexts) ∧
    ∃ count, Clusters defaultThreshold diskVocabulary diskTexts
      (clustered defaultThreshold diskVocabulary diskTexts) count := by
  have labels : (diskTexts.map LabelledText.label).Nodup := by decide
  exact ⟨labels, cluster_diskTexts, (cluster_connects Double.mul_comm labels cluster_diskTexts).2⟩

end CentroidModel

end LogDrift
