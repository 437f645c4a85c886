import LogDrift.Proofs.Exact.Scalar
import LogDrift.Proofs.Similarity.Connected

/-!
# Matching picks the first nearest centroid

A text is matched on its own. One without terms that equals a clustered text goes to the first
cluster with such a text, whatever the threshold. Every other text goes to the most similar centroid,
of several to the first, and is matched when the similarity reaches the threshold.
-/

namespace LogDrift.CentroidModel

variable {S : Type} [Scalar S] {threshold : S} {vocabulary : Vocabulary S}
  {texts : List LabelledText}

/-! ## The foremost centroid -/

/-- Whether a centroid is the first of those that are most similar to a vector. -/
structure Foremost (vector : List S) (centroids : List (Centroid S)) (centroid : Centroid S) :
    Prop where
  greatest : ∀ other ∈ centroids,
    Vector.cosine vector other.vector ≤ Vector.cosine vector centroid.vector
  first : ∃ before after, centroids = before ++ centroid :: after ∧ ∀ other ∈ before,
    ¬ Vector.cosine vector centroid.vector ≤ Vector.cosine vector other.vector

/-- The nearest centroid is the foremost one, if similarities can be compared. -/
theorem exists_foremost {kind : S → Prop} (ordered : Scalar.Ordered kind) {vector : List S}
    {centroids : List (Centroid S)} (present : centroids ≠ [])
    (comparable : ∀ centroid ∈ centroids, kind (Vector.cosine vector centroid.vector)) :
    ∃ centroid, Foremost vector centroids centroid ∧ centroids.foldl (nearer vector) none =
      some (centroid, Vector.cosine vector centroid.vector) := by
  induction centroids using List.reverseRecOn with
  | nil => exact (present rfl).elim
  | append_singleton earlier centroid ih =>
    have earlierComparable : ∀ other ∈ earlier, kind (Vector.cosine vector other.vector) :=
      fun other inside => comparable other (List.mem_append_left _ inside)
    have last : kind (Vector.cosine vector centroid.vector) := comparable centroid (by simp)
    have itself : Vector.cosine vector centroid.vector ≤ Vector.cosine vector centroid.vector :=
      (ordered.total last last).elim id id
    rw [List.foldl_append, List.foldl_cons, List.foldl_nil]
    cases earlier with
    | nil => exact ⟨centroid, ⟨by simpa using itself, [], [], rfl, nofun⟩, rfl⟩
    | cons head rest =>
      obtain ⟨kept, foremost, found⟩ := ih (List.cons_ne_nil head rest) earlierComparable
      obtain ⟨before, after, split, ahead⟩ := foremost.first
      have inside : kept ∈ head :: rest := by simp [split]
      rw [found, nearer]
      by_cases near : Vector.cosine vector centroid.vector ≤ Vector.cosine vector kept.vector
      · refine ⟨kept, ⟨?_, before, after ++ [centroid], by simp [split], ahead⟩, by simp [near]⟩
        simpa [or_imp, forall_and, near] using foremost.greatest
      · have beaten : ∀ other ∈ head :: rest,
            ¬ Vector.cosine vector centroid.vector ≤ Vector.cosine vector other.vector :=
          fun other listed reaches => near (ordered.trans last (earlierComparable other listed)
            (earlierComparable kept inside) reaches (foremost.greatest other listed))
        refine ⟨centroid, ⟨?_, head :: rest, [], rfl, beaten⟩, by simp [near]⟩
        intro other listed
        rcases List.mem_append.1 listed with listed | listed
        · exact (ordered.total last (earlierComparable other listed)).resolve_left
            (beaten other listed)
        · rwa [List.mem_singleton.1 listed]

/-- The foremost centroid has the lowest number of those that are most similar. -/
theorem Foremost.cluster_le {vector : List S} {centroids : List (Centroid S)}
    {centroid other : Centroid S} (foremost : Foremost vector centroids centroid)
    (ascending : centroids.Pairwise fun first second => first.cluster < second.cluster)
    (listed : other ∈ centroids)
    (reaches : Vector.cosine vector centroid.vector ≤ Vector.cosine vector other.vector) :
    centroid.cluster ≤ other.cluster := by
  obtain ⟨before, after, rfl, ahead⟩ := foremost.first
  rcases List.mem_append.1 listed with early | late
  · exact (ahead other early reaches).elim
  · rcases List.mem_cons.1 late with rfl | late
    · exact Int.le_refl _
    · have later := (List.pairwise_append.1 ascending).2.1
      exact Int.le_of_lt ((List.pairwise_cons.1 later).1 other late)

/-! ## Texts without terms -/

/-- Whether a cluster has a member with a given text. -/
def Holds (threshold : S) (vocabulary : Vocabulary S) (texts : List LabelledText) (cluster : Nat)
    (text : String) : Prop :=
  ∃ group, (groups threshold vocabulary texts)[cluster]? = some group ∧
    ∃ member ∈ group, member.source.text = text

theorem Holds.lt_length {cluster : Nat} {text : String}
    (holds : Holds threshold vocabulary texts cluster text) :
    cluster < (groups threshold vocabulary texts).length := by
  obtain ⟨group, isGroup, _⟩ := holds
  exact (List.getElem?_eq_some_iff.1 isGroup).1

theorem mem_featureless_iff {text : String} (zero : Vector.isZero (vocabulary.vector text) = true)
    {cluster : Label} :
    (text, cluster) ∈ (clustered threshold vocabulary texts).model.featureless ↔
      ∃ number : Nat, cluster = number ∧ Holds threshold vocabulary texts number text := by
  rw [mem_featureless]
  constructor
  · rintro ⟨number, inBounds, rfl, member, inside, _, same⟩
    exact ⟨number, rfl, _, List.getElem?_eq_getElem inBounds, member, inside, same⟩
  · rintro ⟨number, rfl, group, found, member, inside, rfl⟩
    obtain ⟨inBounds, rfl⟩ := List.getElem?_eq_some_iff.1 found
    have vector := (source_of_member (mem_members_of_group (List.getElem_mem inBounds) inside)).2
    exact ⟨number, inBounds, rfl, member, inside, by rw [vector, zero], rfl⟩

/-- Texts that are matched as they are are listed in the order of their clusters. -/
theorem pairwise_featureless (threshold : S) (vocabulary : Vocabulary S)
    (texts : List LabelledText) :
    (clustered threshold vocabulary texts).model.featureless.Pairwise fun first second =>
      first.2 ≤ second.2 := by
  show (((groups threshold vocabulary texts).zipIdx.map fun entry =>
    ((entry.2 : Label), entry.1)).flatMap fun entry =>
      (entry.2.filter fun member => Vector.isZero member.vector).map fun member =>
        (member.source.text, entry.1)).Pairwise _
  rw [List.flatMap_map, List.pairwise_flatMap]
  constructor
  · intro entry _
    exact List.pairwise_map.2 (List.pairwise_of_forall fun _ _ => Int.le_refl _)
  · have ascending : (groups threshold vocabulary texts).zipIdx.Pairwise fun first second =>
        first.2 < second.2 := by
      rw [← List.pairwise_map (f := Prod.snd), List.zipIdx_map_snd]
      exact List.pairwise_lt_range'
    apply ascending.imp
    simp only [List.forall_mem_map]
    intro first second below _ _ _ _
    exact Int.ofNat_le.2 (Nat.le_of_lt below)

/-- Where values ascend, looking a key up finds the least of its values. -/
theorem le_of_lookup {entries : List (String × Label)}
    (ascending : entries.Pairwise fun first second => first.2 ≤ second.2) {key : String}
    {value other : Label} (found : entries.lookup key = some value)
    (listed : (key, other) ∈ entries) : value ≤ other := by
  obtain ⟨before, after, rfl, unequal⟩ := List.lookup_eq_some_iff.1 found
  rcases List.mem_append.1 listed with early | late
  · simpa using unequal _ early
  · rcases List.mem_cons.1 late with same | late
    · exact Int.le_of_eq (congrArg Prod.snd same).symm
    · exact (List.pairwise_cons.1 (List.pairwise_append.1 ascending).2.1).1 _ late

/-! ## Outcomes -/

/-- Whether a text without terms equals one of the texts that were clustered. -/
def Featureless (vocabulary : Vocabulary S) (texts : List LabelledText) (text : String) : Prop :=
  Vector.isZero (vocabulary.vector text) = true ∧ ∃ other ∈ texts, other.text = text

/-- What matching makes of a text, where `texts` are the texts that were clustered. -/
structure Matched (threshold limit : S) (texts : List LabelledText) (model : CentroidModel S)
    (text : String) (outcome : MatchOutcome S) : Prop where
  /-- A cluster is named, and it is scored by its cohesion. -/
  named : ∃ centroid ∈ model.centroids, outcome.nearest = some centroid.cluster ∧
    outcome.clusterScore = model.cohesion centroid.cluster ∧
    outcome.clusterScore = centroid.cohesion
  /-- A text without terms that equals a clustered one is matched with the first cluster that holds
  it. -/
  itself : Featureless model.vocabulary texts text →
    outcome.isMatched = true ∧ outcome.score = 1 ∧
    ∃ number : Nat, outcome.nearest = some (number : Label) ∧
      Holds threshold model.vocabulary texts number text ∧
      ∀ other, Holds threshold model.vocabulary texts other text → number ≤ other
  /-- Every other text has the first of the most similar centroids. -/
  similar : ¬ Featureless model.vocabulary texts text →
    (outcome.isMatched = true ↔ limit ≤ outcome.score) ∧
    ∃ centroid ∈ model.centroids, outcome.nearest = some centroid.cluster ∧
      outcome.score = Vector.cosine (model.vocabulary.vector text) centroid.vector ∧
      ∀ other ∈ model.centroids,
        Vector.cosine (model.vocabulary.vector text) other.vector ≤ outcome.score ∧
        (outcome.score ≤ Vector.cosine (model.vocabulary.vector text) other.vector →
          centroid.cluster ≤ other.cluster)

variable {limit : S} {text : String}

/-- A text without terms that equals a clustered one is looked up. -/
theorem matched_of_featureless (known : Featureless vocabulary texts text) :
    Matched threshold limit texts (clustered threshold vocabulary texts).model text
      ((clustered threshold vocabulary texts).model.matchText limit text) := by
  obtain ⟨zero, other, present, rfl⟩ := known
  obtain ⟨_, _, found⟩ := lookup_featureless threshold present zero
  obtain ⟨before, after, split, _⟩ := List.lookup_eq_some_iff.1 found
  obtain ⟨number, same, held⟩ := (mem_featureless_iff zero).1
    (split ▸ List.mem_append_right before (.head after))
  rw [same] at found
  have vocabularies : (clustered threshold vocabulary texts).model.vocabulary = vocabulary := rfl
  simp only [matchText, vocabularies, zero, if_true, found]
  have inBounds := held.lt_length
  have isCentroid := mem_centroids.2 ⟨number, inBounds, rfl⟩
  refine ⟨⟨_, isCentroid, rfl, rfl, cohesion_of_mem isCentroid⟩, fun _ => ?_, fun unknown => ?_⟩
  · refine ⟨rfl, rfl, number, rfl, held, fun other holds => ?_⟩
    exact Int.ofNat_le.1 (le_of_lookup (pairwise_featureless threshold vocabulary texts) found
      ((mem_featureless_iff zero).2 ⟨other, rfl, holds⟩))
  · exact (unknown ⟨zero, other, present, rfl⟩).elim

/-- Every other text is matched by its vector. -/
theorem matchText_of_not_featureless (unknown : ¬ Featureless vocabulary texts text) :
    (clustered threshold vocabulary texts).model.matchText limit text =
      matchVector limit (clustered threshold vocabulary texts).model
        (vocabulary.vector text) := by
  have missed : (if Vector.isZero (vocabulary.vector text) then
      (clustered threshold vocabulary texts).model.featureless.lookup text else none) = none := by
    split
    · next zero =>
      rw [List.lookup_eq_none_iff]
      rintro ⟨other, cluster⟩ listed
      by_contra same
      obtain rfl : text = other := by simpa using same
      obtain ⟨number, _, group, found, member, inside, source⟩ := (mem_featureless_iff zero).1 listed
      exact unknown ⟨zero, member.source,
        (source_of_member (mem_members_of_group (List.mem_of_getElem? found) inside)).1, source⟩
    · rfl
  have vocabularies : (clustered threshold vocabulary texts).model.vocabulary = vocabulary := rfl
  simp only [matchText, vocabularies, missed]

/-- Every text is matched by itself or with the foremost centroid. -/
theorem matched_matchText {kind : S → Prop} (ordered : Scalar.Ordered kind) (present : texts ≠ [])
    (comparable : ∀ centroid ∈ (clustered threshold vocabulary texts).model.centroids,
      kind (Vector.cosine (vocabulary.vector text) centroid.vector)) :
    Matched threshold limit texts (clustered threshold vocabulary texts).model text
      ((clustered threshold vocabulary texts).model.matchText limit text) := by
  by_cases known : Featureless vocabulary texts text
  · exact matched_of_featureless known
  · obtain ⟨centroid, foremost, found⟩ := exists_foremost ordered
      (centroids_ne_nil threshold vocabulary present) comparable
    have isCentroid : centroid ∈ (clustered threshold vocabulary texts).model.centroids := by
      obtain ⟨before, after, split, _⟩ := foremost.first
      simp [split]
    rw [matchText_of_not_featureless known, matchVector, nearest_eq, found]
    refine ⟨⟨centroid, isCentroid, rfl, rfl, cohesion_of_mem isCentroid⟩,
      fun same => (known same).elim,
      fun _ => ⟨decide_eq_true_iff, centroid, isCentroid, rfl, rfl, ?_⟩⟩
    intro other listed
    exact ⟨foremost.greatest other listed,
      foremost.cluster_le (pairwise_centroids threshold vocabulary texts) listed⟩

/-- Doubles can be compared unless they are no numbers, so that this is how texts are matched on
them. -/
theorem matched_matchText_double {threshold limit : Float} {vocabulary : Vocabulary Float}
    (present : texts ≠ []) (comparable : ∀ centroid ∈
      (clustered threshold vocabulary texts).model.centroids,
      (Vector.cosine (vocabulary.vector text) centroid.vector).isNaN = false) :
    Matched threshold limit texts (clustered threshold vocabulary texts).model text
      ((clustered threshold vocabulary texts).model.matchText limit text) :=
  matched_matchText Double.ordered present comparable

/-- Whatever has been clustered, there is one outcome for every text, which does not depend on what
else is matched, and texts of different labels all have their outcomes. -/
theorem classify_matches {corpus : List LabelledText} {filter : TermFilter S}
    {clustering : Clustering (CentroidModel S)} {kind : S → Prop} (limit : S)
    (ordered : Scalar.Ordered kind) (present : texts ≠ [])
    (made : cluster threshold texts corpus filter = .ok clustering) :
    ∃ outcome : String → MatchOutcome S,
      (∀ tests : List LabelledText, (tests.map LabelledText.label).Nodup →
        (∀ test ∈ tests, (classify limit clustering.model tests).get? test.label =
          some (outcome test.text)) ∧
        ∀ label, ((classify limit clustering.model tests).get? label).isSome ↔
          label ∈ tests.map LabelledText.label) ∧
      ∀ text, (∀ centroid ∈ clustering.model.centroids,
          kind (Vector.cosine (clustering.model.vocabulary.vector text) centroid.vector)) →
        Matched threshold limit texts clustering.model text (outcome text) := by
  rw [cluster_eq] at made
  cases learnt : Vocabulary.learn (corpus.map LabelledText.text) filter with
  | error refusal =>
    rw [learnt] at made
    cases made
  | ok vocabulary =>
    rw [learnt] at made
    cases made
    refine ⟨(clustered threshold vocabulary texts).model.matchText limit, fun tests labels => ?_,
      fun text comparable => matched_matchText ordered present comparable⟩
    refine ⟨fun test member => get?_classify limit _ labels member, fun label => ?_⟩
    rw [classify, SortedMap.isSome_get?_ofList, List.map_map]
    rfl

theorem classify_matches_disk :
    Scalar.Ordered (fun _ : ℝ => True) ∧ diskTexts ≠ [] ∧
    ∃ clustering, cluster (defaultThreshold : ℝ) diskTexts diskTexts .relaxed = .ok clustering ∧
    ∃ outcome : String → MatchOutcome ℝ,
      (classify defaultThreshold clustering.model diskTexts).get? 3 = some (outcome "-") ∧
      ∀ text, Matched defaultThreshold defaultThreshold diskTexts clustering.model text
        (outcome text) := by
  have nonempty : diskTexts ≠ [] := List.cons_ne_nil _ _
  have labels : (diskTexts.map LabelledText.label).Nodup := by decide
  have present : Text.tokens "disk ready" ≠ [] := by decide +kernel
  have listed : "disk ready" ∈ diskTexts.map LabelledText.text := by simp [diskTexts]
  obtain ⟨vocabulary, learnt⟩ :=
    Vocabulary.learn_relaxed_of_token Scalar.faithfulCounts_real listed present
  have made : cluster (defaultThreshold : ℝ) diskTexts diskTexts .relaxed =
      .ok (clustered defaultThreshold vocabulary diskTexts) := by
    rw [cluster_eq, learnt]
    rfl
  obtain ⟨outcome, classified, matched⟩ :=
    classify_matches defaultThreshold Scalar.exact_real.ordered nonempty made
  exact ⟨Scalar.exact_real.ordered, nonempty, _, made, outcome,
    (classified diskTexts labels).1 ⟨3, "-"⟩ (.tail _ (.head _)),
    fun text => matched text fun _ _ => trivial⟩

end LogDrift.CentroidModel
