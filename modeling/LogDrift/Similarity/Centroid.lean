import LogDrift.Collaborator
import LogDrift.Similarity.Component
import LogDrift.Similarity.Vocabulary

/-!
# Clusters by similarity

Two texts are linked when their similarity reaches a threshold, and the clusters are the connected
components. Other texts are matched against the mean vectors of the clusters.
-/

namespace LogDrift

/-- A cluster as seen by matching. -/
structure Centroid (S : Type) where
  cluster : Label
  vector : List S
  /-- The mean similarity of the members to the vector. -/
  cohesion : S

/-- The clusters of a clustering, captured for matching. -/
structure CentroidModel (S : Type) where
  vocabulary : Vocabulary S
  centroids : List (Centroid S)
  /-- Member texts that have no terms, with their clusters. They are matched as they are. -/
  featureless : List (String × Label)

namespace Centroid

variable {S : Type} [Scalar S]

/-- The centroid of a cluster's member vectors. A lone member is its own centroid, even without
terms. -/
def ofMembers (cluster : Label) (size : Nat) (vectors : List (List S)) : Centroid S :=
  let centre := Vector.mean size vectors
  { cluster
    vector := centre
    cohesion :=
      if vectors.length = 1 then 1
      else Scalar.sum (vectors.map (Vector.cosine · centre)) / Scalar.ofNat vectors.length }

end Centroid

namespace CentroidModel

variable {S : Type} [Scalar S]

/-- How many terms are kept per cluster. -/
def tagLimit : Nat := 10

/-- A text of a clustering with its place in the list and its vector. -/
structure Member (S : Type) where
  place : Nat
  source : LabelledText
  vector : List S

/-- Whether two members are similar enough to be linked. -/
def linked (threshold : S) (left right : Member S) : Bool :=
  threshold ≤ Vector.cosine left.vector right.vector

/-- The members for texts under a vocabulary. -/
def members (vocabulary : Vocabulary S) (texts : List LabelledText) : List (Member S) :=
  texts.zipIdx.map fun (source, place) => ⟨place, source, vocabulary.vector source.text⟩

/-- The clustering whose clusters are given groups of members, numbered from zero, and which assigns
given clusters to labels. -/
def ofGroups (vocabulary : Vocabulary S) (assigned : List (Label × Label))
    (groups : List (List (Member S))) : Clustering (CentroidModel S) :=
  let numbered := groups.zipIdx.map fun (group, number) => ((number : Label), group)
  let centroids := numbered.map fun (cluster, group) =>
    Centroid.ofMembers cluster vocabulary.size (group.map Member.vector)
  { assignments := .ofList assigned
    tags := .ofList (centroids.map fun centroid =>
      (centroid.cluster, vocabulary.heaviest tagLimit centroid.vector))
    model := {
      vocabulary
      centroids
      featureless := numbered.flatMap fun (cluster, group) =>
        (group.filter fun member => Vector.isZero member.vector).map fun member =>
          (member.source.text, cluster) } }

/-- The members with the numbers of their components. -/
def number (threshold : S) (members : List (Member S)) : List (Member S × Nat) :=
  members.zip (Component.numbers fun left right : Fin members.length =>
    linked threshold members[left] members[right])

/-- Clusters texts by the terms of a corpus. -/
def cluster (threshold : S) (texts corpus : List LabelledText) (filter : TermFilter S) :
    Except Error (Clustering (CentroidModel S)) := do
  let vocabulary ← Vocabulary.learn (corpus.map LabelledText.text) filter
  let numbered := number threshold (members vocabulary texts)
  return ofGroups vocabulary
    (numbered.map fun (member, number) => (member.source.label, (number : Label)))
    (Component.gather numbered)

/-- The cohesion of a cluster. -/
def cohesion (model : CentroidModel S) (cluster : Label) : S :=
  ((model.centroids.find? (·.cluster == cluster)).map Centroid.cohesion).getD 1

/-- The nearest centroid to a vector with its similarity; of several the first. -/
def nearest (model : CentroidModel S) (vector : List S) : Option (Centroid S × S) :=
  model.centroids.foldl (fun best centroid =>
    let similarity := Vector.cosine vector centroid.vector
    match best with
    | some (kept, greatest) =>
      if similarity ≤ greatest then some (kept, greatest) else some (centroid, similarity)
    | none => some (centroid, similarity)) none

/-- The outcome for a vector: it is matched when its similarity reaches the threshold. -/
def matchVector (threshold : S) (model : CentroidModel S) (vector : List S) : MatchOutcome S :=
  match model.nearest vector with
  | some (centroid, similarity) =>
    { isMatched := threshold ≤ similarity
      nearest := some centroid.cluster
      clusterScore := model.cohesion centroid.cluster
      score := similarity }
  | none => { isMatched := false, nearest := none, clusterScore := 1, score := 0 }

/-- The outcome for a text. A text without terms that equals a member without terms is matched with
it. -/
def matchText (threshold : S) (model : CentroidModel S) (text : String) : MatchOutcome S :=
  let vector := model.vocabulary.vector text
  match (if Vector.isZero vector then model.featureless.lookup text else none) with
  | some cluster =>
    { isMatched := true
      nearest := some cluster
      clusterScore := model.cohesion cluster
      score := 1 }
  | none => matchVector threshold model vector

/-- The outcomes for texts. -/
def classify (threshold : S) (model : CentroidModel S) (texts : List LabelledText) :
    SortedMap Label (MatchOutcome S) :=
  .ofList (texts.map fun text => (text.label, model.matchText threshold text.text))

end CentroidModel

namespace Vocabulary

variable {S : Type} [Scalar S]

/-- The distances between vectors: what their similarity lacks to one. -/
def distanceMatrix (vectors : List (List S)) : List (List S) :=
  vectors.zipIdx.map fun (left, row) =>
    vectors.zipIdx.map fun (right, column) =>
      if row = column then 0
      else if row < column then 1 - Vector.cosine left right
      else 1 - Vector.cosine right left

/-- The distances between texts under the vocabulary that they make up. -/
def distances (texts : List String) : Except Error (List (List S)) := do
  let vocabulary ← learn texts .relaxed
  return distanceMatrix (texts.map vocabulary.vector)

end Vocabulary

end LogDrift
