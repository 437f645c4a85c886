import LogDrift.Error
import LogDrift.LabelledText
import LogDrift.Map.Sorted
import LogDrift.Settings.Basic

/-!
# Collaborators

The analysis compares no texts itself. It asks a clusterer, which may keep a state of its own from
one question to the next, and a comparer.
-/

namespace LogDrift

/-- How labelled texts fall into clusters, with the model by which other texts are matched. -/
structure Clustering (Model : Type) where
  /-- The cluster of each label. -/
  assignments : SortedMap Label Label
  /-- The terms of each cluster, most significant first. -/
  tags : SortedMap Label (List String)
  model : Model

namespace Clustering

variable {Model : Type}

/-- The cluster of a label. -/
def clusterOf? (clustering : Clustering Model) (label : Label) : Option Label :=
  clustering.assignments.get? label

/-- The first terms of a cluster. -/
def tagsOf (clustering : Clustering Model) (cluster : Label) (limit : Nat) : List String :=
  ((clustering.tags.get? cluster).getD []).take limit

end Clustering

/-- How a text relates to the clusters. -/
structure MatchOutcome (S : Type) where
  /-- Whether the text belongs to the nearest cluster. -/
  isMatched : Bool
  /-- The nearest cluster, also when the text does not belong to it. -/
  nearest : Option Label
  /-- How closely the members of the nearest cluster match it. -/
  clusterScore : S
  /-- How closely the text matches it. -/
  score : S

/-- Answers of a collaborator whose state is a `W`. -/
abbrev Consulted (W : Type) := ExceptT Error (StateM W)

/-- What forms clusters and lays them out. -/
structure Clusterer (S Model W : Type) where
  /-- Clusters texts by the terms of a corpus, of which they are part. -/
  cluster : List LabelledText → List LabelledText → TermFilter S → Consulted W (Clustering Model)
  /-- Matches texts against the clusters of a model. -/
  classify : Model → List LabelledText → Consulted W (SortedMap Label (MatchOutcome S))
  /-- The distances between texts. -/
  distances : List String → Consulted W (List (List S))
  /-- A point in the plane for every row of a distance matrix. -/
  place : List (List S) → Consulted W (List (S × S))

/-- What compares a text with others. -/
structure Comparer (S : Type) where
  /-- The similarity of each candidate to the first text. -/
  similarity : String → List String → List S
  /-- The terms in which each candidate differs from the first text. -/
  difference : String → List String → List (List String)

end LogDrift
