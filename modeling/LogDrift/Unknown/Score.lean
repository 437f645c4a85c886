import LogDrift.Unknown.Group

/-!
# Scores of unknown clusters

A host deviates by how far the weighted mean of its pending scores is from its control score. The
host that deviates most decides for the cluster.
-/

namespace LogDrift.Unknown

variable {S : Type} [Scalar S]

/-- The weighted mean of values, or their plain mean when nothing has weight. -/
def weightedMean (pairs : List (S × S)) : S :=
  if pairs.isEmpty then 0
  else
    let total := Scalar.sum (pairs.map Prod.snd)
    if 0 < total then Scalar.sum (pairs.map fun pair => pair.1 * pair.2) / total
    else Scalar.sum (pairs.map Prod.fst) / Scalar.ofNat pairs.length

/-- How far the mean of the pending scores lies below the control score. -/
def shortfall (entry : UnknownEntry S) : S :=
  entry.controlScore - weightedMean entry.pending

/-- The entry once its pending scores are summed up. -/
def settled (entry : UnknownEntry S) : UnknownEntry S :=
  { entry with
    testScore := Scalar.roundHundredths (shortfall entry)
    pending := [] }

/-- The greatest deviation so far and the score of the cluster, after another entry. Only a greater
deviation changes them. -/
def worse (state : S × UnknownScore S) (entry : UnknownEntry S) : S × UnknownScore S :=
  let deviation := Scalar.abs (shortfall entry)
  if state.1 < deviation then
    (deviation, ⟨entry.controlScore, Scalar.roundHundredths deviation⟩)
  else state

/-- The score of a cluster by its hosts, in their order. It stays as it is when no host deviates. -/
def worst (hosts : SortedMap String (UnknownEntry S)) (score : UnknownScore S) : UnknownScore S :=
  (hosts.values.foldl worse (0, score)).2

/-- The scores after another cluster has been scored. -/
def addWorst (scores : SortedMap Label (UnknownScore S)) (cluster : Label)
    (hosts : SortedMap String (UnknownEntry S)) : SortedMap Label (UnknownScore S) :=
  if hosts.values.any fun entry => 0 < Scalar.abs (shortfall entry) then
    scores.alter cluster fun score => worst hosts (score.getD .initial)
  else scores

/-- Scores every cluster and sums up the pending scores of its entries. -/
def scoreEvents (grouping : Grouping S) : Grouping S where
  clusters := grouping.clusters.mapValues fun hosts => hosts.mapValues settled
  scores := grouping.clusters.entries.foldl (fun scores (cluster, hosts) =>
    addWorst scores cluster hosts) grouping.scores

end LogDrift.Unknown
