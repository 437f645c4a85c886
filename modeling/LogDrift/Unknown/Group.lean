import LogDrift.Matching.Control

/-!
# Clusters of unknown events

The groups of unmatched events fall into secondary clusters, with one entry per host.
-/

namespace LogDrift.Unknown

variable {S : Type} [Scalar S]

/-- The text of the first event of every group, under the number of the group. -/
def groupTexts (groups : List (List (UnknownEvent S))) : List LabelledText :=
  groups.zipIdx.filterMap fun (group, number) =>
    group.head?.map fun event => ⟨(number : Int), event.text⟩

/-- Every text in a cluster of its own. -/
def singletons (texts : List LabelledText) : SortedMap Label Label :=
  .ofList (texts.map fun text => (text.label, text.label))

/-- Adds an unmatched event to the entry of its cluster and host. The first event of an entry gives
it its text, label and control score. -/
def collect (cluster : Label) (clusters : ClusterMap (UnknownEntry S)) (event : UnknownEvent S) :
    ClusterMap (UnknownEntry S) :=
  ClusterMap.alterEntry clusters cluster event.host fun present =>
    let entry := present.getD {
      text := event.text
      label := event.label
      occurrences := []
      controlScore := event.controlScore
      testScore := 0 }
    { entry with
      occurrences := entry.occurrences ++ event.occurrences
      pending := entry.pending ++ [(event.testScore, Occurrence.meanCount event.occurrences)] }

/-- Secondary clusters and their scores. -/
structure Grouping (S : Type) where
  clusters : ClusterMap (UnknownEntry S) := .empty
  scores : SortedMap Label (UnknownScore S) := .empty

/-- The refusal of a group without a cluster. -/
def unassigned (number : Nat) : Error :=
  .collaborator s!"no cluster assigned to unknown group {number}"

/-- Adds a group to a cluster, which starts without hosts and with the initial score. -/
def addGroup (grouping : Grouping S) (cluster : Label) (group : List (UnknownEvent S)) :
    Grouping S :=
  let clusters := grouping.clusters.alter cluster fun hosts => hosts.getD .empty
  { clusters := group.foldl (collect cluster) clusters
    scores := grouping.scores.alter cluster fun score => score.getD .initial }

/-- Collects groups under the clusters that are assigned to their numbers. -/
def groupEvents (groups : List (List (UnknownEvent S))) (assignments : SortedMap Label Label) :
    Except Error (Grouping S) :=
  groups.zipIdx.foldlM (fun grouping (group, number) =>
    match assignments.get? (number : Int) with
    | none => .error (unassigned number)
    | some cluster => .ok (addGroup grouping cluster group)) {}

end LogDrift.Unknown
