import LogDrift.Cluster
import LogDrift.Collaborator

/-!
# Control clusters

Control events take the label of their cluster, and their occurrences are collected per cluster and
host.
-/

namespace LogDrift

namespace ClusterMap

variable {E : Type}

/-- Replaces the entry of a cluster on a host, present or absent, by `update` of it. -/
def alterEntry (clusters : ClusterMap E) (cluster : Label) (host : String)
    (update : Option E → E) : ClusterMap E :=
  clusters.alter cluster fun hosts => (hosts.getD .empty).alter host update

/-- The entry of a cluster on a host. -/
def find? (clusters : ClusterMap E) (cluster : Label) (host : String) : Option E :=
  (clusters.get? cluster).bind (·.get? host)

end ClusterMap

namespace Matching

variable {S Model : Type}

/-- Adds a control event to the entry of its cluster and host. The first event of an entry gives it
its text. -/
def collectControl (tags : List String) (cluster : Label)
    (clusters : ClusterMap (ControlEntry S)) (event : Event S) : ClusterMap (ControlEntry S) :=
  ClusterMap.alterEntry clusters cluster event.host fun present =>
    let entry := present.getD { text := event.text, label := cluster, occurrences := [], tags }
    { entry with occurrences := entry.occurrences ++ event.occurrences }

/-- The refusal of a control label without a cluster. -/
def unassigned (label : Label) : Error :=
  .collaborator s!"no cluster assigned to control label {label}"

/-- Relabels the control events of one label and collects them. -/
def controlStep (clustering : Clustering Model) (tagLimit : Nat)
    (clusters : ClusterMap (ControlEntry S)) (label : Label) (events : List (Event S)) :
    Except Error (ClusterMap (ControlEntry S) × List (Event S)) :=
  match clustering.clusterOf? label with
  | none => .error (unassigned label)
  | some cluster =>
    let tags := clustering.tagsOf cluster tagLimit
    .ok (events.foldl (collectControl tags cluster) clusters,
      events.map fun event => { event with label := cluster })

/-- Relabels the control events and collects them. When a label has no cluster, the events of the
labels before it are relabelled all the same. -/
def relabelControl (clustering : Clustering Model) (tagLimit : Nat) (events : EventMap S) :
    Except Error (ClusterMap (ControlEntry S)) × EventMap S :=
  match events.sweep (controlStep clustering tagLimit) .empty with
  | (_, some refusal, events) => (.error refusal, events)
  | (clusters, none, events) => (.ok clusters, events)

end Matching

end LogDrift
