import LogDrift.Cluster

/-!
# Positions in the plane

The clusters in layout order are the control clusters, the test clusters and the unknown clusters,
each by label. A cluster without hosts takes no part.
-/

namespace LogDrift

/-- The three cluster maps of a run. -/
structure ClusterMaps (S : Type) where
  control : ClusterMap (ControlEntry S) := .empty
  test : ClusterMap (TestEntry S) := .empty
  unknown : ClusterMap (UnknownEntry S) := .empty

namespace Layout

variable {S E : Type}

/-- The text of the first host of every cluster. -/
def firstTexts (text : E → String) (clusters : ClusterMap E) : List String :=
  clusters.values.filterMap fun hosts => hosts.values.head?.map text

/-- One text per cluster in layout order. -/
def texts (maps : ClusterMaps S) : List String :=
  firstTexts ControlEntry.text maps.control
  ++ firstTexts TestEntry.text maps.test
  ++ firstTexts UnknownEntry.text maps.unknown

/-- Gives the next point to all hosts of a cluster, unless there are no hosts or no points. -/
def placeHosts (move : S × S → E → E) (points : List (S × S)) (hosts : SortedMap String E) :
    List (S × S) × SortedMap String E :=
  if hosts.isEmpty then (points, hosts)
  else match points with
    | [] => ([], hosts)
    | point :: rest => (rest, hosts.mapValues (move point))

/-- Gives points to clusters in order. The result begins with the points that are left. -/
def placeClusters (move : S × S → E → E) (points : List (S × S)) (clusters : ClusterMap E) :
    List (S × S) × ClusterMap E :=
  clusters.accumulate (fun points _ hosts => placeHosts move points hosts) points

/-- Gives points to clusters in layout order. -/
def place (points : List (S × S)) (maps : ClusterMaps S) : ClusterMaps S :=
  let (points, control) := placeClusters (fun point (entry : ControlEntry S) =>
    { entry with x := some point.1, y := some point.2 }) points maps.control
  let (points, test) := placeClusters (fun point (entry : TestEntry S) =>
    { entry with x := some point.1, y := some point.2 }) points maps.test
  let (_, unknown) := placeClusters (fun point (entry : UnknownEntry S) =>
    { entry with x := some point.1, y := some point.2 }) points maps.unknown
  { control, test, unknown }

end Layout

end LogDrift
