import LogDrift.Layout.Position
import LogDrift.Proofs.Matching.Filing

/-!
# Giving clusters their points

Points change where clusters lie and nothing that the clusters hold.
-/

namespace LogDrift.Layout

variable {S E C : Type}

/-! ## Kinds of clusters -/

/-- The kinds of clusters, in layout order. -/
inductive Kind
  | control
  | test
  | unknown
  deriving DecidableEq, Repr

namespace Kind

/-- How many kinds come earlier. -/
def rank : Kind → Nat
  | control => 0
  | test => 1
  | unknown => 2

/-- What a cluster of a kind has on a host. -/
abbrev Entry (S : Type) : Kind → Type
  | control => ControlEntry S
  | test => TestEntry S
  | unknown => UnknownEntry S

/-- The clusters of a kind. -/
def clusters (maps : ClusterMaps S) : (kind : Kind) → ClusterMap (kind.Entry S)
  | control => maps.control
  | test => maps.test
  | unknown => maps.unknown

def text : (kind : Kind) → kind.Entry S → String
  | control => ControlEntry.text
  | test => TestEntry.text
  | unknown => UnknownEntry.text

/-- Where an entry lies. -/
def position : (kind : Kind) → kind.Entry S → Option S × Option S
  | control => fun entry => (entry.x, entry.y)
  | test => fun entry => (entry.x, entry.y)
  | unknown => fun entry => (entry.x, entry.y)

/-- The entry at another point. Nothing else of it changes. -/
def move (point : S × S) : (kind : Kind) → kind.Entry S → kind.Entry S
  | control => fun entry => { entry with x := some point.1, y := some point.2 }
  | test => fun entry => { entry with x := some point.1, y := some point.2 }
  | unknown => fun entry => { entry with x := some point.1, y := some point.2 }

@[simp] theorem position_move (point : S × S) (kind : Kind) (entry : kind.Entry S) :
    kind.position (kind.move point entry) = (some point.1, some point.2) := by
  cases kind <;> rfl

end Kind

/-! ## What points leave as it is -/

theorem contents_placeClusters {content : E → C} {move : S × S → E → E}
    (keeps : ∀ point entry, content (move point entry) = content entry) (points : List (S × S))
    (clusters : ClusterMap E) :
    ClusterMap.contents content (placeClusters move points clusters).2 =
      ClusterMap.contents content clusters := by
  apply SortedMap.mapValues_accumulate
  intro points _ hosts
  simp only [placeHosts]
  split
  · rfl
  · cases points with
    | nil => rfl
    | cons point rest => simp only [SortedMap.mapValues_mapValues, keeps]

/-- Placed clusters keep what does not depend on points. -/
theorem contents_place (kind : Kind) {content : kind.Entry S → C}
    (keeps : ∀ point entry, content (kind.move point entry) = content entry) (points : List (S × S))
    (maps : ClusterMaps S) :
    ClusterMap.contents content (kind.clusters (place points maps)) =
      ClusterMap.contents content (kind.clusters maps) := by
  cases kind <;> exact contents_placeClusters keeps _ _

end LogDrift.Layout
