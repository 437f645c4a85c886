import LogDrift.Document.Snapshot
import LogDrift.Proofs.Document.Cluster

/-!
# Saved snapshots read back

Reading a saved snapshot gives the snapshot back, provided that its numbers are legible and that
nothing is left in its clusters which is not saved.
-/

namespace LogDrift

open Json (Decoded Node Source Key Fills)
open Document

variable {key : String → Key}

namespace EventMap

/-- Saved events read back, in the same order. -/
theorem decode_toJson (faithful : Key.Faithful key) (source : Source) {events : EventMap Float}
    (inRange : ∀ label ∈ events.keys, Integer.Fits label)
    (legible : events.toJson.Legible) :
    decode source (events.toJson.nodeWith key) = .ok events := by
  apply orderedLabelMap_labelMembers faithful source inRange legible
  intro entry _ listLegible
  exact Event.decode_listToJson faithful source listLegible

theorem nesting_toJson_le (events : EventMap Float) : events.toJson.nesting ≤ 5 := by
  apply nesting_labelMembers_le
  exact fun entry _ => Event.nesting_listToJson_le entry.2

end EventMap

namespace UnknownEvent

/-- Saved groups of unknown events read back. -/
theorem decode_groups (faithful : Key.Faithful key) (source : Source)
    {groups : List (List (UnknownEvent Float))}
    (legible : (Json.arr (groups.map fun group => .arr (group.map toJson))).Legible) :
    Node.list (Node.list (decode source))
      ((Json.arr (groups.map fun group => .arr (group.map toJson))).nodeWith key) =
        .ok groups := by
  apply Json.Node.list_eq_ok
  intro group member
  have groupLegible := Json.legibleElements_iff.1 legible _ (List.mem_map_of_mem member)
  apply Json.Node.list_eq_ok
  intro event inside
  apply decode_toJson faithful
  exact Json.legibleElements_iff.1 groupLegible _ (List.mem_map_of_mem inside)

theorem nesting_groups_le (groups : List (List (UnknownEvent Float))) :
    (Json.arr (groups.map fun group => .arr (group.map toJson))).nesting ≤ 5 := by
  rw [Json.nesting_arr_le, List.forall_mem_map]
  intro group _
  rw [Json.nesting_arr_le, List.forall_mem_map]
  exact fun event _ => event.nesting_toJson_le

end UnknownEvent

namespace Snapshot

/-- Whether everything in the clusters of a snapshot is saved. -/
structure Storable {S : Type} (snapshot : Snapshot S) : Prop where
  test : snapshot.testClusters.All TestEntry.Storable
  unknown : snapshot.unknownClusters.All UnknownEntry.Storable

/-- The labels that are names in a saved snapshot. -/
def labels (snapshot : Snapshot Float) : List Label :=
  snapshot.controlEvents.keys ++ snapshot.testEvents.keys ++ snapshot.controlClusters.keys
  ++ snapshot.testClusters.keys ++ snapshot.unknownClusters.keys
  ++ snapshot.clusterScores.unknown.keys ++ snapshot.clusterScores.test.keys

/-- Whether all numbers of a saved snapshot read back as themselves, those in names included. -/
structure Legible (snapshot : Snapshot Float) : Prop where
  numbers : snapshot.toJson.Legible
  labels : ∀ label ∈ snapshot.labels, Integer.Fits label

instance (snapshot : Snapshot Float) : Decidable snapshot.Legible :=
  decidable_of_iff (snapshot.toJson.Legible ∧ ∀ label ∈ snapshot.labels, Integer.Fits label)
    ⟨fun both => ⟨both.1, both.2⟩, fun legible => ⟨legible.numbers, legible.labels⟩⟩

/-- A snapshot is decoded from its saved form. -/
theorem decode_toJson (faithful : Key.Faithful key) (source : Source) {snapshot : Snapshot Float}
    (storable : snapshot.Storable) (legible : snapshot.Legible) :
    decode source (snapshot.toJson.nodeWith key) = .ok snapshot := by
  rcases snapshot with ⟨query, controlEvents, testEvents, unknownEvents, controlClusters,
    testClusters, unknownClusters, clusterScores, score⟩
  have parts := Json.legibleMembers_iff.1 legible.numbers
  simp only [List.forall_mem_append, List.forall_mem_cons] at parts
  rcases parts with ⟨_, controlLegible, testLegible, unknownLegible, controlClustersLegible,
    testClustersLegible, unknownClustersLegible, scoresLegible, _⟩
  have names := legible.labels
  simp only [labels, List.forall_mem_append] at names
  rcases names with ⟨⟨⟨⟨⟨⟨controlFits, testFits⟩, controlClustersFit⟩, testClustersFit⟩,
    unknownClustersFit⟩, unknownScoresFit⟩, testScoresFit⟩
  have controlDecoded := EventMap.decode_toJson faithful source controlFits controlLegible
  have testDecoded := EventMap.decode_toJson faithful source testFits testLegible
  have unknownDecoded := UnknownEvent.decode_groups faithful source unknownLegible
  have controlClustersDecoded := ClusterMap.decode_toJson faithful source
    (fun _ _ => ControlEntry.decode_toJson faithful source) (ClusterMap.all_true controlClusters)
    controlClustersFit controlClustersLegible
  have testClustersDecoded := ClusterMap.decode_toJson faithful source
    (fun _ => TestEntry.decode_toJson faithful source) storable.test testClustersFit
    testClustersLegible
  have unknownClustersDecoded := ClusterMap.decode_toJson faithful source
    (fun _ => UnknownEntry.decode_toJson faithful source) storable.unknown unknownClustersFit
    unknownClustersLegible
  have scoresDecoded := ClusterScores.decode_toJson faithful source unknownScoresFit testScoresFit
    scoresLegible
  apply Fills.record_eq_ok
  apply Fills.optional faithful rfl (by decide) rfl (fun _ _ => rfl)
  apply Fills.cons faithful rfl (by decide) controlDecoded
  apply Fills.cons faithful rfl (by decide) testDecoded
  apply Fills.cons faithful rfl (by decide) unknownDecoded
  apply Fills.cons faithful rfl (by decide) controlClustersDecoded
  apply Fills.cons faithful rfl (by decide) testClustersDecoded
  apply Fills.cons faithful rfl (by decide) unknownClustersDecoded
  apply Fills.cons faithful rfl (by decide) scoresDecoded
  apply Fills.cons faithful rfl (by decide) (by rfl)
  exact Fills.nil (by cases source <;> decide) rfl

theorem nesting_toJson_le (snapshot : Snapshot Float) : snapshot.toJson.nesting ≤ 6 := by
  have flatQuery : ∀ member ∈ Json.optional "query" Json.str snapshot.query,
      member.2.nesting ≤ 5 :=
    Json.nesting_optional_le fun _ _ => Nat.zero_le 5
  have scores := Nat.le_trans snapshot.clusterScores.nesting_toJson_le (by decide : 3 ≤ 5)
  rw [toJson, Json.nesting_obj_le]
  simp only [List.forall_mem_append, List.forall_mem_cons]
  exact ⟨flatQuery, EventMap.nesting_toJson_le _, EventMap.nesting_toJson_le _,
    UnknownEvent.nesting_groups_le _, ClusterMap.nesting_toJson_le ControlEntry.nesting_toJson_le _,
    ClusterMap.nesting_toJson_le TestEntry.nesting_toJson_le _,
    ClusterMap.nesting_toJson_le UnknownEntry.nesting_toJson_le _, scores, Nat.zero_le 5,
    List.forall_mem_nil _⟩

/-- What was saved is loaded. -/
theorem load_save {snapshot : Snapshot Float} (storable : snapshot.Storable)
    (legible : snapshot.Legible) : load snapshot.save = .ok snapshot := by
  have shallow := Nat.le_trans snapshot.nesting_toJson_le (by decide : 6 ≤ Json.depthLimit)
  rw [load, save, Error.readText, Json.decodeText, Json.readDocument_render legible.numbers shallow]
  simp only [decode_toJson Json.Key.faithful_ofText .text storable legible]
  rfl

end Snapshot

end LogDrift
