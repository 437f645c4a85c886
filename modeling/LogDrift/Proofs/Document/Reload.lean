import LogDrift.Proofs.Document.Proper
import LogDrift.Proofs.Document.Snapshot

/-!
# Saved snapshots reload

A snapshot whose numbers are in the ranges of their kinds is saved in full, and every snapshot that
can be read from a text is of this kind. Saving and reading therefore gives the snapshot back, as
long as the text of every finite float denotes that float.
-/

namespace LogDrift

open Json (Decoded Node Source Yields Keeps)
open Document

namespace EventMap

/-- Whether the labels and the numbers of events are in the ranges of their kinds. -/
def Sound (events : EventMap Float) : Prop :=
  (∀ label ∈ events.keys, Integer.Fits label) ∧ events.toJson.Proper

theorem yields_decode (source : Source) : Yields (decode source) Sound := by
  intro node events inRange found
  have listed := yields_orderedLabelMap source (Event.yields_decode source).list node events inRange
    found
  constructor
  · exact OrderedMap.forall_mem_keys.2 fun entry member => (listed entry member).1
  · rw [toJson, proper_labelMembers]
    exact fun entry member => Event.proper_listToJson.2 (listed entry member).2

end EventMap

namespace ClusterMap

variable {E : Type}

/-- Whether the labels of clusters are in range and all entries pass. -/
def Sound (passes : E → Prop) (clusters : ClusterMap E) : Prop :=
  (∀ label ∈ clusters.keys, Integer.Fits label) ∧
    ∀ hosts ∈ clusters.values, ∀ entry ∈ hosts.values, passes entry

theorem yields_decode (source : Source) {entry : Source → Node → Decoded E} {passes : E → Prop}
    (yields : Yields (entry source) passes) : Yields (decode source entry) (Sound passes) := by
  intro node clusters inRange found
  have listed := yields_labelMap source (yields_nameMap yields) node clusters inRange found
  constructor
  · exact SortedMap.forall_mem_keys.2 fun hosts member => (listed hosts member).1
  · exact SortedMap.forall_mem_values.2 fun hosts member =>
      SortedMap.forall_mem_values.2 (listed hosts member).2

theorem Sound.all {passes : E → Prop} {clusters : ClusterMap E} (sound : clusters.Sound passes) :
    clusters.All passes :=
  all_iff_values.2 sound.2

theorem Sound.proper {passes : E → Prop} {encode : E → Json} {clusters : ClusterMap E}
    (sound : clusters.Sound passes) (proper : ∀ entry, passes entry → (encode entry).Proper) :
    (toJson encode clusters).Proper := by
  have passing := sound.2
  simp only [SortedMap.forall_mem_values] at passing
  simp only [toJson, proper_labelMembers, proper_nameMembers]
  exact fun hosts member entry inside => proper entry.2 (passing hosts member entry inside)

end ClusterMap

namespace ClusterScores

/-- Whether the labels and the numbers of scores are in the ranges of their kinds. -/
structure Sound (scores : ClusterScores Float) : Prop where
  unknown : ∀ entry ∈ scores.unknown.entries, Integer.Fits entry.1 ∧ entry.2.toJson.Proper
  test : ∀ entry ∈ scores.test.entries, Integer.Fits entry.1 ∧ entry.2.toJson.Proper

theorem yields_decode (source : Source) : Yields (decode source) Sound := by
  have unknown := yields_labelMap source (UnknownScore.yields_decode source)
  have test := yields_labelMap source (FrequencyScore.yields_decode source)
  apply Yields.record
  · exact ⟨List.forall_mem_nil _, List.forall_mem_nil _⟩
  · simp only [List.forall_mem_cons]
    refine ⟨.into unknown ?_, .into test ?_, List.forall_mem_nil _⟩
    · exact fun value record given held => ⟨given, held.test⟩
    · exact fun value record given held => ⟨held.unknown, given⟩

theorem Sound.proper {scores : ClusterScores Float} (sound : scores.Sound) :
    scores.toJson.Proper := by
  simp only [toJson, Json.proper_obj, List.forall_mem_cons, proper_labelMembers]
  exact ⟨fun entry member => (sound.unknown entry member).2,
    fun entry member => (sound.test entry member).2, List.forall_mem_nil _⟩

end ClusterScores

namespace Snapshot

/-- Whether everything in a snapshot is saved and in the range of its kind. -/
structure Sound (snapshot : Snapshot Float) : Prop where
  storable : snapshot.Storable
  labels : ∀ label ∈ snapshot.labels, Integer.Fits label
  numbers : snapshot.toJson.Proper

/-- The same field by field, as a decoder builds a snapshot up. -/
structure FieldsSound (snapshot : Snapshot Float) : Prop where
  controlEvents : snapshot.controlEvents.Sound
  testEvents : snapshot.testEvents.Sound
  unknownEvents : ∀ group ∈ snapshot.unknownEvents, ∀ event ∈ group, event.toJson.Proper
  controlClusters : snapshot.controlClusters.Sound fun entry => entry.toJson.Proper
  testClusters : snapshot.testClusters.Sound TestEntry.Sound
  unknownClusters : snapshot.unknownClusters.Sound UnknownEntry.Sound
  clusterScores : snapshot.clusterScores.Sound
  score : snapshot.score.isFinite = true

theorem FieldsSound.sound {snapshot : Snapshot Float} (fields : snapshot.FieldsSound) :
    snapshot.Sound where
  storable :=
    { test := fields.testClusters.all.imp fun _ sound => sound.1
      unknown := fields.unknownClusters.all.imp fun _ sound => sound.1 }
  labels := by
    have scores : ∀ {α : Type} {map : SortedMap Label α} {passes : Label × α → Prop},
        (∀ entry ∈ map.entries, Integer.Fits entry.1 ∧ passes entry) →
          ∀ label ∈ map.keys, Integer.Fits label := by
      intro α map passes sound
      exact SortedMap.forall_mem_keys.2 fun entry member => (sound entry member).1
    simp only [labels, List.forall_mem_append]
    exact ⟨⟨⟨⟨⟨⟨fields.controlEvents.1, fields.testEvents.1⟩, fields.controlClusters.1⟩,
      fields.testClusters.1⟩, fields.unknownClusters.1⟩, scores fields.clusterScores.unknown⟩,
      scores fields.clusterScores.test⟩
  numbers := by
    have groups : (Json.arr (snapshot.unknownEvents.map fun group =>
        .arr (group.map UnknownEvent.toJson))).Proper := by
      simpa only [Json.proper_arr, List.forall_mem_map] using fields.unknownEvents
    rw [toJson, Json.proper_obj]
    simp only [List.forall_mem_append, List.forall_mem_cons, Json.proper_optional,
      Json.proper_float]
    exact ⟨fun query _ => Json.proper_str query, fields.controlEvents.2, fields.testEvents.2,
      groups, fields.controlClusters.proper fun _ proper => proper,
      fields.testClusters.proper fun _ sound => sound.2,
      fields.unknownClusters.proper fun _ sound => sound.2, fields.clusterScores.proper,
      fields.score, List.forall_mem_nil _⟩

theorem yields_decode (source : Source) : Yields (decode source) FieldsSound := by
  have still : (0 : Float).isFinite = true := by decide
  have events := EventMap.yields_decode source
  have groups := (UnknownEvent.yields_decode source).list.list
  have controlClusters := ClusterMap.yields_decode source (ControlEntry.yields_decode source)
  have testClusters := ClusterMap.yields_decode source (TestEntry.yields_decode source)
  have unknownClusters := ClusterMap.yields_decode source (UnknownEntry.yields_decode source)
  have scores := ClusterScores.yields_decode source
  apply Yields.record
  · constructor
    case score => exact still
    case clusterScores => exact ⟨List.forall_mem_nil _, List.forall_mem_nil _⟩
    case unknownEvents => exact List.forall_mem_nil _
    case controlEvents => exact ⟨List.forall_mem_nil _, Json.proper_obj.2 (List.forall_mem_nil _)⟩
    case testEvents => exact ⟨List.forall_mem_nil _, Json.proper_obj.2 (List.forall_mem_nil _)⟩
    all_goals exact ⟨List.forall_mem_nil _, List.forall_mem_nil _⟩
  · simp only [fields, List.forall_mem_cons]
    refine ⟨.into (Json.yields_any _) ?_, .into events ?_, .into events ?_, .into groups ?_,
      .into controlClusters ?_, .into testClusters ?_, .into unknownClusters ?_, .into scores ?_,
      .into Json.yields_number ?_, List.forall_mem_nil _⟩
    · exact fun _ _ _ held => { held with }
    · exact fun _ _ given held => { held with controlEvents := given }
    · exact fun _ _ given held => { held with testEvents := given }
    · exact fun _ _ given held => { held with unknownEvents := given }
    · exact fun _ _ given held => { held with controlClusters := given }
    · exact fun _ _ given held => { held with testClusters := given }
    · exact fun _ _ given held => { held with unknownClusters := given }
    · exact fun _ _ given held => { held with clusterScores := given }
    · exact fun _ _ given held => { held with score := given }

/-- Whatever is loaded is sound. -/
theorem sound_of_load {text : String} {snapshot : Snapshot Float}
    (loaded : load text = .ok snapshot) : snapshot.Sound := by
  have decoded : Json.decodeText decode text = .ok snapshot := by
    rw [load, Error.readText] at loaded
    cases read : Json.decodeText decode text with
    | error refusal =>
      rw [read] at loaded
      cases loaded
    | ok other =>
      rw [read] at loaded
      cases loaded
      rfl
  rcases exists_of_bind_eq_ok decoded with ⟨other, taken, ended⟩
  rcases exists_of_bind_eq_ok ended with ⟨_, _, same⟩
  cases same
  exact (yields_decode .text _ _ (Json.inRange_readDocument text) taken).sound

/-- A sound snapshot is loaded as it was saved, and so is every snapshot that was loaded before. The
texts of finite floats are taken to denote those floats. -/
theorem load_save_of_sound {snapshot : Snapshot Float}
    (rereads : ∀ x, .float x ∈ snapshot.toJson.leaves → x.isFinite = true → Json.Rereads x) :
    (snapshot.Sound → load snapshot.save = .ok snapshot) ∧
      ∀ text, load text = .ok snapshot → load snapshot.save = .ok snapshot := by
  have reload : snapshot.Sound → load snapshot.save = .ok snapshot := by
    intro sound
    exact load_save sound.storable ⟨sound.numbers.legible rereads, sound.labels⟩
  exact ⟨reload, fun text loaded => reload (sound_of_load loaded)⟩

instance (snapshot : Snapshot Float) : Decidable snapshot.Sound :=
  decidable_of_iff
    ((snapshot.testClusters.All TestEntry.Storable ∧
      snapshot.unknownClusters.All UnknownEntry.Storable) ∧
      (∀ label ∈ snapshot.labels, Integer.Fits label) ∧ snapshot.toJson.Proper)
    ⟨fun parts => ⟨⟨parts.1.1, parts.1.2⟩, parts.2.1, parts.2.2⟩,
      fun sound => ⟨⟨sound.storable.test, sound.storable.unknown⟩, sound.labels, sound.numbers⟩⟩

/-- A snapshot with labels in no order, far apart and below zero, with time buckets of every kind,
and with options that are absent next to such that are not. -/
def mixedSnapshot : Snapshot Float where
  controlEvents := .ofList [
    (9223372036854775807, [{
      label := -3
      text := "disk \"full\""
      occurrences := [
        { count := 2, time := some (.minute (-5)), host := "a" },
        { count := -1, time := some (.instant (-0.0)), host := "a", oldLabel := some 10001 },
        { count := 0, time := some (.label "5"), host := "a" }]
      testScore := some 0.1 }]),
    (-10, [])]
  unknownEvents := [[], [⟨"link lost", 4, [{}], 1, 0.25⟩]]
  testClusters := .ofList [
    (0, .ofList [("b", {
      text := "disk full"
      label := 0
      occurrences := [{ time := some (.instant 3) }]
      verdicts := [-1, 1]
      controlScore := 1e300
      testScore := 0.3
      frequencyScore := 0
      x := some (-2.5) }), ("a", ⟨"", 0, [], [], true, 0, 0, 1, ["full"], none, none⟩)])]
  unknownClusters := .ofList [
    (-7, .ofList [("a", {
      text := "link lost"
      label := 4
      occurrences := []
      controlScore := 1
      testScore := 0.25
      diffTags := some [] })])]
  clusterScores := { unknown := .ofList [(-7, ⟨1, 0.25⟩)] }
  score := 1e-7

theorem load_save_of_sound_mixed :
    (∀ x, .float x ∈ mixedSnapshot.toJson.leaves → x.isFinite = true → Json.Rereads x) ∧
      mixedSnapshot.Sound ∧ load mixedSnapshot.save = .ok mixedSnapshot := by
  have legible : mixedSnapshot.toJson.Legible := by decide +kernel
  have sound : mixedSnapshot.Sound := by decide +kernel
  have rereads : ∀ x, .float x ∈ mixedSnapshot.toJson.leaves → x.isFinite = true →
      Json.Rereads x :=
    fun x leaf _ => (Json.legible_iff_leaves.1 legible).2 x leaf
  exact ⟨rereads, sound, (load_save_of_sound rereads).1 sound⟩

end Snapshot

end LogDrift
