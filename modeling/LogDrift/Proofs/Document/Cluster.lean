import LogDrift.Document.Cluster
import LogDrift.Proofs.Document.Event
import LogDrift.Proofs.Matching.Filing

/-!
# Saved clusters read back

Cluster entries and scores are decoded from their saved forms as they were. Two things are not
saved in full: verdicts have to fit into eight bits, and scores that are still to be summed up are
left out.
-/

namespace LogDrift

open Json (Decoded Node Source Key Fills)
open Document

variable {key : String → Key}

namespace Json

@[simp] theorem Node.integer64_of_fits {n : Int} (fits : Integer.Fits n) :
    Node.integer64 (.int n) = .ok n :=
  if_pos fits

@[simp] theorem Node.list_strings (key : String → Key) (values : List String) :
    Node.list Node.string ((strings values).nodeWith key) = .ok values :=
  Node.list_eq_ok fun _ _ => rfl

@[simp] theorem Node.nullable_strings (key : String → Key) (values : List String) :
    Node.nullable (Node.list Node.string) ((strings values).nodeWith key) = .ok (some values) :=
  congrArg (Except.map some) (Node.list_strings key values)

/-- Optional numbers lie flat in their record. -/
theorem nesting_number_le (name : String) (value : Option Float) (room : Nat) :
    ∀ member ∈ optional name Json.float value, member.2.nesting ≤ room :=
  nesting_optional_le fun _ _ => Nat.zero_le room

end Json

namespace ControlEntry

/-- A saved control entry reads back. -/
theorem decode_toJson (faithful : Key.Faithful key) (source : Source) {entry : ControlEntry Float}
    (legible : entry.toJson.Legible) :
    decode source (entry.toJson.nodeWith key) = .ok entry := by
  rcases entry with ⟨text, label, occurrences, tags, x, y⟩
  rcases legible with ⟨_, labelFits, listLegible, _⟩
  have labelDecoded := Json.Node.integer64_of_fits labelFits
  have listDecoded := Occurrence.decodeList_listToJson faithful source listLegible
  have tagsDecoded := Json.Node.list_strings key tags
  apply Fills.record_eq_ok
  apply Fills.cons faithful rfl (by decide) (by rfl)
  apply Fills.cons faithful rfl (by decide) labelDecoded
  apply Fills.cons faithful rfl (by decide) listDecoded
  apply Fills.cons faithful rfl (by decide) tagsDecoded
  apply Fills.optional faithful rfl (by decide) rfl (fun _ _ => rfl)
  apply Fills.optional_last faithful rfl (by decide) rfl (fun _ _ => rfl)
  exact Fills.nil (by cases source <;> decide) rfl

theorem nesting_toJson_le (entry : ControlEntry Float) : entry.toJson.nesting ≤ 3 := by
  have flatTags := Nat.le_succ_of_le (Json.nesting_strings_le entry.tags)
  rw [toJson, Json.nesting_obj_le]
  simp only [List.forall_mem_append, List.forall_mem_cons]
  exact ⟨⟨⟨Nat.zero_le 2, Nat.zero_le 2, Occurrence.nesting_listToJson_le _, flatTags,
    List.forall_mem_nil _⟩, Json.nesting_number_le _ _ 2⟩, Json.nesting_number_le _ _ 2⟩

end ControlEntry

namespace TestEntry

/-- Whether the verdicts of an entry fit into eight bits. -/
def Storable {S : Type} (entry : TestEntry S) : Prop :=
  ∀ verdict ∈ entry.verdicts, -128 ≤ verdict ∧ verdict ≤ 127

instance {S : Type} : DecidablePred (@Storable S) := fun entry =>
  inferInstanceAs (Decidable (∀ verdict ∈ entry.verdicts, _))

/-- A saved test entry reads back. -/
theorem decode_toJson (faithful : Key.Faithful key) (source : Source) {entry : TestEntry Float}
    (storable : entry.Storable) (legible : entry.toJson.Legible) :
    decode source (entry.toJson.nodeWith key) = .ok entry := by
  rcases entry with ⟨text, label, occurrences, verdicts, isUnexpected, controlScore, testScore,
    frequencyScore, tags, x, y⟩
  rcases legible with ⟨_, labelFits, listLegible, _⟩
  have labelDecoded := Json.Node.integer64_of_fits labelFits
  have listDecoded := Occurrence.decodeList_listToJson faithful source listLegible
  have verdictsDecoded : Node.list (Node.integer "i8" (-128) 127)
      ((Json.arr (verdicts.map Json.int)).nodeWith key) = .ok verdicts := by
    apply Json.Node.list_eq_ok
    intro verdict member
    exact if_pos (storable verdict member)
  have tagsDecoded := Json.Node.list_strings key tags
  apply Fills.record_eq_ok
  apply Fills.cons faithful rfl (by decide) (by rfl)
  apply Fills.cons faithful rfl (by decide) labelDecoded
  apply Fills.cons faithful rfl (by decide) listDecoded
  apply Fills.cons faithful rfl (by decide) verdictsDecoded
  apply Fills.cons faithful rfl (by decide) (by rfl)
  apply Fills.cons faithful rfl (by decide) (by rfl)
  apply Fills.cons faithful rfl (by decide) (by rfl)
  apply Fills.cons faithful rfl (by decide) (by rfl)
  apply Fills.cons faithful rfl (by decide) tagsDecoded
  apply Fills.optional faithful rfl (by decide) rfl (fun _ _ => rfl)
  apply Fills.optional_last faithful rfl (by decide) rfl (fun _ _ => rfl)
  exact Fills.nil (by cases source <;> decide) rfl

theorem nesting_toJson_le (entry : TestEntry Float) : entry.toJson.nesting ≤ 3 := by
  have flatTags := Nat.le_succ_of_le (Json.nesting_strings_le entry.tags)
  have flatVerdicts : (Json.arr (entry.verdicts.map Json.int)).nesting ≤ 2 := by
    rw [Json.nesting_arr_le, List.forall_mem_map]
    exact fun _ _ => Nat.zero_le 1
  rw [toJson, Json.nesting_obj_le]
  simp only [List.forall_mem_append, List.forall_mem_cons]
  exact ⟨⟨⟨Nat.zero_le 2, Nat.zero_le 2, Occurrence.nesting_listToJson_le _, flatVerdicts,
    Nat.zero_le 2, Nat.zero_le 2, Nat.zero_le 2, Nat.zero_le 2, flatTags,
    List.forall_mem_nil _⟩, Json.nesting_number_le _ _ 2⟩, Json.nesting_number_le _ _ 2⟩

end TestEntry

namespace UnknownEvent

/-- A saved unknown event reads back. -/
theorem decode_toJson (faithful : Key.Faithful key) (source : Source) {event : UnknownEvent Float}
    (legible : event.toJson.Legible) :
    decode source (event.toJson.nodeWith key) = .ok event := by
  rcases event with ⟨text, label, occurrences, controlScore, testScore⟩
  rcases legible with ⟨_, labelFits, listLegible, _⟩
  have labelDecoded := Json.Node.integer64_of_fits labelFits
  have listDecoded := Occurrence.decodeList_listToJson faithful source listLegible
  apply Fills.record_eq_ok
  apply Fills.cons faithful rfl (by decide) (by rfl)
  apply Fills.cons faithful rfl (by decide) labelDecoded
  apply Fills.cons faithful rfl (by decide) listDecoded
  apply Fills.cons faithful rfl (by decide) (by rfl)
  apply Fills.cons faithful rfl (by decide) (by rfl)
  exact Fills.nil (by cases source <;> decide) rfl

theorem nesting_toJson_le (event : UnknownEvent Float) : event.toJson.nesting ≤ 3 := by
  rw [toJson, Json.nesting_obj_le]
  simp only [List.forall_mem_cons]
  exact ⟨Nat.zero_le 2, Nat.zero_le 2, Occurrence.nesting_listToJson_le _, Nat.zero_le 2,
    Nat.zero_le 2, List.forall_mem_nil _⟩

end UnknownEvent

namespace UnknownEntry

/-- Whether no scores of an entry are still to be summed up. -/
def Storable {S : Type} (entry : UnknownEntry S) : Prop :=
  entry.pending = []

instance {S : Type} : DecidablePred (@Storable S) := fun _ =>
  decidable_of_iff _ List.isEmpty_iff

/-- A saved unknown entry reads back. -/
theorem decode_toJson (faithful : Key.Faithful key) (source : Source) {entry : UnknownEntry Float}
    (storable : entry.Storable) (legible : entry.toJson.Legible) :
    decode source (entry.toJson.nodeWith key) = .ok entry := by
  rcases entry with ⟨text, label, occurrences, controlScore, testScore, alertScore, diffTags, x, y,
    pending⟩
  cases storable
  rcases legible with ⟨_, labelFits, listLegible, _⟩
  have labelDecoded := Json.Node.integer64_of_fits labelFits
  have listDecoded := Occurrence.decodeList_listToJson faithful source listLegible
  have tagsDecoded : ∀ tags ∈ diffTags, Node.nullable (Node.list Node.string)
      ((Json.strings tags).nodeWith key) = .ok (some tags) :=
    fun tags _ => Json.Node.nullable_strings key tags
  rw [toJson]
  simp only [List.append_assoc]
  apply Fills.record_eq_ok
  apply Fills.cons faithful rfl (by decide) (by rfl)
  apply Fills.cons faithful rfl (by decide) labelDecoded
  apply Fills.cons faithful rfl (by decide) listDecoded
  apply Fills.cons faithful rfl (by decide) (by rfl)
  apply Fills.cons faithful rfl (by decide) (by rfl)
  apply Fills.optional faithful rfl (by decide) rfl (fun _ _ => rfl)
  apply Fills.optional faithful rfl (by decide) rfl tagsDecoded
  apply Fills.optional faithful rfl (by decide) rfl (fun _ _ => rfl)
  apply Fills.optional_last faithful rfl (by decide) rfl (fun _ _ => rfl)
  exact Fills.nil (by cases source <;> decide) rfl

theorem nesting_toJson_le (entry : UnknownEntry Float) : entry.toJson.nesting ≤ 3 := by
  have flatTags : ∀ member ∈ Json.optional "diff_tags" Json.strings entry.diffTags,
      member.2.nesting ≤ 2 :=
    Json.nesting_optional_le fun tags _ => Nat.le_succ_of_le (Json.nesting_strings_le tags)
  rw [toJson, Json.nesting_obj_le]
  simp only [List.forall_mem_append, List.forall_mem_cons]
  exact ⟨⟨⟨⟨⟨Nat.zero_le 2, Nat.zero_le 2, Occurrence.nesting_listToJson_le _, Nat.zero_le 2,
    Nat.zero_le 2, List.forall_mem_nil _⟩, Json.nesting_number_le _ _ 2⟩, flatTags⟩,
    Json.nesting_number_le _ _ 2⟩, Json.nesting_number_le _ _ 2⟩

end UnknownEntry

namespace ClusterMap

variable {E : Type}

/-- A saved cluster map reads back when its entries do. -/
theorem decode_toJson (faithful : Key.Faithful key) (source : Source) {passes : E → Prop}
    {decodeEntry : Source → Node → Decoded E} {encodeEntry : E → Json}
    (decodes : ∀ entry, passes entry → (encodeEntry entry).Legible →
      decodeEntry source ((encodeEntry entry).nodeWith key) = .ok entry)
    {clusters : ClusterMap E} (storable : clusters.All passes)
    (inRange : ∀ label ∈ clusters.keys, Integer.Fits label)
    (legible : (toJson encodeEntry clusters).Legible) :
    decode source decodeEntry ((toJson encodeEntry clusters).nodeWith key) = .ok clusters := by
  apply labelMap_labelMembers faithful source inRange legible
  intro byHost member hostsLegible
  apply nameMap_nameMembers faithful hostsLegible
  intro entry inside
  apply decodes entry.2
  exact storable byHost.1 entry.1 _ (find?_of_mem_entries member inside)

theorem nesting_toJson_le {encodeEntry : E → Json}
    (small : ∀ entry, (encodeEntry entry).nesting ≤ 3) (clusters : ClusterMap E) :
    (toJson encodeEntry clusters).nesting ≤ 5 := by
  apply nesting_labelMembers_le
  intro byHost _
  apply nesting_nameMembers_le
  exact fun entry _ => small entry.2

end ClusterMap

namespace UnknownScore

theorem decode_toJson (faithful : Key.Faithful key) (source : Source)
    (score : UnknownScore Float) : decode source (score.toJson.nodeWith key) = .ok score := by
  apply Fills.record_eq_ok
  apply Fills.cons faithful rfl (by decide) (by rfl)
  apply Fills.cons faithful rfl (by decide) (by rfl)
  exact Fills.nil (by decide) rfl

end UnknownScore

namespace FrequencyScore

theorem decode_toJson (faithful : Key.Faithful key) (source : Source)
    (score : FrequencyScore Float) : decode source (score.toJson.nodeWith key) = .ok score := by
  apply Fills.record_eq_ok
  apply Fills.cons faithful rfl (by decide) (by rfl)
  apply Fills.cons faithful rfl (by decide) (by rfl)
  exact Fills.nil (by decide) rfl

end FrequencyScore

namespace ClusterScores

/-- Saved scores read back. -/
theorem decode_toJson (faithful : Key.Faithful key) (source : Source)
    {scores : ClusterScores Float}
    (unknownInRange : ∀ label ∈ scores.unknown.keys, Integer.Fits label)
    (testInRange : ∀ label ∈ scores.test.keys, Integer.Fits label)
    (legible : scores.toJson.Legible) :
    decode source (scores.toJson.nodeWith key) = .ok scores := by
  rcases legible with ⟨unknownLegible, testLegible, _⟩
  have unknownDecoded := labelMap_labelMembers faithful source unknownInRange unknownLegible
    fun entry _ _ => UnknownScore.decode_toJson faithful source entry.2
  have testDecoded := labelMap_labelMembers faithful source testInRange testLegible
    fun entry _ _ => FrequencyScore.decode_toJson faithful source entry.2
  apply Fills.record_eq_ok
  apply Fills.cons faithful rfl (by decide) unknownDecoded
  apply Fills.cons faithful rfl (by decide) testDecoded
  exact Fills.nil (by cases source <;> decide) rfl

theorem nesting_toJson_le (scores : ClusterScores Float) : scores.toJson.nesting ≤ 3 := by
  have unknown : (labelMembers UnknownScore.toJson scores.unknown.entries).nesting ≤ 2 :=
    nesting_labelMembers_le fun _ _ => Nat.le_refl 1
  have test : (labelMembers FrequencyScore.toJson scores.test.entries).nesting ≤ 2 :=
    nesting_labelMembers_le fun _ _ => Nat.le_refl 1
  rw [toJson, Json.nesting_obj_le]
  simp only [List.forall_mem_cons]
  exact ⟨unknown, test, List.forall_mem_nil _⟩

end ClusterScores

end LogDrift
