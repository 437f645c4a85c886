import LogDrift.Document.Event
import LogDrift.Proofs.Json.Decoding

/-!
# Saved events read back

An event whose numbers are legible is decoded from its saved form as it was.
-/

namespace LogDrift

open Json (Decoded RecordField Node Source Key Fills)
open Document

variable {key : String → Key}

namespace Integer

theorem clamp_of_fits {n : Int} (fits : Fits n) : clamp n = n := by
  simp only [Fits, clamp, least, greatest] at *
  omega

end Integer

/-- A value that may be absent is decoded when its decoder takes it for present. -/
theorem Json.nullable_ofOption {α : Type} {encode : α → Json} {decode : Node → Decoded α}
    {value : Option α} (decodes : ∀ present ∈ value,
      Node.nullable decode ((encode present).nodeWith key) = .ok (some present)) :
    Node.nullable decode ((Json.ofOption encode value).nodeWith key) = .ok value := by
  cases value with
  | none => rfl
  | some present => exact decodes present rfl

@[simp] theorem Json.canonicalElements_map {α : Type} (encode : α → Json) (values : List α) :
    canonicalElements (values.map encode) = values.map fun value => (encode value).canonical := by
  induction values with
  | nil => rfl
  | cons value rest ih => rw [List.map_cons, canonicalElements, ih, List.map_cons]

namespace TimeBucket

/-- A time bucket is told apart by its kind, unless it is a minute beyond the range of labels. -/
theorem nullable_toJson {time : TimeBucket}
    (within : ∀ value, time = minute value → value ≤ Integer.greatest) :
    Node.nullable decode (time.toJson.nodeWith key) = .ok (some time) := by
  cases time with
  | minute value =>
    have decoded : decode (.int value) =
        if value ≤ Integer.greatest then .ok (minute value)
        else .ok (instant (Float.ofInt value)) := rfl
    show (decode (.int value)).map some = _
    rw [decoded, if_pos (within value rfl)]
    rfl
  | instant value => rfl
  | label text => rfl

end TimeBucket

namespace Occurrence

/-- Whether the integers of an occurrence are in the ranges in which they are read. -/
structure Regular (occurrence : Occurrence) : Prop where
  count : Integer.Fits occurrence.count
  time : ∀ value, occurrence.time = some (.minute value) → value ≤ Integer.greatest
  oldLabel : ∀ label ∈ occurrence.oldLabel, Integer.Fits label

theorem regular_of_legible {occurrence : Occurrence} (legible : occurrence.toJson.Legible) :
    occurrence.Regular := by
  rcases occurrence with ⟨count, time, host, oldLabel⟩
  rcases legible with ⟨countFits, timeLegible, _, labelFits, _⟩
  refine ⟨countFits, ?_, ?_⟩
  · rintro value rfl
    exact timeLegible.2
  · rintro label rfl
    exact labelFits

namespace Regular

variable {occurrence : Occurrence}

theorem countDecoded (regular : occurrence.Regular) :
    Count.ofJson (.int occurrence.count) = occurrence.count :=
  Integer.clamp_of_fits regular.count

theorem timeDecoded (regular : occurrence.Regular) :
    Node.nullable TimeBucket.decode
      ((Json.ofOption TimeBucket.toJson occurrence.time).nodeWith key) = .ok occurrence.time := by
  apply Json.nullable_ofOption
  intro time present
  apply TimeBucket.nullable_toJson
  rintro value rfl
  exact regular.time value present

theorem labelDecoded (regular : occurrence.Regular) :
    Label.ofJson? (Json.ofOption Json.int occurrence.oldLabel) = occurrence.oldLabel := by
  cases present : occurrence.oldLabel with
  | none => rfl
  | some label => exact congrArg some (Integer.clamp_of_fits (regular.oldLabel label present))

end Regular

/-- The value of a label or of nothing is taken as it is. -/
@[simp] theorem anything_ofOption_int (label : Option Label) :
    Node.anything ((Json.ofOption Json.int label).nodeWith key) =
      .ok (Json.ofOption Json.int label) := by
  cases label <;> rfl

/-- A saved occurrence reads back. -/
theorem decode_toJson (faithful : Key.Faithful key) (source : Source) {occurrence : Occurrence}
    (regular : occurrence.Regular) :
    decode source (occurrence.toJson.nodeWith key) = .ok occurrence := by
  apply Fills.record_eq_ok
  apply Fills.cons faithful rfl (by decide) (by rfl)
  apply Fills.cons faithful rfl (by decide) regular.timeDecoded
  apply Fills.cons faithful rfl (by decide) (by rfl)
  apply Fills.cons faithful rfl (by decide) (anything_ofOption_int _)
  apply Fills.nil (by decide)
  show Occurrence.mk (Count.ofJson (.int occurrence.count)) occurrence.time occurrence.host
    (Label.ofJson? (Json.ofOption Json.int occurrence.oldLabel)) = _
  rw [regular.countDecoded, regular.labelDecoded]

/-- A saved occurrence reads back when its members are sorted. -/
theorem decode_canonical (faithful : Key.Faithful key) (source : Source) {occurrence : Occurrence}
    (regular : occurrence.Regular) :
    decode source (occurrence.toJson.canonical.nodeWith key) = .ok occurrence := by
  have sorted : occurrence.toJson.canonical = .obj [
      ("count", .int occurrence.count),
      ("host", .str occurrence.host),
      ("old_label", Json.ofOption Json.int occurrence.oldLabel),
      ("time", Json.ofOption TimeBucket.toJson occurrence.time)] := by
    rcases occurrence with ⟨count, _ | ⟨_ | _ | _⟩, host, _ | label⟩ <;> rfl
  rw [sorted]
  apply Fills.record_eq_ok
  apply Fills.cons faithful rfl (by decide) (by rfl)
  apply Fills.cons faithful rfl (by decide) (by rfl)
  apply Fills.cons faithful rfl (by decide) (anything_ofOption_int _)
  apply Fills.cons faithful rfl (by decide) regular.timeDecoded
  apply Fills.nil (by decide)
  show Occurrence.mk (Count.ofJson (.int occurrence.count)) occurrence.time occurrence.host
    (Label.ofJson? (Json.ofOption Json.int occurrence.oldLabel)) = _
  rw [regular.countDecoded, regular.labelDecoded]

theorem regular_of_legible_list {occurrences : List Occurrence}
    (legible : (listToJson occurrences).Legible) :
    ∀ occurrence ∈ occurrences, occurrence.Regular := fun _ member =>
  regular_of_legible (Json.legibleElements_iff.1 legible _ (List.mem_map_of_mem member))

theorem decodeList_of_regular (faithful : Key.Faithful key) (source : Source)
    {occurrences : List Occurrence} (regular : ∀ occurrence ∈ occurrences, occurrence.Regular) :
    decodeList source ((listToJson occurrences).nodeWith key) = .ok occurrences :=
  Json.Node.list_eq_ok fun _ member => decode_toJson faithful source (regular _ member)

/-- A saved list of occurrences reads back. -/
theorem decodeList_listToJson (faithful : Key.Faithful key) (source : Source)
    {occurrences : List Occurrence} (legible : (listToJson occurrences).Legible) :
    decodeList source ((listToJson occurrences).nodeWith key) = .ok occurrences :=
  decodeList_of_regular faithful source (regular_of_legible_list legible)

/-- Occurrences lie flat in their list. -/
theorem nesting_listToJson_le (occurrences : List Occurrence) :
    (listToJson occurrences).nesting ≤ 2 := by
  rw [listToJson, Json.nesting_arr_le, List.forall_mem_map]
  intro occurrence _
  have flatTime : (Json.ofOption TimeBucket.toJson occurrence.time).nesting ≤ 0 := by
    apply Json.nesting_ofOption_le
    intro time _
    cases time <;> exact Nat.le_refl 0
  have flatLabel : (Json.ofOption Json.int occurrence.oldLabel).nesting ≤ 0 :=
    Json.nesting_ofOption_le fun _ _ => Nat.le_refl 0
  rw [toJson, Json.nesting_obj_le]
  simp only [List.forall_mem_cons, Json.nesting]
  simp [flatTime, flatLabel]

end Occurrence

namespace Event

/-- Whether the integers of an event are in the ranges in which they are read. -/
structure Regular (event : Event Float) : Prop where
  label : Integer.Fits event.label
  occurrences : ∀ occurrence ∈ event.occurrences, occurrence.Regular

theorem regular_of_legible {event : Event Float} (legible : event.toJson.Legible) :
    event.Regular :=
  ⟨legible.1, Occurrence.regular_of_legible_list legible.2.2.1⟩

theorem Regular.labelDecoded {event : Event Float} (regular : event.Regular) :
    Label.decode (.int event.label) = .ok event.label :=
  congrArg Except.ok (Integer.clamp_of_fits regular.label)

/-- A saved event reads back. -/
theorem decode_toJson (faithful : Key.Faithful key) (source : Source) {event : Event Float}
    (regular : event.Regular) : decode source (event.toJson.nodeWith key) = .ok event := by
  have listDecoded := Occurrence.decodeList_of_regular faithful source regular.occurrences
  apply Fills.record_eq_ok
  apply Fills.cons faithful rfl (by decide) regular.labelDecoded
  apply Fills.cons faithful rfl (by decide) (by rfl)
  apply Fills.cons faithful rfl (by decide) listDecoded
  apply Fills.optional faithful rfl (by decide) rfl (fun _ _ => rfl)
  apply Fills.optional_last faithful rfl (by decide) rfl (fun _ _ => rfl)
  exact Fills.nil (by cases source <;> decide) rfl

/-- A saved event reads back when the members of its objects are sorted. -/
theorem decode_canonical (faithful : Key.Faithful key) (source : Source) {event : Event Float}
    (regular : event.Regular) :
    decode source (event.toJson.canonical.nodeWith key) = .ok event := by
  rcases event with ⟨label, text, occurrences, controlScore, testScore⟩
  have sorted : (toJson ⟨label, text, occurrences, controlScore, testScore⟩).canonical = .obj (
      ("cluster_label", .int label)
      :: (Json.optional "control_score" Json.float controlScore
      ++ ("message_frequencies",
          .arr (occurrences.map fun occurrence => occurrence.toJson.canonical))
      :: (Json.optional "test_score" Json.float testScore
      ++ [("text", .str text)]))) := by
    rw [← Json.canonicalElements_map]
    cases controlScore <;> cases testScore <;> rfl
  have listDecoded : Occurrence.decodeList source
      ((Json.arr (occurrences.map fun occurrence => occurrence.toJson.canonical)).nodeWith key) =
        .ok occurrences :=
    Json.Node.list_eq_ok fun _ member =>
      Occurrence.decode_canonical faithful source (regular.occurrences _ member)
  rw [sorted]
  apply Fills.record_eq_ok
  apply Fills.cons faithful rfl (by decide) regular.labelDecoded
  apply Fills.optional faithful rfl (by decide) rfl (fun _ _ => rfl)
  apply Fills.cons faithful rfl (by decide) listDecoded
  apply Fills.optional faithful rfl (by decide) rfl (fun _ _ => rfl)
  apply Fills.cons faithful rfl (by decide) (by rfl)
  exact Fills.nil (by cases source <;> decide) rfl

/-- A saved list of events reads back. -/
theorem decode_listToJson (faithful : Key.Faithful key) (source : Source)
    {events : List (Event Float)} (legible : (listToJson events).Legible) :
    Node.list (decode source) ((listToJson events).nodeWith key) = .ok events := by
  apply Json.Node.list_eq_ok
  intro event member
  apply decode_toJson faithful
  exact regular_of_legible (Json.legibleElements_iff.1 legible _ (List.mem_map_of_mem member))

theorem nesting_toJson_le (event : Event Float) : event.toJson.nesting ≤ 3 := by
  have scores : ∀ (name : String) (score : Option Float),
      ∀ member ∈ Json.optional name Json.float score, member.2.nesting ≤ 2 :=
    fun _ _ => Json.nesting_optional_le fun _ _ => Nat.zero_le 2
  rw [toJson, Json.nesting_obj_le]
  simp only [List.forall_mem_append, List.forall_mem_cons]
  exact ⟨⟨⟨Nat.zero_le 2, Nat.zero_le 2, Occurrence.nesting_listToJson_le _, List.forall_mem_nil _⟩,
    scores _ _⟩, scores _ _⟩

theorem nesting_listToJson_le (events : List (Event Float)) : (listToJson events).nesting ≤ 4 := by
  rw [listToJson, Json.nesting_arr_le, List.forall_mem_map]
  exact fun event _ => event.nesting_toJson_le

end Event

end LogDrift
