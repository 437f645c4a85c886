import LogDrift.Proofs.Document.Cluster
import LogDrift.Proofs.Json.Yield
import LogDrift.Proofs.Numeral.Integer

/-!
# What is decoded is proper

Whatever a text holds, the events, entries and scores that are decoded from it have integers of 64
bits and finite floats only.
-/

namespace LogDrift

open Json (Decoded Node Source Yields Keeps Proper)
open Document

namespace Integer

theorem fits_clamp (n : Int) : Fits (clamp n) := by
  simp only [Fits, clamp, least, greatest]
  omega

theorem fits_wholePart (part : Binary → Int) (x : Float) : Fits (Binary.wholePart part x) := by
  rw [Binary.wholePart]
  split
  · exact fits_clamp _
  · split
    · decide
    · split <;> decide

end Integer

namespace Label

theorem fits_of_ofJson? {value : Json} {label : Label} (found : ofJson? value = some label) :
    Integer.Fits label := by
  cases value with
  | int n =>
    cases found
    exact Integer.fits_clamp n
  | float x =>
    rw [ofJson?] at found
    split at found
    · split at found
      · cases found
        exact Integer.fits_wholePart _ _
      · cases found
    · cases found
  | str text =>
    rw [ofJson?] at found
    cases read : Integer.read64 (Text.trimmed text.toList) with
    | error fault =>
      rw [read] at found
      cases found
    | ok n =>
      rw [read] at found
      cases found
      exact (Integer.read64_eq_ok_iff.1 read).2
  | _ => cases found

theorem yields_decode : Yields decode Integer.Fits := by
  intro node label _ found
  rcases exists_of_bind_eq_ok found with ⟨value, _, found⟩
  split at found
  · next denotes =>
    cases found
    exact fits_of_ofJson? denotes
  · cases found

end Label

namespace Count

theorem fits_ofJson (value : Json) : Integer.Fits (ofJson value) := by
  have zero : Integer.Fits 0 := by decide
  cases value with
  | int n => exact Integer.fits_clamp n
  | float x => exact Integer.fits_wholePart _ _
  | str text =>
    simp only [ofJson]
    split
    · next read => exact (Integer.read64_eq_ok_iff.1 read).2
    · split
      · exact Integer.fits_wholePart _ _
      · exact zero
  | _ => exact zero

end Count

namespace TimeBucket

theorem yields_decode : Yields decode fun time => time.toJson.Proper := by
  intro node time inRange found
  rcases exists_of_bind_eq_ok found with ⟨value, taken, found⟩
  rcases Json.inRange_of_anything inRange taken with ⟨integer, finite⟩
  cases value with
  | int n =>
    have within := integer n rfl
    simp only at found
    split at found
    · next small =>
      cases found
      exact Json.proper_int.2 ⟨within.1, small⟩
    · cases found
      exact Json.proper_float.2 (Rounding.isFinite_ofInt within.1 within.2)
  | float x =>
    cases found
    exact Json.proper_float.2 (finite x rfl)
  | str text =>
    cases found
    exact Json.proper_str text
  | _ => cases found

end TimeBucket

namespace Occurrence

theorem proper_toJson {occurrence : Occurrence} : occurrence.toJson.Proper ↔
    Integer.Fits occurrence.count ∧ (∀ time ∈ occurrence.time, time.toJson.Proper) ∧
      ∀ label ∈ occurrence.oldLabel, Integer.Fits label := by
  simp [toJson]

theorem yields_decode (source : Source) :
    Yields (decode source) fun occurrence => occurrence.toJson.Proper := by
  have zero : Integer.Fits 0 := by decide
  apply Yields.record
  · simp [proper_toJson, zero]
  · simp only [fields, List.forall_mem_cons]
    refine ⟨.into (Json.yields_any _) ?_, .into TimeBucket.yields_decode.nullable ?_,
      .into (Json.yields_any _) ?_, .into (Json.yields_any _) ?_, List.forall_mem_nil _⟩
    all_goals
      intro value record given held
      rw [proper_toJson] at held ⊢
    · exact ⟨Count.fits_ofJson value, held.2⟩
    · exact ⟨held.1, given, held.2.2⟩
    · exact held
    · exact ⟨held.1, held.2.1, fun label found => Label.fits_of_ofJson? found⟩

theorem proper_listToJson {occurrences : List Occurrence} :
    (listToJson occurrences).Proper ↔ ∀ occurrence ∈ occurrences, occurrence.toJson.Proper := by
  rw [listToJson, Json.proper_arr, List.forall_mem_map]

theorem yields_decodeList (source : Source) :
    Yields (decodeList source) fun occurrences => (listToJson occurrences).Proper := by
  intro node occurrences inRange found
  rw [proper_listToJson]
  exact (yields_decode source).list node occurrences inRange found

end Occurrence

namespace Document

@[simp] theorem proper_labelMembers {α : Type} {encode : α → Json} {entries : List (Int × α)} :
    (labelMembers encode entries).Proper ↔ ∀ entry ∈ entries, (encode entry.2).Proper := by
  rw [labelMembers, Json.proper_obj, List.forall_mem_map]

@[simp] theorem proper_nameMembers {α : Type} {encode : α → Json} {entries : List (String × α)} :
    (nameMembers encode entries).Proper ↔ ∀ entry ∈ entries, (encode entry.2).Proper := by
  rw [nameMembers, Json.proper_obj, List.forall_mem_map]

end Document

/-- An optional number that is yielded is finite. -/
theorem Json.yields_nullable_number :
    Yields (Node.nullable Node.number) fun x => ∀ present ∈ x, present.isFinite = true :=
  yields_number.nullable

namespace Event

@[simp] theorem proper_toJson {event : Event Float} : event.toJson.Proper ↔
    Integer.Fits event.label ∧ (Occurrence.listToJson event.occurrences).Proper ∧
      (∀ score ∈ event.controlScore, score.isFinite = true) ∧
      ∀ score ∈ event.testScore, score.isFinite = true := by
  rw [toJson, Json.proper_obj]
  simp only [List.forall_mem_append, List.forall_mem_cons, Json.proper_optional, Json.proper_int,
    Json.proper_str, Json.proper_float, List.not_mem_nil, false_implies,
    implies_true, true_and, and_assoc]

theorem yields_decode (source : Source) :
    Yields (decode source) fun event => event.toJson.Proper := by
  have zero : Integer.Fits 0 := by decide
  have list := Occurrence.yields_decodeList source
  apply Yields.record
  · simp [zero, Occurrence.proper_listToJson]
  · simp only [fields, List.forall_mem_cons]
    refine ⟨.into Label.yields_decode ?_, .into (Json.yields_any _) ?_, .into list ?_,
      .into Json.yields_nullable_number ?_, .into Json.yields_nullable_number ?_,
      List.forall_mem_nil _⟩
    all_goals
      intro value record given held
      simp_all [proper_toJson]

@[simp] theorem proper_listToJson {events : List (Event Float)} :
    (listToJson events).Proper ↔ ∀ event ∈ events, event.toJson.Proper := by
  rw [listToJson, Json.proper_arr, List.forall_mem_map]

end Event

namespace ControlEntry

@[simp] theorem proper_toJson {entry : ControlEntry Float} : entry.toJson.Proper ↔
    Integer.Fits entry.label ∧ (Occurrence.listToJson entry.occurrences).Proper ∧
      (∀ x ∈ entry.x, x.isFinite = true) ∧ ∀ y ∈ entry.y, y.isFinite = true := by
  rw [toJson, Json.proper_obj]
  simp only [List.forall_mem_append, List.forall_mem_cons, Json.proper_optional, Json.proper_int,
    Json.proper_str, Json.proper_strings, Json.proper_float, List.not_mem_nil,
    false_implies, implies_true, true_and, and_assoc]

theorem yields_decode (source : Source) :
    Yields (decode source) fun entry => entry.toJson.Proper := by
  have zero : Integer.Fits 0 := by decide
  have list := Occurrence.yields_decodeList source
  apply Yields.record
  · simp [zero, Occurrence.proper_listToJson]
  · simp only [fields, List.forall_mem_cons]
    refine ⟨.into (Json.yields_any _) ?_, .into Json.yields_integer64 ?_, .into list ?_,
      .into (Json.yields_any _) ?_, .into Json.yields_nullable_number ?_,
      .into Json.yields_nullable_number ?_, List.forall_mem_nil _⟩
    all_goals
      intro value record given held
      simp_all [proper_toJson]

end ControlEntry

namespace TestEntry

/-- Whether everything in a test entry is in the range of its kind. -/
def Sound (entry : TestEntry Float) : Prop :=
  entry.Storable ∧ entry.toJson.Proper

@[simp] theorem proper_toJson {entry : TestEntry Float} : entry.toJson.Proper ↔
    Integer.Fits entry.label ∧ (Occurrence.listToJson entry.occurrences).Proper ∧
      (∀ verdict ∈ entry.verdicts, Integer.Fits verdict) ∧
      entry.controlScore.isFinite = true ∧ entry.testScore.isFinite = true ∧
      entry.frequencyScore.isFinite = true ∧
      (∀ x ∈ entry.x, x.isFinite = true) ∧ ∀ y ∈ entry.y, y.isFinite = true := by
  rw [toJson, Json.proper_obj]
  simp only [List.forall_mem_append, List.forall_mem_cons, Json.proper_optional, Json.proper_int,
    Json.proper_str, Json.proper_bool, Json.proper_strings, Json.proper_float, Json.proper_arr,
    List.forall_mem_map, List.not_mem_nil, false_implies, implies_true, true_and, and_assoc]

/-- What fits into eight bits fits into 64. -/
theorem fits_of_storable {entry : TestEntry Float} (storable : entry.Storable) :
    ∀ verdict ∈ entry.verdicts, Integer.Fits verdict := by
  intro verdict member
  rcases storable verdict member with ⟨lower, upper⟩
  exact ⟨Int.le_trans (by decide) lower, Int.le_trans upper (by decide)⟩

theorem sound_iff {entry : TestEntry Float} : entry.Sound ↔
    entry.Storable ∧ Integer.Fits entry.label ∧
      (Occurrence.listToJson entry.occurrences).Proper ∧
      entry.controlScore.isFinite = true ∧ entry.testScore.isFinite = true ∧
      entry.frequencyScore.isFinite = true ∧
      (∀ x ∈ entry.x, x.isFinite = true) ∧ ∀ y ∈ entry.y, y.isFinite = true := by
  rw [Sound, proper_toJson]
  constructor
  · rintro ⟨storable, label, list, _, rest⟩
    exact ⟨storable, label, list, rest⟩
  · rintro ⟨storable, label, list, rest⟩
    exact ⟨storable, label, list, fits_of_storable storable, rest⟩

theorem yields_decode (source : Source) : Yields (decode source) Sound := by
  have zero : Integer.Fits 0 := by decide
  have still : (0 : Float).isFinite = true := by decide
  have list := Occurrence.yields_decodeList source
  apply Yields.record
  · simp [sound_iff, zero, still, Occurrence.proper_listToJson, Storable]
  · simp only [fields, List.forall_mem_cons]
    refine ⟨.into (Json.yields_any _) ?_, .into Json.yields_integer64 ?_, .into list ?_,
      .into (Json.yields_integer "i8" (-128) 127).list ?_, .into (Json.yields_any _) ?_,
      .into Json.yields_number ?_, .into Json.yields_number ?_, .into Json.yields_number ?_,
      .into (Json.yields_any _) ?_, .into Json.yields_nullable_number ?_,
      .into Json.yields_nullable_number ?_, List.forall_mem_nil _⟩
    all_goals
      intro value record given held
      simp_all [sound_iff, Storable]

end TestEntry

namespace UnknownEvent

@[simp] theorem proper_toJson {event : UnknownEvent Float} : event.toJson.Proper ↔
    Integer.Fits event.label ∧ (Occurrence.listToJson event.occurrences).Proper ∧
      event.controlScore.isFinite = true ∧ event.testScore.isFinite = true := by
  rw [toJson, Json.proper_obj]
  simp only [List.forall_mem_cons, Json.proper_int, Json.proper_str, Json.proper_float,
    List.not_mem_nil, false_implies, implies_true, true_and, and_true]

theorem yields_decode (source : Source) :
    Yields (decode source) fun event => event.toJson.Proper := by
  have zero : Integer.Fits 0 := by decide
  have still : (0 : Float).isFinite = true := by decide
  have list := Occurrence.yields_decodeList source
  apply Yields.record
  · simp [proper_toJson, zero, still, Occurrence.proper_listToJson]
  · simp only [fields, List.forall_mem_cons]
    refine ⟨.into (Json.yields_any _) ?_, .into Json.yields_integer64 ?_, .into list ?_,
      .into Json.yields_number ?_, .into Json.yields_number ?_, List.forall_mem_nil _⟩
    all_goals
      intro value record given held
      simp_all [proper_toJson]

end UnknownEvent

namespace UnknownEntry

/-- Whether everything in an unknown entry is saved and in the range of its kind. -/
def Sound (entry : UnknownEntry Float) : Prop :=
  entry.Storable ∧ entry.toJson.Proper

@[simp] theorem proper_toJson {entry : UnknownEntry Float} : entry.toJson.Proper ↔
    Integer.Fits entry.label ∧ (Occurrence.listToJson entry.occurrences).Proper ∧
      entry.controlScore.isFinite = true ∧ entry.testScore.isFinite = true ∧
      (∀ score ∈ entry.alertScore, score.isFinite = true) ∧
      (∀ x ∈ entry.x, x.isFinite = true) ∧ ∀ y ∈ entry.y, y.isFinite = true := by
  rw [toJson, Json.proper_obj]
  simp only [List.forall_mem_append, List.forall_mem_cons, Json.proper_optional, Json.proper_int,
    Json.proper_str, Json.proper_strings, Json.proper_float, List.not_mem_nil, false_implies,
    implies_true, true_and, and_assoc]

theorem yields_decode (source : Source) : Yields (decode source) Sound := by
  have zero : Integer.Fits 0 := by decide
  have still : (0 : Float).isFinite = true := by decide
  have list := Occurrence.yields_decodeList source
  apply Yields.record
  · simp [Sound, proper_toJson, zero, still, Occurrence.proper_listToJson, Storable]
  · simp only [fields, List.forall_mem_cons]
    refine ⟨.into (Json.yields_any _) ?_, .into Json.yields_integer64 ?_, .into list ?_,
      .into Json.yields_number ?_, .into Json.yields_number ?_,
      .into Json.yields_nullable_number ?_, .into (Json.yields_any _) ?_,
      .into Json.yields_nullable_number ?_, .into Json.yields_nullable_number ?_,
      List.forall_mem_nil _⟩
    all_goals
      intro value record given held
      simp_all [Sound, proper_toJson, Storable]

end UnknownEntry

namespace UnknownScore

@[simp] theorem proper_toJson {score : UnknownScore Float} : score.toJson.Proper ↔
    score.controlScore.isFinite = true ∧ score.testScore.isFinite = true := by
  simp [toJson]

theorem yields_decode (source : Source) :
    Yields (decode source) fun score => score.toJson.Proper := by
  have still : (0 : Float).isFinite = true := by decide
  apply Yields.record
  · simp [proper_toJson, still]
  · simp only [List.forall_mem_cons]
    refine ⟨.into Json.yields_number ?_, .into Json.yields_number ?_, List.forall_mem_nil _⟩
    all_goals
      intro value record given held
      simp_all [proper_toJson]

end UnknownScore

namespace FrequencyScore

@[simp] theorem proper_toJson {score : FrequencyScore Float} :
    score.toJson.Proper ↔ score.frequencyScore.isFinite = true := by
  simp [toJson]

theorem yields_decode (source : Source) :
    Yields (decode source) fun score => score.toJson.Proper := by
  have still : (0 : Float).isFinite = true := by decide
  apply Yields.record
  · simp [proper_toJson, still]
  · simp only [List.forall_mem_cons]
    refine ⟨.into (Json.yields_any _) ?_, .into Json.yields_number ?_, List.forall_mem_nil _⟩
    all_goals
      intro value record given held
      simp_all [proper_toJson]

end FrequencyScore

end LogDrift
