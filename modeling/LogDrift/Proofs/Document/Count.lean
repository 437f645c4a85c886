import LogDrift.Label
import LogDrift.Proofs.Document.Event
import LogDrift.Proofs.Numeral.Decimal
import LogDrift.Proofs.Numeral.Great

/-!
# Which count a value is

A text that is no decimal numeral counts as zero, unless it names an infinity: then it counts as the
bound of the range on its side. An integer counts the same as a number and as the text of its
digits, whatever its size.
-/

namespace LogDrift

open Decimal (IsNumeral NamesInfinity Signed)

namespace Count

/-! ## Texts that are no numerals -/

variable {text : String}

/-- A text that does not spell an integer of 64 bits is read as a float. -/
theorem ofJson_of_not_spells
    (unspelt : ¬ ∃ n, Integer.Spells (Text.trimmed text.toList) n ∧ Integer.Fits n) :
    ofJson (.str text) =
      ((Decimal.read? (Text.trimmed text.toList)).map
        (Binary.wholePart Binary.truncate)).getD 0 := by
  rw [ofJson]
  cases read : Integer.read64 (Text.trimmed text.toList) with
  | ok n => exact (unspelt ⟨n, Integer.read64_eq_ok_iff.mp read⟩).elim
  | error fault => cases Decimal.read? (Text.trimmed text.toList) <;> rfl

/-- A name of infinity counts as the bound of the range on its side. -/
theorem ofJson_of_infinity {negative : Bool}
    (infinite : Signed NamesInfinity negative (Text.trimmed text.toList)) :
    ofJson (.str text) = if negative then Integer.least else Integer.greatest := by
  have unspelt : ¬ ∃ n, Integer.Spells (Text.trimmed text.toList) n ∧ Integer.Fits n :=
    fun ⟨_, spells, _⟩ => (Decimal.isNumeral_of_spells spells).not_infinite infinite
  rw [ofJson_of_not_spells unspelt, Decimal.read?_of_infinity infinite]
  cases negative <;> decide +kernel

/-- A text that is neither a numeral nor a name of infinity counts as zero. -/
theorem ofJson_of_other (noNumeral : ¬ IsNumeral (Text.trimmed text.toList))
    (finite : ¬ ∃ negative, Signed NamesInfinity negative (Text.trimmed text.toList)) :
    ofJson (.str text) = 0 := by
  have unspelt : ¬ ∃ n, Integer.Spells (Text.trimmed text.toList) n ∧ Integer.Fits n :=
    fun ⟨_, spells, _⟩ => noNumeral (Decimal.isNumeral_of_spells spells)
  rw [ofJson_of_not_spells unspelt]
  rcases Decimal.read?_of_other noNumeral finite with read | read | read
  · rw [read]
    rfl
  · rw [read]
    decide +kernel
  · rw [read]
    decide +kernel

/-! ## Integers -/

open Rounding

/-- The text of an integer counts as the nearest integer of 64 bits. -/
@[simp] theorem ofJson_writeInt (n : Int) :
    ofJson (.str (String.ofList (Json.writeInt n))) = Integer.clamp n := by
  have spells := Integer.spells_writeInt n
  have trimmed : Text.trimmed (String.ofList (Json.writeInt n)).toList = Json.writeInt n := by
    rw [String.toList_ofList, Text.trimmed_of_blankless spells.blankless]
  by_cases fits : Integer.Fits n
  · have read : Integer.read64 (Json.writeInt n) = .ok n :=
      Integer.read64_eq_ok_iff.mpr ⟨spells, fits⟩
    rw [ofJson, trimmed, read, Integer.clamp_of_fits fits]
  · have beyond : 2 ^ 63 ≤ n.natAbs := by
      simp only [Integer.Fits, Integer.least, Integer.greatest] at fits
      omega
    have unspelt : ¬ ∃ m, Integer.Spells (Text.trimmed (String.ofList (Json.writeInt n)).toList) m ∧
        Integer.Fits m := by
      rw [trimmed]
      rintro ⟨m, other, small⟩
      exact fits (spells.unique other ▸ small)
    have reaches := Decimal.reaches_nearestFloat beyond
    rw [ofJson_of_not_spells unspelt, trimmed, Decimal.read?_writeInt,
      Option.map_some, Option.getD_some, ← Json.Numeral.bound_signOf beyond, Json.Numeral.signOf]
    split
    · exact (reaches.neg (by decide)).wholePart
    · exact reaches.wholePart

/-- An integer of any size that is parsed counts as the nearest integer of 64 bits. -/
theorem ofJson_of_parse {n : Int} {value : Json}
    (parsed : Json.parse (String.ofList (Json.writeInt n)) = .ok value) :
    ofJson value = Integer.clamp n := by
  rw [Json.parse_number (Json.Numeral.scan_writeInt n)] at parsed
  by_cases within : Integer.least ≤ n ∧ n ≤ Integer.greatestUnsigned
  · rw [Json.Numeral.value?_ofInt within.1 within.2] at parsed
    cases parsed
    rfl
  · have beyond : n < Integer.least ∨ Integer.greatestUnsigned < n := by omega
    have great : 2 ^ 63 ≤ n.natAbs := by
      simp only [Integer.least, Integer.greatestUnsigned] at beyond
      omega
    rw [Json.Numeral.value?, Json.Numeral.int?_ofInt_of_beyond beyond] at parsed
    cases found : (Json.Numeral.ofInt n).float? with
    | none =>
      rw [found] at parsed
      cases parsed
    | some x =>
      rw [found] at parsed
      cases parsed
      rw [← Json.Numeral.bound_signOf great]
      exact (Json.Numeral.reaches_float?_ofInt great found).wholePart

/-- What is no numeral counts as zero, names of the infinities apart, and an integer counts the same
as a number, as it is parsed, and as the text of its digits. -/
theorem ofJson_reads_numerals (text : String) (n : Int) :
    (¬ IsNumeral (Text.trimmed text.toList) →
      (ofJson (.str text) = 0 ↔
        ¬ ∃ negative, Signed NamesInfinity negative (Text.trimmed text.toList))) ∧
    (∀ negative, Signed NamesInfinity negative (Text.trimmed text.toList) →
      ofJson (.str text) = if negative then Integer.least else Integer.greatest) ∧
    ofJson (.int n) = ofJson (.str (String.ofList (Json.writeInt n))) ∧
    (∀ value, Json.parse (String.ofList (Json.writeInt n)) = .ok value →
      ofJson value = ofJson (.str (String.ofList (Json.writeInt n)))) ∧
    ofJson .null = 0 ∧ (∀ flag, ofJson (.bool flag) = 0) ∧
    (∀ elements, ofJson (.arr elements) = 0) ∧ ∀ members, ofJson (.obj members) = 0 := by
  rw [ofJson_writeInt]
  refine ⟨fun noNumeral => ⟨?_, ofJson_of_other noNumeral⟩, fun _ => ofJson_of_infinity, rfl,
    fun _ => ofJson_of_parse, rfl, fun _ => rfl, fun _ => rfl, fun _ => rfl⟩
  rintro zero ⟨negative, infinite⟩
  rw [ofJson_of_infinity infinite] at zero
  cases negative <;> cases zero

/-- A word, a name of infinity between blanks, and an integer beyond 64 bits. -/
theorem ofJson_reads_numerals_many :
    ¬ IsNumeral (Text.trimmed "many".toList) ∧ ofJson (.str "many") = 0 ∧
    Signed NamesInfinity true (Text.trimmed " -Infinity ".toList) ∧
    ofJson (.str " -Infinity ") = Integer.least ∧
    ∃ value, Json.parse (String.ofList (Json.writeInt 18446744073709551616)) = .ok value ∧
      ofJson value = ofJson (.str (String.ofList (Json.writeInt 18446744073709551616))) := by
  obtain ⟨zero, -⟩ := ofJson_reads_numerals "many" 0
  obtain ⟨-, bound, -, parsed, -⟩ := ofJson_reads_numerals " -Infinity " 18446744073709551616
  have unread : ¬ (Decimal.read? (Text.trimmed "many".toList)).isSome := by decide +kernel
  rw [Decimal.isSome_read?_iff, not_or, not_or] at unread
  obtain ⟨noNumeral, finite, -⟩ := unread
  have infinite : Signed NamesInfinity true (Text.trimmed " -Infinity ".toList) :=
    .minus (.inr (by decide +kernel))
  have present : (Json.Numeral.ofInt 18446744073709551616).value?.isSome := by decide +kernel
  obtain ⟨value, denotes⟩ := Option.isSome_iff_exists.mp present
  have read : Json.parse (String.ofList (Json.writeInt 18446744073709551616)) = .ok value := by
    rw [Json.parse_number (Json.Numeral.scan_writeInt _), denotes]
  exact ⟨noNumeral, (zero noNumeral).mpr finite, infinite, bound true infinite, value, read,
    parsed value read⟩

/-- The name of infinity is no numeral and counts as the greatest integer. -/
theorem ofJson_infinite :
    ¬ IsNumeral (Text.trimmed "inf".toList) ∧ ofJson (.str "inf") = 9223372036854775807 := by
  have infinite : Signed NamesInfinity false (Text.trimmed "inf".toList) :=
    .bare (.inl (by decide +kernel))
  exact ⟨fun numeral => numeral.not_infinite infinite, ofJson_of_infinity infinite⟩

end Count

end LogDrift
