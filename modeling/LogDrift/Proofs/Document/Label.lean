import Mathlib
import LogDrift.Proofs.Document.Proper
import LogDrift.Proofs.Numeral.Integer

/-!
# Which label a value is

A label is read off a number or off a text that spells an integer. A value that denotes an integer
of 64 bits becomes just that label, and nothing else becomes one, except that a number beyond the
range becomes the label at the end of the range, where a text is refused.
-/

namespace LogDrift

/-! ## The numbers that doubles are -/

namespace Binary

/-- The number that the parts of a double make. -/
def value (x : Binary) : ℚ :=
  (if x.negative then -1 else 1) * x.significand * 2 ^ x.exponent

theorem value_mul_denominator (x : Binary) : x.value * x.denominator = x.signedNumerator := by
  rcases x with ⟨negative, significand, exponent⟩
  have scaled : (2 : ℚ) ^ exponent * 2 ^ (-exponent).toNat = 2 ^ exponent.toNat := by
    rw [← zpow_natCast, ← zpow_natCast, ← zpow_add₀ (by norm_num)]
    congr 1
    omega
  simp only [value, denominator, signedNumerator, numerator, Nat.pow_eq]
  rw [mul_assoc, Nat.cast_pow, Nat.cast_ofNat, scaled]
  split <;> push_cast <;> ring

theorem value_eq_intCast_iff {x : Binary} {n : ℤ} :
    x.value = n ↔ x.signedNumerator = n * x.denominator := by
  have nonzero : (x.denominator : ℚ) ≠ 0 := Nat.cast_ne_zero.2 x.denominator_pos.ne'
  rw [← mul_left_inj' nonzero, value_mul_denominator]
  norm_cast

theorem isWhole_iff_dvd {x : Binary} :
    x.isWhole = true ↔ (x.denominator : ℤ) ∣ x.signedNumerator := by
  rw [isWhole, beq_iff_eq, ← Nat.dvd_iff_mod_eq_zero, signedNumerator]
  split <;> simp [Int.natCast_dvd_natCast]

/-- A double is an integer just if it is whole, and then it is its own whole part. -/
theorem value_eq_intCast_iff_truncate {x : Binary} {n : ℤ} :
    x.value = n ↔ x.isWhole = true ∧ x.truncate = n := by
  have nonzero : (x.denominator : ℤ) ≠ 0 := Int.natCast_ne_zero.2 x.denominator_pos.ne'
  rw [value_eq_intCast_iff, isWhole_iff_dvd, truncate]
  constructor
  · intro same
    rw [same]
    exact ⟨Dvd.intro_left n rfl, Int.mul_tdiv_cancel n nonzero⟩
  · rintro ⟨divides, rfl⟩
    exact (Int.tdiv_mul_cancel divides).symm

end Binary

/-! ## The numbers that values denote -/

namespace Json

/-- A number denotes itself, and a text between blanks the integer that it spells. -/
inductive Denotes : Json → ℚ → Prop
  | int (n : ℤ) : Denotes (.int n) n
  | float {x : Float} {parts : Binary} (finite : Binary.ofFloat? x = some parts) :
      Denotes (.float x) parts.value
  | str {text : String} {n : ℤ} (spells : Integer.Spells (Text.trimmed text.toList) n) :
      Denotes (.str text) n

/-- Whether a value is a number. -/
def isNumber : Json → Bool
  | int _ => true
  | float _ => true
  | _ => false

/-- Whether a value is a number that is an integer, but none of 64 bits. -/
def Overflows (value : Json) : Prop :=
  value.isNumber = true ∧ ∃ n : ℤ, value.Denotes n ∧ ¬ Integer.Fits n

@[simp] theorem denotes_int_iff {n : ℤ} {q : ℚ} : Denotes (.int n) q ↔ (n : ℚ) = q := by
  constructor
  · rintro ⟨⟩
    rfl
  · rintro rfl
    exact .int n

theorem denotes_float_iff {x : Float} {q : ℚ} :
    Denotes (.float x) q ↔ ∃ parts, Binary.ofFloat? x = some parts ∧ parts.value = q := by
  constructor
  · rintro ⟨⟩
    next finite => exact ⟨_, finite, rfl⟩
  · rintro ⟨parts, finite, rfl⟩
    exact .float finite

theorem denotes_str_iff {text : String} {q : ℚ} :
    Denotes (.str text) q ↔ ∃ n : ℤ, Integer.Spells (Text.trimmed text.toList) n ∧ (n : ℚ) = q := by
  constructor
  · rintro ⟨⟩
    next spells => exact ⟨_, spells, rfl⟩
  · rintro ⟨n, spells, rfl⟩
    exact .str spells

/-- A value denotes one number at most. -/
theorem Denotes.unique {value : Json} {q r : ℚ} (denotes : value.Denotes q)
    (other : value.Denotes r) : q = r := by
  cases denotes with
  | int n => exact denotes_int_iff.1 other
  | float finite =>
    obtain ⟨parts, found, rfl⟩ := denotes_float_iff.1 other
    rw [Option.some.inj (finite.symm.trans found)]
  | str spells =>
    obtain ⟨n, found, rfl⟩ := denotes_str_iff.1 other
    rw [spells.unique found]

end Json

open Json (Denotes Overflows)

namespace Label

/-! ## Reading labels -/

@[simp] theorem ofJson?_int (n : ℤ) : ofJson? (.int n) = some (Integer.clamp n) := rfl

theorem ofJson?_float_eq_some_iff {x : Float} {label : Label} :
    ofJson? (.float x) = some label ↔
      ∃ n : ℤ, Denotes (.float x) n ∧ Integer.clamp n = label := by
  rw [ofJson?]
  cases finite : Binary.ofFloat? x with
  | none => simp [Json.denotes_float_iff, finite]
  | some parts =>
    have read : Binary.wholePart Binary.truncate x = Integer.clamp parts.truncate := by
      rw [Binary.wholePart, finite]
    simp only [read, Json.denotes_float_iff, finite, Option.some.injEq, exists_eq_left',
      Binary.value_eq_intCast_iff_truncate]
    constructor
    · intro found
      split at found
      · next whole => exact ⟨parts.truncate, ⟨whole, rfl⟩, Option.some.inj found⟩
      · cases found
    · rintro ⟨n, ⟨whole, rfl⟩, rfl⟩
      rw [if_pos whole]

theorem ofJson?_str_eq_some_iff {text : String} {label : Label} :
    ofJson? (.str text) = some label ↔ Denotes (.str text) label ∧ Integer.Fits label := by
  have denotes : Denotes (.str text) label ↔ Integer.Spells (Text.trimmed text.toList) label := by
    simp [Json.denotes_str_iff]
  rw [denotes, ← Integer.read64_eq_ok_iff, ofJson?]
  cases Integer.read64 (Text.trimmed text.toList) <;> simp [Except.toOption]

/-- A number becomes the label nearest to it, if it is an integer. A text becomes the label that it
spells. -/
theorem ofJson?_eq_some_iff {value : Json} {label : Label} :
    ofJson? value = some label ↔
      ∃ n : ℤ, value.Denotes n ∧ (value.isNumber = true ∨ Integer.Fits n) ∧
        Integer.clamp n = label := by
  cases value with
  | int n => simp [Json.isNumber]
  | float x => simp [ofJson?_float_eq_some_iff, Json.isNumber]
  | str text =>
    rw [ofJson?_str_eq_some_iff]
    constructor
    · rintro ⟨denotes, fits⟩
      exact ⟨label, denotes, .inr fits, Integer.clamp_of_fits fits⟩
    · rintro ⟨n, denotes, number | fits, rfl⟩
      · cases number
      · rw [Integer.clamp_of_fits fits]
        exact ⟨denotes, fits⟩
  | _ =>
    constructor
    · nofun
    · rintro ⟨n, denotes, _⟩
      cases denotes

/-- A value that denotes an integer of 64 bits becomes that label. -/
theorem ofJson?_of_denotes {value : Json} {label : Label} (denotes : value.Denotes label)
    (fits : Integer.Fits label) : ofJson? value = some label :=
  ofJson?_eq_some_iff.2 ⟨label, denotes, .inr fits, Integer.clamp_of_fits fits⟩

/-- A value that becomes a label denotes that label, unless it is a number beyond the range. -/
theorem denotes_of_ofJson? {value : Json} {label : Label} (found : ofJson? value = some label)
    (within : ¬ value.Overflows) : value.Denotes label := by
  obtain ⟨n, denotes, read, rfl⟩ := ofJson?_eq_some_iff.1 found
  have fits : Integer.Fits n := by
    rcases read with number | fits
    · by_contra beyond
      exact within ⟨number, n, denotes, beyond⟩
    · exact fits
  rwa [Integer.clamp_of_fits fits]

/-- A number beyond the range becomes a label that it does not denote. -/
theorem exists_of_overflows {value : Json} (overflows : value.Overflows) :
    ∃ label, ofJson? value = some label ∧ ¬ value.Denotes label := by
  obtain ⟨number, n, denotes, beyond⟩ := overflows
  refine ⟨Integer.clamp n, ofJson?_eq_some_iff.2 ⟨n, denotes, .inl number, rfl⟩, ?_⟩
  intro same
  apply beyond
  rw [Int.cast_inj.1 (denotes.unique same)]
  exact Integer.fits_clamp n

/-- The text of an integer becomes the label of that integer, if it is one of 64 bits. -/
@[simp] theorem ofJson?_writeInt (n : ℤ) :
    ofJson? (.str (String.ofList (Json.writeInt n))) = if Integer.Fits n then some n else none := by
  have spells := Integer.spells_writeInt n
  have denotes : Denotes (.str (String.ofList (Json.writeInt n))) n := by
    apply Denotes.str
    rwa [String.toList_ofList, Text.trimmed_of_blankless spells.blankless]
  split
  · next fits => exact ofJson?_of_denotes denotes fits
  · next beyond =>
    rw [Option.eq_none_iff_forall_ne_some]
    intro label found
    obtain ⟨same, fits⟩ := ofJson?_str_eq_some_iff.1 found
    rw [Int.cast_inj.1 (denotes.unique same)] at beyond
    exact beyond fits

/-- Labels are faithful to the values that they are read off, as long as no number is beyond the
range of labels. -/
theorem ofJson?_faithful (value : Json) :
    ((∀ label, ofJson? value = some label → value.Denotes label) ↔ ¬ value.Overflows) ∧
    (∀ label : Label, value.Denotes label → Integer.Fits label → ofJson? value = some label) ∧
    (∀ (other : Json) (label : Label) (q r : ℚ), ofJson? value = some label →
      ofJson? other = some label → value.Denotes q → other.Denotes r → q ≠ r →
        value.Overflows ∨ other.Overflows) ∧
    ∀ n : ℤ, ofJson? (.str (String.ofList (Json.writeInt n))) = ofJson? (.int n) ↔
      Integer.Fits n := by
  refine ⟨?faithful, ?complete, ?apart, ?alike⟩
  case faithful =>
    constructor
    · intro faithful overflows
      obtain ⟨label, found, other⟩ := exists_of_overflows overflows
      exact other (faithful label found)
    · exact fun within label found => denotes_of_ofJson? found within
  case complete => exact fun label => ofJson?_of_denotes
  case apart =>
    intro other label q r fromValue fromOther isValue isOther apart
    by_contra within
    have ⟨withinValue, withinOther⟩ := not_or.1 within
    have valueIs := (denotes_of_ofJson? fromValue withinValue).unique isValue
    have otherIs := (denotes_of_ofJson? fromOther withinOther).unique isOther
    exact apart (valueIs.symm.trans otherIs)
  case alike =>
    intro n
    rw [ofJson?_writeInt, ofJson?_int]
    split
    · next fits => simp [fits, Integer.clamp_of_fits fits]
    · next beyond => simp [beyond]

/-- A text with a sign, a zero in front and blanks around is read. The greatest label and the double
after it become one label, of which one must be beyond the range. -/
theorem ofJson?_faithful_extremes :
    ofJson? (.str " +042\n") = some 42 ∧
      ((Json.int 9223372036854775807).Overflows ∨
        (Json.float 9223372036854775808).Overflows) := by
  obtain ⟨_, complete, _⟩ := ofJson?_faithful (.str " +042\n")
  obtain ⟨_, _, apart, _⟩ := ofJson?_faithful (.int 9223372036854775807)
  have spells : Integer.Spells ['+', '0', '4', '2'] (42 : ℕ) := .plus ⟨by simp, by simp, rfl⟩
  have parts : Binary.ofFloat? 9223372036854775808 = some ⟨false, 4503599627370496, 11⟩ := rfl
  refine ⟨complete 42 (.str spells) (by decide), ?_⟩
  apply apart _ 9223372036854775807 _ _ rfl (by decide) (.int _) (.float parts)
  norm_num [Binary.value]

/-- The integer after the greatest label becomes the greatest label as a number, and none as a text.
-/
theorem ofJson?_merges_greatest :
    ofJson? (.int 9223372036854775808) = ofJson? (.int 9223372036854775807) ∧
      ¬ Denotes (.int 9223372036854775808) 9223372036854775807 ∧
      ofJson? (.str "9223372036854775808") = none := by
  refine ⟨rfl, ?_, rfl⟩
  rw [Json.denotes_int_iff]
  norm_num

end Label

end LogDrift
