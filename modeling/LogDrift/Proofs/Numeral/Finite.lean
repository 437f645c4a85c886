import Mathlib
import LogDrift.Json.Number

/-!
# Numbers that stay finite

Integers of 64 bits are finite as doubles, and so are the quotients of finite doubles by powers of
ten. Every number that the reader of documents takes for a double is therefore finite.
-/

namespace LogDrift

open Float.Model Float.Model.UnpackedFloat

namespace Rounding

/-- Whether a number that is taken apart is zero, or a significand of at most 53 bits times a power
of two that is at most `limit`. -/
inductive Below (limit : Int) : UnpackedFloat → Prop
  | zero (sign : Sign) : Below limit (.zero sign)
  | finite {sign : Sign} {significand : Nat} {exponent : Int} {positive : 0 < significand}
    (short : significand < 2 ^ 53) (small : exponent ≤ limit) :
    Below limit (.finite sign significand exponent positive)

theorem Below.isFinite {limit : Int} {number : UnpackedFloat} (below : Below limit number) :
    number.isFinite = true := by
  cases below <;> rfl

/-! ## Rounding -/

theorem log2_le_of_lt {n k : Nat} (small : n < 2 ^ (k + 1)) : n.log2 ≤ k := by
  by_cases zero : n = 0
  · simp [zero]
  · have := (Nat.log2_lt zero).2 small
    omega

theorem log2_shiftLeft {n : Nat} (present : n ≠ 0) (places : Nat) :
    (n <<< places).log2 = n.log2 + places := by
  induction places with
  | zero => rfl
  | succ places ih =>
    have shifted : n <<< places ≠ 0 := by
      rw [Nat.shiftLeft_eq]
      exact Nat.mul_ne_zero present (Nat.ne_of_gt (Nat.two_pow_pos places))
    rw [Nat.shiftLeft_succ, Nat.log2_two_mul shifted, ih, Nat.add_assoc]

@[simp] theorem mantissa_shiftRight (extended : ExtendedMantissa) (places : Nat) :
    (extended >>> places).mantissa = extended.mantissa / 2 ^ places := by
  induction places with
  | zero => simp [HShiftRight.hShiftRight, Nat.repeat]
  | succ places ih =>
    show (extended >>> places).mantissa / 2 = _
    rw [ih, Nat.div_div_eq_div_mul, Nat.pow_succ]

@[simp] theorem mantissa_ofMantissaAndAccuracy (mantissa : Nat) (accuracy : Accuracy) :
    (ExtendedMantissa.ofMantissaAndAccuracy mantissa accuracy).mantissa = mantissa := by
  rcases accuracy with _ | _ | _ | _ <;> rfl

theorem roundedMantissa_le (extended : ExtendedMantissa) :
    extended.roundedMantissa ≤ extended.mantissa + 1 := by
  rcases extended with ⟨mantissa, _ | _, _ | _⟩ <;>
    simp only [ExtendedMantissa.roundedMantissa, ExtendedMantissa.accuracy,
      Accuracy.roundToNearestEven] <;> omega

/-- Shifting to the exponent of the format leaves at most 53 bits. -/
theorem mantissa_shiftToTargetExponent_lt (mantissa : Nat) (exponent : Int)
    (accuracy : Accuracy) :
    (shiftToTargetExponent Format.binary64 mantissa exponent accuracy).1.mantissa < 2 ^ 53 := by
  simp only [shiftToTargetExponent, shiftToExponent, mantissa_shiftRight,
    mantissa_ofMantissaAndAccuracy]
  rw [Nat.div_lt_iff_lt_mul (Nat.two_pow_pos _), ← Nat.pow_add]
  apply Nat.lt_of_lt_of_le Nat.lt_log2_self
  apply Nat.pow_le_pow_right (by decide)
  simp only [Format.targetExponent, totalExponent, Format.mantissaBits]
  omega

theorem exponent_shiftToTargetExponent (mantissa : Nat) (exponent : Int) (accuracy : Accuracy) :
    (shiftToTargetExponent Format.binary64 mantissa exponent accuracy).2 =
      max exponent (max (totalExponent mantissa exponent - 53) (-1074)) := by
  have format : Format.binary64.targetExponent (totalExponent mantissa exponent) =
      max (totalExponent mantissa exponent - 53) (-1074) := rfl
  simp only [shiftToTargetExponent, shiftToExponent, format]
  omega

/-- Rounding raises the exponent by at most one over that of the digits that are kept. -/
theorem below_roundWithAccuracy {limit : Int} (sign : Sign) {mantissa : Nat} {exponent : Int}
    (accuracy : Accuracy) (subnormal : -1074 < limit) (small : exponent < limit)
    (magnitude : totalExponent mantissa exponent ≤ limit + 52) :
    Below limit (roundWithAccuracy Format.binary64 sign mantissa exponent accuracy) := by
  have kept := mantissa_shiftToTargetExponent_lt mantissa exponent accuracy
  have placed := exponent_shiftToTargetExponent mantissa exponent accuracy
  simp only [roundWithAccuracy]
  generalize shiftToTargetExponent Format.binary64 mantissa exponent accuracy = first at *
  have rounded := roundedMantissa_le first.1
  have digits : first.1.roundedMantissa.log2 ≤ 53 := log2_le_of_lt (by omega)
  split
  · exact .zero sign
  · apply Below.finite
    · exact mantissa_shiftToTargetExponent_lt _ _ _
    · rw [exponent_shiftToTargetExponent]
      simp only [totalExponent] at *
      omega

/-! ## Packed numbers -/

/-- The field that holds the exponent of a packed number. -/
def exponentField (bits : BitVec Format.binary64.numBits) : Nat :=
  (@unpackExponent Format.binary64 bits).toNat

@[simp]
theorem exponentField_packComponents (sign : Sign) (exponent : BitVec 11) (mantissa : BitVec 52) :
    exponentField (packComponents Format.binary64 sign exponent mantissa) = exponent.toNat :=
  congrArg BitVec.toNat unpackExponent_packComponents

@[simp] theorem exponentBias_eq : Format.binary64.exponentBias = 1023 := rfl

theorem below_unpack {limit : Int} {bits : BitVec Format.binary64.numBits}
    (subnormal : -1074 ≤ limit) (normal : limit ≤ 971)
    (field : exponentField bits ≤ limit + 1075) :
    Below limit (UnpackedFloat.unpack Format.binary64 bits) := by
  simp only [exponentField] at field
  unfold UnpackedFloat.unpack
  simp only [exponentBias_eq]
  split
  · next greatest =>
    rw [greatest] at field
    have : (-1#11).toNat = 2047 := by decide
    omega
  · split
    · next least =>
      split
      · exact .zero _
      · apply Below.finite
        · exact Nat.lt_trans (BitVec.isLt _) (by decide)
        · simp [least]
          omega
    · apply Below.finite
      · exact BitVec.isLt _
      · omega

/-- The exponent field of a number that is not too great is in range. -/
theorem exponentField_pack_le {limit : Int} {number : UnpackedFloat} (subnormal : -1074 ≤ limit)
    (normal : limit ≤ 971) (below : Below limit number) :
    exponentField (UnpackedFloat.pack Format.binary64 number) ≤ limit + 1075 := by
  cases below with
  | zero sign =>
    rw [UnpackedFloat.pack, packedZero, exponentField_packComponents]
    simp
    omega
  | @finite sign significand exponent positive short small =>
    have room : ¬ 2 ^ Format.binary64.exponentBits ≤ (exponent + Format.binary64.exponentBias
        + Format.binary64.mantissaBitsWithoutImplicit).toNat + 1 := by
      rw [exponentBias_eq]
      simp only
      omega
    rw [UnpackedFloat.pack]
    simp only
    rw [if_neg room]
    by_cases full : significand.log2 + 1 = Format.binary64.mantissaBits
    · rw [if_pos full, exponentField_packComponents, BitVec.toNat_ofNat, exponentBias_eq]
      omega
    · rw [if_neg full, exponentField_packComponents, BitVec.toNat_zero]
      omega

/-- Packing keeps a bound. -/
theorem below_unpack_pack {limit : Int} {number : UnpackedFloat} (subnormal : -1074 ≤ limit)
    (normal : limit ≤ 971) (below : Below limit number) :
    Below limit (Float.Model.pack number).unpack :=
  below_unpack subnormal normal (exponentField_pack_le subnormal normal below)

/-! ## Finite numbers -/

theorem exponentField_toBits (x : Float) :
    exponentField x.toModel.toBits.toBitVec = x.toBits.toNat / 2 ^ 52 % 2 ^ 11 := by
  simp [exponentField, unpackExponent, BitVec.extractLsb, BitVec.extractLsb',
    Nat.shiftRight_eq_div_pow, Float.toBits]

/-- A number is finite exactly when its exponent field is not the greatest one. -/
theorem isFinite_iff {x : Float} :
    x.isFinite = true ↔ exponentField x.toModel.toBits.toBitVec ≠ 2047 := by
  have number : (-1#11).toNat = 2047 := by decide
  have top : @unpackExponent Format.binary64 x.toModel.toBits.toBitVec = (-1#11) ↔
      exponentField x.toModel.toBits.toBitVec = 2047 := by
    rw [exponentField, ← number, BitVec.toNat_inj]
  rw [ne_eq, ← top]
  show (UnpackedFloat.unpack Format.binary64 x.toModel.toBits.toBitVec).isFinite = true ↔ _
  unfold UnpackedFloat.unpack
  simp only
  split
  · next greatest =>
    split <;> simp [UnpackedFloat.isFinite, greatest]
  · next other =>
    split
    · split <;> exact iff_of_true rfl other
    · exact iff_of_true rfl other

/-- A number has parts exactly when it is finite. -/
theorem isSome_ofFloat?_iff {x : Float} :
    (Binary.ofFloat? x).isSome = true ↔ x.isFinite = true := by
  rw [isFinite_iff, exponentField_toBits, Binary.ofFloat?]
  simp only [Nat.pow_eq]
  grind

theorem below_of_isFinite {x : Float} (finite : x.isFinite = true) :
    Below 971 x.toModel.unpack := by
  apply below_unpack (by decide) (by decide)
  have small : exponentField x.toModel.toBits.toBitVec < 2 ^ 11 := BitVec.isLt _
  have other := isFinite_iff.1 finite
  omega

theorem isFinite_of_below {limit : Int} {x : Float} (below : Below limit x.toModel.unpack) :
    x.isFinite = true :=
  below.isFinite

theorem below_neg {limit : Int} {number : UnpackedFloat} (below : Below limit number) :
    Below limit number.neg := by
  cases below with
  | zero sign => exact .zero _
  | finite short small => exact .finite short small

theorem isFinite_neg {x : Float} (finite : x.isFinite = true) : (-x).isFinite = true := by
  have below := below_neg (below_of_isFinite finite)
  exact isFinite_of_below (below_unpack_pack (by decide) (by decide) below)

/-! ## Products and quotients -/

/-- Whether a number is at least two, whatever its sign. -/
def AtLeastTwo : UnpackedFloat → Prop
  | .finite _ significand exponent _ => 2 ≤ totalExponent significand exponent
  | _ => False

instance : DecidablePred AtLeastTwo := fun number =>
  match number with
  | .finite _ significand exponent _ =>
    inferInstanceAs (Decidable (2 ≤ totalExponent significand exponent))
  | .zero _ => .isFalse id
  | .infinity _ => .isFalse id
  | .notANumber => .isFalse id

/-- The digits of a quotient reach at most one place further than those of the dividend over those
of the divisor. -/
theorem log2_div_add_le {dividend divisor : Nat} (positive : 0 < divisor)
    (quotient : dividend / divisor ≠ 0) :
    (dividend / divisor).log2 + divisor.log2 ≤ dividend.log2 := by
  have product : 2 ^ ((dividend / divisor).log2 + divisor.log2) ≤ dividend := by
    rw [Nat.pow_add]
    calc 2 ^ (dividend / divisor).log2 * 2 ^ divisor.log2
        ≤ dividend / divisor * divisor :=
          Nat.mul_le_mul (Nat.log2_self_le quotient) (Nat.log2_self_le (Nat.ne_of_gt positive))
      _ ≤ dividend := Nat.div_mul_le_self _ _
  have present : dividend ≠ 0 := by
    intro zero
    simp [zero] at quotient
  exact (Nat.le_log2 present).2 product

/-- A number over a divisor that is at least two does not get too great. -/
theorem below_div {dividend divisor : UnpackedFloat} (below : Below 971 dividend)
    (large : AtLeastTwo divisor) :
    Below 971 (UnpackedFloat.div Format.binary64 dividend divisor) := by
  cases divisor with
  | infinity => exact large.elim
  | notANumber => exact large.elim
  | zero => exact large.elim
  | finite sign₂ m₂ e₂ positive₂ =>
    cases below with
    | zero sign => exact .zero _
    | @finite sign₁ m₁ e₁ positive₁ short small =>
      have digits : m₁.log2 ≤ 52 := log2_le_of_lt short
      have format : ∀ total, Format.binary64.targetExponent total = max (total - 53) (-1074) :=
        fun _ => rfl
      simp only [AtLeastTwo, totalExponent] at large
      simp only [UnpackedFloat.div, divCore, format, totalExponent]
      generalize target : min (e₁ - e₂) (max (m₁.log2 + 1 + e₁ - (m₂.log2 + 1 + e₂) - 53) (-1074)) =
        exponent
      apply below_roundWithAccuracy _ _ (by decide) (by omega)
      rw [totalExponent]
      by_cases quotient : m₁ <<< (e₁ - e₂ - exponent).toNat / m₂ = 0
      · simp only [quotient, Nat.log2_zero]
        omega
      · have reach := log2_div_add_le positive₂ quotient
        rw [log2_shiftLeft (Nat.ne_of_gt positive₁)] at reach
        omega

/-- A quotient is finite when the divisor is at least two. -/
theorem isFinite_div {dividend divisor : Float} (finite : dividend.isFinite = true)
    (large : AtLeastTwo divisor.toModel.unpack) : (dividend / divisor).isFinite = true := by
  have below := below_div (below_of_isFinite finite) large
  exact isFinite_of_below (below_unpack_pack (by decide) (by decide) below)

/-- A product of integers that are small enough is not too great. -/
theorem below_mul {limit : Int} (sign₁ sign₂ : Sign) {m₁ m₂ : Nat} {e₁ e₂ : Int}
    (positive₁ : 0 < m₁) (positive₂ : 0 < m₂) (subnormal : -1074 < limit) (small : e₁ + e₂ < limit)
    (magnitude : totalExponent m₁ e₁ + totalExponent m₂ e₂ ≤ limit + 52) :
    Below limit (UnpackedFloat.mul Format.binary64 (.finite sign₁ m₁ e₁ positive₁)
      (.finite sign₂ m₂ e₂ positive₂)) := by
  apply below_roundWithAccuracy _ _ subnormal small
  have digits : m₁ * m₂ < 2 ^ ((m₁.log2 + m₂.log2 + 1) + 1) := by
    calc m₁ * m₂ < 2 ^ (m₁.log2 + 1) * 2 ^ (m₂.log2 + 1) :=
          Nat.mul_lt_mul'' Nat.lt_log2_self Nat.lt_log2_self
      _ = 2 ^ ((m₁.log2 + m₂.log2 + 1) + 1) := by rw [← Nat.pow_add]; congr 1; omega
  have reach := log2_le_of_lt digits
  simp only [totalExponent] at *
  omega

/-! ## Integers -/

/-- A natural number of 64 bits is not too great. -/
theorem below_ofNat {n : Nat} (fits : n < 2 ^ 64) :
    Below 12 (UnpackedFloat.ofNat Format.binary64 n) := by
  have digits : n.log2 ≤ 63 := log2_le_of_lt fits
  have format : ∀ total, Format.binary64.targetExponent total = max (total - 53) (-1074) :=
    fun _ => rfl
  rw [UnpackedFloat.ofNat, UnpackedFloat.ofInt, UnpackedFloat.normalize]
  rcases Nat.eq_zero_or_pos n with zero | positive
  · subst zero
    exact .zero _
  · have sign : compare (n : Int) 0 = .gt := by
      rw [Int.compare_eq_gt]
      omega
    rw [sign]
    simp only [UnpackedFloat.round, format, decreaseExponent, totalExponent, Int.toNat_natCast]
    generalize shift : (0 - max ((n.log2 : Int) + 1 + 0 - 53) (-1074)).toNat = places
    apply below_roundWithAccuracy _ _ (by decide) (by omega)
    rw [totalExponent, log2_shiftLeft (Nat.ne_of_gt positive)]
    omega

/-- Nothing gets too great by a factor of one. -/
theorem below_mul_one {number : UnpackedFloat} (below : Below 12 number) :
    Below 971 (UnpackedFloat.mul Format.binary64 number
      (.finite .positive (2 ^ 52) (-52) (by decide))) := by
  cases below with
  | zero sign => exact .zero _
  | @finite sign significand exponent positive short small =>
    have digits : significand.log2 ≤ 52 := log2_le_of_lt short
    apply below_mul _ _ _ _ (by decide) (by omega)
    simp only [totalExponent, Nat.log2_two_pow]
    omega

/-- A natural number of 64 bits times one is finite. -/
theorem isFinite_toFloat_mul_one {n : Nat} (fits : n < 2 ^ 64) :
    (n.toUInt64.toFloat * Float.ofBits 0x3FF0000000000000).isFinite = true := by
  have same : n.toUInt64.toNat = n := Nat.mod_eq_of_lt fits
  have factor : Below 12 n.toUInt64.toFloat.toModel.unpack := by
    apply below_unpack_pack (by decide) (by decide)
    rw [UnpackedFloat.ofUInt64, same]
    exact below_ofNat fits
  have one : (Float.ofBits 0x3FF0000000000000).toModel.unpack =
      .finite .positive (2 ^ 52) (-52) (by decide) := rfl
  have product := below_mul_one factor
  rw [← one] at product
  exact isFinite_of_below (below_unpack_pack (by decide) (by decide) product)

theorem below_ofScientific {n : Nat} (positive : 0 < n) (fits : n < 2 ^ 64) :
    Below 971 (UnpackedFloat.ofScientific Format.binary64 n 0) := by
  have digits : n.log2 ≤ 63 := log2_le_of_lt fits
  have present := Nat.ne_of_gt positive
  have notHuge : ¬ (0 : Int) > 2 ^ Format.binary64.exponentBits := by decide
  have notTiny : ¬ (0 : Int) < -((2 ^ Format.binary64.exponentBits : Int) + n.log2) := by
    have : (0 : Int) ≤ 2 ^ Format.binary64.exponentBits := by decide
    omega
  rw [UnpackedFloat.ofScientific, dif_neg present, if_neg notHuge, if_neg notTiny,
    if_pos (Int.le_refl 0)]
  have bits : Format.binary64.mantissaBits = 53 := rfl
  have shifted := log2_shiftLeft present Format.binary64.mantissaBits
  have one : (10 ^ (0 : Int).toNat).log2 = 0 := rfl
  have small : (-(Format.binary64.mantissaBits : Int) + 0) < 971 := by omega
  apply below_mul _ _ _ _ (by decide) small
  rw [totalExponent, totalExponent, shifted, one, bits]
  omega

theorem isFinite_ofNat {n : Nat} (fits : n ≤ Integer.greatestUnsigned) :
    (Float.ofNat n).isFinite = true := by
  have short : n < 2 ^ 64 := Nat.lt_of_le_of_lt fits (by decide)
  show (Float.ofScientific n false 0).isFinite = true
  rw [Float.ofScientific]
  split
  · exact isFinite_toFloat_mul_one short
  · next slow =>
    have positive : 0 < n := by omega
    have below := below_ofScientific positive short
    have packed := below_unpack_pack (by decide) (by decide) below
    exact isFinite_of_below packed

theorem isFinite_ofInt {n : Int} (least : Integer.least ≤ n)
    (greatest : n ≤ Integer.greatestUnsigned) : (Float.ofInt n).isFinite = true := by
  cases n with
  | ofNat n => exact isFinite_ofNat (Int.ofNat_le.1 greatest)
  | negSucc n =>
    apply isFinite_neg
    apply isFinite_ofNat
    simp only [Integer.least, Integer.greatestUnsigned] at *
    omega

end Rounding

namespace Json.Numeral

open Rounding

theorem atLeastTwo_power :
    ∀ exponent < greatestPower, AtLeastTwo (power (exponent + 1)).toModel.unpack := by
  decide +kernel

theorem isFinite_div_power {x : Float} {exponent : Nat} (finite : x.isFinite = true)
    (positive : 0 < exponent) (within : exponent ≤ greatestPower) :
    (x / power exponent).isFinite = true := by
  apply isFinite_div finite
  have large := atLeastTwo_power (exponent - 1) (by omega)
  rwa [Nat.sub_add_cancel positive] at large

theorem isFinite_divideByPower {x : Float} {exponent : Nat} (finite : x.isFinite = true)
    (positive : 0 < exponent) : (divideByPower x exponent).isFinite = true := by
  fun_induction divideByPower x exponent with
  | case1 x exponent within => exact isFinite_div_power finite positive within
  | case2 => exact finite
  | case3 x exponent beyond nonzero ih =>
    apply ih
    · exact isFinite_div_power finite (Nat.succ_pos 307) (Nat.le_refl greatestPower)
    · omega

theorem isFinite_scaled? {significand : Nat} {exponent : Int} {x : Float}
    (fits : significand ≤ Integer.greatestUnsigned)
    (found : scaled? significand exponent = some x) : x.isFinite = true := by
  have start := isFinite_ofNat fits
  simp only [scaled?] at found
  split at found
  · cases found
    exact isFinite_divideByPower start (by omega)
  · split at found
    · split at found
      · next read =>
        cases found
        exact isSome_ofFloat?_iff.1 read
      · cases found
    · split at found
      · cases found
        exact start
      · cases found

/-- Collected digits stay within 64 bits. -/
theorem collect_le {significand : Nat} (fits : significand ≤ Integer.greatestUnsigned)
    (digits : List Char) : (collect significand digits).1 ≤ Integer.greatestUnsigned := by
  induction digits generalizing significand with
  | nil => exact fits
  | cons c rest ih =>
    simp only [collect]
    split
    · next within => exact ih within
    · exact fits

theorem isFinite_float? {numeral : Numeral} {x : Float} (found : numeral.float? = some x) :
    x.isFinite = true := by
  simp only [float?, Option.map_eq_some_iff] at found
  rcases found with ⟨magnitude, scaled, rfl⟩
  have fits := collect_le (collect_le (Nat.zero_le _) numeral.whole) numeral.fraction
  have finite := isFinite_scaled? fits scaled
  split
  · exact isFinite_neg finite
  · exact finite

theorem int?_range {numeral : Numeral} {n : Int} (found : numeral.int? = some n) :
    Integer.least ≤ n ∧ n ≤ Integer.greatestUnsigned := by
  simp only [int?, Integer.least, Integer.greatestUnsigned] at *
  grind

end Json.Numeral

end LogDrift
