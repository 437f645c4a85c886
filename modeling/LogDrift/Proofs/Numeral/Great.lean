import Mathlib
import LogDrift.Proofs.Json.Numeral
import LogDrift.Proofs.Numeral.Finite

/-!
# Numbers that stay great

Rounding does not take a number below a power of two that it has reached. An integer beyond 64 bits
is therefore beyond them as a double too, however it is written and read, and its whole part is the
bound of the range.
-/

namespace LogDrift

open Float.Model Float.Model.UnpackedFloat

namespace Rounding

/-- Whether a number that is taken apart is infinite, or a significand of just 53 bits times a power
of two that is at least `limit`. -/
inductive Above (limit : Int) (sign : Sign) : UnpackedFloat → Prop
  | infinity : Above limit sign (.infinity sign)
  | finite {significand : Nat} {exponent : Int} {positive : 0 < significand}
    (full : significand.log2 = 52) (great : limit ≤ exponent) :
    Above limit sign (.finite sign significand exponent positive)

instance decidableEqSign : DecidableEq Sign
  | .positive, .positive => .isTrue rfl
  | .negative, .negative => .isTrue rfl
  | .positive, .negative => .isFalse nofun
  | .negative, .positive => .isFalse nofun

instance decidableAbove (limit : Int) (sign : Sign) : DecidablePred (Above limit sign)
  | .infinity other =>
    decidable_of_iff (other = sign) ⟨fun same => same ▸ .infinity, fun | .infinity => rfl⟩
  | .finite other significand exponent _ =>
    decidable_of_iff (other = sign ∧ significand.log2 = 52 ∧ limit ≤ exponent)
      ⟨fun ⟨same, full, great⟩ => same ▸ .finite full great,
        fun | .finite full great => ⟨rfl, full, great⟩⟩
  | .zero _ => .isFalse nofun
  | .notANumber => .isFalse nofun

variable {limit : Int} {sign : Sign}

/-! ## Rounding -/

theorem log2_div_two_pow {n places : Nat} (within : places ≤ n.log2) :
    (n / 2 ^ places).log2 = n.log2 - places := by
  by_cases zero : n = 0
  · simp [zero]
  · have lower : 2 ^ (n.log2 - places) ≤ n / 2 ^ places := by
      rw [Nat.le_div_iff_mul_le (Nat.two_pow_pos places), ← Nat.pow_add, Nat.sub_add_cancel within]
      exact Nat.log2_self_le zero
    have upper : n / 2 ^ places < 2 ^ (n.log2 - places + 1) := by
      rw [Nat.div_lt_iff_lt_mul (Nat.two_pow_pos places), ← Nat.pow_add,
        Nat.add_right_comm, Nat.sub_add_cancel within]
      exact Nat.lt_log2_self
    have present : n / 2 ^ places ≠ 0 := Nat.ne_of_gt (Nat.lt_of_lt_of_le (Nat.two_pow_pos _) lower)
    exact (Nat.log2_eq_iff present).mpr ⟨lower, upper⟩

theorem le_roundedMantissa (extended : ExtendedMantissa) :
    extended.mantissa ≤ extended.roundedMantissa := by
  rcases extended with ⟨mantissa, _ | _, _ | _⟩ <;>
    simp [ExtendedMantissa.roundedMantissa, ExtendedMantissa.accuracy, Accuracy.roundToNearestEven]

/-- Of a long mantissa 53 bits are left, and the exponent makes up for those that are dropped. -/
theorem shiftToTargetExponent_of_long {mantissa : Nat} (exponent : Int) (accuracy : Accuracy)
    (long : 52 ≤ mantissa.log2) (normal : -1074 ≤ exponent + (mantissa.log2 - 52 : Nat)) :
    (shiftToTargetExponent Format.binary64 mantissa exponent accuracy).1.mantissa.log2 = 52 ∧
      (shiftToTargetExponent Format.binary64 mantissa exponent accuracy).2 =
        exponent + (mantissa.log2 - 52 : Nat) := by
  constructor
  · have places : (Format.binary64.targetExponent (totalExponent mantissa exponent) -
        exponent).toNat = mantissa.log2 - 52 := by
      have format : Format.binary64.targetExponent (totalExponent mantissa exponent) =
          max (totalExponent mantissa exponent - 53) (-1074) := rfl
      rw [format, totalExponent]
      omega
    rw [shiftToTargetExponent, shiftToExponent, places, mantissa_shiftRight,
      mantissa_ofMantissaAndAccuracy, log2_div_two_pow (Nat.sub_le _ _)]
    omega
  · rw [exponent_shiftToTargetExponent, totalExponent]
    omega

/-- Rounding keeps a number above the power of two that it has reached. -/
theorem above_roundWithAccuracy (sign : Sign) {mantissa : Nat} {exponent : Int}
    (accuracy : Accuracy) (normal : -1074 ≤ limit) (long : 52 ≤ mantissa.log2)
    (great : limit + 53 ≤ totalExponent mantissa exponent) :
    Above limit sign (roundWithAccuracy Format.binary64 sign mantissa exponent accuracy) := by
  rw [totalExponent] at great
  obtain ⟨full, placed⟩ :=
    shiftToTargetExponent_of_long exponent accuracy long (by omega)
  simp only [roundWithAccuracy]
  generalize shiftToTargetExponent Format.binary64 mantissa exponent accuracy = first at *
  have kept : first.1.mantissa ≠ 0 := by
    intro zero
    rw [zero] at full
    cases full
  have reached : 2 ^ 52 ≤ first.1.roundedMantissa :=
    Nat.le_trans (full ▸ Nat.log2_self_le kept) (le_roundedMantissa first.1)
  have present : first.1.roundedMantissa ≠ 0 :=
    Nat.ne_of_gt (Nat.lt_of_lt_of_le (by decide) reached)
  have digits : 52 ≤ first.1.roundedMantissa.log2 := (Nat.le_log2 present).mpr reached
  obtain ⟨full, placed⟩ :=
    shiftToTargetExponent_of_long first.2 .exact digits (by omega)
  split
  · next zero =>
    rw [zero] at full
    cases full
  · exact .finite full (by omega)

/-! ## Products, negatives and integers -/

theorem above_neg {number : UnpackedFloat} (above : Above limit sign number) :
    Above limit (-sign) number.neg := by
  cases above with
  | infinity => exact .infinity
  | finite full great => exact .finite full great

/-- A product of integers that is long enough is as great as its exponent says. -/
theorem above_mul_of_long (sign₁ sign₂ : Sign) {m₁ m₂ : Nat} {e₁ e₂ : Int} (positive₁ : 0 < m₁)
    (positive₂ : 0 < m₂) (normal : -1074 ≤ limit) (long : 52 ≤ (m₁ * m₂).log2)
    (great : limit + 53 ≤ totalExponent (m₁ * m₂) (e₁ + e₂)) :
    Above limit (sign₁ * sign₂) (UnpackedFloat.mul Format.binary64 (.finite sign₁ m₁ e₁ positive₁)
      (.finite sign₂ m₂ e₂ positive₂)) :=
  above_roundWithAccuracy _ _ normal long great

/-- A product is at least as great as the product of what its factors have reached. -/
theorem above_mul {limit' : Int} {sign' : Sign} {left right : UnpackedFloat}
    (isLeft : Above limit sign left) (isRight : Above limit' sign' right)
    (normal : -1074 ≤ limit + limit' + 52) :
    Above (limit + limit' + 52) (sign * sign') (UnpackedFloat.mul Format.binary64 left right) := by
  cases isLeft with
  | infinity =>
    cases isRight with
    | infinity => exact .infinity
    | finite => exact .infinity
  | @finite m e positive full great =>
    cases isRight with
    | infinity => exact .infinity
    | @finite m' e' positive' full' great' =>
      have product : 104 ≤ (m * m').log2 := by
        rw [Nat.le_log2 (Nat.ne_of_gt (Nat.mul_pos positive positive'))]
        calc 2 ^ 104 = 2 ^ m.log2 * 2 ^ m'.log2 := by rw [full, full', ← Nat.pow_add]
          _ ≤ m * m' := Nat.mul_le_mul (Nat.log2_self_le (Nat.ne_of_gt positive))
            (Nat.log2_self_le (Nat.ne_of_gt positive'))
      apply above_mul_of_long _ _ _ _ normal (by omega)
      rw [totalExponent]
      omega

/-- A natural number times a power of ten is at least as great as the power of two that it has
reached. -/
theorem above_ofScientific {n places : Nat} (present : n ≠ 0) (within : places ≤ 2048)
    (long : limit + 52 ≤ (n * 10 ^ places).log2) (normal : -1074 ≤ limit) :
    Above limit .positive (UnpackedFloat.ofScientific Format.binary64 n places) := by
  have bits : Format.binary64.mantissaBits = 53 := rfl
  have reach : (2 ^ Format.binary64.exponentBits : Int) = 2048 := rfl
  have notHuge : ¬ (places : Int) > 2 ^ Format.binary64.exponentBits := by omega
  have notTiny : ¬ (places : Int) < -((2 ^ Format.binary64.exponentBits : Int) + n.log2) := by omega
  rw [UnpackedFloat.ofScientific, dif_neg present, if_neg notHuge, if_neg notTiny,
    if_pos (Int.natCast_nonneg places)]
  have product : n * 10 ^ places ≠ 0 :=
    Nat.mul_ne_zero present (Nat.ne_of_gt (Nat.pow_pos (by decide)))
  have shifted : (n <<< Format.binary64.mantissaBits * 10 ^ (places : Int).toNat).log2 =
      (n * 10 ^ places).log2 + 53 := by
    rw [Int.toNat_natCast, Nat.shiftLeft_eq, Nat.mul_right_comm, ← Nat.shiftLeft_eq,
      log2_shiftLeft product, bits]
  apply above_mul_of_long .positive .positive _ _ normal
  · omega
  · rw [totalExponent, shifted, bits]
    omega

/-! ## Packed numbers -/

@[simp] theorem unpackSign_packComponents {format : Format} {sign : Sign}
    {exponent : BitVec format.exponentBits} {mantissa : BitVec format.mantissaBitsWithoutImplicit} :
    unpackSign (packComponents format sign exponent mantissa) = sign.toBitVec := by
  apply BitVec.eq_of_getLsbD_eq
  intro place inside
  have first : place = 0 := by omega
  subst first
  simp [unpackSign, packComponents, BitVec.getLsbD_append, BitVec.getElem_append]

@[simp] theorem ofBitVec_toBitVec (sign : Sign) : Sign.ofBitVec sign.toBitVec = sign := by
  cases sign <;> rfl

@[simp] theorem toNat_append_one (mantissa : BitVec 52) :
    (1#1 ++ mantissa).toNat = 2 ^ 52 + mantissa.toNat := by
  rw [BitVec.toNat_append, ← Nat.shiftLeft_add_eq_or_of_lt mantissa.isLt]
  rfl

/-- The mantissa of a packed number has 53 bits with the one that is left out. -/
@[simp] theorem log2_append_one (mantissa : BitVec 52) : (1#1 ++ mantissa).toNat.log2 = 52 := by
  rw [toNat_append_one, Nat.log2_eq_iff (by omega)]
  exact ⟨Nat.le_add_right _ _, by have := mantissa.isLt; omega⟩

theorem above_unpack_packedInfinity (limit : Int) (sign : Sign) :
    Above limit sign
      (UnpackedFloat.unpack Format.binary64 (packedInfinity Format.binary64 sign)) := by
  have same : UnpackedFloat.unpack Format.binary64 (packedInfinity Format.binary64 sign) =
      .infinity sign := by
    cases sign <;> rfl
  rw [same]
  exact .infinity

/-- Packing keeps a number great. -/
theorem above_unpack_pack {number : UnpackedFloat} (normal : -1074 ≤ limit)
    (above : Above limit sign number) : Above limit sign (Float.Model.pack number).unpack := by
  cases above with
  | infinity => exact above_unpack_packedInfinity limit sign
  | @finite significand exponent positive full great =>
    show Above limit sign (UnpackedFloat.unpack Format.binary64
      (UnpackedFloat.pack Format.binary64 (.finite sign significand exponent positive)))
    rw [UnpackedFloat.pack]
    simp only
    generalize biased : (exponent + Format.binary64.exponentBias +
      Format.binary64.mantissaBitsWithoutImplicit).toNat = field
    rw [exponentBias_eq] at biased
    simp only at biased
    by_cases room : 2 ^ Format.binary64.exponentBits ≤ field + 1
    · rw [if_pos room]
      exact above_unpack_packedInfinity limit sign
    · have normalized : significand.log2 + 1 = Format.binary64.mantissaBits := congrArg (· + 1) full
      rw [if_neg room, if_pos normalized]
      have bits : (2 : Nat) ^ Format.binary64.exponentBits = 2048 := rfl
      have kept : (BitVec.ofNat Format.binary64.exponentBits field).toNat = field := by
        rw [BitVec.toNat_ofNat, bits, Nat.mod_eq_of_lt (by omega)]
      have notGreatest : BitVec.ofNat Format.binary64.exponentBits field ≠ -1#_ := by
        intro same
        have value := congrArg BitVec.toNat same
        rw [kept] at value
        have greatest : (-1#_ : BitVec Format.binary64.exponentBits).toNat = 2047 := by decide
        omega
      have notLeast : BitVec.ofNat Format.binary64.exponentBits field ≠ 0#_ := by
        intro same
        have value := congrArg BitVec.toNat same
        rw [kept, BitVec.toNat_zero] at value
        omega
      unfold UnpackedFloat.unpack
      simp only [unpackExponent_packComponents, unpackSign_packComponents, ofBitVec_toBitVec,
        if_neg notGreatest, if_neg notLeast, kept, exponentBias_eq]
      apply Above.finite
      · exact log2_append_one _
      · omega

/-! ## Whole parts -/

theorem toNat_unpackMantissa (x : Float) :
    (@unpackMantissa Format.binary64 x.toModel.toBits.toBitVec).toNat =
      x.toBits.toNat % 2 ^ 52 := by
  simp [unpackMantissa, BitVec.extractLsb, BitVec.extractLsb', Float.toBits]

theorem toNat_unpackSign (x : Float) :
    (@unpackSign Format.binary64 x.toModel.toBits.toBitVec).toNat = x.toBits.toNat / 2 ^ 63 := by
  have bits : x.toModel.toBits.toNat < 2 ^ 64 := x.toModel.toBits.toNat_lt
  have small : x.toModel.toBits.toNat / 2 ^ 63 ≤ 1 := by omega
  simpa [unpackSign, BitVec.extractLsb, BitVec.extractLsb', Float.toBits,
    Nat.shiftRight_eq_div_pow] using small

theorem ofBitVec_eq_negative (bit : BitVec 1) :
    (Sign.ofBitVec bit == .negative) = (bit.toNat == 1) := by
  revert bit
  decide

/-- The parts of a finite number are those that it is taken apart into. -/
theorem ofFloat?_of_unpack {x : Float} {significand : Nat} {exponent : Int}
    {positive : 0 < significand}
    (taken : x.toModel.unpack = .finite sign significand exponent positive) :
    Binary.ofFloat? x = some ⟨sign == .negative, significand, exponent⟩ := by
  have field := exponentField_toBits x
  simp only [exponentField] at field
  simp only [Binary.ofFloat?, Nat.pow_eq, ← field, ← toNat_unpackMantissa, ← toNat_unpackSign,
    ← ofBitVec_eq_negative]
  simp only [Float.Model.unpack] at taken
  unfold UnpackedFloat.unpack at taken
  simp only [exponentBias_eq] at taken
  have number : (-1#11).toNat = 2047 := by decide
  split at taken
  · split at taken <;> cases taken
  · next other =>
    have below : (@unpackExponent Format.binary64 x.toModel.toBits.toBitVec).toNat ≠ 2047 := by
      rw [← number, ne_eq, BitVec.toNat_inj]
      exact other
    rw [if_neg below]
    split at taken
    · next least =>
      split at taken
      · cases taken
      · injection taken with signs significands exponents
        have zero : (@unpackExponent Format.binary64 x.toModel.toBits.toBitVec).toNat = 0 := by
          rw [least]
          rfl
        rw [if_pos zero, ← signs, ← significands, ← exponents, zero]
        rfl
    · next normal =>
      injection taken with signs significands exponents
      have nonzero : (@unpackExponent Format.binary64 x.toModel.toBits.toBitVec).toNat ≠ 0 := by
        rw [← BitVec.toNat_zero (w := 11), ne_eq, BitVec.toNat_inj]
        exact normal
      rw [if_neg nonzero, ← signs, ← significands, ← exponents, toNat_append_one]
      rfl

theorem ofFloat?_of_infinite {x : Float} (taken : x.toModel.unpack = .infinity sign) :
    Binary.ofFloat? x = none := by
  rw [← Option.not_isSome_iff_eq_none, isSome_ofFloat?_iff]
  intro finite
  rw [show x.isFinite = x.toModel.unpack.isFinite from rfl, taken] at finite
  cases finite

theorem lt_iff_lt {x y : Float} : x < y ↔ x.toModel.unpack.lt y.toModel.unpack = true :=
  decide_eq_true_iff

/-- The bound of the 64-bit integers on the side of a sign. -/
def bound : Sign → Int
  | .positive => Integer.greatest
  | .negative => Integer.least

/-- The whole part of a number beyond 64 bits is the bound of the range. -/
theorem wholePart_of_above {x : Float} (above : Above 11 sign x.toModel.unpack) :
    Binary.wholePart Binary.truncate x = bound sign := by
  generalize taken : x.toModel.unpack = number at above
  cases above with
  | infinity =>
    have zero : (0 : Float).toModel.unpack = .zero .positive := rfl
    rw [Binary.wholePart, ofFloat?_of_infinite taken]
    cases sign with
    | positive => simp [lt_iff_lt, taken, zero, UnpackedFloat.lt, UnpackedFloat.compare, bound]
    | negative => simp [lt_iff_lt, taken, zero, UnpackedFloat.lt, UnpackedFloat.compare, bound]
  | @finite significand exponent positive full great =>
    rw [Binary.wholePart, ofFloat?_of_unpack taken]
    have magnitude : 2 ^ 63 ≤ significand * 2 ^ exponent.toNat := by
      calc 2 ^ 63 = 2 ^ significand.log2 * 2 ^ 11 := by rw [full, ← Nat.pow_add]
        _ ≤ significand * 2 ^ exponent.toNat :=
          Nat.mul_le_mul (Nat.log2_self_le (Nat.ne_of_gt positive))
            (Nat.pow_le_pow_right (by decide) (by omega))
    have whole : (-exponent).toNat = 0 := by omega
    have truncated (negative : Bool) : Binary.truncate ⟨negative, significand, exponent⟩ =
        if negative then -((significand * 2 ^ exponent.toNat : Nat) : Int)
        else ((significand * 2 ^ exponent.toNat : Nat) : Int) := by
      simp [Binary.truncate, Binary.signedNumerator, Binary.numerator, Binary.denominator, whole]
    simp only [truncated, Integer.clamp, Integer.greatest, Integer.least]
    generalize significand * 2 ^ exponent.toNat = product at magnitude
    cases sign with
    | positive =>
      show max _ (min (product : Int) _) = Integer.greatest
      simp only [Integer.greatest]
      omega
    | negative =>
      show max _ (min (-product : Int) _) = Integer.least
      simp only [Integer.least]
      omega

/-! ## Great doubles -/

/-- Whether a double has reached `2 ^ (limit + 52)` in magnitude. -/
def Reaches (limit : Int) (sign : Sign) (x : Float) : Prop :=
  Above limit sign x.toModel.unpack

variable {x y : Float} {limit' : Int} {sign' : Sign}

theorem Reaches.neg (reaches : Reaches limit sign x) (normal : -1074 ≤ limit) :
    Reaches limit (-sign) (-x) :=
  above_unpack_pack normal (above_neg reaches)

theorem Reaches.mul (isLeft : Reaches limit sign x) (isRight : Reaches limit' sign' y)
    (normal : -1074 ≤ limit + limit' + 52) :
    Reaches (limit + limit' + 52) (sign * sign') (x * y) :=
  above_unpack_pack normal (above_mul isLeft isRight normal)

/-- The table of the first powers of ten is used for small numbers only. -/
theorem reaches_ofScientific {n places : Nat} (slow : 2 ^ 53 ≤ n ∨ 22 < places) (present : n ≠ 0)
    (within : places ≤ 2048) (long : limit + 52 ≤ (n * 10 ^ places).log2) (normal : -1074 ≤ limit) :
    Reaches limit .positive (Float.ofScientific n false places) := by
  have untabled : ¬ (n < 2 ^ 53 ∧ places ≤ 22) := by omega
  rw [Float.ofScientific, dif_neg untabled]
  exact above_unpack_pack normal (above_ofScientific present within long normal)

/-- A natural number of more than 53 bits is as great as a double. -/
theorem reaches_ofNat {n : Nat} (slow : 2 ^ 53 ≤ n) (long : limit + 52 ≤ n.log2)
    (normal : -1074 ≤ limit) : Reaches limit .positive (Float.ofNat n) :=
  reaches_ofScientific (.inl slow) (by omega) (by decide) (by simpa using long) normal

theorem Reaches.wholePart (reaches : Reaches 11 sign x) :
    Binary.wholePart Binary.truncate x = bound sign :=
  wholePart_of_above reaches

/-- A great double is no zero. -/
theorem Reaches.ne_zero (reaches : Reaches limit sign x) : (x == 0) = false := by
  have zero : (0 : Float).toModel.unpack = .zero .positive := rfl
  have apart {number : UnpackedFloat} (above : Above limit sign number) :
      (number.compare (.zero .positive) == some .eq) = false := by
    cases above with
    | infinity => cases sign <;> rfl
    | finite => cases sign <;> rfl
  show (x.toModel.unpack.compare (0 : Float).toModel.unpack == some .eq) = false
  rw [zero]
  exact apart reaches

end Rounding

namespace Decimal

open Rounding

/-- A natural number beyond 64 bits is read as a double beyond them. -/
theorem reaches_nearestFloat {n : Nat} (great : 2 ^ 63 ≤ n) :
    Reaches 11 .positive (nearestFloat n 0) := by
  have long : 63 ≤ n.log2 := (Nat.le_log2 (by omega)).mpr great
  simp only [nearestFloat]
  split
  · omega
  · split
    · exact .infinity
    · exact reaches_ofNat (by omega) (by omega) (by decide)

end Decimal

namespace Json.Numeral

open Rounding

theorem above_power :
    ∀ places < 22, Above (-49) .positive (power (places + 1)).toModel.unpack := by
  decide +kernel

theorem reaches_power {places : Nat} (present : 0 < places) (within : places ≤ greatestPower) :
    Reaches (-49) .positive (power places) := by
  rcases Nat.lt_or_ge 22 places with slow | tabled
  · have eight : 2 ^ 3 ≤ 10 ^ places :=
      Nat.le_trans (by decide) (Nat.pow_le_pow_right (by decide) present)
    have long : 3 ≤ (1 * 10 ^ places).log2 := by
      rw [Nat.one_mul, Nat.le_log2 (by omega)]
      exact eight
    rw [greatestPower] at within
    exact reaches_ofScientific (.inr slow) (by decide) (by omega) (by omega) (by decide)
  · have above := above_power (places - 1) (by omega)
    rwa [Nat.sub_add_cancel present] at above

theorem reaches_power_zero : Reaches (-52) .positive (power 0) := by
  show Above (-52) .positive (power 0).toModel.unpack
  decide +kernel

/-- A significand of 63 bits reaches beyond 64 bits, and one that fills 64 bits does with a power of
ten. -/
theorem reaches_scaled? {significand places : Nat} {x : Float}
    (great : 2 ^ 63 ≤ significand ∧ places = 0 ∨ 2 ^ 60 ≤ significand ∧ 0 < places)
    (found : scaled? significand places = some x) : Reaches 11 .positive x := by
  have nonnegative : ¬ (places : Int) < 0 := by omega
  simp only [scaled?, if_neg nonnegative, Int.toNat_natCast] at found
  rcases great with ⟨great, rfl⟩ | ⟨great, present⟩
  · have long : 63 ≤ significand.log2 := (Nat.le_log2 (by omega)).mpr great
    have start : Reaches 11 .positive (Float.ofNat significand) :=
      reaches_ofNat (by omega) (by omega) (by decide)
    rw [if_pos (Nat.zero_le _)] at found
    split at found
    · cases found
      exact start.mul reaches_power_zero (by decide)
    · cases found
  · have long : 60 ≤ significand.log2 := (Nat.le_log2 (by omega)).mpr great
    have start : Reaches 8 .positive (Float.ofNat significand) :=
      reaches_ofNat (by omega) (by omega) (by decide)
    rw [start.ne_zero] at found
    split at found
    · next within =>
      split at found
      · cases found
        exact start.mul (reaches_power present within) (by decide)
      · cases found
    · cases found

/-- Digits are collected up to the last one, or up to where the significand fills 64 bits. -/
theorem collect_cases (significand : Nat) {digits : List Char}
    (all : ∀ c ∈ digits, c.isDigit = true) :
    collect significand digits = (digits.foldl (fun value c =>
        value * 10 + (Integer.digit? c).getD 0) significand, []) ∨
      Integer.greatestUnsigned < (collect significand digits).1 * 10 + 9 ∧
        0 < (collect significand digits).2.length := by
  induction digits generalizing significand with
  | nil => exact .inl rfl
  | cons c rest ih =>
    obtain ⟨digit, all⟩ := List.forall_mem_cons.mp all
    simp only [collect]
    split
    · exact ih _ all
    · next beyond =>
      right
      have small : (Integer.digit? c).getD 0 ≤ 9 := by
        rw [Integer.digit?_of_isDigit digit, Option.getD_some]
        rw [Char.isDigit, Bool.and_eq_true, decide_eq_true_iff, decide_eq_true_iff] at digit
        exact Nat.sub_le_of_le_add digit.2
      simp only [List.length_cons]
      omega

/-- The sign that an integer is written with. -/
def signOf (n : Int) : Sign :=
  if n < 0 then .negative else .positive

theorem bound_signOf {n : Int} (beyond : 2 ^ 63 ≤ n.natAbs) :
    bound (signOf n) = Integer.clamp n := by
  rw [signOf, Integer.clamp]
  split
  · simp only [bound, Integer.least, Integer.greatest]
    omega
  · simp only [bound, Integer.least, Integer.greatest]
    omega

theorem int?_ofInt_of_beyond {n : Int} (beyond : n < Integer.least ∨ Integer.greatestUnsigned < n) :
    (ofInt n).int? = none := by
  have magnitude : Decimal.digitsValue (ofInt n).whole = n.natAbs :=
    Decimal.digitsValue_toDigits n.natAbs
  have integral : (ofInt n).isIntegral = true := rfl
  have sign : (ofInt n).negative = decide (n < 0) := rfl
  simp only [int?, magnitude, integral, sign, decide_eq_true_eq, Bool.not_true, Bool.false_eq_true,
    if_false]
  simp only [Integer.least, Integer.greatestUnsigned] at beyond ⊢
  split
  · exact if_neg (by omega)
  · exact if_neg (by omega)

/-- An integer beyond 64 bits that is read as a float is one beyond them. -/
theorem reaches_float?_ofInt {n : Int} (beyond : 2 ^ 63 ≤ n.natAbs) {x : Float}
    (found : (ofInt n).float? = some x) : Reaches 11 (signOf n) x := by
  have whole : (ofInt n).whole = Nat.toDigits 10 n.natAbs := rfl
  have collected := collect_cases 0 fun c member =>
    Nat.isDigit_of_mem_toDigits (b := 10) (n := n.natAbs) (by decide) (by decide) member
  have value := Decimal.digitsValue_toDigits n.natAbs
  rw [Decimal.digitsValue] at value
  rw [value] at collected
  have great : 2 ^ 63 ≤ (collect 0 (ofInt n).whole).1 ∧ (collect 0 (ofInt n).whole).2.length = 0 ∨
      2 ^ 60 ≤ (collect 0 (ofInt n).whole).1 ∧ 0 < (collect 0 (ofInt n).whole).2.length := by
    rw [whole]
    rcases collected with complete | ⟨full, left⟩
    · rw [complete]
      exact .inl ⟨beyond, rfl⟩
    · rw [Integer.greatestUnsigned] at full
      exact .inr ⟨by omega, left⟩
  have scaled : ∃ magnitude, scaled? (collect 0 (ofInt n).whole).1
      (collect 0 (ofInt n).whole).2.length = some magnitude ∧
        (if n < 0 then -magnitude else magnitude) = x := by
    simpa [float?, ofInt, collect] using found
  obtain ⟨magnitude, scaled, rfl⟩ := scaled
  have reaches := reaches_scaled? great scaled
  rw [signOf]
  split
  · exact reaches.neg (by decide)
  · exact reaches

end Json.Numeral

end LogDrift
