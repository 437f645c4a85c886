import LogDrift.Proofs.Except
import LogDrift.Proofs.Json.Text
import LogDrift.Text.Blank

/-!
# What texts spell integers

An integer of 64 bits is read from exactly those texts that spell one: a sign that may be left out,
and digits of which there is at least one.
-/

namespace LogDrift

namespace Integer

/-- The digits of a natural number, which may start with zeros. -/
structure SpellsNat (text : List Char) (n : Nat) : Prop where
  present : text ≠ []
  digits : ∀ c ∈ text, c.isDigit = true
  value : Nat.ofDigitChars 10 text 0 = n

/-- The digits of an integer, perhaps with a sign in front of them. -/
inductive Spells : List Char → Int → Prop
  | unsigned {text : List Char} {n : Nat} (spells : SpellsNat text n) : Spells text n
  | plus {text : List Char} {n : Nat} (spells : SpellsNat text n) : Spells ('+' :: text) n
  | minus {text : List Char} {n : Nat} (spells : SpellsNat text n) : Spells ('-' :: text) (-n)

variable {text : List Char} {n : Int}

theorem not_spellsNat_cons {c : Char} {magnitude : Nat} (mark : c.isDigit = false) :
    ¬ SpellsNat (c :: text) magnitude := by
  intro spells
  rw [spells.digits c List.mem_cons_self] at mark
  cases mark

@[simp] theorem spells_minus_iff :
    Spells ('-' :: text) n ↔ ∃ magnitude : Nat, SpellsNat text magnitude ∧ -magnitude = n := by
  constructor
  · intro spells
    cases spells with
    | unsigned spells => exact (not_spellsNat_cons rfl spells).elim
    | minus spells => exact ⟨_, spells, rfl⟩
  · rintro ⟨magnitude, spells, rfl⟩
    exact .minus spells

@[simp] theorem spells_plus_iff :
    Spells ('+' :: text) n ↔ ∃ magnitude : Nat, SpellsNat text magnitude ∧ magnitude = n := by
  constructor
  · intro spells
    cases spells with
    | unsigned spells => exact (not_spellsNat_cons rfl spells).elim
    | plus spells => exact ⟨_, spells, rfl⟩
  · rintro ⟨magnitude, spells, rfl⟩
    exact .plus spells

theorem spells_iff_of_unsigned (noMinus : ∀ rest, text ≠ '-' :: rest)
    (noPlus : ∀ rest, text ≠ '+' :: rest) :
    Spells text n ↔ ∃ magnitude : Nat, SpellsNat text magnitude ∧ magnitude = n := by
  constructor
  · intro spells
    cases spells with
    | unsigned spells => exact ⟨_, spells, rfl⟩
    | plus spells => exact (noPlus _ rfl).elim
    | minus spells => exact (noMinus _ rfl).elim
  · rintro ⟨magnitude, spells, rfl⟩
    exact .unsigned spells

/-- A text spells one integer at most. -/
theorem Spells.unique {m : Int} (spells : Spells text m) (other : Spells text n) : m = n := by
  cases spells with
  | unsigned spells =>
    cases other with
    | unsigned other => rw [← spells.value, ← other.value]
    | plus other => exact (not_spellsNat_cons rfl spells).elim
    | minus other => exact (not_spellsNat_cons rfl spells).elim
  | plus spells =>
    obtain ⟨_, digits, rfl⟩ := spells_plus_iff.1 other
    rw [← spells.value, ← digits.value]
  | minus spells =>
    obtain ⟨_, digits, rfl⟩ := spells_minus_iff.1 other
    rw [← spells.value, ← digits.value]

/-! ## Reading digits -/

theorem digit?_eq_none {c : Char} (other : c.isDigit = false) : digit? c = none := by
  rw [Char.isDigit, Bool.and_eq_false_iff, decide_eq_false_iff_not,
    decide_eq_false_iff_not] at other
  exact if_neg fun digit => other.elim (· digit.1) (· digit.2)

theorem le_ofDigitChars (text : List Char) (value : Nat) :
    value ≤ Nat.ofDigitChars 10 text value := by
  induction text generalizing value with
  | nil => exact Nat.le_refl value
  | cons c rest ih =>
    rw [Nat.ofDigitChars_cons]
    exact Nat.le_trans (by omega) (ih _)

/-- Digits are read onto a value as long as it stays within the limit. It only grows, so that the
limit matters for the last value alone. -/
theorem readDigits_eq_ok_iff {limit value result : Nat} {beyond : IntegerFault}
    (within : value ≤ limit) :
    readDigits limit beyond value text = .ok result ↔
      (∀ c ∈ text, c.isDigit = true) ∧ Nat.ofDigitChars 10 text value = result ∧
        result ≤ limit := by
  induction text generalizing value with
  | nil =>
    constructor
    · rintro ⟨⟩
      exact ⟨List.forall_mem_nil _, rfl, within⟩
    · rintro ⟨_, rfl, _⟩
      rfl
  | cons c rest ih =>
    rw [readDigits, Nat.ofDigitChars_cons, List.forall_mem_cons]
    cases digit : c.isDigit with
    | false => simp [digit?_eq_none digit]
    | true =>
      rw [digit?_of_isDigit digit]
      dsimp only
      rw [Nat.mul_comm value]
      split
      · next more => simpa using ih more
      · next more =>
        have grows := le_ofDigitChars rest (10 * value + (c.toNat - '0'.toNat))
        constructor
        · nofun
        · rintro ⟨_, rfl, small⟩
          exact (more (Nat.le_trans grows small)).elim

@[simp] theorem readSome_eq_ok_iff {limit magnitude : Nat} {beyond : IntegerFault} :
    readSome limit beyond text = .ok magnitude ↔ SpellsNat text magnitude ∧ magnitude ≤ limit := by
  rw [readSome]
  split
  · next empty =>
    constructor
    · nofun
    · exact fun spelt => (spelt.1.present (List.isEmpty_iff.1 empty)).elim
  · next filled =>
    rw [readDigits_eq_ok_iff (Nat.zero_le limit)]
    constructor
    · rintro ⟨digits, value, small⟩
      exact ⟨⟨by simpa using filled, digits, value⟩, small⟩
    · rintro ⟨spells, small⟩
      exact ⟨spells.digits, spells.value, small⟩

/-! ## Reading integers -/

@[simp] theorem fits_natCast_iff (magnitude : Nat) :
    Fits (magnitude : Int) ↔ magnitude ≤ greatest.toNat := by
  simp only [Fits, least, greatest]
  omega

@[simp] theorem fits_neg_natCast_iff (magnitude : Nat) :
    Fits (-(magnitude : Int)) ↔ magnitude ≤ least.natAbs := by
  simp only [Fits, least, greatest]
  omega

/-- What is read with one sign: the limit of the magnitude is the bound of the integers. -/
theorem map_readSome_eq_ok_iff {limit : Nat} {beyond : IntegerFault} {signed : Nat → Int}
    (fits : ∀ magnitude, Fits (signed magnitude) ↔ magnitude ≤ limit) :
    (readSome limit beyond text).map signed = .ok n ↔
      (∃ magnitude, SpellsNat text magnitude ∧ signed magnitude = n) ∧ Fits n := by
  constructor
  · intro found
    obtain ⟨magnitude, read, rfl⟩ := exists_of_map_eq_ok found
    obtain ⟨spells, small⟩ := readSome_eq_ok_iff.1 read
    exact ⟨⟨magnitude, spells, rfl⟩, (fits magnitude).2 small⟩
  · rintro ⟨⟨magnitude, spells, rfl⟩, small⟩
    rw [readSome_eq_ok_iff.2 ⟨spells, (fits magnitude).1 small⟩]
    rfl

theorem read64_minus (rest : List Char) : read64 ('-' :: rest) =
    (readSome least.natAbs .tooSmall rest).map fun magnitude : Nat => -(magnitude : Int) := by
  rw [read64, readSigned]
  cases readSome least.natAbs .tooSmall rest <;> rfl

/-- An integer is read from the texts that spell it, if it fits into 64 bits. -/
@[simp] theorem read64_eq_ok_iff : read64 text = .ok n ↔ Spells text n ∧ Fits n := by
  fun_cases readSigned least.natAbs greatest.toNat text
  case case1 =>
    constructor
    · nofun
    · rintro ⟨⟨spells⟩, _⟩
      exact (spells.present rfl).elim
  case case2 rest =>
    show read64 ('-' :: rest) = .ok n ↔ _
    rw [read64_minus, spells_minus_iff]
    exact map_readSome_eq_ok_iff fits_neg_natCast_iff
  case case3 rest =>
    rw [spells_plus_iff]
    exact map_readSome_eq_ok_iff fits_natCast_iff
  case case4 filled noMinus noPlus =>
    rw [spells_iff_of_unsigned noMinus noPlus, read64, readSigned.eq_4 _ _ _ filled noMinus noPlus]
    exact map_readSome_eq_ok_iff fits_natCast_iff

/-! ## Written integers -/

theorem spellsNat_toDigits (magnitude : Nat) : SpellsNat (Nat.toDigits 10 magnitude) magnitude where
  present := Nat.toDigits_ne_nil
  digits _ member := Nat.isDigit_of_mem_toDigits (by decide) (by decide) member
  value := Nat.ofDigitChars_ten_toDigits

/-- An integer is spelt as it is written. -/
theorem spells_writeInt (n : Int) : Spells (Json.writeInt n) n := by
  have digits := spellsNat_toDigits n.natAbs
  rw [Json.writeInt]
  split
  · next negative =>
    have spells : Spells ('-' :: Nat.toDigits 10 n.natAbs) (-(n.natAbs : Int)) := .minus digits
    rwa [← Int.eq_neg_natAbs_of_nonpos (Int.le_of_lt negative)] at spells
  · next nonnegative =>
    have spells : Spells (Nat.toDigits 10 n.natAbs) n.natAbs := .unsigned digits
    rwa [Int.natAbs_of_nonneg (Int.not_lt.1 nonnegative)] at spells

theorem isBlank_of_isDigit {c : Char} (digit : c.isDigit = true) : Text.isBlank c = false := by
  rw [Char.isDigit, Bool.and_eq_true, decide_eq_true_iff, decide_eq_true_iff] at digit
  have above : 48 ≤ c.toNat := digit.1
  have below : c.toNat ≤ 57 := digit.2
  simp [Text.isBlank, Text.blankRuns, Text.inRuns]
  omega

/-- A text that spells an integer has no blanks. -/
theorem Spells.blankless (spells : Spells text n) : ∀ c ∈ text, Text.isBlank c = false := by
  have digitsOnly {digits : List Char} {magnitude : Nat} (spells : SpellsNat digits magnitude) :
      ∀ c ∈ digits, Text.isBlank c = false :=
    fun c member => isBlank_of_isDigit (spells.digits c member)
  cases spells with
  | unsigned spells => exact digitsOnly spells
  | plus spells => exact List.forall_mem_cons.2 ⟨by decide, digitsOnly spells⟩
  | minus spells => exact List.forall_mem_cons.2 ⟨by decide, digitsOnly spells⟩

end Integer

/-- Nothing is cut off a text without blanks. -/
theorem Text.trimmed_of_blankless {text : List Char} (blankless : ∀ c ∈ text, isBlank c = false) :
    trimmed text = text := by
  have kept {chars : List Char} (blankless : ∀ c ∈ chars, isBlank c = false) :
      chars.dropWhile isBlank = chars := by
    cases chars with
    | nil => rfl
    | cons c rest => exact List.dropWhile_cons_of_neg (by simp [blankless c List.mem_cons_self])
  rw [trimmed, kept blankless, kept fun c member => blankless c (List.mem_reverse.1 member),
    List.reverse_reverse]

end LogDrift
