import LogDrift.Json.Printer
import LogDrift.Json.Reader

/-!
# Numbers read back

An integer that is written in decimal digits reads back as itself, as long as the reader keeps it an
integer. What follows a number does not change how it is read, unless it could belong to it.
-/

namespace LogDrift

/-! ## Digits -/

theorem Integer.digit?_of_isDigit {c : Char} (digit : c.isDigit = true) :
    digit? c = some (c.toNat - '0'.toNat) := by
  rw [Char.isDigit, Bool.and_eq_true, decide_eq_true_iff, decide_eq_true_iff] at digit
  exact if_pos digit

namespace Decimal

/-- Digits end in front of anything that does not start with one. -/
theorem spanDigits_append (text : List Char) {rest : List Char}
    (stops : ∀ c ∈ rest.head?, Integer.digit? c = none) :
    spanDigits (text ++ rest) = ((spanDigits text).1, (spanDigits text).2 ++ rest) := by
  induction text with
  | nil =>
    cases rest with
    | nil => rfl
    | cons c rest => simp [spanDigits, stops c rfl]
  | cons c text ih =>
    simp only [spanDigits, Prod.mk.injEq] at ih
    by_cases digit : (Integer.digit? c).isSome
    · simp [spanDigits, digit, ih.1, ih.2]
    · simp [spanDigits, digit]

theorem spanDigits_eq_self {digits : List Char}
    (all : ∀ c ∈ digits, (Integer.digit? c).isSome) : spanDigits digits = (digits, []) := by
  induction digits with
  | nil => rfl
  | cons c rest ih =>
    rw [List.forall_mem_cons] at all
    have later := ih all.2
    simp only [spanDigits, Prod.mk.injEq] at later
    simp [spanDigits, all.1, later.1, later.2]

theorem isSome_digit?_of_mem_toDigits {n : Nat} {c : Char} (member : c ∈ Nat.toDigits 10 n) :
    (Integer.digit? c).isSome := by
  rw [Integer.digit?_of_isDigit (Nat.isDigit_of_mem_toDigits (by decide) (by decide) member)]
  rfl

@[simp] theorem digitsValue_toDigits (n : Nat) : digitsValue (Nat.toDigits 10 n) = n := by
  have values : ∀ (digits : List Char) (start : Nat), (∀ c ∈ digits, c.isDigit = true) →
      digits.foldl (fun value c => value * 10 + (Integer.digit? c).getD 0) start =
        Nat.ofDigitChars 10 digits start := by
    intro digits
    induction digits with
    | nil => exact fun start _ => rfl
    | cons c rest ih =>
      intro start all
      rw [List.forall_mem_cons] at all
      rw [List.foldl_cons, Integer.digit?_of_isDigit all.1, Nat.ofDigitChars_cons, Nat.mul_comm 10]
      exact ih _ all.2
  rw [digitsValue, values]
  · exact Nat.ofDigitChars_ten_toDigits
  · intro c member
    exact Nat.isDigit_of_mem_toDigits (by decide) (by decide) member

/-- Only the digits of zero start with a zero. -/
theorem eq_zero_of_head?_toDigits {n : Nat} (zero : (Nat.toDigits 10 n).head? = some '0') :
    n = 0 := by
  induction n using Nat.base_induction 10 (by decide) with
  | single n small =>
    rw [Nat.toDigits_of_lt_base small] at zero
    simpa using zero
  | digit n last small positive ih =>
    have first : (Nat.toDigits 10 n).head? = some '0' := by
      rw [← Nat.toDigits_append_toDigits (by decide) positive small, List.head?_append] at zero
      cases digits : Nat.toDigits 10 n with
      | nil => exact (Nat.toDigits_ne_nil digits).elim
      | cons c rest =>
        rw [digits] at zero
        exact zero
    exact (Nat.ne_of_gt positive (ih first)).elim

end Decimal

namespace Json

namespace Numeral

/-! ## What follows a number -/

/-- Whether a text cannot go on with a number: it does not start with a digit, a point or the mark
of an exponent. -/
def Ends (rest : List Char) : Prop :=
  ∀ c ∈ rest.head?, Integer.digit? c = none ∧ c ≠ '.' ∧ c ≠ 'e' ∧ c ≠ 'E'

theorem scanWhole_append {text digits left rest : List Char} (ends : Ends rest)
    (scanned : scanWhole text = .ok (digits, left)) :
    scanWhole (text ++ rest) = .ok (digits, left ++ rest) := by
  simp only [scanWhole, Decimal.spanDigits_append text fun c member => (ends c member).1]
  simp only [scanWhole] at scanned
  grind [missing]

theorem scanFraction_append {text digits left rest : List Char} (ends : Ends rest)
    (scanned : scanFraction text = .ok (digits, left)) :
    scanFraction (text ++ rest) = .ok (digits, left ++ rest) := by
  have stops : ∀ c ∈ rest.head?, Integer.digit? c = none := fun c member => (ends c member).1
  cases text with
  | nil =>
    cases scanned
    cases rest with
    | nil => rfl
    | cons c rest =>
      have other := (ends c rfl).2.1
      simp [scanFraction, other]
  | cons c text =>
    by_cases point : c = '.'
    · subst point
      simp only [List.cons_append, scanFraction, Decimal.spanDigits_append text stops] at scanned ⊢
      grind [missing]
    · simp [scanFraction, point] at scanned ⊢
      grind

theorem scanExponent_append {text left rest : List Char} {exponent : Option (Bool × List Char)}
    (ends : Ends rest) (scanned : scanExponent text = .ok (exponent, left)) :
    scanExponent (text ++ rest) = .ok (exponent, left ++ rest) := by
  have stops : ∀ c ∈ rest.head?, Integer.digit? c = none := fun c member => (ends c member).1
  cases text with
  | nil =>
    cases scanned
    cases rest with
    | nil => rfl
    | cons c rest =>
      have other := ends c rfl
      simp [scanExponent, other.2.2]
  | cons mark text =>
    simp only [List.cons_append, scanExponent] at scanned ⊢
    split at scanned
    · next marked =>
      rw [if_pos marked]
      cases text with
      | nil => simp [Decimal.spanDigits, missing] at scanned
      | cons c text =>
        -- the sign, if there is one, stands in front of the digits on both sides
        by_cases minus : c = '-'
        · subst minus
          simp only [List.cons_append, Decimal.spanDigits_append text stops] at scanned ⊢
          grind [missing]
        · by_cases plus : c = '+'
          · subst plus
            simp only [List.cons_append, Decimal.spanDigits_append text stops] at scanned ⊢
            grind [missing]
          · have spans := Decimal.spanDigits_append (c :: text) stops
            simp only [List.cons_append] at scanned spans ⊢
            grind [missing]
    · next unmarked =>
      cases scanned
      rw [if_neg unmarked]
      rfl

/-- A number after its sign. -/
def scanUnsigned (negative : Bool) (text : List Char) : Except Fault (Numeral × List Char) := do
  let (whole, text) ← scanWhole text
  let (fraction, text) ← scanFraction text
  let (exponent, text) ← scanExponent text
  return (⟨negative, whole, fraction, exponent⟩, text)

@[simp] theorem scan_minus (text : List Char) : scan ('-' :: text) = scanUnsigned true text := rfl

theorem scan_of_ne_minus {c : Char} (other : c ≠ '-') (text : List Char) :
    scan (c :: text) = scanUnsigned false (c :: text) := by
  simp [scan, scanUnsigned, other]

theorem scanUnsigned_append {negative : Bool} {text rest : List Char} {numeral : Numeral}
    (ends : Ends rest) (scanned : scanUnsigned negative text = .ok (numeral, [])) :
    scanUnsigned negative (text ++ rest) = .ok (numeral, rest) := by
  simp only [scanUnsigned, bind, Except.bind] at scanned ⊢
  cases whole : scanWhole text with
  | error fault =>
    rw [whole] at scanned
    cases scanned
  | ok read =>
    rcases read with ⟨digits, text⟩
    rw [whole] at scanned
    rw [scanWhole_append ends whole]
    simp only at scanned ⊢
    cases fraction : scanFraction text with
    | error fault =>
      rw [fraction] at scanned
      cases scanned
    | ok read =>
      rcases read with ⟨places, text⟩
      rw [fraction] at scanned
      rw [scanFraction_append ends fraction]
      simp only at scanned ⊢
      cases exponent : scanExponent text with
      | error fault =>
        rw [exponent] at scanned
        cases scanned
      | ok read =>
        rcases read with ⟨power, left⟩
        rw [exponent] at scanned
        rw [scanExponent_append ends exponent]
        cases scanned
        rfl

/-- A number is read in the same way in front of anything that cannot belong to it. -/
theorem scan_append {text rest : List Char} {numeral : Numeral} (ends : Ends rest)
    (scanned : scan text = .ok (numeral, [])) : scan (text ++ rest) = .ok (numeral, rest) := by
  cases text with
  | nil => cases scanned
  | cons c text =>
    by_cases minus : c = '-'
    · subst minus
      exact scanUnsigned_append ends scanned
    · rw [scan_of_ne_minus minus] at scanned
      rw [List.cons_append, scan_of_ne_minus minus, ← List.cons_append]
      exact scanUnsigned_append ends scanned

/-- A number starts with a minus sign or with a digit. -/
theorem starts_of_scan {text left : List Char} {numeral : Numeral}
    (scanned : scan text = .ok (numeral, left)) :
    ∃ c rest, text = c :: rest ∧ (c = '-' ∨ (Integer.digit? c).isSome) := by
  cases text with
  | nil => cases scanned
  | cons c text =>
    refine ⟨c, text, rfl, ?_⟩
    by_cases minus : c = '-'
    · exact .inl minus
    · right
      rw [scan_of_ne_minus minus] at scanned
      apply Classical.byContradiction
      intro other
      simp [scanUnsigned, scanWhole, Decimal.spanDigits, other, missing, bind, Except.bind]
        at scanned

/-! ## Integers -/

/-- The number that an integer is written as. -/
def ofInt (n : Int) : Numeral :=
  ⟨n < 0, Nat.toDigits 10 n.natAbs, [], none⟩

@[simp] theorem scanWhole_toDigits (n : Nat) :
    scanWhole (Nat.toDigits 10 n) = .ok (Nat.toDigits 10 n, []) := by
  have spans := Decimal.spanDigits_eq_self fun c member =>
    Decimal.isSome_digit?_of_mem_toDigits (n := n) member
  have present : (Nat.toDigits 10 n).isEmpty = false := by
    rw [List.isEmpty_eq_false_iff]
    exact Nat.toDigits_ne_nil
  have whole : ¬ ((Nat.toDigits 10 n).head? = some '0' ∧ (Nat.toDigits 10 n).length ≠ 1) := by
    intro both
    rcases both with ⟨zero, long⟩
    rw [Decimal.eq_zero_of_head?_toDigits zero] at long
    exact long rfl
  simp only [scanWhole, spans, present, Bool.false_eq_true, if_false, if_neg whole]

@[simp] theorem scan_writeInt (n : Int) : scan (writeInt n) = .ok (ofInt n, []) := by
  have whole := scanWhole_toDigits n.natAbs
  by_cases negative : n < 0
  · have written : writeInt n = '-' :: Nat.toDigits 10 n.natAbs := by
      simp [writeInt, negative]
    rw [written, scan_minus]
    simp only [scanUnsigned, whole, bind, Except.bind]
    simp [ofInt, negative, scanFraction, scanExponent, pure, Except.pure]
  · have written : writeInt n = Nat.toDigits 10 n.natAbs := by
      simp [writeInt, negative]
    rw [written]
    cases digits : Nat.toDigits 10 n.natAbs with
    | nil => exact (Nat.toDigits_ne_nil digits).elim
    | cons c rest =>
      have digit := Decimal.isSome_digit?_of_mem_toDigits (digits ▸ List.mem_cons_self)
      have other : c ≠ '-' := by
        intro same
        subst same
        exact absurd digit (by decide)
      rw [scan_of_ne_minus other, ← digits]
      simp only [scanUnsigned, whole, bind, Except.bind]
      simp [ofInt, negative, scanFraction, scanExponent, pure, Except.pure]

/-- An integer stays an integer between the bounds of the reader. -/
theorem value?_ofInt {n : Int} (least : Integer.least ≤ n)
    (greatest : n ≤ Integer.greatestUnsigned) : (ofInt n).value? = some (.int n) := by
  have magnitude : Decimal.digitsValue (ofInt n).whole = n.natAbs :=
    Decimal.digitsValue_toDigits n.natAbs
  have kept : (ofInt n).int? = some n := by
    have integral : (ofInt n).isIntegral = true := rfl
    simp only [int?, magnitude, integral, Bool.not_true, Bool.false_eq_true, if_false]
    by_cases negative : n < 0
    · have sign : (ofInt n).negative = true := decide_eq_true negative
      have inRange : n.natAbs ≠ 0 ∧ n.natAbs ≤ Integer.least.natAbs := by
        simp only [Integer.least] at least ⊢
        omega
      rw [if_pos sign, if_pos inRange]
      exact congrArg some (by omega)
    · have sign : ¬ (ofInt n).negative = true := fun positive => negative (of_decide_eq_true positive)
      have inRange : n.natAbs ≤ Integer.greatestUnsigned := by omega
      rw [if_neg sign, if_pos inRange]
      exact congrArg some (by omega)
  rw [value?, kept]

end Numeral

end Json

end LogDrift
