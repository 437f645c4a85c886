import LogDrift.Text.Alphanumeric
import LogDrift.Text.Case.Lower

/-!
# What lower case consists of

The lower case of a character is not moved again, so that a text in lower case stays as it is. All
characters that are moved become alphanumeric ones, except that a capital I with a dot becomes an i
and a combining dot, which is not.
-/

namespace LogDrift.Text

variable {shifts : List CaseShift} {runs : List (Nat × Nat)} {low high point : Nat} {spaced : Bool}
  {c d : Char}

/-! ## Ranges of code points -/

/-- Whether one of the runs holds all code points from `low` to `high`. -/
def covers (low high : Nat) : List (Nat × Nat) → Bool
  | [] => false
  | (first, last) :: rest => first.ble low && (high.ble last || covers low high rest)

/-- Whether shifts leave the code points from `low` to `high` where they are. If they are `spaced`,
only every second one counts. -/
def leaves (low high : Nat) (spaced : Bool) : List CaseShift → Bool
  | [] => true
  | shift :: rest =>
    high.blt shift.first ||
      (shift.last.blt low ||
        spaced && shift.step.beq 2 && ((low + shift.first) % 2).beq 1) && leaves low high spaced rest

theorem inRuns_of_covers (covered : covers low high runs = true) (above : low ≤ point)
    (below : point ≤ high) : inRuns point runs = true := by
  induction runs with
  | nil => cases covered
  | cons run rest ih =>
    simp only [covers, inRuns, Bool.and_eq_true, Bool.or_eq_true, Nat.ble_eq,
      decide_eq_true_iff] at *
    obtain ⟨first, last | later⟩ := covered
    · exact ⟨by omega, .inl (by omega)⟩
    · exact ⟨by omega, .inr (ih later)⟩

theorem CaseShift.moves_iff {shift : CaseShift} : shift.moves point = true ↔
    shift.first ≤ point ∧ point ≤ shift.last ∧ (point - shift.first) % shift.step = 0 := by
  simp [CaseShift.moves, and_assoc]

theorem shiftCase_of_leaves (left : leaves low high spaced shifts = true) (above : low ≤ c.toNat)
    (below : c.toNat ≤ high) (counts : spaced = true → (c.toNat - low) % 2 = 0) :
    shiftCase shifts c = c := by
  fun_induction shiftCase shifts c with
  | case1 => rfl
  | case2 => rfl
  | case3 shift rest reached moves =>
    simp only [leaves, Bool.and_eq_true, Bool.or_eq_true, Nat.blt_eq, Nat.beq_eq] at left
    obtain ⟨first, last, stepped⟩ := CaseShift.moves_iff.1 moves
    rcases left with before | ⟨after | ⟨⟨every, two⟩, odd⟩, _⟩
    · omega
    · omega
    · have even := counts every
      rw [two] at stepped
      omega
  | case4 shift rest reached _ ih =>
    simp only [leaves, Bool.and_eq_true, Bool.or_eq_true, Nat.blt_eq] at left
    rcases left with before | ⟨_, later⟩
    · omega
    · exact ih later

/-! ## The lower case of a character -/

/-- Whether lower case leaves a character as it is. -/
def Lowered (c : Char) : Prop :=
  c ≠ '\u0130' ∧ shiftCase lowerShifts c = c

instance (c : Char) : Decidable (Lowered c) :=
  inferInstanceAs (Decidable (_ ∧ _))

theorem Lowered.ne_sigma (lowered : Lowered c) : c ≠ 'Σ' := by
  rintro rfl
  exact absurd lowered (by decide)

namespace CaseShift

variable {shift : CaseShift}

/-- Where a shift takes a code point. -/
def image (shift : CaseShift) (point : Nat) : Nat :=
  (point + shift.offset).toNat

/-- Whether the images of a shift are alphanumeric characters, which are not moved again, and none of
them is the capital I with a dot. -/
def settles (shift : CaseShift) : Bool :=
  let low := shift.image shift.first
  let high := shift.image shift.last
  0 ≤ shift.first + shift.offset &&
    (high < 0xD800 || 0xDFFF < low && high < 0x110000) && (high < 0x130 || 0x130 < low) &&
    covers low high alphanumericRuns &&
    leaves low high (shift.step == 2 || shift.first == shift.last) lowerShifts

theorem settles_lowerShifts : (lowerShifts.all settles) = true := by
  decide +kernel

/-- What the table moves becomes an alphanumeric character in lower case. -/
theorem lowered_image (member : shift ∈ lowerShifts) (moves : shift.moves c.toNat = true) :
    isAlphanumeric (Char.ofNat (shift.image c.toNat)) = true ∧
      Lowered (Char.ofNat (shift.image c.toNat)) := by
  have settled := List.all_eq_true.1 settles_lowerShifts shift member
  simp only [settles, Bool.and_eq_true, Bool.or_eq_true, decide_eq_true_iff] at settled
  obtain ⟨⟨⟨⟨nonnegative, valid⟩, apart⟩, covered⟩, left⟩ := settled
  obtain ⟨first, last, stepped⟩ := moves_iff.1 moves
  have above : shift.image shift.first ≤ shift.image c.toNat := by
    simp only [image]
    omega
  have below : shift.image c.toNat ≤ shift.image shift.last := by
    simp only [image]
    omega
  have scalar : (shift.image c.toNat).isValidChar := by
    rcases valid with low | high
    · exact .inl (by omega)
    · exact .inr (by omega)
  have same : (Char.ofNat (shift.image c.toNat)).toNat = shift.image c.toNat := by
    rw [Char.ofNat, dif_pos scalar]
    rfl
  refine ⟨?alphanumeric, ?other, ?stays⟩
  case alphanumeric =>
    rw [isAlphanumeric, same]
    exact inRuns_of_covers covered above below
  case other =>
    intro dotted
    rw [dotted] at same
    have point : ('\u0130' : Char).toNat = 0x130 := rfl
    omega
  case stays =>
    apply shiftCase_of_leaves left
    · rwa [same]
    · rwa [same]
    · intro spaced
      rw [Bool.or_eq_true, beq_iff_eq, beq_iff_eq] at spaced
      rw [same]
      rcases spaced with two | single
      · rw [two] at stepped
        simp only [image]
        omega
      · simp only [image]
        omega

end CaseShift

theorem shiftCase_cases (shifts : List CaseShift) (c : Char) :
    shiftCase shifts c = c ∨
      ∃ shift ∈ shifts, shift.moves c.toNat = true ∧
        shiftCase shifts c = Char.ofNat (shift.image c.toNat) := by
  fun_induction shiftCase shifts c with
  | case1 => exact .inl rfl
  | case2 => exact .inl rfl
  | case3 shift rest _ moves => exact .inr ⟨shift, List.mem_cons_self, moves, rfl⟩
  | case4 shift rest _ _ ih =>
    rcases ih with stays | ⟨found, member, moves, same⟩
    · exact .inl stays
    · exact .inr ⟨found, List.mem_cons_of_mem _ member, moves, same⟩

/-- What the table makes of a character is in lower case. -/
theorem lowered_shiftCase (other : c ≠ '\u0130') : Lowered (shiftCase lowerShifts c) := by
  rcases shiftCase_cases lowerShifts c with stays | ⟨shift, member, moves, same⟩
  · rw [stays]
    exact ⟨other, stays⟩
  · rw [same]
    exact (CaseShift.lowered_image member moves).2

theorem isAlphanumeric_shiftCase (alphanumeric : isAlphanumeric c = true) :
    isAlphanumeric (shiftCase lowerShifts c) = true := by
  rcases shiftCase_cases lowerShifts c with stays | ⟨shift, member, moves, same⟩
  · rwa [stays]
  · rw [same]
    exact (CaseShift.lowered_image member moves).1

/-! ## The lower case of a text -/

@[simp] theorem lowerChar_sigma : lowerChar 'Σ' = ['σ'] := by
  decide +kernel

/-- A text in lower case stays as it is. -/
theorem lowerAfter_of_lowered {text : List Char} (lowered : ∀ c ∈ text, Lowered c)
    (before : List Char) : lowerAfter before text = text := by
  induction text generalizing before with
  | nil => rfl
  | cons c rest ih =>
    rw [List.forall_mem_cons] at lowered
    obtain ⟨⟨other, stays⟩, later⟩ := lowered
    have noSigma := Lowered.ne_sigma ⟨other, stays⟩
    simp [lowerAfter, lowerChar, noSigma, other, stays, ih later]

/-- Every character of a lower case comes from one of the text. -/
theorem exists_of_mem_lowerAfter {before text : List Char} (member : d ∈ lowerAfter before text) :
    ∃ c ∈ text, d ∈ lowerChar c ∨ c = 'Σ' ∧ d = 'ς' := by
  induction text generalizing before with
  | nil => cases member
  | cons c rest ih =>
    rw [lowerAfter, List.mem_append] at member
    rcases member with first | later
    · refine ⟨c, List.mem_cons_self, ?_⟩
      split at first
      · next sigma =>
        subst sigma
        split at first
        · exact .inr ⟨rfl, List.mem_singleton.1 first⟩
        · exact .inl (lowerChar_sigma ▸ first)
      · exact .inl first
    · obtain ⟨c, member, image⟩ := ih later
      exact ⟨c, List.mem_cons_of_mem _ member, image⟩

/-- A lower case is in lower case. -/
theorem lowered_of_mem_lower {text : List Char} (member : d ∈ lower text) : Lowered d := by
  obtain ⟨c, _, image | ⟨_, rfl⟩⟩ := exists_of_mem_lowerAfter member
  · rw [lowerChar] at image
    split at image
    · simp only [List.mem_cons, List.not_mem_nil, or_false] at image
      rcases image with rfl | rfl <;> decide +kernel
    · next other =>
      rw [List.mem_singleton.1 image]
      exact lowered_shiftCase other
  · decide

@[simp] theorem lower_lower (text : List Char) : lower (lower text) = lower text :=
  lowerAfter_of_lowered (fun _ => lowered_of_mem_lower) []

theorem length_le_lower (text : List Char) : text.length ≤ (lower text).length := by
  have lengths (before : List Char) : text.length ≤ (lowerAfter before text).length := by
    induction text generalizing before with
    | nil => exact Nat.le_refl 0
    | cons c rest ih =>
      have later := ih (c :: before)
      simp only [lowerAfter, lowerChar, List.length_append, List.length_cons]
      split
      · simp only [List.length_singleton]
        omega
      · split <;> simp only [List.length_cons, List.length_nil] <;> omega
  exact lengths []

/-- The combining dot of a capital I with a dot is part of the lower case. -/
theorem dot_mem_lower {text : List Char} (member : '\u0130' ∈ text) : '\u0307' ∈ lower text := by
  have found (before : List Char) : '\u0307' ∈ lowerAfter before text := by
    induction text generalizing before with
    | nil => cases member
    | cons c rest ih =>
      simp only [lowerAfter, List.mem_append]
      rcases List.mem_cons.1 member with rfl | later
      · left
        rw [if_neg (by decide), lowerChar, if_pos rfl]
        exact List.mem_cons_of_mem _ List.mem_cons_self
      · exact .inr (ih later _)
  exact found []

end LogDrift.Text
