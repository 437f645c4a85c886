import Mathlib
import LogDrift.Remote.Backoff

/-!
# How the delays grow

Delays are compared with those that go on doubling until they are the longest. Only so many
doublings are allowed, so that a small delay stops growing before it is the longest.
-/

namespace LogDrift.Backoff

/-- The delay that has doubled after every attempt, unless that exceeds the longest. -/
def doubled (initial attempt : Nat) : Nat :=
  min (initial * 2 ^ attempt) longest

/-- Whether a delay grows no more after the doublings that are allowed. -/
def Settles (initial : Nat) : Prop :=
  initial = 0 ∨ longest ≤ initial * 2 ^ doublings

variable {initial attempt : Nat}

theorem doubled_le_longest : doubled initial attempt ≤ longest :=
  Nat.min_le_right ..

theorem doubled_succ :
    doubled initial (attempt + 1) = min (2 * doubled initial attempt) longest := by
  rw [doubled, doubled, Nat.pow_succ']
  grind

theorem monotone_doubled (initial : Nat) : Monotone (doubled initial) := by
  apply monotone_nat_of_le_succ
  intro attempt
  have below : doubled initial attempt ≤ longest := doubled_le_longest
  rw [doubled_succ]
  omega

/-- A delay that is neither nothing nor the longest grows with the next doubling. -/
theorem doubled_lt_succ (positive : initial ≠ 0) (short : doubled initial attempt < longest) :
    doubled initial attempt < doubled initial (attempt + 1) := by
  have grown : 0 < initial * 2 ^ attempt :=
    Nat.mul_pos (Nat.pos_of_ne_zero positive) (Nat.two_pow_pos attempt)
  have present : 0 < doubled initial attempt := Nat.lt_min.2 ⟨grown, by decide⟩
  rw [doubled_succ]
  omega

/-- A delay that settles stays the same after the doublings that are allowed. -/
theorem doubled_of_settles (settles : Settles initial) (late : doublings ≤ attempt) :
    doubled initial attempt = doubled initial doublings := by
  rcases settles with rfl | reached
  · simp [doubled]
  · have longest_eq : doubled initial doublings = longest := Nat.min_eq_right reached
    apply Nat.le_antisymm
    · rw [longest_eq]
      exact doubled_le_longest
    · exact monotone_doubled initial late

/-- A delay that does not settle grows after the doublings that are allowed. -/
theorem doubled_lt_of_not_settles (unsettled : ¬ Settles initial) (late : doublings < attempt) :
    doubled initial doublings < doubled initial attempt := by
  have ⟨positive, short⟩ := not_or.1 unsettled
  have below : doubled initial doublings < longest :=
    Nat.lt_of_le_of_lt (Nat.min_le_left ..) (Nat.lt_of_not_le short)
  calc doubled initial doublings
    _ < doubled initial (doublings + 1) := doubled_lt_succ positive below
    _ ≤ doubled initial attempt := monotone_doubled initial late

/-- Keeping the product within 64 bits does not change the delay. -/
theorem delay_eq_doubled_min (initial attempt : Nat) :
    delay initial attempt = doubled initial (min attempt doublings) := by
  have within : longest ≤ Integer.greatestUnsigned := by decide
  rw [delay, doubled, Nat.min_assoc, Nat.min_eq_right within]
  rfl

theorem delay_of_le (early : attempt ≤ doublings) :
    delay initial attempt = doubled initial attempt := by
  rw [delay_eq_doubled_min, Nat.min_eq_left early]

theorem delay_of_ge (late : doublings ≤ attempt) :
    delay initial attempt = doubled initial doublings := by
  rw [delay_eq_doubled_min, Nat.min_eq_right late]

theorem monotone_delay (initial : Nat) : Monotone (delay initial) := by
  intro attempt later le
  rw [delay_eq_doubled_min, delay_eq_doubled_min]
  exact monotone_doubled initial (min_le_min_right doublings le)

theorem delay_eq_doubled_iff :
    delay initial attempt = doubled initial attempt ↔ attempt ≤ doublings ∨ Settles initial := by
  rcases Nat.lt_or_ge doublings attempt with late | early
  · rw [delay_of_ge late.le, or_iff_right late.not_ge]
    constructor
    · intro same
      by_contra unsettled
      exact (doubled_lt_of_not_settles unsettled late).ne same
    · intro settles
      exact (doubled_of_settles settles late.le).symm
  · exact iff_of_true (delay_of_le early) (.inl early)

theorem delay_succ_iff :
    delay initial (attempt + 1) = min (2 * delay initial attempt) longest ↔
      attempt < doublings ∨ Settles initial := by
  rcases Nat.lt_or_ge attempt doublings with early | late
  · refine iff_of_true ?_ (.inl early)
    rw [delay_of_le early, delay_of_le early.le, doubled_succ]
  · rw [delay_of_ge (late.trans (Nat.le_succ attempt)), delay_of_ge late, ← doubled_succ,
      or_iff_right late.not_gt]
    constructor
    · intro same
      by_contra unsettled
      exact (doubled_lt_of_not_settles unsettled (Nat.lt_succ_self doublings)).ne same
    · intro settles
      exact (doubled_of_settles settles (Nat.le_succ doublings)).symm

/-- Delays never become shorter. They double from one attempt to the next until they are the
longest, as long as doublings are allowed. After that they stay as they are, and that is what
doubling would make of them just if they have settled by then. -/
theorem delay_doubles (initial : Nat) :
    Monotone (delay initial) ∧ ∀ attempt,
      delay initial attempt = doubled initial (min attempt doublings) ∧
      (delay initial attempt = doubled initial attempt ↔
        attempt ≤ doublings ∨ Settles initial) ∧
      (delay initial (attempt + 1) = min (2 * delay initial attempt) longest ↔
        attempt < doublings ∨ Settles initial) :=
  ⟨monotone_delay initial, fun attempt =>
    ⟨delay_eq_doubled_min initial attempt, delay_eq_doubled_iff, delay_succ_iff⟩⟩

/-- A delay of one millisecond stops doubling far below the longest. -/
theorem delay_one_stalls : delay 1 6 = 32 ∧ doubled 1 6 = 64 := by
  decide

end LogDrift.Backoff
