import Mathlib
import LogDrift.Occurrence

/-!
# Sums that wrap around

A sum of 64-bit integers that is too great or too small for 64 bits wraps around. It comes out as it
should exactly when it fits, whatever the sums on the way to it do. Arithmetic that checks each sum
stops where one does not fit, and otherwise agrees.
-/

namespace LogDrift

namespace Integer

@[simp] theorem fits_wrap (n : Int) : Fits (wrap n) := by
  have below := Int.le_bmod (x := n) (m := greatestUnsigned + 1) (by decide)
  have above := Int.bmod_lt (x := n) (m := greatestUnsigned + 1) (by decide)
  simp only [Fits, wrap, least, greatest, greatestUnsigned] at below above ⊢
  omega

@[simp] theorem wrap_of_fits {n : Int} (fits : Fits n) : wrap n = n := by
  simp only [Fits, least, greatest] at fits
  apply Int.bmod_eq_of_le
  · simp only [greatestUnsigned]
    omega
  · simp only [greatestUnsigned]
    omega

@[simp] theorem wrap_eq_self_iff {n : Int} : wrap n = n ↔ Fits n :=
  ⟨fun same => same ▸ fits_wrap n, wrap_of_fits⟩

@[simp] theorem wrap_wrap_add (m n : Int) : wrap (wrap m + n) = wrap (m + n) :=
  Int.bmod_add_bmod

/-- Where sums wrap around, only the whole sum matters. -/
theorem foldl_wrap (values : List Int) (start : Int) :
    values.foldl (fun total value => wrap (total + value)) (wrap start) =
      wrap (start + values.sum) := by
  induction values generalizing start with
  | nil => simp
  | cons value rest ih => simp [ih, Int.add_assoc]

/-- A sum that is checked: there is none beyond 64 bits. -/
def add? (m n : Int) : Option Int :=
  if Fits (m + n) then some (m + n) else none

@[simp]
theorem add?_eq_some_iff {m n total : Int} : add? m n = some total ↔ Fits total ∧ m + n = total := by
  rw [add?, Option.ite_none_right_eq_some, Option.some_inj]
  constructor
  · rintro ⟨fits, rfl⟩
    exact ⟨fits, rfl⟩
  · rintro ⟨fits, rfl⟩
    exact ⟨fits, rfl⟩

/-- Sums that are all checked do not wrap around. -/
theorem sum_of_foldlM_add? {values : List Int} {start total : Int}
    (checked : values.foldlM add? start = some total) (fits : Fits start) :
    Fits total ∧ start + values.sum = total := by
  induction values generalizing start with
  | nil =>
    obtain rfl := Option.some.inj checked
    exact ⟨fits, Int.add_zero start⟩
  | cons value rest ih =>
    obtain ⟨next, added, checked⟩ := Option.bind_eq_some_iff.1 checked
    obtain ⟨nextFits, rfl⟩ := add?_eq_some_iff.1 added
    rw [List.sum_cons, ← Int.add_assoc]
    exact ih checked nextFits

end Integer

namespace Label

variable {label : Label}

theorem moved_of_fits (fits : Integer.Fits label) :
    label.moved = Integer.wrap (previousOffset + label) :=
  if_pos fits

/-- A label is moved by the whole distance as long as it stays a label. -/
theorem moved_eq_add_iff (fits : Integer.Fits label) :
    label.moved = previousOffset + label ↔ Integer.Fits (previousOffset + label) := by
  rw [moved_of_fits fits, Integer.wrap_eq_self_iff]

theorem moved_of_not_fits (other : ¬ Integer.Fits label) : label.moved = label :=
  if_neg other

@[simp] theorem fits_moved_iff : Integer.Fits label.moved ↔ Integer.Fits label := by
  by_cases fits : Integer.Fits label
  · rw [moved_of_fits fits]
    exact iff_of_true (Integer.fits_wrap _) fits
  · rw [moved_of_not_fits fits]

/-- No two labels are moved to one. -/
theorem moved_injective : Function.Injective moved := by
  intro left right same
  have both : Integer.Fits left ↔ Integer.Fits right := by
    rw [← fits_moved_iff, same, fits_moved_iff]
  by_cases fits : Integer.Fits left
  · -- Moving the labels back undoes the move, as sums wrap around in both directions.
    have back : ∀ {label : Label}, Integer.Fits label →
        Integer.wrap (label.moved + -previousOffset) = label := by
      intro label fits
      rw [moved_of_fits fits, Integer.wrap_wrap_add, Int.add_comm previousOffset,
        Int.add_neg_cancel_right, Integer.wrap_of_fits fits]
    rw [← back fits, same, back (both.1 fits)]
  · rwa [moved_of_not_fits fits, moved_of_not_fits (mt both.2 fits)] at same

/-- Where an event from an earlier run is kept that has a label. -/
structure Moves (label key : Label) : Prop where
  /-- The label is moved in sums that wrap around. -/
  wraps : key = Integer.wrap (10000 + label)
  /-- It is moved by the whole distance exactly when it stays a label. -/
  eq_add_iff : key = 10000 + label ↔ Integer.Fits (10000 + label)
  /-- Where sums are checked, it is moved to the same place, or a check stops. -/
  checked : ∀ sum, Integer.add? 10000 label = some sum → key = sum

theorem moves_moved (fits : Integer.Fits label) : label.Moves label.moved where
  wraps := moved_of_fits fits
  eq_add_iff := moved_eq_add_iff fits
  checked sum found := by
    obtain ⟨sumFits, rfl⟩ := Integer.add?_eq_some_iff.1 found
    exact (moved_eq_add_iff fits).2 sumFits

end Label

namespace Occurrence

variable {occurrences : List Occurrence}

theorem totalCount_eq_wrap (occurrences : List Occurrence) :
    totalCount occurrences = Integer.wrap (counts occurrences).sum := by
  have added := Integer.foldl_wrap (counts occurrences) 0
  rwa [Integer.wrap_of_fits (by decide), Int.zero_add] at added

/-- Counts add up to their sum exactly when it fits into 64 bits. -/
theorem totalCount_eq_sum_iff :
    totalCount occurrences = (counts occurrences).sum ↔ Integer.Fits (counts occurrences).sum := by
  rw [totalCount_eq_wrap, Integer.wrap_eq_self_iff]

/-- The counts together in arithmetic that checks its sums. -/
def totalCount? (occurrences : List Occurrence) : Option Int :=
  (counts occurrences).foldlM Integer.add? 0

/-- Checked or not, counts have one total, or a check stops. -/
theorem totalCount_of_totalCount? {total : Int} (found : totalCount? occurrences = some total) :
    totalCount occurrences = total := by
  obtain ⟨fits, same⟩ := Integer.sum_of_foldlM_add? found (by decide)
  rw [Int.zero_add] at same
  rw [totalCount_eq_sum_iff.2 (same ▸ fits), same]

end Occurrence

end LogDrift
