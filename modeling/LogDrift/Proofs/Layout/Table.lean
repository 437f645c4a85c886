import Mathlib.Data.List.Nodup
import Mathlib.Data.List.ProdSigma

/-!
# Square tables written cell by cell

A loop over a table reads and writes one cell after the other, and ends without result at a cell
that the table does not have. On a square table such a loop runs to its end, and afterwards every
cell holds what its visit left there.
-/

namespace LogDrift.Table

variable {α : Type} {size row column : Nat}

/-- The cell in a row and a column, when the table has it. -/
def cell? (table : List (List α)) (row column : Nat) : Option α := do
  let cells ← table[row]?
  cells[column]?

/-- Writes a cell, which the table must have. -/
def write? (table : List (List α)) (row column : Nat) (value : α) : Option (List (List α)) := do
  let cells ← table[row]?
  if column < cells.length then some (table.set row (cells.set column value)) else none

/-- A table with `size` rows of `size` cells. -/
structure Square (size : Nat) (table : List (List α)) : Prop where
  rows : table.length = size
  columns : ∀ cells ∈ table, cells.length = size

/-- The square table of the values of a function. -/
def tabulate (size : Nat) (value : Nat → Nat → α) : List (List α) :=
  (List.range size).map fun row => (List.range size).map (value row)

/-! ## Tables of functions -/

@[simp] theorem length_tabulate (size : Nat) (value : Nat → Nat → α) :
    (tabulate size value).length = size := by
  simp [tabulate]

@[simp] theorem map_tabulate {β : Type} (value : Nat → Nat → α) (image : List α → β) :
    (tabulate size value).map image =
      (List.range size).map fun row => image ((List.range size).map (value row)) :=
  List.map_map

@[simp] theorem getElem_tabulate (value : Nat → Nat → α)
    (inside : row < (tabulate size value).length) :
    (tabulate size value)[row] = (List.range size).map (value row) := by
  simp [tabulate]

@[simp] theorem getElem?_tabulate (value : Nat → Nat → α) (inside : row < size) :
    (tabulate size value)[row]? = some ((List.range size).map (value row)) := by
  simp [tabulate, inside]

theorem square_tabulate (value : Nat → Nat → α) : Square size (tabulate size value) where
  rows := length_tabulate size value
  columns := by
    intro cells member
    obtain ⟨row, -, rfl⟩ := List.mem_map.mp member
    rw [List.length_map, List.length_range]

@[simp]
theorem cell?_tabulate (value : Nat → Nat → α) (inRow : row < size) (inColumn : column < size) :
    cell? (tabulate size value) row column = some (value row column) := by
  simp [cell?, inRow, inColumn]

theorem cell?_eq_none {table : List (List α)} (square : Square size table)
    (outside : size ≤ row ∨ size ≤ column) : cell? table row column = none := by
  rcases found : table[row]? with _ | cells
  · simp [cell?, found]
  · have inRow : row < size := square.rows ▸ (List.getElem?_eq_some_iff.mp found).1
    have width := square.columns cells (List.mem_of_getElem? found)
    simp [cell?, found, width, outside.resolve_left (Nat.not_le.mpr inRow)]

theorem tabulate_congr {left right : Nat → Nat → α}
    (same : ∀ row < size, ∀ column < size, left row column = right row column) :
    tabulate size left = tabulate size right := by
  apply List.map_congr_left
  intro row inRow
  apply List.map_congr_left
  intro column inColumn
  exact same row (List.mem_range.mp inRow) column (List.mem_range.mp inColumn)

/-- Every square table is that of its own cells. -/
theorem Square.eq_tabulate [Inhabited α] {table : List (List α)} (square : Square size table) :
    table = tabulate size fun row column => (cell? table row column).getD default := by
  apply List.ext_getElem
  · rw [square.rows, length_tabulate]
  · intro row inTable inRange
    have inRow : row < size := square.rows ▸ inTable
    have width := square.columns table[row] (List.getElem_mem inTable)
    rw [getElem_tabulate]
    apply List.ext_getElem
    · rw [width, List.length_map, List.length_range]
    · intro column inCells inColumns
      simp [cell?, inTable, inCells]

theorem write?_tabulate (value : Nat → Nat → α) (new : α) (inRow : row < size)
    (inColumn : column < size) :
    write? (tabulate size value) row column new =
      some (tabulate size fun r c => if r = row ∧ c = column then new else value r c) := by
  simp only [write?, getElem?_tabulate value inRow, Option.bind_eq_bind, Option.bind_some,
    List.length_map, List.length_range, inColumn, if_true]
  congr 1
  apply List.ext_getElem
  · simp
  · intro r inLeft inRight
    by_cases sameRow : r = row
    · subst sameRow
      apply List.ext_getElem
      · simp
      · intro c inCells inColumns
        by_cases sameColumn : c = column
        · simp [sameColumn]
        · simp [sameColumn, Ne.symm sameColumn]
    · simp [sameRow, Ne.symm sameRow]

/-! ## Loops -/

/-- The places of a table, row after row. -/
def places (size : Nat) : List (Nat × Nat) :=
  List.range size ×ˢ List.range size

/-- The places to the right of the diagonal, row after row. -/
def placesAbove (size : Nat) : List (Nat × Nat) :=
  (List.range size).flatMap fun row =>
    (List.range' (row + 1) (size - (row + 1))).map fun column => (row, column)

@[simp] theorem mem_places : (row, column) ∈ places size ↔ row < size ∧ column < size := by
  simp [places]

theorem nodup_places (size : Nat) : (places size).Nodup :=
  List.Nodup.product List.nodup_range List.nodup_range

@[simp]
theorem mem_placesAbove : (row, column) ∈ placesAbove size ↔ row < column ∧ column < size := by
  simp only [placesAbove, List.mem_flatMap, List.mem_map, List.mem_range, List.mem_range'_1,
    Prod.mk.injEq]
  constructor
  · rintro ⟨_, _, _, _, rfl, rfl⟩
    omega
  · rintro ⟨before, inside⟩
    exact ⟨row, by omega, column, by omega, rfl, rfl⟩

/-- Replaces the cell at a place. -/
def visit? (update : Nat → Nat → α → Option α) (table : List (List α)) (place : Nat × Nat) :
    Option (List (List α)) := do
  let old ← cell? table place.1 place.2
  let new ← update place.1 place.2 old
  write? table place.1 place.2 new

/-- Replaces each cell in turn. -/
def sweep? (size : Nat) (update : Nat → Nat → α → Option α) (table : List (List α)) :
    Option (List (List α)) :=
  (places size).foldlM (visit? update) table

/-- Writes an entry at a place and at the place across the diagonal. -/
def mirror? (entry : Nat → Nat → Option α) (table : List (List α)) (place : Nat × Nat) :
    Option (List (List α)) := do
  let new ← entry place.1 place.2
  let table ← write? table place.1 place.2 new
  write? table place.2 place.1 new

/-- Writes the entries of all places to the right of the diagonal, and the same across it. -/
def mirrorAll? (size : Nat) (entry : Nat → Nat → Option α) (table : List (List α)) :
    Option (List (List α)) :=
  (placesAbove size).foldlM (mirror? entry) table

theorem visit?_tabulate {update : Nat → Nat → α → Option α} {value : Nat → Nat → α} {new : α}
    (place : (row, column) ∈ places size)
    (defined : update row column (value row column) = some new) :
    visit? update (tabulate size value) (row, column) =
      some (tabulate size fun r c => if r = row ∧ c = column then new else value r c) := by
  obtain ⟨inRow, inColumn⟩ := mem_places.mp place
  simp only [visit?, cell?_tabulate value inRow inColumn, Option.bind_eq_bind, Option.bind_some,
    defined, write?_tabulate value new inRow inColumn]

/-- Visiting distinct places once each: the cells that are not visited stay as they are. -/
theorem foldlM_visit? {update : Nat → Nat → α → Option α} (image : Nat → Nat → α)
    {visits : List (Nat × Nat)} (distinct : visits.Nodup) (inside : visits ⊆ places size)
    {value : Nat → Nat → α}
    (defined : ∀ place ∈ visits,
      update place.1 place.2 (value place.1 place.2) = some (image place.1 place.2)) :
    visits.foldlM (visit? update) (tabulate size value) =
      some (tabulate size fun r c => if (r, c) ∈ visits then image r c else value r c) := by
  induction visits generalizing value with
  | nil => simp
  | cons place rest ih =>
    obtain ⟨row, column⟩ := place
    obtain ⟨fresh, distinct⟩ := List.nodup_cons.mp distinct
    obtain ⟨here, inside⟩ := List.cons_subset.mp inside
    obtain ⟨first, defined⟩ := List.forall_mem_cons.mp defined
    rw [List.foldlM_cons, visit?_tabulate here first, Option.bind_eq_bind, Option.bind_some,
      ih distinct inside]
    · congr 1
      apply tabulate_congr
      intro r _ c _
      by_cases same : r = row ∧ c = column
      · obtain ⟨rfl, rfl⟩ := same
        simp [fresh]
      · simp [same]
    · rintro ⟨r, c⟩ member
      have other : ¬(r = row ∧ c = column) := by
        rintro ⟨rfl, rfl⟩
        exact fresh member
      simp only [if_neg other]
      exact defined _ member

/-- A sweep over a square table succeeds where each update does, and leaves the updated cells. -/
theorem sweep?_tabulate {update : Nat → Nat → α → Option α} {value image : Nat → Nat → α}
    (defined : ∀ row < size, ∀ column < size,
      update row column (value row column) = some (image row column)) :
    sweep? size update (tabulate size value) = some (tabulate size image) := by
  rw [sweep?, foldlM_visit? image (nodup_places size) (List.Subset.refl _)]
  · congr 1
    apply tabulate_congr
    intro row inRow column inColumn
    rw [if_pos (mem_places.mpr ⟨inRow, inColumn⟩)]
  · rintro ⟨row, column⟩ place
    obtain ⟨inRow, inColumn⟩ := mem_places.mp place
    exact defined row inRow column inColumn

theorem mirror?_tabulate {entry : Nat → Nat → Option α} {new : α} (value : Nat → Nat → α)
    (place : (row, column) ∈ placesAbove size) (defined : entry row column = some new) :
    mirror? entry (tabulate size value) (row, column) =
      some (tabulate size fun r c =>
        if (r, c) = (row, column) ∨ (c, r) = (row, column) then new else value r c) := by
  obtain ⟨before, inColumn⟩ := mem_placesAbove.mp place
  have inRow : row < size := Nat.lt_trans before inColumn
  simp only [mirror?, defined, Option.bind_eq_bind, Option.bind_some,
    write?_tabulate value new inRow inColumn, write?_tabulate _ new inColumn inRow]
  congr 1
  apply tabulate_congr
  intro r _ c _
  grind

/-- After some places were mirrored, both cells of each hold its entry. -/
theorem foldlM_mirror? {entry : Nat → Nat → Option α} (image : Nat → Nat → α)
    {visits : List (Nat × Nat)} (inside : visits ⊆ placesAbove size)
    (defined : ∀ place ∈ visits, entry place.1 place.2 = some (image place.1 place.2))
    (value : Nat → Nat → α) :
    visits.foldlM (mirror? entry) (tabulate size value) =
      some (tabulate size fun r c =>
        if (r, c) ∈ visits then image r c
        else if (c, r) ∈ visits then image c r else value r c) := by
  induction visits generalizing value with
  | nil => simp
  | cons place rest ih =>
    obtain ⟨row, column⟩ := place
    obtain ⟨here, inside⟩ := List.cons_subset.mp inside
    obtain ⟨first, defined⟩ := List.forall_mem_cons.mp defined
    rw [List.foldlM_cons, mirror?_tabulate value here first, Option.bind_eq_bind, Option.bind_some,
      ih inside defined]
    congr 1
    apply tabulate_congr
    intro r _ c _
    -- Of two places across the diagonal only one is visited.
    have below : (c, r) ∈ rest → (r, c) ≠ (row, column) := by
      rintro listed ⟨⟩
      have := (mem_placesAbove.mp (inside listed)).1
      have := (mem_placesAbove.mp here).1
      omega
    grind

/-- Mirroring all entries on a square table succeeds where they are defined. Only the diagonal stays
as it is. -/
theorem mirrorAll?_tabulate {entry : Nat → Nat → Option α} (image : Nat → Nat → α)
    (defined : ∀ row column, row < column → column < size →
      entry row column = some (image row column))
    (value : Nat → Nat → α) :
    mirrorAll? size entry (tabulate size value) =
      some (tabulate size fun row column =>
        if row = column then value row column
        else if row < column then image row column else image column row) := by
  rw [mirrorAll?, foldlM_mirror? image (List.Subset.refl _)]
  · congr 1
    apply tabulate_congr
    intro row inRow column inColumn
    simp only [mem_placesAbove, inRow, inColumn, and_true]
    rcases Nat.lt_trichotomy row column with before | rfl | after
    · simp [before, Nat.ne_of_lt before]
    · simp
    · simp [after, Nat.ne_of_gt after, Nat.not_lt_of_gt after]
  · rintro ⟨row, column⟩ place
    obtain ⟨before, inside⟩ := mem_placesAbove.mp place
    exact defined row column before inside

end LogDrift.Table
