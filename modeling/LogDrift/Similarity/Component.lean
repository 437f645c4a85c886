/-!
# Connected components

Places are numbered so that linked ones get the same number. A breadth-first search goes out from
every place that has no number when its turn comes. The elements of each number are then gathered in
a table.
-/

namespace LogDrift.Component

variable {n : Nat}

/-- The other places that each place is linked to. -/
def neighbours (linked : Fin n → Fin n → Bool) : Vector (List (Fin n)) n :=
  .ofFn fun place => (List.finRange n).filter fun other => other ≠ place && linked place other

/-- Gives a place a number. -/
def give (numbers : Vector (Option Nat) n) (place : Fin n) (number : Nat) :
    Vector (Option Nat) n :=
  numbers.set place (some number) place.isLt

@[simp]
theorem get_give_self (numbers : Vector (Option Nat) n) (place : Fin n) (number : Nat) :
    (give numbers place number).get place = some number :=
  Vector.getElem_set_self place.isLt

theorem get_give_of_ne {numbers : Vector (Option Nat) n} {place other : Fin n} {number : Nat}
    (apart : other ≠ place) :
    (give numbers place number).get other = numbers.get other :=
  Vector.getElem_set_ne place.isLt other.isLt fun same => apart (Fin.ext same.symm)

/-- The places without a number, in their order. -/
def vacant (numbers : Vector (Option Nat) n) : List (Fin n) :=
  (List.finRange n).filter fun place => (numbers.get place).isNone

@[simp]
theorem mem_vacant {numbers : Vector (Option Nat) n} {place : Fin n} :
    place ∈ vacant numbers ↔ numbers.get place = none := by
  simp [vacant]

/-- A place that gets its number is one place less without a number. -/
theorem perm_vacant_give {numbers : Vector (Option Nat) n} {place : Fin n}
    (isVacant : numbers.get place = none) (number : Nat) :
    (vacant numbers).Perm (place :: vacant (give numbers place number)) := by
  have alone := List.perm_cons_erase (List.mem_finRange place)
  have others : ((List.finRange n).erase place).filter (fun other => (numbers.get other).isNone) =
      ((List.finRange n).erase place).filter fun other =>
        ((give numbers place number).get other).isNone := by
    apply List.filter_congr
    intro other present
    have apart : other ≠ place := by
      rintro rfl
      exact (List.nodup_finRange n).not_mem_erase present
    rw [get_give_of_ne apart]
  have before := alone.filter fun other => (numbers.get other).isNone
  have after := alone.filter fun other => ((give numbers place number).get other).isNone
  rw [List.filter_cons_of_pos (by simp [isVacant]), others] at before
  rw [List.filter_cons_of_neg (by simp)] at after
  exact before.trans (after.symm.cons place)

/-- The turns that the places without a number can still add to a queue: one each, and one for every
neighbour. -/
def pending (near : Vector (List (Fin n)) n) (numbers : Vector (Option Nat) n) : List (Fin n) :=
  (vacant numbers).flatMap fun place => place :: near.get place

/-- A place that gets its number takes its turns away. -/
theorem length_pending (near : Vector (List (Fin n)) n) {numbers : Vector (Option Nat) n}
    {place : Fin n} (isVacant : numbers.get place = none) (number : Nat) :
    (pending near numbers).length =
      (near.get place).length + 1 + (pending near (give numbers place number)).length := by
  have turns := ((perm_vacant_give isVacant number).flatMap_right
    fun place => place :: near.get place).length_eq
  rwa [List.flatMap_cons, List.length_append, List.length_cons] at turns

/-- Gives a number to the places of a queue and to all that they lead to. A place may be in the
queue several times; when it has a number by its turn, it is passed over. -/
def flood (near : Vector (List (Fin n)) n) (number : Nat) (numbers : Vector (Option Nat) n) :
    List (Fin n) → Vector (Option Nat) n
  | [] => numbers
  | place :: queue =>
    match _ : numbers.get place with
    | some _ => flood near number numbers queue
    | none =>
      let marked := give numbers place number
      flood near number marked
        (queue ++ (near.get place).filter fun next => (marked.get next).isNone)
termination_by queue => (pending near numbers).length + queue.length
decreasing_by
  · exact Nat.lt_succ_self _
  · have fewer := length_pending near ‹numbers.get place = none› number
    have found := List.length_filter_le
      (fun next => ((give numbers place number).get next).isNone) (near.get place)
    rw [List.length_append, List.length_cons]
    omega

/-- The turn of a place: when it has no number, it and all that it leads to get the next one. -/
def visit (near : Vector (List (Fin n)) n) (state : Vector (Option Nat) n × Nat) (place : Fin n) :
    Vector (Option Nat) n × Nat :=
  match state with
  | (numbers, next) =>
    match numbers.get place with
    | some _ => (numbers, next)
    | none => (flood near next (give numbers place next) (near.get place), next + 1)

/-- The number of the component of each place. -/
def numbers (linked : Fin n → Fin n → Bool) : List Nat :=
  let near := neighbours linked
  let reached := ((List.finRange n).foldl (visit near) (.replicate n none, 0)).1
  reached.toList.map (·.getD 0)

/-- Adds an element to the row of its number. The table first grows by empty rows as far as
needed. -/
def enter {α : Type} (table : List (List α)) (entry : α × Nat) : List (List α) :=
  let grown := table ++ List.replicate (entry.2 + 1 - table.length) []
  grown.modify entry.2 (· ++ [entry.1])

/-- The elements of each number, in their order. -/
def gather {α : Type} (entries : List (α × Nat)) : List (List α) :=
  entries.foldl enter []

end LogDrift.Component
