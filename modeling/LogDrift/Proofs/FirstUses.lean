import Mathlib.Data.List.Induction
import Mathlib.Data.List.Nodup

/-!
# First uses

The distinct elements of a list in the order in which the list first shows them. Only one list has
the elements that pass a test in that order, so this says what erasing repetitions comes to, and
what a loop comes to that keeps what it has not kept before.
-/

namespace LogDrift

variable {α : Type}

/-! ## Erasing repetitions -/

section EraseDups

variable [BEq α] [LawfulBEq α]

/-- An element at the end of a list is used for the first time when it is not in the list. -/
theorem eraseDups_concat (elements : List α) (element : α) :
    (elements ++ [element]).eraseDups =
      if element ∈ elements then elements.eraseDups else elements.eraseDups ++ [element] := by
  rw [List.eraseDups_append]
  split
  · next used => simp [List.removeAll, used]
  · next unused => simp [List.removeAll, unused, List.eraseDups_cons]

theorem nodup_eraseDups (elements : List α) : elements.eraseDups.Nodup := by
  induction elements using List.reverseRecOn with
  | nil => exact .nil
  | append_singleton earlier element ih =>
    rw [eraseDups_concat]
    split
    · exact ih
    · next unused => simpa using ih.concat (mt List.mem_eraseDups.1 unused)

theorem eraseDups_of_nodup {elements : List α} (distinct : elements.Nodup) :
    elements.eraseDups = elements := by
  induction elements using List.reverseRecOn with
  | nil => rfl
  | append_singleton earlier element ih =>
    rw [List.nodup_append] at distinct
    have unused : element ∉ earlier := fun used => distinct.2.2 element used element (.head _) rfl
    rw [eraseDups_concat, if_neg unused, ih distinct.1]

/-- Repetitions are erased from an image as from the list, if the map keeps elements apart. -/
theorem eraseDups_map {β : Type} [BEq β] [LawfulBEq β] {image : α → β}
    (injective : Function.Injective image) (elements : List α) :
    (elements.map image).eraseDups = elements.eraseDups.map image := by
  induction elements using List.reverseRecOn with
  | nil => rfl
  | append_singleton earlier element ih =>
    simp only [List.map_append, List.map_singleton, eraseDups_concat, ih,
      List.mem_map_of_injective injective]
    split
    · rfl
    · rw [List.map_append, List.map_singleton]

end EraseDups

/-! ## What first uses are -/

variable [DecidableEq α] {elements uses : List α} {passes : α → Prop}

/-- The elements of a list that pass, each once and in the order in which the list first shows them.
-/
structure FirstUses (elements : List α) (passes : α → Prop) (uses : List α) : Prop where
  mem_iff : ∀ element, element ∈ uses ↔ element ∈ elements ∧ passes element
  ascends : uses.Pairwise fun earlier later => elements.idxOf earlier < elements.idxOf later

namespace FirstUses

theorem nodup (first : FirstUses elements passes uses) : uses.Nodup :=
  first.ascends.imp fun less same => Nat.ne_of_lt less (congrArg elements.idxOf same)

/-- Elements have one list of first uses. -/
theorem unique {uses' : List α} (first : FirstUses elements passes uses)
    (first' : FirstUses elements passes uses') : uses = uses' := by
  have same : uses.Perm uses' := by
    rw [List.perm_ext_iff_of_nodup first.nodup first'.nodup]
    exact fun element => (first.mem_iff element).trans (first'.mem_iff element).symm
  refine same.eq_of_pairwise ?_ first.ascends first'.ascends
  intro left right _ _ before after
  exact absurd after (Nat.lt_asymm before)

theorem nil (passes : α → Prop) : FirstUses [] passes [] where
  mem_iff := by simp
  ascends := .nil

/-- One more element is put last when it passes and was not used before. -/
theorem concat [DecidablePred passes] (first : FirstUses elements passes uses) (element : α) :
    FirstUses (elements ++ [element]) passes
      (if passes element ∧ element ∉ uses then uses ++ [element] else uses) where
  mem_iff := by
    intro other
    have listed := first.mem_iff other
    have last := first.mem_iff element
    split <;> grind
  ascends := by
    have kept : uses.Pairwise fun earlier later =>
        (elements ++ [element]).idxOf earlier < (elements ++ [element]).idxOf later := by
      apply first.ascends.imp_of_mem
      intro left right leftMem rightMem less
      rwa [List.idxOf_append_of_mem ((first.mem_iff left).1 leftMem).1,
        List.idxOf_append_of_mem ((first.mem_iff right).1 rightMem).1]
    split
    · next fresh =>
      rw [List.pairwise_append]
      refine ⟨kept, List.pairwise_singleton _ _, ?_⟩
      intro left leftMem right rightMem
      rw [List.mem_singleton] at rightMem
      have inside := ((first.mem_iff left).1 leftMem).1
      have outside : element ∉ elements := fun used =>
        fresh.2 ((first.mem_iff element).2 ⟨used, fresh.1⟩)
      rw [rightMem, List.idxOf_append_of_mem inside, List.idxOf_append_of_notMem outside]
      exact Nat.lt_add_right _ (List.idxOf_lt_length_of_mem inside)
    · exact kept

end FirstUses

/-- Erasing repetitions among the elements that pass leaves their first uses. -/
theorem firstUses_eraseDups (elements : List α) (passes : α → Bool) :
    FirstUses elements (passes · = true) (elements.filter passes).eraseDups := by
  induction elements using List.reverseRecOn with
  | nil => exact .nil _
  | append_singleton earlier element ih =>
    have last := ih.concat element
    rw [List.filter_append]
    cases passed : passes element with
    | false => simpa [passed] using last
    | true =>
      rw [List.filter_cons_of_pos passed, List.filter_nil, eraseDups_concat]
      simpa [passed, ite_not] using last

end LogDrift
