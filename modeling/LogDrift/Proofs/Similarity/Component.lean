import Mathlib.Data.List.Nodup
import Mathlib.Data.List.Perm.Subperm

/-!
# What components are

The components of a list make up the finest partition in which linked elements stay together. They
are defined here by what is left when everything is taken away that a queue leads to.

The components of a list share its elements out among them: every element is in one component, and
only in one. Whatever is linked to an element that was reached is reached as well, so that linked
elements stay together.
-/

namespace LogDrift.Component

variable {α : Type}

@[simp] theorem length_partition (accepts : α → Bool) (elements : List α) :
    (elements.partition accepts).1.length + (elements.partition accepts).2.length =
      elements.length := by
  rw [List.partition_eq_filter_filter]
  induction elements with
  | nil => rfl
  | cons element elements ih =>
    by_cases accepted : accepts element
    · simp [accepted] at ih ⊢
      omega
    · simp [accepted] at ih ⊢
      omega

/-- What is left of `others` when everything is taken away that is linked to an element of the
queue, directly or by a chain. -/
def unreached (linked : α → α → Bool) : List α → List α → List α
  | [], others => others
  | element :: queue, others =>
    let near := others.partition (linked element)
    unreached linked (queue ++ near.1) near.2
termination_by queue others => queue.length + others.length
decreasing_by
  have split := length_partition (linked element) others
  simp only [List.length_cons, List.length_append]
  omega

theorem length_unreached_le (linked : α → α → Bool) (queue others : List α) :
    (unreached linked queue others).length ≤ others.length := by
  fun_induction unreached linked queue others with
  | case1 others => exact Nat.le_refl _
  | case2 element queue others near ih =>
    have split : near.1.length + near.2.length = others.length :=
      length_partition (linked element) others
    omega

/-- The components of a list in the order of their first elements. The elements of each keep their
order. -/
def components [BEq α] (linked : α → α → Bool) : List α → List (List α)
  | [] => []
  | element :: others =>
    let left := unreached linked [element] others
    (element :: others.filter fun other => !left.contains other) :: components linked left
termination_by elements => elements.length
decreasing_by
  exact Nat.lt_succ_of_le (length_unreached_le linked [element] others)

variable (linked : α → α → Bool)

/-! ## Reaching -/

theorem unreached_sublist (queue others : List α) :
    (unreached linked queue others).Sublist others := by
  fun_induction unreached linked queue others with
  | case1 others => exact List.Sublist.refl others
  | case2 element queue others near ih =>
    refine ih.trans ?_
    show (others.partition (linked element)).2.Sublist others
    rw [List.partition_eq_filter_filter]
    exact List.filter_sublist

/-- What was left out is linked neither to the queue nor to anything that was taken away. -/
theorem unlinked_of_mem_unreached {queue others : List α} {left : α}
    (member : left ∈ unreached linked queue others) :
    (∀ element ∈ queue, linked element left = false) ∧
      ∀ element ∈ others, element ∉ unreached linked queue others →
        linked element left = false := by
  fun_induction unreached linked queue others with
  | case1 others => exact ⟨List.forall_mem_nil _, fun _ present gone => (gone present).elim⟩
  | case2 first queue others near ih =>
    have split : near = (others.filter (linked first), others.filter fun x => !linked first x) :=
      List.partition_eq_filter_filter
    rcases ih member with ⟨queued, reached⟩
    have apart := (unreached_sublist linked _ _).subset member
    rw [split, List.mem_filter] at apart
    constructor
    · rw [List.forall_mem_cons]
      constructor
      · simpa using apart.2
      · exact fun element waiting => queued element (List.mem_append_left _ waiting)
    · intro element present gone
      cases close : linked first element with
      | true =>
        apply queued
        apply List.mem_append_right
        rw [split]
        exact List.mem_filter.2 ⟨present, close⟩
      | false =>
        apply reached element _ gone
        rw [split]
        exact List.mem_filter.2 ⟨present, by simp [close]⟩

@[simp] theorem unreached_nil (queue : List α) : unreached linked queue [] = [] :=
  List.sublist_nil.1 (unreached_sublist linked queue [])

/-- What is not linked to the first element is reached through one that is. -/
theorem unreached_chain {first second : α} {others : List α} (near : linked first second = true)
    (far : ∀ other ∈ others, linked first other = false)
    (through : ∀ other ∈ others, linked second other = true) :
    unreached linked [first] (second :: others) = [] := by
  have unlinked : others.filter (linked first) = [] := by
    rw [List.filter_eq_nil_iff]
    intro other member
    rw [far other member]
    exact Bool.false_ne_true
  have left : (others.filter fun other => !linked first other) = others := by
    rw [List.filter_eq_self]
    intro other member
    rw [far other member, Bool.not_false]
  have gone : (others.filter fun other => !linked second other) = [] := by
    rw [List.filter_eq_nil_iff]
    intro other member
    rw [through other member, Bool.not_true]
    exact Bool.false_ne_true
  rw [unreached, List.partition_eq_filter_filter, List.filter_cons_of_pos near, unlinked,
    List.filter_cons_of_neg (by simp [near])]
  show unreached linked [second] (others.filter fun other => !linked first other) = []
  rw [left, unreached, List.partition_eq_filter_filter]
  show unreached linked _ (others.filter fun other => !linked second other) = []
  rw [gone, unreached_nil]

/-- Nothing is taken away that is linked to no element of the queue. -/
theorem unreached_of_apart {queue others : List α}
    (apart : ∀ element ∈ queue, ∀ other ∈ others, linked element other = false) :
    unreached linked queue others = others := by
  induction queue with
  | nil => rw [unreached]
  | cons element queue ih =>
    rw [List.forall_mem_cons] at apart
    have near : others.filter (linked element) = [] := by
      rw [List.filter_eq_nil_iff]
      intro other member
      rw [apart.1 other member]
      exact Bool.false_ne_true
    have far : (others.filter fun other => !linked element other) = others := by
      rw [List.filter_eq_self]
      intro other member
      rw [apart.1 other member, Bool.not_false]
    rw [unreached, List.partition_eq_filter_filter, near, List.append_nil]
    show unreached linked queue (others.filter fun other => !linked element other) = others
    rw [far]
    exact ih apart.2

/-- An element to which nothing is linked is never reached. -/
theorem mem_unreached_of_isolated {queue others : List α} {alone : α} (member : alone ∈ others)
    (isolated : ∀ element ∈ queue ++ others, linked element alone = false) :
    alone ∈ unreached linked queue others := by
  fun_induction unreached linked queue others with
  | case1 others => exact member
  | case2 element queue others near ih =>
    have split : near =
        (others.filter (linked element), others.filter fun other => !linked element other) :=
      List.partition_eq_filter_filter
    apply ih
    · rw [split, List.mem_filter]
      exact ⟨member, by rw [isolated element (.head _), Bool.not_false]⟩
    · intro other present
      apply isolated
      rw [split, List.append_assoc] at present
      simp only [List.mem_append, List.mem_filter] at present
      rw [List.cons_append, List.mem_cons, List.mem_append]
      rcases present with queued | ⟨inside, _⟩ | ⟨inside, _⟩
      · exact .inr (.inl queued)
      · exact .inr (.inr inside)
      · exact .inr (.inr inside)

/-! ## Sharing out -/

variable [BEq α]

/-- Whether equality tells the elements of a list apart. -/
structure Distinct (elements : List α) : Prop where
  nodup : elements.Nodup
  beq_iff : ∀ left ∈ elements, ∀ right ∈ elements, (left == right) = true ↔ left = right

theorem Distinct.sublist {elements part : List α} (distinct : Distinct elements)
    (sub : part.Sublist elements) : Distinct part where
  nodup := distinct.nodup.sublist sub
  beq_iff left inside right other :=
    distinct.beq_iff left (sub.subset inside) right (sub.subset other)

theorem Distinct.contains_iff {elements part : List α} (distinct : Distinct elements)
    (sub : part ⊆ elements) {element : α} (member : element ∈ elements) :
    part.contains element = true ↔ element ∈ part := by
  rw [List.contains_iff_exists_mem_beq]
  constructor
  · intro found
    rcases found with ⟨other, inside, same⟩
    rw [(distinct.beq_iff element member other (sub inside)).1 same]
    exact inside
  · intro inside
    exact ⟨element, inside, (distinct.beq_iff element member element member).2 rfl⟩

/-- Every element is in a component as often as in the list. -/
theorem perm_flatten_components {elements : List α} (distinct : Distinct elements) :
    (components linked elements).flatten.Perm elements := by
  fun_induction components linked elements with
  | case1 => exact .refl _
  | case2 element others left ih =>
    have sub : left.Sublist others := unreached_sublist linked [element] others
    have rest := distinct.sublist (List.sublist_cons_self element others)
    have inside : (others.filter fun other => left.contains other).Perm left := by
      apply (List.perm_ext_iff_of_nodup (rest.nodup.filter _) (rest.nodup.sublist sub)).2
      intro other
      rw [List.mem_filter]
      constructor
      · intro both
        rcases both with ⟨present, contained⟩
        exact (rest.contains_iff sub.subset present).1 contained
      · intro present
        exact ⟨sub.subset present, (rest.contains_iff sub.subset (sub.subset present)).2 present⟩
    have shared := (inside.append_right _).symm.trans
      (List.filter_append_perm (fun other => left.contains other) others)
    rw [List.flatten_cons, List.cons_append]
    refine .cons element (.trans ?_ shared)
    exact ((ih (rest.sublist sub)).append_left _).trans List.perm_append_comm

omit linked in
/-- Every component has an element. -/
theorem ne_nil_of_mem_components {linked : α → α → Bool} {elements group : List α}
    (member : group ∈ components linked elements) : group ≠ [] := by
  fun_induction components linked elements with
  | case1 => nomatch member
  | case2 element others left ih =>
    rcases List.mem_cons.1 member with rfl | later
    · exact List.cons_ne_nil _ _
    · exact ih later

/-- There are no more components than elements. -/
theorem length_components_le (elements : List α) :
    (components linked elements).length ≤ elements.length := by
  fun_induction components linked elements with
  | case1 => exact Nat.le_refl 0
  | case2 element others left ih =>
    have fewer : left.length ≤ others.length := length_unreached_le linked [element] others
    rw [List.length_cons, List.length_cons]
    omega

/-- The first component that contains an element is the one that it is in. -/
theorem findIdx_contains_iff {elements : List α} (distinct : Distinct elements) {element : α}
    (member : element ∈ elements) {number : Nat}
    (inBounds : number < (components linked elements).length) :
    ((components linked elements).findIdx fun group => group.contains element) = number ↔
      element ∈ (components linked elements)[number] := by
  have shared := perm_flatten_components linked distinct
  have sub : ∀ group ∈ components linked elements, group ⊆ elements := fun group present _ inside =>
    shared.subset (List.mem_flatten.2 ⟨group, present, inside⟩)
  have contains : ∀ (place : Nat) (within : place < (components linked elements).length),
      ((components linked elements)[place].contains element = true ↔
        element ∈ (components linked elements)[place]) := fun place within =>
    distinct.contains_iff (sub _ (List.getElem_mem within)) member
  have apart := (List.nodup_flatten.1 (shared.nodup_iff.2 distinct.nodup)).2
  rw [List.findIdx_eq inBounds, contains number inBounds]
  constructor
  · exact fun found => found.1
  · intro inside
    refine ⟨inside, ?_⟩
    intro earlier before
    rw [Bool.eq_false_iff, Ne, contains earlier (Nat.lt_trans before inBounds)]
    intro also
    exact List.pairwise_iff_getElem.1 apart earlier number _ inBounds before also inside

/-- An element that is linked with nothing, itself included, is a component of its own. -/
theorem eq_singleton_of_isolated {elements group : List α} (distinct : Distinct elements)
    {alone : α} (isolated : ∀ element ∈ elements,
      linked alone element = false ∧ linked element alone = false)
    (member : group ∈ components linked elements) (inside : alone ∈ group) : group = [alone] := by
  fun_induction components linked elements with
  | case1 => nomatch member
  | case2 element others left ih =>
    have sub : left.Sublist others := unreached_sublist linked [element] others
    have rest := distinct.sublist (List.sublist_cons_self element others)
    rw [List.forall_mem_cons] at isolated
    rcases List.mem_cons.1 member with rfl | later
    · rcases List.mem_cons.1 inside with rfl | reached
      · have all : left = others := by
          apply unreached_of_apart
          rw [List.forall_mem_singleton]
          exact fun other present => (isolated.2 other present).1
        rw [all, List.cons_inj_right, List.filter_eq_nil_iff]
        intro other present
        rw [(rest.contains_iff (List.Subset.refl others) present).2 present]
        exact Bool.false_ne_true
      · rw [List.mem_filter] at reached
        have present : alone ∈ left := by
          apply mem_unreached_of_isolated linked reached.1
          rw [List.singleton_append, List.forall_mem_cons]
          exact ⟨isolated.1.2, fun other present => (isolated.2 other present).2⟩
        rw [(rest.contains_iff sub.subset reached.1).2 present] at reached
        exact (Bool.false_ne_true reached.2).elim
    · exact ih (rest.sublist sub) (fun other present => isolated.2 other (sub.subset present)) later

/-- Every element is on its own exactly when none is linked to a later one. -/
theorem forall_eq_singleton_iff {elements : List α} (distinct : Distinct elements) :
    (∀ group ∈ components linked elements, group.length = 1) ↔
      elements.Pairwise fun element later => linked element later = false := by
  fun_induction components linked elements with
  | case1 => simp
  | case2 element others left ih =>
    have sub : left.Sublist others := unreached_sublist linked [element] others
    have rest := distinct.sublist (List.sublist_cons_self element others)
    have reached : (element :: others.filter fun other => !left.contains other).length = 1 ↔
        left = others := by
      rw [List.length_cons, Nat.add_eq_right, List.length_eq_zero_iff, List.filter_eq_nil_iff]
      constructor
      · intro all
        apply sub.eq_of_length_le
        refine (List.subperm_of_subset rest.nodup ?_).length_le
        intro other present
        have contained := all other present
        rw [Bool.not_eq_true', Bool.not_eq_false] at contained
        exact (rest.contains_iff sub.subset present).1 contained
      · intro all other present
        rw [(rest.contains_iff sub.subset present).2 (all ▸ present)]
        exact Bool.false_ne_true
    rw [List.forall_mem_cons, reached, ih (rest.sublist sub), List.pairwise_cons]
    constructor
    · intro both
      rcases both with ⟨all, later⟩
      refine ⟨?_, all ▸ later⟩
      intro other present
      have stays : other ∈ unreached linked [element] others := by
        rw [show unreached linked [element] others = others from all]
        exact present
      exact (unlinked_of_mem_unreached linked stays).1 element (.head _)
    · intro both
      rcases both with ⟨far, later⟩
      have all : left = others := by
        apply unreached_of_apart
        rw [List.forall_mem_singleton]
        exact far
      exact ⟨all, all ▸ later⟩

/-- Where everything is reached from the first element, there is one component. -/
theorem components_eq_singleton {element : α} {others : List α}
    (reached : unreached linked [element] others = []) :
    components linked (element :: others) = [element :: others] := by
  rw [components]
  simp only [reached]
  rw [components]
  simp

section Images

/-! ## Images -/

variable {α β : Type} {linked : α → α → Bool} {linked' : β → β → Bool} {image : α → β}

theorem unreached_map (links : ∀ left right, linked' (image left) (image right) = linked left right)
    (queue others : List α) :
    unreached linked' (queue.map image) (others.map image) =
      (unreached linked queue others).map image := by
  fun_induction unreached linked queue others with
  | case1 others => rw [List.map_nil, unreached]
  | case2 element queue others near ih =>
    have split : (others.map image).partition (linked' (image element)) =
        (near.1.map image, near.2.map image) := by
      simp only [near, List.partition_eq_filter_filter, List.filter_map, Function.comp_def, links]
    rw [List.map_cons, unreached, split, ← List.map_append]
    exact ih

variable [BEq α] [BEq β]

theorem contains_map (same : ∀ left right, (image left == image right) = (left == right))
    (elements : List α) (element : α) :
    (elements.map image).contains (image element) = elements.contains element := by
  induction elements with
  | nil => rfl
  | cons head rest ih => simp [List.contains_cons, same, ih]

/-- The components of an image are the images of the components. -/
theorem components_map (links : ∀ left right, linked' (image left) (image right) = linked left right)
    (same : ∀ left right, (image left == image right) = (left == right)) (elements : List α) :
    components linked' (elements.map image) =
      (components linked elements).map (List.map image) := by
  fun_induction components linked elements with
  | case1 => rw [List.map_nil, components, List.map_nil]
  | case2 element others left ih =>
    have reached : unreached linked' [image element] (others.map image) = left.map image :=
      unreached_map links [element] others
    rw [List.map_cons, components, reached, ih, List.map_cons, List.map_cons, List.filter_map]
    simp only [Function.comp_def, contains_map same]

end Images

end LogDrift.Component
