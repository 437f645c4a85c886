import LogDrift.Proofs.Similarity.Chain
import LogDrift.Similarity.Component
import Mathlib.Data.List.Induction
import Mathlib.Order.MinMax

/-!
# The search for components

Going out from a place gives one number to exactly those places that a chain of places without
numbers leads to. What is left without a number is therefore what is left for the other components,
and when every place has had its turn, the numbers are those of the components. The table that the
elements are gathered in has the components for its rows.
-/

namespace LogDrift.Component

variable {n : Nat} {linked : Fin n → Fin n → Bool}

@[simp] theorem mem_neighbours {place other : Fin n} :
    other ∈ (neighbours linked).get place ↔ other ≠ place ∧ linked place other = true := by
  have found : (neighbours linked).get place =
      (List.finRange n).filter fun other => other ≠ place && linked place other :=
    Vector.getElem_ofFn place.isLt
  simp [found]

theorem vacant_sublist (numbers : Vector (Option Nat) n) :
    (vacant numbers).Sublist (List.finRange n) :=
  List.filter_sublist

@[simp]
theorem get_replicate (place : Fin n) : (Vector.replicate n (none : Option Nat)).get place = none :=
  Vector.getElem_replicate place.isLt

@[simp]
theorem vacant_replicate : vacant (.replicate n none) = List.finRange n := by
  simp [vacant]

/-! ## Going out from a queue -/

/-- What becomes of numbers when one is given to the places of a queue and to all that they lead
to. -/
structure Flooded (linked : Fin n → Fin n → Bool) (number : Nat) (queue : List (Fin n))
    (before after : Vector (Option Nat) n) : Prop where
  /-- A place keeps the number that it has. -/
  keeps : ∀ (place : Fin n) (value : Nat), before.get place = some value →
    after.get place = some value
  /-- No other number is given. -/
  given : ∀ place : Fin n, before.get place = none →
    after.get place = none ∨ after.get place = some number
  /-- The places of the queue have numbers. -/
  queued : ∀ place ∈ queue, after.get place ≠ none
  /-- Links from a place that got the number lead to places with numbers. -/
  closed : ∀ place : Fin n, before.get place = none → after.get place ≠ none →
    ∀ next : Fin n, linked place next = true → after.get next ≠ none
  /-- A chain of places without numbers leads to each place that got the number. -/
  reached : ∀ place : Fin n, before.get place = none → after.get place ≠ none →
    ∃ first ∈ queue, Connected linked (vacant before) first place

section Flood

variable {number : Nat} {numbers after : Vector (Option Nat) n} {place : Fin n}
  {queue waiting : List (Fin n)}

/-- A place without a number gets it, and what it leads to is put into the queue. -/
theorem Flooded.mark
    (flooded : Flooded linked number waiting (give numbers place number) after)
    (isVacant : numbers.get place = none) (kept : queue ⊆ waiting)
    (leads : ∀ next : Fin n, linked place next = true →
      next ∈ waiting ∨ (give numbers place number).get next ≠ none)
    (found : ∀ next ∈ waiting, next ∈ queue ∨ linked place next = true) :
    Flooded linked number (place :: queue) numbers after := by
  have marked : after.get place = some number := flooded.keeps place number (get_give_self ..)
  have numbered : ∀ next : Fin n, (give numbers place number).get next ≠ none →
      after.get next ≠ none := by
    intro next taken
    obtain ⟨value, has⟩ := Option.ne_none_iff_exists'.1 taken
    simp [flooded.keeps next value has]
  refine ⟨?keeps, ?given, ?queued, ?closed, ?reached⟩
  case keeps =>
    intro other value has
    have apart : other ≠ place := by
      rintro rfl
      simp [isVacant] at has
    exact flooded.keeps other value ((get_give_of_ne apart).trans has)
  case given =>
    intro other without
    by_cases same : other = place
    · exact .inr (same ▸ marked)
    · exact flooded.given other ((get_give_of_ne same).trans without)
  case queued =>
    rw [List.forall_mem_cons]
    exact ⟨by simp [marked], fun other waits => flooded.queued other (kept waits)⟩
  case closed =>
    intro other without gets next link
    by_cases same : other = place
    · rcases leads next (same ▸ link) with waits | taken
      · exact flooded.queued next waits
      · exact numbered next taken
    · exact flooded.closed other ((get_give_of_ne same).trans without) gets next link
  case reached =>
    intro other without gets
    by_cases same : other = place
    · exact ⟨place, .head _, same ▸ .refl⟩
    · have fewer : vacant (give numbers place number) ⊆ vacant numbers := by
        intro next
        rw [mem_vacant, mem_vacant]
        intro stillVacant
        have apart : next ≠ place := by
          rintro rfl
          simp at stillVacant
        rwa [get_give_of_ne apart] at stillVacant
      obtain ⟨first, waits, chain⟩ :=
        flooded.reached other ((get_give_of_ne same).trans without) gets
      rcases found first waits with inQueue | link
      · exact ⟨first, .tail _ inQueue, chain.mono fewer⟩
      · have isOther : other ∈ vacant (give numbers place number) :=
          mem_vacant.2 ((get_give_of_ne same).trans without)
        have start := fewer (chain.left_mem isOther)
        exact ⟨place, .head _,
          .head ⟨mem_vacant.2 isVacant, start, link⟩ (chain.mono fewer)⟩

/-- Flooding ends, whatever the links are, and keeps to what it promises. -/
theorem flooded_flood (number : Nat) (numbers : Vector (Option Nat) n) (queue : List (Fin n)) :
    Flooded linked number queue numbers (flood (neighbours linked) number numbers queue) := by
  fun_induction flood (neighbours linked) number numbers queue with
  | case1 numbers =>
    exact ⟨fun _ _ => id, fun _ => .inl, List.forall_mem_nil _,
      fun _ without gets => (gets without).elim, fun _ without gets => (gets without).elim⟩
  | case2 numbers place queue value taken ih =>
    refine { ih with queued := ?queued, reached := ?reached }
    case queued =>
      rw [List.forall_mem_cons, ih.keeps place value taken]
      exact ⟨Option.some_ne_none value, ih.queued⟩
    case reached =>
      intro other without gets
      obtain ⟨first, waits, chain⟩ := ih.reached other without gets
      exact ⟨first, .tail _ waits, chain⟩
  | case3 numbers place queue isVacant marked ih =>
    apply ih.mark isVacant (List.subset_append_left ..)
    · intro next link
      by_cases same : next = place
      · exact .inr (by simp [same])
      · by_cases without : marked.get next = none
        · refine .inl (List.mem_append_right _ ?_)
          rw [List.mem_filter, mem_neighbours]
          exact ⟨⟨same, link⟩, by rw [without, Option.isNone_none]⟩
        · exact .inr without
    · intro next waits
      rw [List.mem_append, List.mem_filter, mem_neighbours] at waits
      exact waits.imp_right fun found => found.1.2

/-- A place whose turn comes without a number goes out from itself. -/
theorem flooded_visit (isVacant : numbers.get place = none) :
    Flooded linked number [place] numbers
      (flood (neighbours linked) number (give numbers place number)
        ((neighbours linked).get place)) := by
  apply (flooded_flood number _ _).mark isVacant (List.nil_subset _)
  · intro next link
    by_cases same : next = place
    · exact .inr (by simp [same])
    · exact .inl (mem_neighbours.2 ⟨same, link⟩)
  · exact fun next found => .inr (mem_neighbours.1 found).2

/-- Going out from the first place without a number leaves those that are left for the other
components. -/
theorem Flooded.eq_none_iff {others : List (Fin n)}
    (flooded : Flooded linked number [place] numbers after)
    (split : vacant numbers = place :: others) {other : Fin n} :
    after.get other = none ↔ other ∈ unreached linked [place] others := by
  have listed : ∀ next : Fin n, next ∈ place :: others ↔ numbers.get next = none := fun next => by
    rw [← split, mem_vacant]
  have fresh : place ∉ others := by
    have nodup := (vacant_sublist numbers).nodup (List.nodup_finRange n)
    rw [split] at nodup
    exact (List.nodup_cons.1 nodup).1
  have sub := (unreached_sublist linked [place] others).subset
  constructor
  · intro left
    by_contra gone
    have without : numbers.get other = none := by
      by_contra taken
      obtain ⟨value, has⟩ := Option.ne_none_iff_exists'.1 taken
      simp [flooded.keeps other value has] at left
    have start := flooded.queued place (.head _)
    rcases List.mem_cons.1 ((listed other).2 without) with rfl | waits
    · exact start left
    · have queued : [place] ⊆ place :: others :=
        List.cons_subset_cons place (List.nil_subset others)
      obtain ⟨first, begins, chain⟩ :=
        connected_of_reached queued (List.subset_cons_self place others) waits gone
      rw [List.mem_singleton.1 begins] at chain
      refine chain.stays (fun next => after.get next ≠ none) ?_ start left
      intro near far gets joined
      exact flooded.closed near ((listed near).1 joined.1) gets far joined.2.2
  · intro stays
    by_contra gets
    obtain ⟨first, begins, chain⟩ :=
      flooded.reached other ((listed other).1 (.tail _ (sub stays))) gets
    rw [List.mem_singleton.1 begins, split] at chain
    refine chain.stays (· ∉ unreached linked [place] others) ?_ (fun inside => fresh (sub inside))
      stays
    intro near far gone joined inside
    obtain ⟨first, later⟩ := unlinked_of_mem_unreached linked inside
    rcases List.mem_cons.1 joined.1 with rfl | waits
    · exact Bool.false_ne_true ((first near (.head _)).symm.trans joined.2.2)
    · exact Bool.false_ne_true ((later near waits gone).symm.trans joined.2.2)

theorem Flooded.vacant_eq {others : List (Fin n)}
    (flooded : Flooded linked number [place] numbers after)
    (split : vacant numbers = place :: others) :
    vacant after = unreached linked [place] others := by
  have part : others.Sublist (vacant numbers) := split ▸ List.sublist_cons_self place others
  apply filter_eq_of_sublist
  · exact (unreached_sublist linked [place] others).trans (part.trans (vacant_sublist numbers))
  · exact List.nodup_finRange n
  · intro other _
    rw [Option.isNone_iff_eq_none, flooded.eq_none_iff split]

theorem distinct_of_nodup {α : Type} [BEq α] [LawfulBEq α] {elements : List α}
    (nodup : elements.Nodup) : Distinct elements where
  nodup
  beq_iff _ _ _ _ := beq_iff_eq

/-- Counted from the next number on, the places have the same numbers after the first component got
its number as before. -/
theorem Flooded.getD_eq {others : List (Fin n)}
    (flooded : Flooded linked number [place] numbers after)
    (split : vacant numbers = place :: others) (other : Fin n) :
    (after.get other).getD (number + 1 + numberIn (components linked (vacant after)) other) =
      (numbers.get other).getD (number + numberIn (components linked (vacant numbers)) other) := by
  have distinct : Distinct (place :: others) :=
    split ▸ distinct_of_nodup ((List.nodup_finRange n).sublist (vacant_sublist numbers))
  rw [flooded.vacant_eq split, split]
  cases without : numbers.get other with
  | some value => rw [flooded.keeps other value without, Option.getD_some, Option.getD_some]
  | none =>
    have listed : other ∈ place :: others := split ▸ mem_vacant.2 without
    by_cases stays : other ∈ unreached linked [place] others
    · rw [(flooded.eq_none_iff split).2 stays, Option.getD_none, Option.getD_none,
        numberIn_of_unreached distinct stays]
      omega
    · have gets := (flooded.given other without).resolve_left
        (mt (flooded.eq_none_iff split).1 stays)
      rw [gets, Option.getD_some, Option.getD_none, numberIn_of_reached distinct listed stays,
        Nat.add_zero]

end Flood

/-! ## The turns of the places -/

/-- When the places without a number have had their turns, they have the numbers of their components,
counted from the next number. -/
theorem foldl_visit {places : List (Fin n)} {numbers : Vector (Option Nat) n}
    (nodup : places.Nodup) (waiting : (vacant numbers).Sublist places) (next : Nat)
    (place : Fin n) :
    (places.foldl (visit (neighbours linked)) (numbers, next)).1.get place =
      some ((numbers.get place).getD
        (next + numberIn (components linked (vacant numbers)) place)) := by
  induction places generalizing numbers next with
  | nil =>
    have taken : numbers.get place ≠ none := by
      rw [Ne, ← mem_vacant, List.sublist_nil.1 waiting]
      exact List.not_mem_nil
    obtain ⟨value, has⟩ := Option.ne_none_iff_exists'.1 taken
    rw [List.foldl_nil, has, Option.getD_some]
  | cons first places ih =>
    rw [List.nodup_cons] at nodup
    cases has : numbers.get first with
    | some value =>
      have passed : visit (neighbours linked) (numbers, next) first = (numbers, next) := by
        simp only [visit, has]
      have later : (vacant numbers).Sublist places := by
        rcases List.sublist_cons_iff.1 waiting with later | ⟨others, split, _⟩
        · exact later
        · have without : numbers.get first = none := mem_vacant.1 (split ▸ .head others)
          cases has.symm.trans without
      rw [List.foldl_cons, passed]
      exact ih nodup.2 later next
    | none =>
      obtain ⟨others, split, later⟩ : ∃ others, vacant numbers = first :: others ∧
          others.Sublist places := by
        rcases List.sublist_cons_iff.1 waiting with later | split
        · exact (nodup.1 (later.subset (mem_vacant.2 has))).elim
        · exact split
      have flooded : Flooded linked next [first] numbers _ := flooded_visit has
      have turn : visit (neighbours linked) (numbers, next) first =
          (flood (neighbours linked) next (give numbers first next)
            ((neighbours linked).get first), next + 1) := by
        simp only [visit, has]
      rw [List.foldl_cons, turn]
      generalize flood (neighbours linked) next (give numbers first next)
        ((neighbours linked).get first) = after at flooded
      have left := flooded.vacant_eq split
      rw [ih nodup.2 (left ▸ (unreached_sublist linked [first] others).trans later),
        flooded.getD_eq split]

/-- The search gives every place the number of its component. -/
theorem numbers_eq (linked : Fin n → Fin n → Bool) :
    numbers linked =
      (List.finRange n).map (numberIn (components linked (List.finRange n))) := by
  have found : ∀ place, _ = some (Option.getD _ (0 + numberIn (components linked _) place)) :=
    foldl_visit (List.nodup_finRange n) (vacant_sublist (.replicate n none)) 0
  apply List.ext_getElem
  · simp [numbers]
  · intro place inLeft inRight
    have inBounds : place < n := by simpa using inRight
    have number := found ⟨place, inBounds⟩
    simp only [get_replicate, Option.getD_none, Nat.zero_add, vacant_replicate] at number
    simp only [numbers, List.getElem_map, List.getElem_finRange, Vector.getElem_toList]
    exact congrArg (Option.getD · 0) number

/-! ## Elements of a list -/

section Elements

variable {α β : Type} [BEq α] [BEq β]

theorem numberIn_map {image : α → β}
    (same : ∀ left right, (image left == image right) = (left == right))
    (groups : List (List α)) (element : α) :
    numberIn (groups.map (List.map image)) (image element) = numberIn groups element := by
  simp only [numberIn, List.findIdx_map, Function.comp_def, contains_map same]

/-- Elements are searched by their places. -/
theorem numbers_getElem {linked : α → α → Bool} {elements : List α} (distinct : Distinct elements) :
    (numbers fun left right : Fin elements.length => linked elements[left] elements[right]) =
      elements.map (numberIn (components linked elements)) := by
  have same : ∀ left right : Fin elements.length,
      (elements.get left == elements.get right) = (left == right) := by
    intro left right
    rw [Bool.eq_iff_iff, distinct.beq_iff _ (List.get_mem ..) _ (List.get_mem ..), beq_iff_eq,
      distinct.nodup.get_inj_iff]
  have grouped : components linked ((List.finRange elements.length).map elements.get) =
      (components (fun left right : Fin elements.length => linked elements[left] elements[right])
        (List.finRange elements.length)).map (List.map elements.get) :=
    components_map (fun _ _ => rfl) same _
  rw [List.map_get_finRange] at grouped
  have numbered : ∀ place, numberIn (components linked elements) (elements.get place) =
      numberIn (components (fun left right : Fin elements.length =>
        linked elements[left] elements[right]) (List.finRange elements.length)) place := by
    intro place
    rw [grouped, numberIn_map same]
  calc numbers _
    _ = _ := numbers_eq _
    _ = (List.finRange elements.length).map
        (numberIn (components linked elements) ∘ elements.get) :=
      List.map_congr_left fun place _ => (numbered place).symm
    _ = elements.map (numberIn (components linked elements)) := by
      rw [← List.map_map, List.map_get_finRange]

end Elements

/-! ## The table -/

section Table

variable {α : Type}

@[simp] theorem length_enter (table : List (List α)) (element : α) (number : Nat) :
    (enter table (element, number)).length = max table.length (number + 1) := by
  simp only [enter, List.length_modify, List.length_append, List.length_replicate]
  omega

/-- Only the row of its number gets the element. -/
theorem row_enter (table : List (List α)) (element : α) (number row : Nat) :
    (enter table (element, number))[row]?.getD [] =
      if number = row then table[row]?.getD [] ++ [element] else table[row]?.getD [] := by
  have grown : (table ++ List.replicate (number + 1 - table.length) [])[row]?.getD [] =
      table[row]?.getD [] := by
    grind
  rw [enter, List.getElem?_modify]
  by_cases same : number = row
  · subst same
    have inBounds : number < (table ++ List.replicate (number + 1 - table.length) []).length := by
      rw [List.length_append, List.length_replicate]
      omega
    simp only [if_true, ← grown, List.getElem?_eq_getElem inBounds, Option.map_eq_map,
      Option.map_some, Option.getD_some]
  · simp only [same, if_false, Option.map_eq_map, Option.map_id', grown]

@[simp] theorem gather_concat (entries : List (α × Nat)) (entry : α × Nat) :
    gather (entries ++ [entry]) = enter (gather entries) entry := by
  rw [gather, List.foldl_append]
  rfl

/-- The table has rows up to the greatest number. -/
theorem lt_length_gather {entries : List (α × Nat)} {row : Nat} :
    row < (gather entries).length ↔ ∃ entry ∈ entries, row ≤ entry.2 := by
  induction entries using List.reverseRecOn with
  | nil => simp [gather]
  | append_singleton entries entry ih =>
    rw [gather_concat, length_enter, lt_max_iff, ih]
    simp only [List.mem_append, List.mem_singleton, or_and_right, exists_or, exists_eq_left,
      Nat.lt_succ_iff]

/-- A row has the elements with its number, in their order. -/
theorem row_gather (entries : List (α × Nat)) (row : Nat) :
    (gather entries)[row]?.getD [] =
      (entries.filter fun entry => entry.2 == row).map Prod.fst := by
  induction entries using List.reverseRecOn with
  | nil => simp [gather]
  | append_singleton entries entry ih =>
    rw [gather_concat, row_enter, ih, List.filter_append, List.map_append]
    by_cases same : entry.2 = row
    · simp [same]
    · simp [same]

/-- The elements of a list, gathered by the numbers of their components, make up the components. -/
theorem gather_components [BEq α] {linked : α → α → Bool} {elements : List α}
    (distinct : Distinct elements) :
    gather (elements.map fun element => (element, numberIn (components linked elements) element)) =
      components linked elements := by
  apply List.ext_getElem
  · apply eq_of_forall_lt_iff
    intro row
    rw [lt_length_gather]
    constructor
    · rintro ⟨entry, listed, upTo⟩
      obtain ⟨element, present, rfl⟩ := List.mem_map.1 listed
      exact Nat.lt_of_le_of_lt upTo (exists_number distinct present).1
    · intro inBounds
      obtain ⟨element, inside⟩ := List.exists_mem_of_ne_nil _
        (ne_nil_of_mem_components (List.getElem_mem inBounds))
      have present := (sublist_of_mem_components (List.getElem_mem inBounds)).subset inside
      refine ⟨_, List.mem_map_of_mem present, Nat.le_of_eq ?_⟩
      exact ((findIdx_contains_iff linked distinct present inBounds).2 inside).symm
  · intro row inLeft inRight
    have gathered := row_gather (elements.map fun element =>
      (element, numberIn (components linked elements) element)) row
    rw [List.getElem?_eq_getElem inLeft, Option.getD_some] at gathered
    rw [gathered, List.filter_map, List.map_map, ← filter_number distinct inRight]
    exact List.map_id _

end Table

end LogDrift.Component
