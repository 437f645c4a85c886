import LogDrift.Proofs.FirstUses
import LogDrift.Proofs.Similarity.Component
import Mathlib.Logic.Relation

/-!
# Chains of links

Two elements are in one component exactly when a chain of linked elements leads from one to the
other, and components are numbered in the order in which the list first shows them.
-/

namespace LogDrift.Component

variable {α : Type} {linked : α → α → Bool} {elements : List α}

/-- Whether two elements of a list are linked. -/
def Joined (linked : α → α → Bool) (elements : List α) (left right : α) : Prop :=
  left ∈ elements ∧ right ∈ elements ∧ linked left right = true

/-- Whether a chain of linked elements of a list leads from one element to another. -/
def Connected (linked : α → α → Bool) (elements : List α) : α → α → Prop :=
  Relation.ReflTransGen (Joined linked elements)

theorem Connected.mono {part : List α} (sub : part ⊆ elements) {left right : α}
    (connected : Connected linked part left right) : Connected linked elements left right :=
  Relation.ReflTransGen.mono
    (fun _ _ joined => ⟨sub joined.1, sub joined.2.1, joined.2.2⟩) _ _ connected

/-- A chain that ends in the list starts in it. -/
theorem Connected.left_mem {left right : α} (connected : Connected linked elements left right)
    (listed : right ∈ elements) : left ∈ elements := by
  rcases connected.cases_head with rfl | ⟨_, joined, _⟩
  · exact listed
  · exact joined.1

/-- Where links go both ways, so do chains. -/
theorem Connected.symm
    (symmetric : ∀ left ∈ elements, ∀ right ∈ elements, linked left right = linked right left)
    {left right : α} (connected : Connected linked elements left right) :
    Connected linked elements right left := by
  induction connected with
  | refl => exact .refl
  | tail _ joined ih =>
    obtain ⟨inLeft, inRight, near⟩ := joined
    exact .head ⟨inRight, inLeft, by rw [symmetric _ inRight _ inLeft, near]⟩ ih

/-- A chain that starts in a set which no link leaves stays in it. -/
theorem Connected.stays (inside : α → Prop) {left right : α}
    (closed : ∀ left right, inside left → Joined linked elements left right → inside right)
    (connected : Connected linked elements left right) (start : inside left) : inside right := by
  induction connected with
  | refl => exact start
  | tail _ joined ih => exact closed _ _ ih joined

/-- A chain that starts in a part which no link leaves is a chain of that part. -/
theorem Connected.restrict {part : List α} {left right : α}
    (closed : ∀ left right, left ∈ part → Joined linked elements left right → right ∈ part)
    (connected : Connected linked elements left right) (start : left ∈ part) :
    right ∈ part ∧ Connected linked part left right := by
  induction connected with
  | refl => exact ⟨start, .refl⟩
  | tail _ joined ih =>
    have next := closed _ _ ih.1 joined
    exact ⟨next, ih.2.tail ⟨ih.1, next, joined.2.2⟩⟩

/-- What is taken away is connected to an element of the queue. -/
theorem connected_of_reached {queue others : List α} {reached : α}
    (queued : queue ⊆ elements) (listed : others ⊆ elements) (member : reached ∈ others)
    (gone : reached ∉ unreached linked queue others) :
    ∃ first ∈ queue, Connected linked elements first reached := by
  fun_induction unreached linked queue others with
  | case1 others => exact (gone member).elim
  | case2 element queue others near ih =>
    have split : near = (others.filter (linked element), others.filter fun x => !linked element x) :=
      List.partition_eq_filter_filter
    have start := queued (.head _)
    cases close : linked element reached with
    | true => exact ⟨element, .head _, .single ⟨start, listed member, close⟩⟩
    | false =>
      have waiting : queue ++ near.1 ⊆ elements := by
        refine List.append_subset.2 ⟨fun _ inside => queued (.tail _ inside), ?_⟩
        rw [split]
        exact fun _ inside => listed (List.mem_filter.1 inside).1
      have left : near.2 ⊆ elements := by
        rw [split]
        exact fun _ inside => listed (List.mem_filter.1 inside).1
      have stays : reached ∈ near.2 := by simp [split, member, close]
      obtain ⟨first, waits, connected⟩ := ih waiting left stays gone
      rcases List.mem_append.1 waits with inQueue | found
      · exact ⟨first, .tail _ inQueue, connected⟩
      · -- An element that was put into the queue was found from the one that stood first.
        have linkedFirst : linked element first = true := by
          rw [split] at found
          exact (List.mem_filter.1 found).2
        exact ⟨element, .head _,
          .head ⟨start, waiting (List.mem_append_right _ found), linkedFirst⟩ connected⟩

/-! ## Components -/

variable [BEq α]

/-- Elements of a component stand in the order of the list. -/
theorem sublist_of_mem_components {group : List α}
    (member : group ∈ components linked elements) : group.Sublist elements := by
  fun_induction components linked elements with
  | case1 => simp at member
  | case2 element others left ih =>
    rcases List.mem_cons.1 member with rfl | later
    · exact List.filter_sublist.cons_cons element
    · exact (ih later).trans ((unreached_sublist linked [element] others).cons element)

section First

variable {element : α} {others : List α}

/-- The first component holds what is not left for the others. -/
theorem mem_first_component_iff (distinct : Distinct (element :: others)) {other : α} :
    (other ∈ element ::
        others.filter fun other => !(unreached linked [element] others).contains other) ↔
      other ∈ element :: others ∧ other ∉ unreached linked [element] others := by
  have sub := unreached_sublist linked [element] others
  have fresh := (List.nodup_cons.1 distinct.nodup).1
  constructor
  · intro inside
    rcases List.mem_cons.1 inside with rfl | kept
    · exact ⟨.head _, fun stays => fresh (sub.subset stays)⟩
    · obtain ⟨present, gone⟩ := List.mem_filter.1 kept
      refine ⟨.tail _ present, fun stays => ?_⟩
      have contained := (distinct.contains_iff (fun _ inside => .tail _ (sub.subset inside))
        (.tail _ present)).2 stays
      simp [contained] at gone
  · rintro ⟨listed, gone⟩
    rcases List.mem_cons.1 listed with rfl | present
    · exact .head _
    · refine .tail _ (List.mem_filter.2 ⟨present, ?_⟩)
      rw [Bool.not_eq_true', Bool.eq_false_iff, Ne,
        distinct.contains_iff (fun _ inside => .tail _ (sub.subset inside)) listed]
      exact gone

/-- A link leads neither into what is left for the other components nor out of it. -/
theorem mem_unreached_iff (distinct : Distinct (element :: others))
    (symmetric : ∀ left ∈ element :: others, ∀ right ∈ element :: others,
      linked left right = linked right left)
    {left right : α} (joined : Joined linked (element :: others) left right) :
    left ∈ unreached linked [element] others ↔ right ∈ unreached linked [element] others := by
  have unlinked : ∀ near ∈ element :: others, near ∉ unreached linked [element] others →
      ∀ far ∈ unreached linked [element] others, linked near far = false := by
    intro near listed gone far stays
    have apart := unlinked_of_mem_unreached linked stays
    rcases List.mem_cons.1 listed with rfl | present
    · exact apart.1 near (.head _)
    · exact apart.2 near present gone
  obtain ⟨inLeft, inRight, near⟩ := joined
  constructor
  · intro stays
    by_contra gone
    have far := unlinked right inRight gone left stays
    rw [← symmetric left inLeft right inRight, near] at far
    contradiction
  · intro stays
    by_contra gone
    have far := unlinked left inLeft gone right stays
    rw [near] at far
    contradiction

end First

/-- Two elements are in one component exactly when they are connected. -/
theorem exists_component_iff (distinct : Distinct elements)
    (symmetric : ∀ left ∈ elements, ∀ right ∈ elements, linked left right = linked right left)
    {left right : α} (inLeft : left ∈ elements) (inRight : right ∈ elements) :
    (∃ group ∈ components linked elements, left ∈ group ∧ right ∈ group) ↔
      Connected linked elements left right := by
  fun_induction components linked elements generalizing left right with
  | case1 => simp at inLeft
  | case2 element others rest ih =>
    have sub : rest.Sublist others := unreached_sublist linked [element] others
    have part : rest ⊆ element :: others := fun _ inside => .tail _ (sub.subset inside)
    have first : ∀ {other}, (other ∈ element :: others.filter fun other => !rest.contains other) ↔
        other ∈ element :: others ∧ other ∉ rest := mem_first_component_iff distinct
    have crosses : ∀ {left right}, Joined linked (element :: others) left right →
        (left ∈ rest ↔ right ∈ rest) := mem_unreached_iff distinct symmetric
    have later : ∀ {left right}, left ∈ rest → right ∈ rest →
        ((∃ group ∈ components linked rest, left ∈ group ∧ right ∈ group) ↔
          Connected linked rest left right) := ih (distinct.sublist (sub.cons element))
      fun left inLeft right inRight => symmetric left (part inLeft) right (part inRight)
    constructor
    · rintro ⟨group, isGroup, leftInside, rightInside⟩
      rcases List.mem_cons.1 isGroup with rfl | isGroup
      · -- Both are reached from the first element, and chains can be followed back.
        have reached : ∀ other ∈ element :: others.filter (fun other => !rest.contains other),
            Connected linked (element :: others) element other := by
          intro other inside
          obtain ⟨listed, gone⟩ := first.1 inside
          rcases List.mem_cons.1 listed with rfl | present
          · exact .refl
          · obtain ⟨start, begins, connected⟩ := connected_of_reached
              (List.cons_subset_cons element (List.nil_subset others))
              (List.subset_cons_self element others) present gone
            rwa [List.mem_singleton.1 begins] at connected
        exact ((reached left leftInside).symm symmetric).trans (reached right rightInside)
      · have within := (sublist_of_mem_components isGroup).subset
        exact ((later (within leftInside) (within rightInside)).1
          ⟨group, isGroup, leftInside, rightInside⟩).mono part
    · intro connected
      by_cases stays : left ∈ rest
      · obtain ⟨inside, chain⟩ := connected.restrict
          (fun _ _ inside joined => (crosses joined).1 inside) stays
        obtain ⟨group, isGroup, both⟩ := (later stays inside).2 chain
        exact ⟨group, .tail _ isGroup, both⟩
      · have gone := connected.stays (· ∉ rest)
          (fun _ _ gone joined stays => gone ((crosses joined).2 stays)) stays
        exact ⟨_, .head _, first.2 ⟨inLeft, stays⟩, first.2 ⟨inRight, gone⟩⟩

/-! ## Numbers -/

omit [BEq α] in
/-- A part of a list is what a test accepts that tells it from the rest. -/
theorem filter_eq_of_sublist {part : List α} {accepts : α → Bool} (sub : part.Sublist elements)
    (nodup : elements.Nodup) (tells : ∀ element ∈ elements, accepts element = true ↔ element ∈ part) :
    elements.filter accepts = part := by
  have kept : part.filter accepts = part :=
    List.filter_eq_self.2 fun element inside => (tells element (sub.subset inside)).2 inside
  refine (List.Sublist.eq_of_length_le (kept ▸ sub.filter accepts) ?_).symm
  refine (List.subperm_of_subset (nodup.filter accepts) ?_).length_le
  intro element accepted
  obtain ⟨present, told⟩ := List.mem_filter.1 accepted
  exact (tells element present).1 told

/-- The number of the first of some groups that an element is in. -/
def numberIn (groups : List (List α)) (element : α) : Nat :=
  groups.findIdx fun group => group.contains element

section First

variable {element : α} {others : List α}

theorem contains_first_component (distinct : Distinct (element :: others)) {other : α}
    (listed : other ∈ element :: others) :
    (element :: others.filter fun other =>
        !(unreached linked [element] others).contains other).contains other = true ↔
      other ∉ unreached linked [element] others := by
  rw [distinct.contains_iff (List.filter_sublist.cons_cons element).subset listed,
    mem_first_component_iff distinct, and_iff_right listed]

/-- What is not left for the other components has the number zero. -/
theorem numberIn_of_reached (distinct : Distinct (element :: others)) {other : α}
    (listed : other ∈ element :: others) (gone : other ∉ unreached linked [element] others) :
    numberIn (components linked (element :: others)) other = 0 := by
  rw [components, numberIn, List.findIdx_cons, (contains_first_component distinct listed).2 gone,
    cond_true]

/-- What is left for the other components has its number there, moved by one. -/
theorem numberIn_of_unreached (distinct : Distinct (element :: others)) {other : α}
    (stays : other ∈ unreached linked [element] others) :
    numberIn (components linked (element :: others)) other =
      numberIn (components linked (unreached linked [element] others)) other + 1 := by
  have listed : other ∈ element :: others :=
    .tail _ ((unreached_sublist linked [element] others).subset stays)
  have outside := mt (contains_first_component distinct listed).1 (not_not_intro stays)
  rw [components, numberIn, List.findIdx_cons, Bool.eq_false_iff.2 outside, cond_false]
  rfl

end First

/-- Components are numbered in the order in which the list first shows them. -/
theorem eraseDups_numbers (distinct : Distinct elements) :
    (elements.map (numberIn (components linked elements))).eraseDups =
      List.range (components linked elements).length := by
  fun_induction components linked elements with
  | case1 => rfl
  | case2 element others rest ih =>
    have sub : rest.Sublist others := unreached_sublist linked [element] others
    have fresh : element ∉ rest := fun inside =>
      (List.nodup_cons.1 distinct.nodup).1 (sub.subset inside)
    rw [← components]
    -- What does not get the number zero is left for the other components.
    have kept : (others.map (numberIn (components linked (element :: others)))).filter
        (fun number => !number == 0) = (rest.map (numberIn (components linked rest))).map (· + 1) := by
      have left : others.filter ((fun number => !number == 0) ∘
          numberIn (components linked (element :: others))) = rest := by
        apply filter_eq_of_sublist sub (List.nodup_cons.1 distinct.nodup).2
        intro other present
        by_cases stays : other ∈ rest
        · simp [numberIn_of_unreached distinct stays, stays]
        · simp [numberIn_of_reached distinct (.tail _ present) stays, stays]
      rw [List.filter_map, left, List.map_map]
      exact List.map_congr_left fun other stays => numberIn_of_unreached distinct stays
    rw [List.map_cons, numberIn_of_reached distinct (.head _) fresh, List.eraseDups_cons, kept,
      eraseDups_map (fun _ _ same => Nat.succ.inj same), ih (distinct.sublist (sub.cons element)),
      components, List.length_cons, List.range_succ_eq_map]

/-- The number of an element is that of its component. -/
theorem exists_number (distinct : Distinct elements) {element : α} (present : element ∈ elements) :
    ∃ inBounds : numberIn (components linked elements) element <
        (components linked elements).length,
      element ∈ (components linked elements)[numberIn (components linked elements) element] := by
  have listed := (perm_flatten_components linked distinct).mem_iff.2 present
  obtain ⟨group, isGroup, inside⟩ := List.mem_flatten.1 listed
  obtain ⟨number, inBounds, rfl⟩ := List.mem_iff_getElem.1 isGroup
  have found : numberIn (components linked elements) element = number :=
    (findIdx_contains_iff linked distinct present inBounds).2 inside
  subst found
  exact ⟨inBounds, inside⟩

/-- Two elements have one number exactly when they are connected. -/
theorem numberIn_eq_iff (distinct : Distinct elements)
    (symmetric : ∀ left ∈ elements, ∀ right ∈ elements, linked left right = linked right left)
    {left right : α} (inLeft : left ∈ elements) (inRight : right ∈ elements) :
    numberIn (components linked elements) left = numberIn (components linked elements) right ↔
      Connected linked elements left right := by
  rw [← exists_component_iff distinct symmetric inLeft inRight]
  constructor
  · intro same
    obtain ⟨inBounds, inside⟩ := exists_number distinct inLeft
    refine ⟨_, List.getElem_mem inBounds, inside, ?_⟩
    exact (findIdx_contains_iff linked distinct inRight inBounds).1 same.symm
  · rintro ⟨group, isGroup, leftInside, rightInside⟩
    obtain ⟨number, inBounds, rfl⟩ := List.mem_iff_getElem.1 isGroup
    have number := fun {element} (present : element ∈ elements) =>
      (findIdx_contains_iff linked distinct present inBounds).2
    exact (number inLeft leftInside).trans (number inRight rightInside).symm

/-- A component is what has its number. -/
theorem filter_number (distinct : Distinct elements) {number : Nat}
    (inBounds : number < (components linked elements).length) :
    elements.filter (fun element => numberIn (components linked elements) element == number) =
      (components linked elements)[number] := by
  apply filter_eq_of_sublist (sublist_of_mem_components (List.getElem_mem inBounds)) distinct.nodup
  intro element present
  rw [beq_iff_eq]
  exact findIdx_contains_iff linked distinct present inBounds

end LogDrift.Component
