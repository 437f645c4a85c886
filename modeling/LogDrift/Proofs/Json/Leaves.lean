import LogDrift.Proofs.Json.Text

/-!
# The leaves of a value

A value is proper when its integers fit into 64 bits and its floats are finite. A proper value reads
back if its floats do.
-/

namespace LogDrift.Json

mutual

/-- The values without parts inside a value, itself when it has none. -/
def leaves : Json → List Json
  | arr elements => elementLeaves elements
  | obj members => memberLeaves members
  | value => [value]

/-- The leaves of some elements. -/
def elementLeaves : List Json → List Json
  | [] => []
  | element :: rest => element.leaves ++ elementLeaves rest

/-- The leaves of some members. -/
def memberLeaves : List (String × Json) → List Json
  | [] => []
  | (_, value) :: rest => value.leaves ++ memberLeaves rest

end

/-- Whether all numbers are in the ranges of their kinds. -/
structure Proper (value : Json) : Prop where
  integers : ∀ n, .int n ∈ value.leaves → Integer.Fits n
  floats : ∀ x, .float x ∈ value.leaves → x.isFinite = true

@[simp] theorem mem_elementLeaves {leaf : Json} {elements : List Json} :
    leaf ∈ elementLeaves elements ↔ ∃ element ∈ elements, leaf ∈ element.leaves := by
  induction elements with
  | nil => simp [elementLeaves]
  | cons element rest ih => simp [elementLeaves, ih]

@[simp] theorem mem_memberLeaves {leaf : Json} {members : List (String × Json)} :
    leaf ∈ memberLeaves members ↔ ∃ member ∈ members, leaf ∈ member.2.leaves := by
  induction members with
  | nil => simp [memberLeaves]
  | cons member rest ih =>
    rcases member with ⟨name, value⟩
    simp [memberLeaves, ih, or_and_right, exists_or]

@[simp] theorem proper_arr {elements : List Json} :
    (arr elements).Proper ↔ ∀ element ∈ elements, element.Proper := by
  constructor
  · intro proper element member
    constructor
    · exact fun n leaf => proper.integers n (mem_elementLeaves.2 ⟨element, member, leaf⟩)
    · exact fun x leaf => proper.floats x (mem_elementLeaves.2 ⟨element, member, leaf⟩)
  · intro proper
    constructor
    · intro n leaf
      rcases mem_elementLeaves.1 leaf with ⟨element, member, inside⟩
      exact (proper element member).integers n inside
    · intro x leaf
      rcases mem_elementLeaves.1 leaf with ⟨element, member, inside⟩
      exact (proper element member).floats x inside

@[simp] theorem proper_obj {members : List (String × Json)} :
    (obj members).Proper ↔ ∀ member ∈ members, member.2.Proper := by
  constructor
  · intro proper listed member
    constructor
    · exact fun n leaf => proper.integers n (mem_memberLeaves.2 ⟨listed, member, leaf⟩)
    · exact fun x leaf => proper.floats x (mem_memberLeaves.2 ⟨listed, member, leaf⟩)
  · intro proper
    constructor
    · intro n leaf
      rcases mem_memberLeaves.1 leaf with ⟨listed, member, inside⟩
      exact (proper listed member).integers n inside
    · intro x leaf
      rcases mem_memberLeaves.1 leaf with ⟨listed, member, inside⟩
      exact (proper listed member).floats x inside

@[simp] theorem proper_null : null.Proper :=
  ⟨by simp [leaves], by simp [leaves]⟩

@[simp] theorem proper_bool (value : Bool) : (bool value).Proper :=
  ⟨by simp [leaves], by simp [leaves]⟩

@[simp] theorem proper_str (value : String) : (str value).Proper :=
  ⟨by simp [leaves], by simp [leaves]⟩

@[simp] theorem proper_int {n : Int} : (int n).Proper ↔ Integer.Fits n :=
  ⟨fun proper => proper.integers n (List.mem_singleton_self _),
    fun fits => ⟨by simpa [leaves] using fits, by simp [leaves]⟩⟩

@[simp] theorem proper_float {x : Float} : (float x).Proper ↔ x.isFinite = true :=
  ⟨fun proper => proper.floats x (List.mem_singleton_self _),
    fun finite => ⟨by simp [leaves], by simpa [leaves] using finite⟩⟩

@[simp] theorem proper_strings (values : List String) : (strings values).Proper := by
  rw [strings, proper_arr, List.forall_mem_map]
  exact fun value _ => proper_str value

@[simp] theorem proper_ofOption {α : Type} {encode : α → Json} {value : Option α} :
    (ofOption encode value).Proper ↔ ∀ present ∈ value, (encode present).Proper := by
  cases value <;> simp [ofOption]

@[simp] theorem proper_optional {α : Type} {name : String} {encode : α → Json}
    {value : Option α} :
    (∀ member ∈ optional name encode value, member.2.Proper) ↔
      ∀ present ∈ value, (encode present).Proper := by
  cases value <;> simp [optional]

/-- Whether a leaf is in the range of its kind. -/
def inItsRange : Json → Bool
  | int n => decide (Integer.Fits n)
  | float x => x.isFinite
  | _ => true

@[simp] theorem all_inItsRange_iff {value : Json} :
    value.leaves.all inItsRange = true ↔ value.Proper := by
  rw [List.all_eq_true]
  constructor
  · exact fun all => ⟨fun n leaf => of_decide_eq_true (all _ leaf), fun x leaf => all _ leaf⟩
  · intro proper leaf member
    cases leaf with
    | int n => exact decide_eq_true (proper.integers n member)
    | float x => exact proper.floats x member
    | _ => rfl

instance (value : Json) : Decidable value.Proper :=
  decidable_of_iff _ all_inItsRange_iff

/-! ## Reading back -/

mutual

/-- A value is legible when the numbers among its leaves are. -/
theorem legible_iff_leaves : ∀ {value : Json}, value.Legible ↔
    (∀ n, .int n ∈ value.leaves → Integer.Fits n) ∧ ∀ x, .float x ∈ value.leaves → Rereads x
  | null => by simp [Legible, leaves]
  | bool _ => by simp [Legible, leaves]
  | int _ => by simp [Legible, leaves]
  | float _ => by simp [Legible, leaves]
  | str _ => by simp [Legible, leaves]
  | arr _ => legibleElements_iff_leaves
  | obj _ => legibleMembers_iff_leaves

theorem legibleElements_iff_leaves : ∀ {elements : List Json}, LegibleElements elements ↔
    (∀ n, .int n ∈ elementLeaves elements → Integer.Fits n) ∧
      ∀ x, .float x ∈ elementLeaves elements → Rereads x
  | [] => by simp [LegibleElements, elementLeaves]
  | element :: rest => by
    rw [LegibleElements, @legible_iff_leaves element, @legibleElements_iff_leaves rest]
    simp only [elementLeaves, List.mem_append, or_imp, forall_and]
    exact and_and_and_comm

theorem legibleMembers_iff_leaves : ∀ {members : List (String × Json)}, LegibleMembers members ↔
    (∀ n, .int n ∈ memberLeaves members → Integer.Fits n) ∧
      ∀ x, .float x ∈ memberLeaves members → Rereads x
  | [] => by simp [LegibleMembers, memberLeaves]
  | (_, value) :: rest => by
    rw [LegibleMembers, @legible_iff_leaves value, @legibleMembers_iff_leaves rest]
    simp only [memberLeaves, List.mem_append, or_imp, forall_and]
    exact and_and_and_comm

end

/-- A proper value can be read back when the texts of its floats denote them. -/
theorem Proper.legible {value : Json} (proper : value.Proper)
    (rereads : ∀ x, .float x ∈ value.leaves → x.isFinite = true → Rereads x) : value.Legible :=
  legible_iff_leaves.2
    ⟨proper.integers, fun x leaf => rereads x leaf (proper.floats x leaf)⟩

end LogDrift.Json
