import LogDrift.Proofs.Exact.Scalar
import LogDrift.Proofs.FirstUses
import LogDrift.Proofs.Text.Pieces
import LogDrift.Similarity.Gram

/-!
# Shared grams

The similarity of two texts is the quotient of two numbers of grams: of those that both texts have
and of those that either has. It depends on nothing but the two sets of grams, and these do not
depend on how the words of a text are spaced.
-/

namespace LogDrift.Gram

variable {S : Type} [Scalar S] {size : Nat} {text text' left right : String}

/-! ## Windows -/

/-- The windows of a list are its infixes of one length. -/
theorem mem_windows_iff {α : Type} (positive : 0 < size) {window elements : List α} :
    window ∈ windows size elements ↔ window.length = size ∧ window <:+: elements := by
  induction elements with
  | nil =>
    simp only [windows, List.not_mem_nil, List.infix_nil, false_iff]
    rintro ⟨rfl, rfl⟩
    contradiction
  | cons element rest ih =>
    rw [windows]
    split
    · next short =>
      rw [List.length_take] at short
      simp only [List.not_mem_nil, false_iff]
      rintro ⟨rfl, within⟩
      have := within.length_le
      omega
    · next long =>
      rw [List.mem_cons, ih, List.infix_cons_iff, List.prefix_iff_eq_take]
      constructor
      · rintro (rfl | ⟨length, within⟩)
        · rw [List.length_take] at long ⊢
          have full : min size (element :: rest).length = size := by omega
          exact ⟨full, .inl (by rw [full])⟩
        · exact ⟨length, .inr within⟩
      · rintro ⟨rfl, first | within⟩
        · exact .inl first
        · exact .inr ⟨rfl, within⟩

/-! ## Grams -/

/-- What a gram of a text is. -/
inductive IsGram (size : Nat) (text : String) : List Char → Prop where
  /-- A text that is no longer than a gram is one itself, unless it is empty. -/
  | whole : folded text ≠ [] → (folded text).length ≤ max size 1 → IsGram size text (folded text)
  /-- Of a longer text every run of as many characters as a gram has is one. -/
  | run {gram : List Char} : max size 1 < (folded text).length → gram.length = max size 1 →
      gram <:+: folded text → IsGram size text gram

/-- The grams of a text. -/
def gramSet (size : Nat) (text : String) : Set (List Char) :=
  {gram | IsGram size text gram}

theorem mem_grams_iff {gram : List Char} :
    gram ∈ grams (sizeOf size) text ↔ gram ∈ gramSet size text := by
  have positive : 0 < max size 1 := Nat.lt_of_lt_of_le Nat.one_pos (Nat.le_max_right size 1)
  change gram ∈ grams (max size 1) text ↔ IsGram size text gram
  simp only [grams, List.isEmpty_iff]
  constructor
  · intro member
    split at member
    · contradiction
    · next nonempty =>
      split at member
      · next short =>
        rw [List.mem_singleton] at member
        exact member ▸ .whole nonempty short
      · next long =>
        rw [List.mem_eraseDups, mem_windows_iff positive] at member
        exact .run (Nat.lt_of_not_le long) member.1 member.2
  · intro isGram
    cases isGram with
    | whole nonempty short => simp [nonempty, short]
    | run long length within =>
      have nonempty : folded text ≠ [] := List.ne_nil_of_length_pos (Nat.zero_lt_of_lt long)
      rw [if_neg nonempty, if_neg (Nat.not_le_of_lt long), List.mem_eraseDups,
        mem_windows_iff positive]
      exact ⟨length, within⟩

theorem nodup_grams (size : Nat) (text : String) : (grams size text).Nodup := by
  simp only [grams]
  split
  · exact .nil
  · split
    · exact List.nodup_singleton _
    · exact nodup_eraseDups _

theorem ncard_setOf_mem {α : Type} [DecidableEq α] {elements : List α} (distinct : elements.Nodup) :
    {element | element ∈ elements}.ncard = elements.length := by
  rw [← List.coe_toFinset, Set.ncard_coe_finset, List.toFinset_card_of_nodup distinct]

theorem gramSet_eq (size : Nat) (text : String) :
    gramSet size text = {gram | gram ∈ grams (sizeOf size) text} :=
  Set.ext fun _ => mem_grams_iff.symm

theorem finite_gramSet (size : Nat) (text : String) : (gramSet size text).Finite := by
  rw [gramSet_eq]
  exact List.finite_toSet _

theorem length_grams (size : Nat) (text : String) :
    (grams (sizeOf size) text).length = (gramSet size text).ncard := by
  rw [gramSet_eq, ncard_setOf_mem (nodup_grams _ _)]

theorem isEmpty_grams_iff : (grams (sizeOf size) text).isEmpty = true ↔ gramSet size text = ∅ := by
  simp [List.isEmpty_iff, List.eq_nil_iff_forall_not_mem, Set.eq_empty_iff_forall_notMem,
    mem_grams_iff]

/-- Only the words of a text matter, not the blanks around them. -/
theorem gramSet_respaced (respaced : Text.Respaced text.toList text'.toList) :
    gramSet size text = gramSet size text' := by
  rw [gramSet_eq, gramSet_eq, grams, grams, folded, folded, respaced.words_eq]

/-! ## Overlaps -/

/-- The number of grams that two texts share. -/
def shared (size : Nat) (left right : String) : Nat :=
  ((grams (sizeOf size) left).filter fun gram => (grams (sizeOf size) right).contains gram).length

theorem shared_eq (size : Nat) (left right : String) :
    shared size left right = (gramSet size left ∩ gramSet size right).ncard := by
  rw [shared, ← ncard_setOf_mem ((nodup_grams _ _).filter _)]
  congr 1
  ext gram
  simp [mem_grams_iff]

/-- Counting the grams of the one text and of the other counts the shared ones twice. -/
theorem ncard_union (size : Nat) (left right : String) :
    (gramSet size left ∪ gramSet size right).ncard + shared size left right =
      (grams (sizeOf size) left).length + (grams (sizeOf size) right).length := by
  rw [shared_eq, length_grams, length_grams]
  exact Set.ncard_union_add_ncard_inter _ _ (finite_gramSet _ _) (finite_gramSet _ _)

open Classical in
/-- The overlap depends on the sets of grams. -/
theorem overlap_eq (size : Nat) (left right : String) :
    (overlap size left right : S) =
      if gramSet size left = ∅ ∧ gramSet size right = ∅ then 1
      else Scalar.ratio (gramSet size left ∩ gramSet size right).ncard
        (gramSet size left ∪ gramSet size right).ncard := by
  have total := ncard_union size left right
  simp only [overlap, Bool.and_eq_true, isEmpty_grams_iff]
  rw [← shared, ← total, Nat.add_sub_cancel, shared_eq]

theorem overlap_comm (size : Nat) (left right : String) :
    (overlap size left right : S) = overlap size right left := by
  rw [overlap_eq, overlap_eq, Set.inter_comm, Set.union_comm]
  simp only [and_comm]

theorem overlap_congr {left' right' : String} (same : gramSet size left = gramSet size left')
    (same' : gramSet size right = gramSet size right') :
    (overlap size left right : S) = overlap size left' right' := by
  rw [overlap_eq, overlap_eq, same, same']

/-! ## The index of two sets -/

section Jaccard

variable {α : Type} {these those : Set α}

open Classical in
/-- The Jaccard index: the share of the elements of either set that are in both. Two empty sets are
the same. -/
noncomputable def jaccard (these those : Set α) : ℝ :=
  if these = ∅ ∧ those = ∅ then 1 else (these ∩ those).ncard / (these ∪ those).ncard

theorem inter_subset_union (these those : Set α) : these ∩ those ⊆ these ∪ those :=
  Set.inter_subset_left.trans Set.subset_union_left

theorem ncard_union_ne_zero (finite : (these ∪ those).Finite)
    (nonempty : ¬ (these = ∅ ∧ those = ∅)) :
    (these ∪ those).ncard ≠ 0 := by
  rwa [Ne, Set.ncard_eq_zero finite, Set.union_empty_iff]

theorem jaccard_nonneg (these those : Set α) : 0 ≤ jaccard these those := by
  rw [jaccard]
  split <;> positivity

theorem jaccard_le_one (finite : (these ∪ those).Finite) : jaccard these those ≤ 1 := by
  rw [jaccard]
  split
  · exact le_rfl
  · apply div_le_one_of_le₀ _ (Nat.cast_nonneg _)
    exact Nat.cast_le.2 (Set.ncard_le_ncard (inter_subset_union these those) finite)

theorem jaccard_eq_one_iff (finite : (these ∪ those).Finite) :
    jaccard these those = 1 ↔ these = those := by
  rw [jaccard]
  split
  · next bare => simp [bare]
  · next nonempty =>
    rw [div_eq_one_iff_eq (Nat.cast_ne_zero.2 (ncard_union_ne_zero finite nonempty)), Nat.cast_inj]
    constructor
    · intro sizes
      have same : these ⊓ those = these ⊔ those :=
        Set.eq_of_subset_of_ncard_le (inter_subset_union these those) sizes.ge finite
      exact inf_eq_sup.1 same
    · rintro rfl
      rw [Set.inter_self, Set.union_self]

theorem jaccard_eq_zero_iff (finite : (these ∪ those).Finite) :
    jaccard these those = 0 ↔ Disjoint these those ∧ ¬ (these = ∅ ∧ those = ∅) := by
  rw [jaccard]
  split
  · next bare => simp [bare]
  · next nonempty =>
    have inner : (these ∩ those).Finite := finite.subset (inter_subset_union these those)
    rw [div_eq_zero_iff, Nat.cast_eq_zero, Nat.cast_eq_zero, Set.ncard_eq_zero inner,
      ← Set.disjoint_iff_inter_eq_empty]
    simp [ncard_union_ne_zero finite nonempty, nonempty]

end Jaccard

/-- Read exactly, the overlap of two texts is the index of their grams. -/
theorem value_overlap {value : S → ℝ} (exact : Scalar.Exact value) (size : Nat)
    (left right : String) :
    value (overlap size left right) = jaccard (gramSet size left) (gramSet size right) := by
  rw [overlap_eq, jaccard]
  split
  · exact exact.one
  · exact exact.ratio _ _

/-! ## What overlaps say -/

/-- The overlap of two texts is the share of their grams that both have. -/
structure GramShare (S : Type) [Scalar S] (size : Nat) (left right : String) : Prop where
  bare : gramSet size left = ∅ ∧ gramSet size right = ∅ → (overlap size left right : S) = 1
  quotient : ¬ (gramSet size left = ∅ ∧ gramSet size right = ∅) →
    0 < (gramSet size left ∪ gramSet size right).ncard ∧
    (overlap size left right : S) = Scalar.ratio (gramSet size left ∩ gramSet size right).ncard
      (gramSet size left ∪ gramSet size right).ncard
  /-- The shared grams can be taken from those of the one text and of the other. -/
  counted : shared size left right ≤
      (grams (sizeOf size) left).length + (grams (sizeOf size) right).length ∧
    (grams (sizeOf size) left).length + (grams (sizeOf size) right).length -
      shared size left right = (gramSet size left ∪ gramSet size right).ncard
  comm : (overlap size left right : S) = overlap size right left
  /-- The blanks around and between words do not matter. -/
  respaced : ∀ left' right', Text.Respaced left.toList left'.toList →
    Text.Respaced right.toList right'.toList →
    (overlap size left right : S) = overlap size left' right'
  exact : ∀ value : S → ℝ, Scalar.Exact value →
    value (overlap size left right) = jaccard (gramSet size left) (gramSet size right)
  unit : ∀ value : S → ℝ, Scalar.Exact value →
    0 ≤ value (overlap size left right) ∧ value (overlap size left right) ≤ 1
  one_iff : ∀ value : S → ℝ, Scalar.Exact value →
    (value (overlap size left right) = 1 ↔ gramSet size left = gramSet size right)
  zero_iff : ∀ value : S → ℝ, Scalar.Exact value →
    (value (overlap size left right) = 0 ↔ Disjoint (gramSet size left) (gramSet size right) ∧
      ¬ (gramSet size left = ∅ ∧ gramSet size right = ∅))

/-- Texts are as similar as the index of their grams says. -/
theorem overlap_shares (size : Nat) (left right : String) : GramShare S size left right := by
  have finite : (gramSet size left ∪ gramSet size right).Finite :=
    (finite_gramSet size left).union (finite_gramSet size right)
  constructor
  case bare =>
    intro bare
    rw [overlap_eq, if_pos bare]
  case quotient =>
    intro nonempty
    refine ⟨Nat.pos_of_ne_zero (ncard_union_ne_zero finite nonempty), ?_⟩
    rw [overlap_eq, if_neg nonempty]
  case counted =>
    rw [← ncard_union, Nat.add_sub_cancel]
    exact ⟨Nat.le_add_left _ _, rfl⟩
  case comm => exact overlap_comm size left right
  case respaced =>
    intro left' right' respaced respaced'
    exact overlap_congr (gramSet_respaced respaced) (gramSet_respaced respaced')
  case exact => exact fun value exact => value_overlap exact size left right
  case unit =>
    intro value exact
    rw [value_overlap exact]
    exact ⟨jaccard_nonneg _ _, jaccard_le_one finite⟩
  case one_iff =>
    intro value exact
    rw [value_overlap exact, jaccard_eq_one_iff finite]
  case zero_iff =>
    intro value exact
    rw [value_overlap exact, jaccard_eq_zero_iff finite]

theorem overlap_shares_partly :
    (0 : ℝ) < overlap 2 "ab" "ab c" ∧ (overlap 2 "ab" "ab c" : ℝ) < 1 ∧
      (overlap 2 "ab" "ab c" : ℝ) = overlap 2 "\nab" "ab\t c" := by
  have shares := overlap_shares (S := ℝ) 2 "ab" "ab c"
  have unit := shares.unit _ Scalar.exact_real
  refine ⟨lt_of_le_of_ne unit.1 ?positive, lt_of_le_of_ne unit.2 ?less, ?respaced⟩
  case positive =>
    intro zero
    have apart := ((shares.zero_iff _ Scalar.exact_real).1 zero.symm).1
    have first : "ab".toList ∈ gramSet 2 "ab" := mem_grams_iff.1 (by decide +kernel)
    have second : "ab".toList ∈ gramSet 2 "ab c" := mem_grams_iff.1 (by decide +kernel)
    exact Set.disjoint_left.1 apart first second
  case less =>
    intro one
    have same := (shares.one_iff _ Scalar.exact_real).1 one
    have second : " c".toList ∈ gramSet 2 "ab c" := mem_grams_iff.1 (by decide +kernel)
    rw [← same, ← mem_grams_iff] at second
    exact absurd second (by decide +kernel)
  case respaced =>
    have blank : ∀ c ∈ "\n\t ".toList, Text.isBlank c = true := by
      simp [Text.isBlank, Text.inRuns, Text.blankRuns]
    apply shares.respaced
    · exact .symm (@Text.Respaced.leading ['\n'] "ab".toList (by simp [blank]))
    · exact @Text.Respaced.between [' '] ['\t', ' '] "ab".toList ['c'] (by simp) (by simp)
        (by simp [blank]) (by simp [blank])

end LogDrift.Gram
