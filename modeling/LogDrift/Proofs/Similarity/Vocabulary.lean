import LogDrift.Proofs.FirstUses
import LogDrift.Proofs.Map.Sorted
import LogDrift.Similarity.Vocabulary

/-!
# Which vocabularies can be learnt

The document counts of a corpus say of every term how many documents hold it. They lie between one
and the size of the corpus, so that the relaxed filter keeps every term, and learning fails with it
only for a corpus without tokens.
-/

namespace LogDrift

/-- What of document counts the relaxed filter needs as scalars: their order, and that one is
neutral. -/
structure Scalar.FaithfulCounts (S : Type) [Scalar S] : Prop where
  mono : ∀ {few many : Nat}, few ≤ many → (Scalar.ofNat few : S) ≤ Scalar.ofNat many
  one_mul : ∀ count : Nat, (1 : S) * Scalar.ofNat count = Scalar.ofNat count

namespace Vocabulary

/-! ## Document counts -/

/-- How many documents hold a term. -/
def holders (documents : List String) (term : String) : Nat :=
  documents.countP fun document => term ∈ Text.tokens document

theorem holders_le (documents : List String) (term : String) :
    holders documents term ≤ documents.length :=
  List.countP_le_length

@[simp] theorem holders_pos {documents : List String} {term : String} :
    0 < holders documents term ↔ ∃ document ∈ documents, term ∈ Text.tokens document := by
  simp [holders, List.countP_pos_iff]

/-- Counting some distinct terms once more. -/
theorem get?_countTerms {terms : List String} (distinct : terms.Nodup)
    (counts : SortedMap String Nat) (term : String) :
    (terms.foldl (fun counts term => counts.alter term fun count => count.getD 0 + 1) counts).get?
        term =
      if term ∈ terms then some ((counts.get? term).getD 0 + 1) else counts.get? term := by
  induction terms generalizing counts with
  | nil => rfl
  | cons head rest ih =>
    rw [List.nodup_cons] at distinct
    rw [List.foldl_cons, ih distinct.2, SortedMap.get?_alter]
    by_cases same : head = term
    · subst same
      simp [distinct.1]
    · have differ : ¬ term = head := fun equal => same equal.symm
      simp [same, differ]

/-- A term has a count when a document holds it: the number of documents that do. -/
@[simp] theorem get?_documentCounts (documents : List String) (term : String) :
    (documentCounts documents).get? term =
      if holders documents term = 0 then none else some (holders documents term) := by
  have counted : ∀ (documents : List String) (counts : SortedMap String Nat),
      (documents.foldl (fun counts document =>
        (Text.tokens document).eraseDups.foldl (fun counts term =>
          counts.alter term fun count => count.getD 0 + 1) counts) counts).get? term =
        if holders documents term = 0 then counts.get? term
        else some ((counts.get? term).getD 0 + holders documents term) := by
    intro documents
    induction documents with
    | nil => exact fun _ => rfl
    | cons document rest ih =>
      intro counts
      rw [List.foldl_cons, ih, get?_countTerms (nodup_eraseDups _)]
      simp only [List.mem_eraseDups]
      by_cases held : term ∈ Text.tokens document
      · have more : holders (document :: rest) term = holders rest term + 1 := by
          simp [holders, held]
        rw [if_pos held, more]
        by_cases unheld : holders rest term = 0
        · simp [unheld]
        · simp [unheld]
          omega
      · have same : holders (document :: rest) term = holders rest term := by
          simp [holders, held]
        rw [if_neg held, same]
  rw [documentCounts, counted]
  simp

/-- Counts are those of the documents that hold the term. -/
theorem count_of_mem_documentCounts {documents : List String} {term : String} {count : Nat}
    (member : (term, count) ∈ (documentCounts documents).entries) :
    count = holders documents term ∧ 0 < count := by
  have found := SortedMap.get?_of_mem_entries member
  rw [get?_documentCounts] at found
  split at found
  · contradiction
  · next positive =>
    cases found
    exact ⟨rfl, Nat.pos_of_ne_zero positive⟩

/-! ## Learning -/

variable {S : Type} [Scalar S]

/-- Learning fails in one way only. -/
theorem learn_cases (documents : List String) (filter : TermFilter S) :
    (∃ vocabulary, learn documents filter = .ok vocabulary) ∨
      ∃ reason, learn documents filter = .error (.emptyVocabulary reason) := by
  simp only [learn]
  split
  · exact .inr ⟨_, rfl⟩
  · split
    · exact .inr ⟨_, rfl⟩
    · exact .inl ⟨_, rfl⟩

/-- The terms of a vocabulary weigh what the number of their holders says. -/
theorem weight_of_learn {documents : List String} {filter : TermFilter S}
    {vocabulary : Vocabulary S} (learnt : learn documents filter = .ok vocabulary) :
    ∀ entry ∈ vocabulary.terms, 0 < holders documents entry.1 ∧
      entry.2 = weight documents.length (holders documents entry.1) := by
  simp only [learn] at learnt
  split at learnt
  · cases learnt
  · split at learnt
    · cases learnt
    · cases learnt
      rw [List.forall_mem_map]
      intro entry member
      rcases entry with ⟨term, count⟩
      have counted := count_of_mem_documentCounts (List.mem_filter.1 member).1
      exact ⟨counted.1 ▸ counted.2, congrArg (weight _) counted.1⟩

/-- The vocabulary of a corpus under a filter, or with every term if the filter leaves none. -/
def learnOrRelax (documents : List String) (filter : TermFilter S) : Except Error (Vocabulary S) :=
  match learn documents filter with
  | .error (.emptyVocabulary _) => learn documents .relaxed
  | answer => answer

/-- Learning with either filter fails in one way only, as learning does. -/
theorem learnOrRelax_refusal (documents : List String) (filter : TermFilter S) :
    (∃ vocabulary, learnOrRelax documents filter = .ok vocabulary) ∨
      ∃ reason, learnOrRelax documents filter = .error (.emptyVocabulary reason) := by
  rw [learnOrRelax]
  obtain ⟨vocabulary, learnt⟩ | ⟨reason, refused⟩ := learn_cases documents filter
  · exact .inl ⟨vocabulary, by rw [learnt]⟩
  · rw [refused]
    exact learn_cases documents .relaxed

theorem learn_of_learnOrRelax {documents : List String} {filter : TermFilter S}
    {vocabulary : Vocabulary S} (learnt : learnOrRelax documents filter = .ok vocabulary) :
    ∃ used, learn documents used = .ok vocabulary := by
  rw [learnOrRelax] at learnt
  split at learnt
  · exact ⟨.relaxed, learnt⟩
  · exact ⟨filter, learnt⟩

/-- Nothing can be learnt from a corpus without tokens, whatever the filter. -/
theorem learn_of_no_tokens {documents : List String}
    (bare : ∀ document ∈ documents, Text.tokens document = []) (filter : TermFilter S) :
    ∃ reason, learn documents filter = .error (.emptyVocabulary reason) := by
  have uncounted : (documentCounts documents).entries = [] := by
    rw [List.eq_nil_iff_forall_not_mem]
    intro entry member
    have counted := count_of_mem_documentCounts member
    rw [counted.1, holders_pos] at counted
    rcases counted.2 with ⟨document, present, held⟩
    rw [bare document present] at held
    contradiction
  simp only [learn, uncounted]
  split
  · exact ⟨_, rfl⟩
  · exact ⟨_, rfl⟩

/-- The relaxed filter keeps every term of a corpus. -/
theorem keeps_relaxed (faithful : Scalar.FaithfulCounts S) {total count : Nat} (positive : 0 < count)
    (few : count ≤ total) : keeps (.relaxed : TermFilter S) total count = true := by
  rw [keeps, Bool.and_eq_true, decide_eq_true_iff, decide_eq_true_iff]
  constructor
  · exact positive
  · show Scalar.ofNat count ≤ (1 : S) * Scalar.ofNat total
    rw [faithful.one_mul]
    exact faithful.mono few

/-- With the relaxed filter a corpus with a token can be learnt. -/
theorem learn_relaxed_of_token (faithful : Scalar.FaithfulCounts S) {documents : List String}
    {document : String} (member : document ∈ documents) (present : Text.tokens document ≠ []) :
    ∃ vocabulary : Vocabulary S, learn documents .relaxed = .ok vocabulary := by
  rcases List.exists_mem_of_ne_nil _ present with ⟨term, held⟩
  have positive : 0 < holders documents term := holders_pos.2 ⟨document, member, held⟩
  have counted : (documentCounts documents).get? term = some (holders documents term) := by
    rw [get?_documentCounts, if_neg (Nat.ne_of_gt positive)]
  have kept : (term, holders documents term) ∈ (documentCounts documents).entries.filter
      fun entry => keeps (.relaxed : TermFilter S) documents.length entry.2 := by
    rw [List.mem_filter]
    exact ⟨SortedMap.mem_entries_of_get? counted,
      keeps_relaxed faithful positive (holders_le documents term)⟩
  have total : documents.length ≠ 0 := by
    intro empty
    rw [List.length_eq_zero_iff] at empty
    rw [empty] at member
    contradiction
  have remains : ((documentCounts documents).entries.filter
      fun entry => keeps (.relaxed : TermFilter S) documents.length entry.2).isEmpty = false := by
    rw [List.isEmpty_eq_false_iff]
    exact List.ne_nil_of_mem kept
  simp only [learn, total, if_false, remains, Bool.false_eq_true]
  exact ⟨_, rfl⟩

section Kept

variable {documents : List String} {filter : TermFilter S} {kept : List (String × Nat)}

/-- A vocabulary has the terms that the filter keeps, if there are any. -/
theorem learn_of_kept
    (found : ((documentCounts documents).entries.filter fun entry =>
      keeps filter documents.length entry.2) = kept) (nonempty : kept ≠ []) :
    learn documents filter =
      .ok ⟨kept.map fun entry => (entry.1, weight documents.length entry.2)⟩ := by
  have total : documents.length ≠ 0 := by
    intro bare
    rw [List.length_eq_zero_iff] at bare
    subst bare
    exact nonempty found.symm
  have occupied : kept.isEmpty = false := List.isEmpty_eq_false_iff.2 nonempty
  simp only [learn, total, found, occupied, if_false, Bool.false_eq_true]

theorem learnOrRelax_of_kept
    (found : ((documentCounts documents).entries.filter fun entry =>
      keeps filter documents.length entry.2) = kept) (nonempty : kept ≠ []) :
    learnOrRelax documents filter =
      .ok ⟨kept.map fun entry => (entry.1, weight documents.length entry.2)⟩ := by
  rw [learnOrRelax, learn_of_kept found nonempty]

end Kept

/-- With a token in the corpus there is a vocabulary, and without one there is none. -/
theorem learnOrRelax_cases (faithful : Scalar.FaithfulCounts S) (documents : List String)
    (filter : TermFilter S) :
    ((∃ document ∈ documents, Text.tokens document ≠ []) ∧
      ∃ vocabulary, learnOrRelax documents filter = .ok vocabulary) ∨
    ((∀ document ∈ documents, Text.tokens document = []) ∧
      ∃ reason, learnOrRelax documents filter = .error (.emptyVocabulary reason)) := by
  by_cases present : ∃ document ∈ documents, Text.tokens document ≠ []
  · refine .inl ⟨present, ?_⟩
    rcases present with ⟨document, member, token⟩
    rcases learn_cases documents filter with ⟨vocabulary, learnt⟩ | ⟨reason, refused⟩
    · exact ⟨vocabulary, by rw [learnOrRelax, learnt]⟩
    · rw [learnOrRelax, refused]
      exact learn_relaxed_of_token faithful member token
  · have bare : ∀ document ∈ documents, Text.tokens document = [] := fun document member =>
      Classical.byContradiction fun token => present ⟨document, member, token⟩
    refine .inr ⟨bare, ?_⟩
    rcases learn_of_no_tokens bare filter with ⟨reason, refused⟩
    rw [learnOrRelax, refused]
    exact learn_of_no_tokens bare .relaxed

/-! ## Vectors -/

/-- A vector has one component for each term. -/
@[simp] theorem length_vector (vocabulary : Vocabulary S) (text : String) :
    (vocabulary.vector text).length = vocabulary.size := by
  simp only [vector, Vector.normalized]
  split
  · simp [size]
  · simp [size]

end Vocabulary

end LogDrift
