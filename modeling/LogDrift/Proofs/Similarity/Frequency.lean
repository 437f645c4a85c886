import LogDrift.Proofs.Similarity.Vocabulary

/-!
# Vocabularies by document frequency

All that learning reads of a corpus is how many documents there are and how many of them hold each
term. So neither the order of the documents matters nor the order and the number of the tokens in
one. Of a text a vector only shows how often it holds each term, counted token by token at the place
that an index gives the term.
-/

namespace LogDrift.Vocabulary

variable {S : Type} [Scalar S] {documents documents' : List String} {filter : TermFilter S}

/-! ## Corpora -/

/-- Two texts have the same tokens, in whatever order and number. -/
def SameTokens (left right : String) : Prop :=
  ∀ token, token ∈ Text.tokens left ↔ token ∈ Text.tokens right

/-- The documents of two corpora can be paired off so that paired ones have the same tokens. -/
def Rearranged (documents documents' : List String) : Prop :=
  ∃ ordered, documents.Perm ordered ∧ List.Forall₂ SameTokens ordered documents'

theorem Rearranged.length_eq (same : Rearranged documents documents') :
    documents.length = documents'.length := by
  obtain ⟨ordered, perm, paired⟩ := same
  exact perm.length_eq.trans paired.length_eq

theorem Rearranged.holders_eq (same : Rearranged documents documents') (term : String) :
    holders documents term = holders documents' term := by
  obtain ⟨ordered, perm, paired⟩ := same
  refine (perm.countP_eq _).trans ?_
  clear perm
  induction paired with
  | nil => rfl
  | cons head _ ih =>
    rw [holders] at ih ⊢
    simp [List.countP_cons, ih, head term]

/-- Counts are the same where as many documents hold each term. -/
theorem documentCounts_congr
    (same : ∀ term, holders documents term = holders documents' term) :
    documentCounts documents = documentCounts documents' := by
  apply SortedMap.ext_get?
  intro term
  rw [get?_documentCounts, get?_documentCounts, same]

/-- The same is learnt of as many documents of which as many hold each term. -/
theorem learn_congr (size : documents.length = documents'.length)
    (same : ∀ term, holders documents term = holders documents' term) (filter : TermFilter S) :
    learn documents filter = learn documents' filter := by
  rw [learn, learn, size, documentCounts_congr same]

/-! ## Terms -/

/-- A term of a corpus is kept when neither too few nor too many documents hold it. -/
structure Kept (documents : List String) (filter : TermFilter S) (term : String) : Prop where
  used : ∃ document ∈ documents, term ∈ Text.tokens document
  enough : filter.least ≤ holders documents term
  few : Scalar.ofNat (holders documents term) ≤ filter.share * Scalar.ofNat documents.length

/-- The counts of the terms that a filter keeps, by ascending term. -/
def keptCounts (documents : List String) (filter : TermFilter S) : List (String × Nat) :=
  (documentCounts documents).entries.filter fun entry => keeps filter documents.length entry.2

theorem mem_keptCounts_iff {entry : String × Nat} :
    entry ∈ keptCounts documents filter ↔
      entry.2 = holders documents entry.1 ∧ Kept documents filter entry.1 := by
  obtain ⟨term, count⟩ := entry
  simp only [keptCounts, List.mem_filter, keeps, Bool.and_eq_true, decide_eq_true_eq]
  constructor
  · rintro ⟨member, enough, few⟩
    obtain ⟨rfl, positive⟩ := count_of_mem_documentCounts member
    exact ⟨rfl, holders_pos.1 positive, enough, few⟩
  · rintro ⟨rfl, used, enough, few⟩
    have counted : (documentCounts documents).get? term = some (holders documents term) := by
      rw [get?_documentCounts, if_neg (Nat.ne_of_gt (holders_pos.2 used))]
    exact ⟨SortedMap.mem_entries_of_get? counted, enough, few⟩

theorem ascending_keptCounts (documents : List String) (filter : TermFilter S) :
    ((keptCounts documents filter).map Prod.fst).Pairwise (· < ·) := by
  rw [List.pairwise_map]
  exact ((documentCounts documents).sorted.filter _).imp compareOfLessAndEq_eq_lt.1

theorem words_of_learn {vocabulary : Vocabulary S}
    (learnt : learn documents filter = .ok vocabulary) :
    vocabulary.words = (keptCounts documents filter).map Prod.fst := by
  simp only [learn] at learnt
  split at learnt
  · cases learnt
  · split at learnt
    · cases learnt
    · cases learnt
      rw [words, List.map_map]
      rfl

/-- Where the filter keeps no term there is nothing to learn. -/
theorem learn_of_not_kept (unkept : ∀ term, ¬ Kept documents filter term) :
    ∃ reason, learn documents filter = .error (.emptyVocabulary reason) := by
  have bare : keptCounts documents filter = [] := by
    rw [List.eq_nil_iff_forall_not_mem]
    exact fun entry member => unkept entry.1 (mem_keptCounts_iff.1 member).2
  rw [keptCounts] at bare
  simp only [learn, bare]
  split
  · exact ⟨_, rfl⟩
  · exact ⟨_, rfl⟩

/-! ## Counting tokens -/

section Tally

omit [Scalar S]

/-- The place of each term. -/
def index (vocabulary : Vocabulary S) : SortedMap String Nat :=
  .ofList vocabulary.words.zipIdx

/-- Counts one more token at the place of its term. A token that is no term counts nowhere. -/
def countToken (vocabulary : Vocabulary S) (counts : List Nat) (token : String) : List Nat :=
  match vocabulary.index.get? token with
  | none => counts
  | some place => counts.modify place (· + 1)

/-- The counts of all terms, taken one token after the other. -/
def tally (vocabulary : Vocabulary S) (tokens : List String) : List Nat :=
  tokens.foldl vocabulary.countToken (List.replicate vocabulary.size 0)

variable {vocabulary : Vocabulary S}

/-- The index is the inverse of the list of terms. -/
theorem get?_index_iff (distinct : vocabulary.words.Nodup) {term : String} {place : Nat} :
    vocabulary.index.get? term = some place ↔ vocabulary.words[place]? = some term := by
  constructor
  · intro found
    exact List.mem_zipIdx_iff_getElem?.1 (SortedMap.mem_of_get?_ofList found)
  · intro there
    apply SortedMap.get?_ofList_of_nodup
    · rwa [List.zipIdx_map_fst]
    · exact List.mem_zipIdx_iff_getElem?.2 there

/-- One more token adds one to the amount of its term. -/
theorem countToken_map (distinct : vocabulary.words.Nodup) (amount : String → Nat)
    (token : String) :
    vocabulary.countToken (vocabulary.words.map amount) token =
      vocabulary.words.map fun term => amount term + if token = term then 1 else 0 := by
  apply List.ext_getElem?
  intro place
  cases there : vocabulary.words[place]? with
  | none =>
    rw [countToken]
    split <;> simp [List.getElem?_modify, there]
  | some term =>
    have own : vocabulary.index.get? token = some place ↔ token = term := by
      rw [get?_index_iff distinct, there, Option.some.injEq, eq_comm]
    rw [countToken]
    split
    · next unknown =>
      have differ : token ≠ term := by simpa [unknown] using own
      simp [there, differ]
    · next found =>
      rw [found, Option.some.injEq] at own
      by_cases same : token = term
      · simp [there, same, own.2 same]
      · simp [there, same, mt own.1 same]

/-- Counting token by token comes to the number of times that each term occurs. -/
theorem tally_eq (distinct : vocabulary.words.Nodup) (tokens : List String) :
    vocabulary.tally tokens = vocabulary.words.map fun term => tokens.count term := by
  have counted : ∀ amount : String → Nat,
      tokens.foldl vocabulary.countToken (vocabulary.words.map amount) =
        vocabulary.words.map fun term => amount term + tokens.count term := by
    induction tokens with
    | nil => exact fun _ => rfl
    | cons token rest ih =>
      intro amount
      rw [List.foldl_cons, countToken_map distinct, ih]
      simp [List.count_cons, Nat.add_comm, Nat.add_left_comm]
  have zeros : List.replicate vocabulary.size 0 = vocabulary.words.map fun _ => 0 := by
    rw [List.map_const', words, List.length_map, size]
  rw [tally, zeros, counted]
  simp only [Nat.zero_add]

end Tally

/-! ## Vectors -/

/-- A vector is made of the counts of its text. -/
theorem vector_eq_tally {vocabulary : Vocabulary S} (distinct : vocabulary.words.Nodup)
    (text : String) :
    vocabulary.vector text = Vector.normalized (List.zipWith
      (fun count entry => Scalar.ofNat count * entry.2) (vocabulary.tally (Text.tokens text))
        vocabulary.terms) := by
  rw [tally_eq distinct, words, List.map_map, List.zipWith_map_left]
  simp [vector, List.zipWith_self]

/-- The tokens of a text that are terms, in order. -/
def termsIn (vocabulary : Vocabulary S) (text : String) : List String :=
  (Text.tokens text).filter (· ∈ vocabulary.words)

/-- Texts have the same vector when they hold the same terms, each as often. -/
theorem vector_congr (vocabulary : Vocabulary S) {left right : String}
    (same : (vocabulary.termsIn left).Perm (vocabulary.termsIn right)) :
    vocabulary.vector left = vocabulary.vector right := by
  have counts : ∀ entry ∈ vocabulary.terms,
      (Text.tokens left).count entry.1 = (Text.tokens right).count entry.1 := by
    intro entry member
    have listed : entry.1 ∈ vocabulary.words := List.mem_map_of_mem member
    have counts := same.count_eq entry.1
    rwa [termsIn, termsIn, List.count_filter (by simpa using listed),
      List.count_filter (by simpa using listed)] at counts
  simp only [vector]
  congr 1
  exact List.map_congr_left fun entry member => by rw [counts entry member]

/-! ## Learning -/

/-- A vocabulary has the terms that a filter keeps of a corpus, in ascending order. Its vectors count
the tokens of a text by an index of these terms, and show no more of it than that. -/
structure Describes (documents : List String) (filter : TermFilter S) (vocabulary : Vocabulary S) :
    Prop where
  terms : ∀ term, term ∈ vocabulary.words ↔ Kept documents filter term
  ascends : vocabulary.words.Pairwise (· < ·)
  weights : ∀ entry ∈ vocabulary.terms,
    entry.2 = weight documents.length (holders documents entry.1)
  index : ∀ term place,
    vocabulary.index.get? term = some place ↔ vocabulary.words[place]? = some term
  vectors : ∀ text, vocabulary.vector text = Vector.normalized (List.zipWith
    (fun count entry => Scalar.ofNat count * entry.2) (vocabulary.tally (Text.tokens text))
      vocabulary.terms)
  components : ∀ text, (vocabulary.vector text).length = vocabulary.size
  alike : ∀ left right, (vocabulary.termsIn left).Perm (vocabulary.termsIn right) →
    vocabulary.vector left = vocabulary.vector right

theorem describes_of_learn {vocabulary : Vocabulary S}
    (learnt : learn documents filter = .ok vocabulary) :
    Describes documents filter vocabulary := by
  have ascends : vocabulary.words.Pairwise (· < ·) := by
    rw [words_of_learn learnt]
    exact ascending_keptCounts documents filter
  have distinct : vocabulary.words.Nodup :=
    ascends.imp fun less => String.ne_of_lt less
  constructor
  case terms =>
    intro term
    rw [words_of_learn learnt, List.mem_map]
    constructor
    · rintro ⟨entry, member, rfl⟩
      exact (mem_keptCounts_iff.1 member).2
    · intro kept
      exact ⟨(term, holders documents term), mem_keptCounts_iff.2 ⟨rfl, kept⟩, rfl⟩
  case ascends => exact ascends
  case weights => exact fun entry member => (weight_of_learn learnt entry member).2
  case index => exact fun term place => get?_index_iff distinct
  case vectors => exact vector_eq_tally distinct
  case components => exact length_vector vocabulary
  case alike => exact fun _ _ => vector_congr vocabulary

/-- A term that the filter keeps can be learnt. -/
theorem learn_of_exists_kept (exists_kept : ∃ term, Kept documents filter term) :
    ∃ vocabulary, learn documents filter = .ok vocabulary := by
  obtain ⟨term, kept⟩ := exists_kept
  refine ⟨_, learn_of_kept rfl (List.ne_nil_of_mem (a := (term, holders documents term)) ?_)⟩
  exact mem_keptCounts_iff.2 ⟨rfl, kept⟩

/-- Learning depends on a corpus by the documents that hold each term. -/
structure LearntByFrequency (documents : List String) (filter : TermFilter S) : Prop where
  /-- It is refused exactly where the filter keeps no term. -/
  refused : (∃ reason, learn documents filter = .error (.emptyVocabulary reason)) ↔
    ∀ term, ¬ Kept documents filter term
  /-- Otherwise it describes the corpus. -/
  learnt : (∃ term, Kept documents filter term) →
    ∃ vocabulary, learn documents filter = .ok vocabulary ∧ Describes documents filter vocabulary
  /-- As many documents of which as many hold each term teach the same. -/
  frequencies : ∀ documents', documents.length = documents'.length →
    (∀ term, holders documents term = holders documents' term) →
    learn documents filter = learn documents' filter
  /-- In particular neither the order of the documents matters nor that of their tokens, nor how
  often a document has a token. -/
  rearranged : ∀ documents', Rearranged documents documents' →
    learn documents filter = learn documents' filter

/-- What is learnt depends on the frequencies of terms, and vectors on the counts of terms. -/
theorem learn_by_frequency (documents : List String) (filter : TermFilter S) :
    LearntByFrequency documents filter where
  refused := by
    constructor
    · rintro ⟨reason, refused⟩ term kept
      obtain ⟨vocabulary, learnt⟩ := learn_of_exists_kept ⟨term, kept⟩
      rw [refused] at learnt
      contradiction
    · exact learn_of_not_kept
  learnt exists_kept := by
    obtain ⟨vocabulary, learnt⟩ := learn_of_exists_kept exists_kept
    exact ⟨vocabulary, learnt, describes_of_learn learnt⟩
  frequencies documents' size same := learn_congr size same filter
  rearranged documents' same := learn_congr same.length_eq same.holders_eq filter

theorem learn_by_frequency_reworded :
    ∃ vocabulary : Vocabulary Float,
      learn ["disk ready: disk", "Disk lost"] .default = .ok vocabulary ∧
      learn ["lost DISK lost", "ready, disk"] .default = .ok vocabulary ∧
      vocabulary.words = ["lost", "ready"] ∧
      vocabulary.vector "Lost (ready) lost" = vocabulary.vector "link lost, LOST; ready!" := by
  have frequency := learn_by_frequency (S := Float) ["disk ready: disk", "Disk lost"] .default
  have kept : Kept ["disk ready: disk", "Disk lost"] (.default : TermFilter Float) "ready" :=
    ⟨⟨"disk ready: disk", .head _, by decide +kernel⟩, by decide +kernel, by decide +kernel⟩
  have same : Rearranged ["disk ready: disk", "Disk lost"] ["lost DISK lost", "ready, disk"] := by
    have tokens : Text.tokens "disk ready: disk" = ["disk", "ready", "disk"] ∧
        Text.tokens "Disk lost" = ["disk", "lost"] ∧
        Text.tokens "lost DISK lost" = ["lost", "disk", "lost"] ∧
        Text.tokens "ready, disk" = ["ready", "disk"] := by
      decide +kernel
    refine ⟨["Disk lost", "disk ready: disk"], .swap _ _ _, .cons ?_ (.cons ?_ .nil)⟩
    · intro token
      simp only [tokens]
      grind
    · intro token
      simp only [tokens]
      grind
  obtain ⟨vocabulary, learnt, describes⟩ := frequency.learnt ⟨"ready", kept⟩
  have words : vocabulary.words = ["lost", "ready"] := by
    rw [words_of_learn learnt]
    decide +kernel
  refine ⟨vocabulary, learnt, frequency.rearranged _ same ▸ learnt, words, describes.alike _ _ ?_⟩
  rw [termsIn, termsIn, words]
  decide +kernel

end LogDrift.Vocabulary
