import LogDrift.Error
import LogDrift.Map.Sorted
import LogDrift.Settings.Basic
import LogDrift.Similarity.Vector
import LogDrift.Text.Token

/-!
# Vocabularies

The terms of a corpus with their weights, and the weight vectors of texts. A term weighs the more
the fewer documents hold it.
-/

namespace LogDrift

/-- The terms that texts are compared by, in ascending order, with their weights. -/
structure Vocabulary (S : Type) where
  terms : List (String × S)

namespace Vocabulary

variable {S : Type} [Scalar S]

/-- In how many documents each term occurs. -/
def documentCounts (documents : List String) : SortedMap String Nat :=
  documents.foldl (fun counts document =>
    (Text.tokens document).eraseDups.foldl (fun counts term =>
      counts.alter term fun count => count.getD 0 + 1) counts) .empty

/-- Whether a filter keeps a term that is in `count` of `total` documents. -/
def keeps (filter : TermFilter S) (total count : Nat) : Bool :=
  filter.least ≤ count && Scalar.ofNat count ≤ filter.share * Scalar.ofNat total

/-- The weight of a term that is in `count` of `total` documents. -/
def weight (total count : Nat) : S :=
  Scalar.ln ((1 + Scalar.ofNat total) / (1 + Scalar.ofNat count)) + 1

/-- Why a filter leaves nothing of a corpus. -/
def nothingLeft (filter : TermFilter S) (total : Nat) : Error :=
  let least := filter.least
  let share := Scalar.describe filter.share
  .emptyVocabulary s!"{total} documents, min_df={least}, max_df={share}"

/-- Learns the vocabulary of a corpus. There must be a term that the filter keeps. -/
def learn (documents : List String) (filter : TermFilter S) : Except Error (Vocabulary S) :=
  let total := documents.length
  if total = 0 then .error (.emptyVocabulary "empty corpus")
  else
    let kept := (documentCounts documents).entries.filter fun entry => keeps filter total entry.2
    if kept.isEmpty then .error (nothingLeft filter total)
    else .ok ⟨kept.map fun entry => (entry.1, weight total entry.2)⟩

/-- The number of terms. -/
def size (vocabulary : Vocabulary S) : Nat :=
  vocabulary.terms.length

/-- The terms without their weights. -/
def words (vocabulary : Vocabulary S) : List String :=
  vocabulary.terms.map Prod.fst

/-- The vector of a text: how often each term occurs, times its weight, brought to length one. -/
def vector (vocabulary : Vocabulary S) (text : String) : List S :=
  let tokens := Text.tokens text
  Vector.normalized (vocabulary.terms.map fun (term, weight) =>
    Scalar.ofNat (tokens.count term) * weight)

/-- The terms of the greatest positive weights in a vector, at most `limit`, heaviest first. Of
equal weights the earlier term comes first. -/
def heaviest (vocabulary : Vocabulary S) (limit : Nat) (vector : List S) : List String :=
  let present := (vocabulary.words.zip vector).filter fun entry => 0 < entry.2
  ((present.mergeSort fun a b => b.2 ≤ a.2).take limit).map Prod.fst

end Vocabulary

end LogDrift
