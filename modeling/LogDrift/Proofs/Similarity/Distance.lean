import LogDrift.Proofs.Layout.Scaling
import LogDrift.Proofs.Similarity.Vocabulary
import LogDrift.Similarity.Collaborators

/-!
# Tables of distances and the points placed by them

The distances between texts form a square table with zeros on the diagonal that is the same on both
sides of it. Square tables, and no others, are placed in the plane, with one point for every row.
-/

namespace LogDrift

open Table

namespace Vocabulary

variable {S : Type} [Scalar S] {vectors table : List (List S)}

/-- A table of the distances between vectors. -/
structure Measures (vectors table : List (List S)) : Prop where
  square : Square vectors.length table
  symmetric : ∀ row column, cell? table row column = cell? table column row
  diagonal : ∀ place < vectors.length, cell? table place place = some 0
  entry : ∀ row column, row < column → ∀ left right,
    vectors[row]? = some left → vectors[column]? = some right →
      cell? table row column = some (1 - Vector.cosine left right)

/-- `distanceMatrix` as a loop over the pairs of vectors, which starts from a table of zeros and
writes each distance twice. -/
def distanceMatrix? (vectors : List (List S)) : Option (List (List S)) :=
  mirrorAll? vectors.length (fun row column => do
    let left ← vectors[row]?
    let right ← vectors[column]?
    return 1 - Vector.cosine left right)
    (tabulate vectors.length fun _ _ => 0)

/-- The distance between the vectors at two places, of which the first is the earlier one. -/
def distanceAt (vectors : List (List S)) (row column : Nat) : S :=
  1 - Vector.cosine (vectors.getD row []) (vectors.getD column [])

theorem distanceMatrix_eq_tabulate (vectors : List (List S)) :
    distanceMatrix vectors = tabulate vectors.length fun row column =>
      if row = column then 0
      else if row < column then distanceAt vectors row column
      else distanceAt vectors column row := by
  apply List.ext_getElem
  · simp [distanceMatrix]
  · intro row inLeft inRight
    apply List.ext_getElem
    · simp [distanceMatrix]
    · intro column inCells inColumns
      have inRow : row < vectors.length := by simpa using inRight
      have inColumn : column < vectors.length := by simpa using inColumns
      simp [distanceMatrix, distanceAt, inRow, inColumn]

theorem distanceMatrix?_eq (vectors : List (List S)) :
    distanceMatrix? vectors = some (distanceMatrix vectors) := by
  rw [distanceMatrix?, distanceMatrix_eq_tabulate, mirrorAll?_tabulate (distanceAt vectors)]
  intro row column before inColumn
  have inRow : row < vectors.length := Nat.lt_trans before inColumn
  simp [distanceAt, inRow, inColumn]

theorem measures_distanceMatrix (vectors : List (List S)) :
    Measures vectors (distanceMatrix vectors) := by
  rw [distanceMatrix_eq_tabulate]
  refine ⟨square_tabulate _, fun row column => ?_, fun place inside => ?_, ?_⟩
  · by_cases inside : row < vectors.length ∧ column < vectors.length
    · rw [cell?_tabulate _ inside.1 inside.2, cell?_tabulate _ inside.2 inside.1]
      rcases Nat.lt_trichotomy row column with before | rfl | after
      · simp [before, Nat.ne_of_lt before, Nat.ne_of_gt before, Nat.not_lt_of_gt before]
      · rfl
      · simp [after, Nat.ne_of_lt after, Nat.ne_of_gt after, Nat.not_lt_of_gt after]
    · rw [cell?_eq_none (square_tabulate _) (by omega),
        cell?_eq_none (square_tabulate _) (by omega)]
  · rw [cell?_tabulate _ inside inside, if_pos rfl]
  · intro row column before left right isLeft isRight
    have inColumn : column < vectors.length := (List.getElem?_eq_some_iff.mp isRight).1
    rw [cell?_tabulate _ (Nat.lt_trans before inColumn) inColumn, if_neg (Nat.ne_of_lt before),
      if_pos before, distanceAt]
    simp [isLeft, isRight]

/-- Distances are those of the vectors under the vocabulary that the texts make up. -/
theorem distances_eq_ok_iff {texts : List String} :
    distances texts = .ok table ↔ ∃ vocabulary : Vocabulary S,
      learn texts .relaxed = .ok vocabulary ∧
        distanceMatrix (texts.map vocabulary.vector) = table := by
  cases learnt : learn texts (.relaxed : TermFilter S) with
  | error refusal => simp [distances, learnt, bind, Except.bind]
  | ok vocabulary => simp [distances, learnt, bind, Except.bind, pure, Except.pure]

end Vocabulary

namespace Scaling

variable {S : Type} [Scalar S] {rows : List (List S)}

theorem place_of_square (square : Square rows.length rows) : place rows = .ok (points rows) := by
  rw [place, if_neg]
  simpa using square.columns

theorem place_eq_error_iff :
    (∃ error, place rows = .error error) ↔ ∃ row ∈ rows, row.length ≠ rows.length := by
  rw [place]
  split
  · next ragged => simpa using ragged
  · next even => simpa using even

end Scaling

namespace Vocabulary

variable {S : Type} [Scalar S]

/-- Distances are well formed, and placing keeps to the shape of its table: it fails exactly on
tables that are not square, and otherwise gives a point for every row, within each row and within
three hundred steps for either axis. -/
theorem distances_measure_and_place (texts : List String) (rows : List (List S)) :
    (∀ table : List (List S), distances texts = .ok table →
      ∃ vocabulary : Vocabulary S, learn texts .relaxed = .ok vocabulary ∧
        Measures (texts.map vocabulary.vector) table ∧
        distanceMatrix? (texts.map vocabulary.vector) = some table) ∧
    ((∃ error, Scaling.place rows = .error error) ↔ ∃ row ∈ rows, row.length ≠ rows.length) ∧
    ((∀ row ∈ rows, row.length = rows.length) →
      ∃ points, Scaling.place rows = .ok points ∧ points.length = rows.length ∧
        ∃ first ≤ 300, ∃ second ≤ 300, Scaling.points? rows = some (points, first, second)) := by
  refine ⟨?_, Scaling.place_eq_error_iff, ?_⟩
  · intro table made
    obtain ⟨vocabulary, learnt, rfl⟩ := distances_eq_ok_iff.mp made
    exact ⟨vocabulary, learnt, measures_distanceMatrix _, distanceMatrix?_eq _⟩
  · intro widths
    have square : Square rows.length rows := ⟨rfl, widths⟩
    obtain ⟨⟨first, firstWithin, second, secondWithin, loops⟩, length⟩ := Scaling.points?_eq square
    exact ⟨_, Scaling.place_of_square square, length, first, firstWithin, second, secondWithin,
      loops⟩

/-- Two messages about a printer, and one without a term. -/
def printerTexts : List String :=
  ["printer ready", "-", "printer jammed"]

/-- What doubles make of the terms of the messages. -/
def printerVocabulary : Vocabulary Float :=
  ⟨[("jammed", weight 3 1), ("printer", weight 3 2), ("ready", weight 3 1)]⟩

/-- The distances between the messages. -/
def printerDistances : List (List Float) :=
  distanceMatrix (printerTexts.map printerVocabulary.vector)

theorem distances_printerTexts : distances printerTexts = .ok printerDistances := by
  refine distances_eq_ok_iff.mpr ⟨printerVocabulary, ?_, rfl⟩
  have counts : (documentCounts printerTexts).entries =
      [("jammed", 1), ("printer", 2), ("ready", 1)] := by
    decide +kernel
  refine learn_of_kept ?_ (List.cons_ne_nil ("jammed", 1) [("printer", 2), ("ready", 1)])
  rw [counts]
  decide

theorem distances_measure_and_place_printer :
    distances printerTexts = .ok printerDistances ∧
    (∀ row ∈ printerDistances, row.length = printerDistances.length) ∧
    (∃ vocabulary : Vocabulary Float,
      Measures (printerTexts.map vocabulary.vector) printerDistances) ∧
    ∃ points, Scaling.place printerDistances = .ok points ∧ points.length = 3 := by
  have widths : ∀ row ∈ printerDistances, row.length = printerDistances.length := by decide
  obtain ⟨measured, -, placed⟩ := distances_measure_and_place printerTexts printerDistances
  obtain ⟨vocabulary, -, measures, -⟩ := measured printerDistances distances_printerTexts
  obtain ⟨points, isPlaced, count, -⟩ := placed widths
  exact ⟨distances_printerTexts, widths, ⟨vocabulary, measures⟩, points, isPlaced, count⟩

end Vocabulary

end LogDrift
