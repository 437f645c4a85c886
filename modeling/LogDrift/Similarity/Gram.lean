import LogDrift.Collaborator
import LogDrift.Scalar
import LogDrift.Text.Token

/-!
# Similarity by shared grams

A gram is a run of a fixed number of characters. Texts are the more similar the more of their grams
they share; blanks and the case of letters do not count.
-/

namespace LogDrift.Gram

/-- The form in which a text is compared: its words with single spaces between them, in lower case.
-/
def folded (text : String) : List Char :=
  Text.lower (List.intercalate [' '] (Text.words text.toList))

/-- The runs of `size` neighbouring elements. -/
def windows {α : Type} (size : Nat) : List α → List (List α)
  | [] => []
  | element :: rest =>
    let window := (element :: rest).take size
    if window.length < size then [] else window :: windows size rest

/-- The distinct grams of a text. A text of at most `size` characters is its own gram, and the empty
text has none. -/
def grams (size : Nat) (text : String) : List (List Char) :=
  let characters := folded text
  if characters.isEmpty then []
  else if characters.length ≤ size then [characters]
  else (windows size characters).eraseDups

/-- The least gram is a single character. -/
def sizeOf (size : Nat) : Nat :=
  max size 1

/-- The share of the grams of two texts that both have. Two texts without grams are the same. -/
def overlap {S : Type} [Scalar S] (size : Nat) (left right : String) : S :=
  let left := grams (sizeOf size) left
  let right := grams (sizeOf size) right
  if left.isEmpty && right.isEmpty then 1
  else
    let shared := (left.filter fun gram => right.contains gram).length
    Scalar.ratio shared (left.length + right.length - shared)

/-- The distinct elements of a list that another one lacks, in order of first use. -/
def lacking (present : List String) (tokens : List String) : List String :=
  (tokens.filter fun token => !present.contains token).eraseDups

/-- The tokens in which a text differs from a base: those that it adds, then those that it omits. -/
def tokenDifference (base text : String) : List String :=
  let old := Text.tokens base
  let new := Text.tokens text
  (lacking old new).map ("+" ++ ·) ++ (lacking new old).map ("-" ++ ·)

/-- How many characters a gram has when nothing is said. -/
def defaultSize : Nat := 3

/-- The comparer by shared grams. -/
def comparer {S : Type} [Scalar S] (size : Nat) : Comparer S where
  similarity base candidates := candidates.map (overlap size base)
  difference base candidates := candidates.map (tokenDifference base)

end LogDrift.Gram
