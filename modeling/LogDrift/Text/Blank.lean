import LogDrift.Text.Ranges

/-!
# Blank characters

The characters with the Unicode property `White_Space`, and the ways of cutting a text at them.
-/

namespace LogDrift.Text

/-- The runs of blank code points. -/
def blankRuns : List (Nat × Nat) := [
  (0x9, 0xD), (0x20, 0x20), (0x85, 0x85), (0xA0, 0xA0), (0x1680, 0x1680), (0x2000, 0x200A),
  (0x2028, 0x2029), (0x202F, 0x202F), (0x205F, 0x205F), (0x3000, 0x3000)]

/-- Whether a character is white space. -/
def isBlank (c : Char) : Bool :=
  inRuns c.toNat blankRuns

/-- The characters without the blanks at either end. -/
def trimmed (text : List Char) : List Char :=
  ((text.dropWhile isBlank).reverse.dropWhile isBlank).reverse

/-- The maximal runs of characters that are not `separates`, with `current` the run being read. -/
def runsFrom (separates : Char → Bool) : List Char → List Char → List (List Char)
  | current, [] => if current.isEmpty then [] else [current]
  | current, c :: rest =>
    if separates c then
      if current.isEmpty then runsFrom separates [] rest
      else current :: runsFrom separates [] rest
    else
      runsFrom separates (current ++ [c]) rest

/-- The non-empty pieces of a text between the characters that `separates` accepts. -/
def pieces (separates : Char → Bool) (text : List Char) : List (List Char) :=
  runsFrom separates [] text

/-- The words of a text: its pieces between blanks. -/
def words (text : List Char) : List (List Char) :=
  pieces isBlank text

end LogDrift.Text
