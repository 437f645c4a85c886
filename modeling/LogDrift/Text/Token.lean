import LogDrift.Text.Alphanumeric
import LogDrift.Text.Blank
import LogDrift.Text.Case.Lower

/-!
# Tokens

The words by which texts are compared: runs of letters, digits and underscores in lower case. A
single character is no token.
-/

namespace LogDrift.Text

/-- Whether a character may be part of a token. -/
def isWordChar (c : Char) : Bool :=
  isAlphanumeric c || c == '_'

/-- The runs of word characters of which tokens are made. -/
def tokenRuns (text : List Char) : List (List Char) :=
  (pieces (fun c => !isWordChar c) text).filter fun run => 2 ≤ run.length

/-- The tokens of a text in order. -/
def tokens (text : String) : List String :=
  (tokenRuns text.toList).map fun run => String.ofList (lower run)

end LogDrift.Text
