import LogDrift.Numeral.Integer

/-!
# Words of a command line

What the words of a command line can be by their form alone.
-/

namespace LogDrift.CommandLine

/-- A word of a command line. -/
inductive Word
  /-- Two hyphens, after which no word is a parameter. -/
  | closing
  /-- A name after two hyphens, perhaps with a value after an equals sign. -/
  | named (name : String) (value : Option String)
  /-- Letters after one hyphen. -/
  | letters (letters : List Char)
  | plain
  deriving DecidableEq, Repr

namespace Word

/-- The name in a word and the value after its first equals sign. -/
def ofName (text : List Char) : Word :=
  let name := String.ofList (text.takeWhile (· ≠ '='))
  match text.dropWhile (· ≠ '=') with
  | [] => named name none
  | _ :: value => named name (some (String.ofList value))

/-- The form of a word. -/
def ofText (text : String) : Word :=
  match text.toList with
  | ['-', '-'] => closing
  | '-' :: '-' :: rest => ofName rest
  | '-' :: letter :: rest => letters (letter :: rest)
  | _ => plain

end Word

/-- Whether a letter stands for a power of ten. -/
def isExponentMark (c : Char) : Bool :=
  c == 'e' || c == 'E'

/-- Whether characters look like the rest of a number: digits, with at most one point in front of at
most one exponent mark, neither of them first, and the mark not last. -/
def looksNumeric (characters : List Char) : Bool :=
  let (mantissa, rest) :=
    (characters.takeWhile (!isExponentMark ·), characters.dropWhile (!isExponentMark ·))
  let (whole, fraction) := (mantissa.takeWhile (· ≠ '.'), mantissa.dropWhile (· ≠ '.'))
  let digits := fun (text : List Char) => text.all fun c => (Integer.digit? c).isSome
  digits whole && digits fraction.tail && digits rest.tail
    && (fraction.isEmpty || !whole.isEmpty)
    && (rest.isEmpty || (!mantissa.isEmpty && rest.length > 1))

end LogDrift.CommandLine
