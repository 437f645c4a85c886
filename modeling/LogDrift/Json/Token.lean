import LogDrift.Json.Node

/-!
# Tokens of a JSON text

A text is cut into brackets, commas, colons, names and values. The first piece that is none of these
becomes a broken value, and the cutting ends there.
-/

namespace LogDrift.Json

/-- A piece of a text. A string stands for a value or for the name of a member. -/
inductive Token
  | openArray
  | closeArray
  | openObject
  | closeObject
  | comma
  | colon
  | quoted (key : Key) (value : Node)
  | plain (value : Node)

/-- The four characters that may stand between tokens. -/
def isSpace (c : Char) : Bool :=
  c == ' ' || c == '\n' || c == '\t' || c == '\r'

/-- The value of a hexadecimal digit. -/
def hexDigit? (c : Char) : Option Nat :=
  if '0' ≤ c ∧ c ≤ '9' then some (c.toNat - '0'.toNat)
  else if 'a' ≤ c ∧ c ≤ 'f' then some (c.toNat - 'a'.toNat + 10)
  else if 'A' ≤ c ∧ c ≤ 'F' then some (c.toNat - 'A'.toNat + 10)
  else none

/-- The number that four hexadecimal digits denote. -/
def hexValue? (a b c d : Char) : Option Nat := do
  let a ← hexDigit? a
  let b ← hexDigit? b
  let c ← hexDigit? c
  let d ← hexDigit? d
  return ((a * 16 + b) * 16 + c) * 16 + d

/-- The fault of a text in which fewer than four digits can follow. It ends too early only when
fewer than four bytes are left. -/
def shortHexFault (rest : List Char) : Fault :=
  if (rest.map Char.utf8Size).foldr (· + ·) 0 < 4 then .eof else .syntaxError

/-- A character after a backslash that stands for one character. -/
def simpleEscape? (c : Char) : Option Char :=
  match c with
  | '"' => some '"'
  | '\\' => some '\\'
  | '/' => some '/'
  | 'b' => some '\x08'
  | 'f' => some '\x0c'
  | 'n' => some '\n'
  | 'r' => some '\r'
  | 't' => some '\t'
  | _ => none

/-- One step inside a string. -/
inductive StringStep
  | close (rest : List Char)
  /-- The characters `text`, written as `written`. -/
  | next (text written rest : List Char)

/-- The second half of a surrogate pair, which starts at `first`. -/
def trailingSurrogate (first : Nat) (written : List Char) : List Char → Except Fault StringStep
  | [] => .error .eof
  | '\\' :: [] => .error .eof
  | '\\' :: 'u' :: a :: b :: c :: d :: rest =>
    match hexValue? a b c d with
    | none => .error .syntaxError
    | some second =>
      if 0xDC00 ≤ second ∧ second ≤ 0xDFFF then
        let point := (first - 0xD800) * 0x400 + (second - 0xDC00) + 0x10000
        .ok (.next [Char.ofNat point] (written ++ ['\\', 'u', a, b, c, d]) rest)
      else .error .syntaxError
  | '\\' :: 'u' :: rest => .error (shortHexFault rest)
  | _ => .error .syntaxError

/-- The step for the code point of an escape. In a string that is only passed over, surrogates need
no partner. -/
def unicodeStep (strict : Bool) (point : Nat) (written rest : List Char) :
    Except Fault StringStep :=
  if 0xD800 ≤ point ∧ point ≤ 0xDFFF then
    if !strict then .ok (.next [] written rest)
    else if point ≤ 0xDBFF then trailingSurrogate point written rest
    else .error .syntaxError
  else .ok (.next [Char.ofNat point] written rest)

/-- The next step inside a string. -/
def stringStep (strict : Bool) : List Char → Except Fault StringStep
  | [] => .error .eof
  | '"' :: rest => .ok (.close rest)
  | '\\' :: [] => .error .eof
  | '\\' :: 'u' :: a :: b :: c :: d :: rest =>
    match hexValue? a b c d with
    | none => .error .syntaxError
    | some point => unicodeStep strict point ['\\', 'u', a, b, c, d] rest
  | '\\' :: 'u' :: rest => .error (shortHexFault rest)
  | '\\' :: c :: rest =>
    match simpleEscape? c with
    | some escaped => .ok (.next [escaped] ['\\', c] rest)
    | none => .error .syntaxError
  | c :: rest => if c.toNat < 0x20 then .error .syntaxError else .ok (.next [c] [c] rest)

/-- What follows a step. -/
def StringStep.rest : StringStep → List Char
  | close rest => rest
  | next _ _ rest => rest

theorem trailingSurrogate_length {first : Nat} {written text : List Char} {step : StringStep}
    (found : trailingSurrogate first written text = .ok step) : step.rest.length < text.length := by
  unfold trailingSurrogate at found
  grind [StringStep.rest]

theorem unicodeStep_length {strict : Bool} {point : Nat} {written rest : List Char}
    {step : StringStep} (found : unicodeStep strict point written rest = .ok step) :
    step.rest.length ≤ rest.length := by
  unfold unicodeStep at found
  grind [StringStep.rest, → trailingSurrogate_length]

theorem stringStep_length {strict : Bool} {text : List Char} {step : StringStep}
    (found : stringStep strict text = .ok step) : step.rest.length < text.length := by
  unfold stringStep at found
  grind [StringStep.rest, → unicodeStep_length]

/-- The rest of a string: its characters, the way they are written, and what follows the closing
quotation mark. -/
def scanString (strict : Bool) (text : List Char) :
    Except Fault (List Char × List Char × List Char) :=
  match _step : stringStep strict text with
  | .error fault => .error fault
  | .ok (.close rest) => .ok ([], [], rest)
  | .ok (.next characters written rest) =>
    match scanString strict rest with
    | .error fault => .error fault
    | .ok (text', written', rest') => .ok (characters ++ text', written ++ written', rest')
termination_by text.length
decreasing_by exact stringStep_length _step

theorem scanString_length {strict : Bool} {text content written rest : List Char}
    (found : scanString strict text = .ok (content, written, rest)) :
    rest.length < text.length := by
  fun_induction scanString strict text generalizing content written rest with
  | case1 => contradiction
  | case2 text rest' step =>
    cases found
    exact stringStep_length step
  | case3 => contradiction
  | case4 text characters written rest step content' written' rest' found' ih =>
    cases found
    have inner := ih found'
    have outer := stringStep_length step
    exact Nat.lt_trans inner outer

/-- The string whose opening quotation mark has been read, and what follows it. -/
def scanQuoted (text : List Char) : Token × List Char :=
  match scanString true text with
  | .ok (content, written, rest) =>
    (.quoted ⟨written, .ok (String.ofList content), none⟩ (.str (String.ofList content)), rest)
  | .error fault =>
    match scanString false text with
    | .ok (_, written, rest) =>
      (.quoted ⟨written, .error fault, none⟩ (.unusable fault (.str "")), rest)
    | .error skipFault =>
      let written := text.takeWhile (· ≠ '"')
      (.quoted ⟨written, .error fault, some skipFault⟩ (.unusable fault (.broken skipFault)), [])

/-- A word, of which the first letter has been read. -/
def scanWord (word : List Char) (value : Node) : List Char → Token × List Char
  | text =>
    match word, text with
    | [], rest => (.plain value, rest)
    | _ :: _, [] => (.plain (.broken .eof), [])
    | expected :: word, c :: rest =>
      if c = expected then scanWord word value rest else (.plain (.broken .syntaxError), [])

/-- A number. One that ends with the text is a fault of another kind when it is passed over. -/
def scanNumber (text : List Char) : Token × List Char :=
  match Numeral.scan text with
  | .error .eof => (.plain (.unusable .eof (.broken .syntaxError)), [])
  | .error .syntaxError => (.plain (.broken .syntaxError), [])
  | .ok (numeral, rest) =>
    match numeral.value? with
    | some value => (.plain value.toNode, rest)
    | none => (.plain (.unusable .syntaxError .null), rest)

/-- The token that starts with the character `c`, and what follows it. -/
def scanToken (c : Char) (rest : List Char) : Token × List Char :=
  match c with
  | '[' => (.openArray, rest)
  | ']' => (.closeArray, rest)
  | '\x7b' => (.openObject, rest)
  | '\x7d' => (.closeObject, rest)
  | ',' => (.comma, rest)
  | ':' => (.colon, rest)
  | '"' => scanQuoted rest
  | 'n' => scanWord ['u', 'l', 'l'] .null rest
  | 't' => scanWord ['r', 'u', 'e'] (.bool true) rest
  | 'f' => scanWord ['a', 'l', 's', 'e'] (.bool false) rest
  | c =>
    if c = '-' ∨ (Integer.digit? c).isSome then scanNumber (c :: rest)
    else (.plain (.broken .syntaxError), [])

end LogDrift.Json
