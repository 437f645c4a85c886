import LogDrift.Json.Basic
import LogDrift.Numeral.Layout

/-!
# Writing JSON

Values are written without any space. A float that is not finite has no JSON form and is written as
null.
-/

namespace LogDrift.Json

/-- The lower-case hexadecimal digit of a number below sixteen. -/
def hexDigit (n : Nat) : Char :=
  Nat.digitChar n

/-- A character inside a string. Quotation marks, backslashes and controls are escaped. -/
def escapeChar (c : Char) : List Char :=
  if c = '"' then ['\\', '"']
  else if c = '\\' then ['\\', '\\']
  else if c = '\x08' then ['\\', 'b']
  else if c = '\x0c' then ['\\', 'f']
  else if c = '\n' then ['\\', 'n']
  else if c = '\r' then ['\\', 'r']
  else if c = '\t' then ['\\', 't']
  else if c.toNat < 0x20 then
    ['\\', 'u', '0', '0', hexDigit (c.toNat / 16), hexDigit (c.toNat % 16)]
  else [c]

/-- A string between quotation marks. -/
def writeString (text : String) : List Char :=
  '"' :: text.toList.flatMap escapeChar ++ ['"']

/-- A float. -/
def writeFloat (x : Float) : List Char :=
  if (Binary.ofFloat? x).isSome then (NumberStyle.document.write x).toList
  else ['n', 'u', 'l', 'l']

/-- An integer in decimal digits. -/
def writeInt (n : Int) : List Char :=
  (if n < 0 then ['-'] else []) ++ Nat.toDigits 10 n.natAbs

mutual

/-- The characters of a value. -/
def write : Json → List Char
  | null => ['n', 'u', 'l', 'l']
  | bool true => ['t', 'r', 'u', 'e']
  | bool false => ['f', 'a', 'l', 's', 'e']
  | int value => writeInt value
  | float value => writeFloat value
  | str value => writeString value
  | arr elements => '[' :: writeElements elements ++ [']']
  | obj members => '\x7b' :: writeMembers members ++ ['\x7d']

/-- The characters of the elements of an array. -/
def writeElements : List Json → List Char
  | [] => []
  | [element] => element.write
  | element :: next :: rest => element.write ++ ',' :: writeElements (next :: rest)

/-- The characters of the members of an object. -/
def writeMembers : List (String × Json) → List Char
  | [] => []
  | [(name, value)] => writeString name ++ ':' :: value.write
  | (name, value) :: next :: rest =>
    writeString name ++ ':' :: value.write ++ ',' :: writeMembers (next :: rest)

end

/-- The text of a value. -/
def render (value : Json) : String :=
  String.ofList value.write

end LogDrift.Json
