import LogDrift.Error
import LogDrift.Text.Blank
import LogDrift.Text.Quoted

/-!
# Windows

A window is a range of minutes. In text it is written as its two bounds with a comma between them.
-/

namespace LogDrift

/-- The minutes from `start` to `stop`, both included. There are none when `stop` comes first. -/
structure Window where
  start : Int
  stop : Int
  deriving DecidableEq, Repr

namespace Window

/-- Whether a minute lies in a window. -/
def contains (window : Window) (minute : Int) : Bool :=
  window.start ≤ minute && minute ≤ window.stop

/-- The text of a window. -/
def toText (window : Window) : List Char :=
  Json.writeInt window.start ++ ',' :: Json.writeInt window.stop

/-- The parts of a text before and after its first comma. -/
def split? (text : List Char) : Option (List Char × List Char) :=
  match text.dropWhile (· ≠ ',') with
  | [] => none
  | _ :: rest => some (text.takeWhile (· ≠ ','), rest)

/-- Reads a bound, which may stand between blanks. -/
def readBound (text : List Char) : Except Error Int :=
  (Integer.read64 (Text.trimmed text)).mapError fun fault =>
    let bound := Text.quoted (String.ofList text)
    let reason := fault.message
    .other s!"invalid window bound {bound}: {reason}"

/-- Reads a window. Its start may not come after its end. -/
def ofText (text : List Char) : Except Error Window :=
  let whole := String.ofList text
  match split? text with
  | none => .error (.other s!"window must be `start,end`: {whole}")
  | some (start, stop) => do
    let start ← readBound start
    let stop ← readBound stop
    if start > stop then .error (.other s!"window start after end: {whole}")
    else return ⟨start, stop⟩

end Window

end LogDrift
