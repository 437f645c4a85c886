/-!
# Case tables

A case mapping that takes one character to one character is stored as shifts: runs of code points,
evenly spaced, that all move by the same amount.
-/

namespace LogDrift.Text

/-- The code points `first, first + step, …, last`, each mapped `offset` further. -/
structure CaseShift where
  first : Nat
  last : Nat
  step : Nat
  offset : Int

/-- Whether a code point is one that the shift moves. -/
def CaseShift.moves (shift : CaseShift) (point : Nat) : Bool :=
  shift.first ≤ point && point ≤ shift.last && (point - shift.first) % shift.step == 0

/-- The image of a character under ascending shifts; a character that none moves stays. -/
def shiftCase (shifts : List CaseShift) (c : Char) : Char :=
  match shifts with
  | [] => c
  | shift :: rest =>
    if c.toNat < shift.first then c
    else if shift.moves c.toNat then Char.ofNat (c.toNat + shift.offset).toNat
    else shiftCase rest c

end LogDrift.Text
