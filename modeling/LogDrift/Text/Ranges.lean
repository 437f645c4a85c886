/-!
# Runs of code points

A character property is stored as the ascending list of its runs, each given by its first and its
last code point.
-/

namespace LogDrift.Text

/-- Membership of a code point in one of the runs. The runs ascend, so the search stops at the first
one that starts behind the code point. -/
def inRuns (point : Nat) : List (Nat × Nat) → Bool
  | [] => false
  | (first, last) :: rest => first ≤ point && (point ≤ last || inRuns point rest)

@[simp] theorem inRuns_nil (point : Nat) : inRuns point [] = false := rfl

end LogDrift.Text
