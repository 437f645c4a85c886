/-!
# What succeeds in parts

A computation in several steps succeeds only if every step does.
-/

namespace LogDrift

variable {ε α β : Type}

theorem exists_of_bind_eq_ok {first : Except ε α} {next : α → Except ε β} {result : β}
    (found : first >>= next = .ok result) : ∃ value, first = .ok value ∧ next value = .ok result := by
  cases first with
  | error refusal => cases found
  | ok value => exact ⟨value, rfl, found⟩

theorem exists_of_map_eq_ok {first : Except ε α} {image : α → β} {result : β}
    (found : first.map image = .ok result) : ∃ value, first = .ok value ∧ image value = result := by
  cases first with
  | error refusal => cases found
  | ok value => exact ⟨value, rfl, Except.ok.inj found⟩

end LogDrift
