import LogDrift.Numeral.Integer

/-!
# Waiting before a request is sent again

The delay doubles from one attempt to the next until it reaches half a minute.
-/

namespace LogDrift.Backoff

/-- The longest delay in milliseconds. -/
def longest : Nat := 30000

/-- How often the delay doubles at most. -/
def doublings : Nat := 5

/-- The delay in milliseconds before the retry that follows `attempt` earlier ones. The product
stays within 64 bits. -/
def delay (initial attempt : Nat) : Nat :=
  min (min (initial * Nat.pow 2 (min attempt doublings)) Integer.greatestUnsigned) longest

end LogDrift.Backoff
