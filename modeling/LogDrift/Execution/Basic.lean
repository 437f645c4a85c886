import LogDrift.Brief

/-!
# Carrying out commands

A command gathers events, appends those of an earlier run, analyses them and hands the result out. A
failure ends it at once. The result is handed out last, so that it is always complete.
-/

namespace LogDrift

/-- How a command ends. -/
inductive Outcome
  | done
  /-- There was no event in either window. -/
  | noData
  deriving DecidableEq, Repr

/-- The exit status of an outcome. -/
def Outcome.exitStatus : Outcome → Nat
  | done => 0
  | noData => 200

/-- What a command does to its surroundings, with the effects of `M`. -/
structure Surroundings (M : Type → Type) where
  network : Remote.Network M
  /-- Writes a file, or says why it cannot be written. -/
  write : String → String → M (Except String Unit)
  /-- Prints a line. -/
  print : String → M Unit

/-- A part of a command, which may end it. -/
abbrev Effect (M : Type → Type) := ExceptT Failure M

end LogDrift
