import Mathlib.Logic.Function.Basic
import LogDrift.Execution.Command

/-!
# Disks

A disk keeps what has been written to it. Surroundings with a disk write a result as a whole, and
what needs nothing from around leaves the disk alone.
-/

namespace LogDrift

/-- Files that can be read and written. Several paths may lead to one place. -/
structure Disk where
  /-- The number of the place to which a path leads, whether there is a file or not. -/
  place : String → Nat
  /-- The text at a place, or what the system says instead. -/
  contents : Nat → Except String String
  /-- What the system says about a place that cannot be written. -/
  refusal? : Nat → Option String
  /-- The paths and texts that have been written. -/
  log : List (String × String) := []

namespace Disk

/-- What can be read. -/
def files (disk : Disk) : Files where
  text path := disk.contents (disk.place path)

/-- Whether a file can be written. -/
def Writable (disk : Disk) (path : String) : Prop :=
  disk.refusal? (disk.place path) = none

/-- The disk after a text has been written. -/
def put (disk : Disk) (path text : String) : Disk :=
  { disk with
    contents := Function.update disk.contents (disk.place path) (.ok text)
    log := disk.log ++ [(path, text)] }

/-- Writes a file, in place of one that was there. -/
def write (path text : String) : StateM Disk (Except String Unit) := fun disk =>
  match disk.refusal? (disk.place path) with
  | some reason => (.error reason, disk)
  | none => (.ok (), disk.put path text)

variable {disk : Disk} {path : String}

theorem write_of_writable (writable : disk.Writable path) (text : String) :
    write path text disk = (.ok (), disk.put path text) := by
  rw [write, writable]

/-- What has been written is read. -/
@[simp] theorem text_put (disk : Disk) (path text : String) :
    (disk.put path text).files.text path = .ok text :=
  Function.update_self ..

/-- What stands at other places stays. -/
@[simp] theorem text_put_of_ne {other : String} (elsewhere : disk.place other ≠ disk.place path)
    (text : String) : (disk.put path text).files.text other = disk.files.text other :=
  Function.update_of_ne elsewhere ..

theorem put_ne (disk : Disk) (path text : String) : disk.put path text ≠ disk := by
  intro same
  simpa [put] using congrArg (List.length ∘ log) same

end Disk

namespace Surroundings

/-- The same surroundings, with a disk. -/
def onDisk (around : Surroundings (StateM Disk)) : Surroundings (StateM Disk) :=
  { around with write := Disk.write }

/-- A step that depends on nothing around leaves the disk alone. -/
theorem run_bind_liftM {α β : Type} (step : Except Failure α) (next : α → Effect (StateM Disk) β)
    (disk : Disk) :
    ((liftM step : Effect (StateM Disk) α) >>= next).run.run disk =
      match step with
      | .error failure => (.error failure, disk)
      | .ok value => (next value).run.run disk := by
  cases step <;> rfl

/-- A step that acts on the disk hands it on. -/
theorem run_bind_lift {α β : Type} (step : StateM Disk α) (next : α → Effect (StateM Disk) β)
    (disk : Disk) :
    ((liftM step : Effect (StateM Disk) α) >>= next).run.run disk =
      (next (step disk).1).run.run (step disk).2 :=
  rfl

/-- A result that can be written is delivered. -/
theorem run_deliver {around : Surroundings (StateM Disk)} {disk : Disk} {path : String}
    (writable : disk.Writable path) (snapshot : Snapshot Float) :
    (around.onDisk.deliver (some path) snapshot).run.run disk =
      (.ok (), disk.put path snapshot.save) := by
  have written : around.onDisk.write path snapshot.save disk =
      (.ok (), disk.put path snapshot.save) := Disk.write_of_writable writable _
  simp only [deliver, run_bind_lift, written]
  rfl

end Surroundings

end LogDrift
