import LogDrift.Execution.Command
import LogDrift.Folder

/-!
# Rehearsals

A rehearsal stands in for the outside world. The service answers from a script, waiting only
advances a clock, and everything that a command does is recorded.
-/

namespace LogDrift

/-- A scripted world and what has been done in it. -/
structure Rehearsal where
  folder : Folder := []
  /-- What the service will answer, one reply for each request. -/
  replies : List (Except String Remote.Response) := []
  /-- The milliseconds that have been waited for. -/
  clock : Nat := 0
  /-- The requests with the times at which they were sent. -/
  requests : List (Nat × Remote.Request) := []
  /-- The new files that were written in the folder, with their texts. -/
  written : List (String × String) := []
  printed : List String := []

namespace Rehearsal

/-- What a request meets when the script has ended. -/
def noReply : String :=
  "no scripted reply"

/-- Answers a request from the script. -/
def send (request : Remote.Request) : StateM Rehearsal (Except String Remote.Response) :=
  fun world =>
    ((world.replies.head?).getD (.error noReply),
      { world with
        replies := world.replies.tail
        requests := world.requests ++ [(world.clock, request)] })

/-- Advances the clock. -/
def wait (milliseconds : Nat) : StateM Rehearsal Unit :=
  modify fun world => { world with clock := world.clock + milliseconds }

/-- Writes a file, unless its path leads to none. What is written outside the folder or over a file
that was there before leaves no record. -/
def write (path text : String) : StateM Rehearsal (Except String Unit) := fun world =>
  match Path.ofText path >>= world.folder.target with
  | .error refusal => (.error refusal.message, world)
  | .ok (.created names) =>
    (.ok (), { world with written := world.written ++ [("/".intercalate names, text)] })
  | .ok _ => (.ok (), world)

/-- Records a printed line. -/
def print (line : String) : StateM Rehearsal Unit :=
  modify fun world => { world with printed := world.printed ++ [line] }

/-- The surroundings that a rehearsal offers. -/
def surroundings : Surroundings (StateM Rehearsal) :=
  ⟨⟨send, wait⟩, write, print⟩

/-- Rehearses a command. -/
def execute (world : Rehearsal) (settings : Settings Float) (arguments : Arguments) :
    Except Failure Outcome × Rehearsal :=
  (surroundings.execute world.folder.files settings arguments).run.run world

end Rehearsal

end LogDrift
