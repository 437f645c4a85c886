import LogDrift.Document.Fields
import LogDrift.Window

/-!
# Windows in documents

The written form of a window.
-/

namespace LogDrift.Window

open Json (Decoded Node Source)
open Document

/-- Decodes a window, whose bounds may stand in any order. -/
def decode (source : Source) : Node → Decoded Window :=
  Node.record source "MinuteWindow" [
    required "start" (into Node.integer64 fun value record => { record with start := value }),
    required "end" (into Node.integer64 fun value record => { record with stop := value })] ⟨0, 0⟩

/-- The value of a window. -/
def toJson (window : Window) : Json :=
  .obj [("start", .int window.start), ("end", .int window.stop)]

end LogDrift.Window
