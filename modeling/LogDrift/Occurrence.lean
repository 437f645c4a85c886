import LogDrift.Label
import LogDrift.Scalar

/-!
# Occurrences

How often a message was seen on a host within one time bucket.
-/

namespace LogDrift

/-- A time bucket as the producer writes it. -/
inductive TimeBucket
  | minute (value : Int)
  | instant (value : Float)
  | label (text : String)

/-- The host of an occurrence that names none. -/
def unknownHost : String := "Unknown"

/-- One occurrence record. -/
structure Occurrence where
  count : Int := 0
  time : Option TimeBucket := none
  host : String := unknownHost
  oldLabel : Option Label := none

namespace Occurrence

/-- The host of the first of some occurrences, which belong to one host. -/
def hostOf (occurrences : List Occurrence) : String :=
  match occurrences with
  | [] => unknownHost
  | first :: _ => first.host

/-- The counts of occurrences. -/
def counts (occurrences : List Occurrence) : List Int :=
  occurrences.map Occurrence.count

/-- All counts together, added up from the first on in sums that wrap around. -/
def totalCount (occurrences : List Occurrence) : Int :=
  (counts occurrences).foldl (fun total count => Integer.wrap (total + count)) 0

/-- The mean count, which is zero when there are no occurrences. -/
def meanCount {S : Type} [Scalar S] (occurrences : List Occurrence) : S :=
  if occurrences.isEmpty then 0
  else Int.cast (totalCount occurrences) / Scalar.ofNat occurrences.length

end Occurrence

end LogDrift
