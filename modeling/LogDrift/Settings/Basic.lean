import LogDrift.Scalar

/-!
# Settings

What an analysis and the exchange with the event service can be told, with the defaults.
-/

namespace LogDrift

/-- Which deviations of a count are anomalous. -/
inductive Direction
  | higher
  | lower
  | both
  deriving DecidableEq, Repr

namespace Direction

/-- The direction for a numeric flag. -/
def ofFlag (flag : Int) : Direction :=
  if flag = 0 then higher else if flag = 1 then lower else both

/-- The name of a direction. -/
def name : Direction → String
  | higher => "higher"
  | lower => "lower"
  | both => "both"

/-- The direction that a text names, by a word or by a flag, or what is wrong with the text. -/
def ofText (text : String) : Except String Direction :=
  let text := String.ofList (text.toList.map Char.toLower)
  if text = "higher" ∨ text = "0" then .ok higher
  else if text = "lower" ∨ text = "1" then .ok lower
  else if text = "both" ∨ text = "2" then .ok both
  else .error s!"unknown direction: {text}"

end Direction

/-- Which terms of a corpus are used: those in at least `least` documents, and in at most a share of
all. -/
structure TermFilter (S : Type) where
  least : Nat
  share : S

namespace TermFilter

variable {S : Type} [Scalar S]

/-- The filter that keeps every term. -/
def relaxed : TermFilter S :=
  ⟨1, 1⟩

/-- The filter that drops terms of more than 95 in 100 documents. -/
def default : TermFilter S :=
  ⟨1, Scalar.ratio 95 100⟩

end TermFilter

/-- What an analysis can be told. -/
structure AnalysisSettings (S : Type) where
  /-- A run with more control labels than this is skipped. -/
  clusterLimit : Nat
  /-- The share of the mean by which a constant frequency may move. -/
  zeroDeviationThreshold : S
  direction : Direction
  /-- The open interval of similarities in which differences are listed. -/
  diffBand : S × S
  termFilter : TermFilter S
  /-- The least similarity at which a text matches a cluster. -/
  matchThreshold : S
  /-- How many tags a cluster keeps. -/
  maxTags : Nat

namespace AnalysisSettings

/-- The settings when nothing is said. -/
def default {S : Type} [Scalar S] : AnalysisSettings S where
  clusterLimit := 500
  zeroDeviationThreshold := Scalar.ratio 25 100
  direction := .higher
  diffBand := (Scalar.ratio 5 10, Scalar.ratio 9 10)
  termFilter := .default
  matchThreshold := Scalar.ratio 7 10
  maxTags := 5

end AnalysisSettings

/-- How requests are sent. -/
structure TransportSettings where
  authToken : Option String
  /-- How often a request is sent at most. -/
  maxAttempts : Nat
  initialBackoff : Nat
  timeoutSeconds : Nat

namespace TransportSettings

/-- The settings when nothing is said. -/
def default : TransportSettings :=
  ⟨none, 3, 1000, 30⟩

end TransportSettings

/-- All settings, with the name of the profile that they were read for. -/
structure Settings (S : Type) where
  profile : String
  analysis : AnalysisSettings S
  transport : TransportSettings

namespace Settings

/-- How the profile is called in reports. -/
def profileLabel {S : Type} (settings : Settings S) : String :=
  if settings.profile.isEmpty then "default" else settings.profile

end Settings

end LogDrift
