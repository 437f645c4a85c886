import LogDrift.Document.Fields
import LogDrift.Settings.Basic

/-!
# Settings in documents

The written form of analysis and transport settings.
-/

namespace LogDrift

open Json (Decoded RecordField Key Node Source mismatch)
open Document

namespace Direction

/-- The direction of a name. -/
def ofName (name : String) : Decoded Direction :=
  if name = "higher" then .ok higher
  else if name = "lower" then .ok lower
  else if name = "both" then .ok both
  else .error
    (.shape s!"unknown variant `{name}`, expected one of `higher`, `lower`, `both`")

/-- Decodes a direction: its name, or an object that maps its name to null. -/
def decode : Node → Decoded Direction
  | .str name => ofName name
  | .obj [(key, value)] none => do
    let direction ← ofName (← key.string)
    match value with
    | .null => return direction
    | node => mismatch "unit" node
  | .obj _ _ => .error (.shape "invalid value: map, expected map with a single key")
  | node => mismatch "string or map" node

/-- The value of a direction. -/
def toJson (direction : Direction) : Json :=
  .str direction.name

end Direction

namespace TermFilter

/-- Decodes a term filter. -/
def decode (source : Source) : Node → Decoded (TermFilter Float) :=
  Node.record source "FeatureFilter" [
    required "min_df" (into (Node.natural "usize") fun value record =>
      { record with least := value }),
    required "max_df" (into Node.number fun value record => { record with share := value })] ⟨0, 0⟩

/-- The value of a term filter. -/
def toJson (filter : TermFilter Float) : Json :=
  .obj [("min_df", .int filter.least), ("max_df", .float filter.share)]

end TermFilter

namespace AnalysisSettings

/-- The fields of analysis settings, all of which may be missing. -/
def fields (source : Source) : List (RecordField (AnalysisSettings Float)) := [
  defaulted "cluster_limit" (into (Node.natural "usize") fun value record =>
    { record with clusterLimit := value }),
  defaulted "zero_deviation_threshold" (into Node.number fun value record =>
    { record with zeroDeviationThreshold := value }),
  defaulted "direction" (into Direction.decode fun value record =>
    { record with direction := value }),
  defaulted "diff_band" (into (Node.pair source Node.number Node.number) fun value record =>
    { record with diffBand := value }),
  defaulted "feature_filter" (into (TermFilter.decode source) fun value record =>
    { record with termFilter := value }),
  defaulted "match_threshold" (into Node.number fun value record =>
    { record with matchThreshold := value }),
  defaulted "max_tags" (into (Node.natural "usize") fun value record =>
    { record with maxTags := value })]

/-- Decodes analysis settings. -/
def decode (source : Source) : Node → Decoded (AnalysisSettings Float) :=
  Node.record source "AnalysisConfig" (fields source) default

/-- The value of analysis settings. -/
def toJson (settings : AnalysisSettings Float) : Json :=
  .obj [
    ("cluster_limit", .int settings.clusterLimit),
    ("zero_deviation_threshold", .float settings.zeroDeviationThreshold),
    ("direction", settings.direction.toJson),
    ("diff_band", .arr [.float settings.diffBand.1, .float settings.diffBand.2]),
    ("feature_filter", settings.termFilter.toJson),
    ("match_threshold", .float settings.matchThreshold),
    ("max_tags", .int settings.maxTags)]

end AnalysisSettings

namespace TransportSettings

/-- The value of transport settings. -/
def toJson (settings : TransportSettings) : Json :=
  .obj [
    ("auth_token", Json.ofOption Json.str settings.authToken),
    ("max_attempts", .int settings.maxAttempts),
    ("initial_backoff_ms", .int settings.initialBackoff),
    ("timeout_secs", .int settings.timeoutSeconds)]

end TransportSettings

namespace Settings

/-- The value of settings. -/
def toJson (settings : Settings Float) : Json :=
  .obj [
    ("profile", .str settings.profile),
    ("analysis", settings.analysis.toJson),
    ("transport", settings.transport.toJson)]

end Settings

end LogDrift
