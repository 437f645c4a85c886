import LogDrift.Numeral.Decimal
import LogDrift.Numeral.Integer
import LogDrift.Settings.Basic
import LogDrift.Text.Case.Upper

/-!
# Settings from the environment

Every setting has a variable. With a profile, a variable whose name starts with the profile comes
first. A variable that is empty counts as missing, and a value that cannot be read leaves the
default in place.
-/

namespace LogDrift

/-- The variables of a process. -/
abbrev Environment := List (String × String)

namespace Environment

/-- The value of a variable that is not empty. -/
def get? (environment : Environment) (name : String) : Option String :=
  (environment.lookup name).filter fun value => !value.isEmpty

/-- The value of a variable under a profile: that of the profile's own variable, or else that of the
general one. -/
def profiled? (environment : Environment) (profile name : String) : Option String :=
  if profile.isEmpty then environment.get? name
  else (environment.get? (profile ++ "_" ++ name)).or (environment.get? name)

/-- A setting read from a variable. -/
def setting {α : Type} (environment : Environment) (profile name : String)
    (read : String → Option α) (default : α) : α :=
  ((environment.profiled? profile name).bind read).getD default

/-- Reads a natural number up to `greatest`. -/
def readNat (greatest : Nat) (text : String) : Option Nat :=
  (Integer.readUnsigned greatest text.toList).toOption

/-- Reads a decimal numeral. -/
def readFloat (text : String) : Option Float :=
  Decimal.read? text.toList

end Environment

/-- The upper-case form under which a profile's variables are looked up. -/
def profileName (profile : String) : String :=
  String.ofList (Text.upper profile.toList)

open Environment

namespace AnalysisSettings

/-- The analysis settings of an environment under a profile. -/
def ofEnvironment (environment : Environment) (profile : String) : AnalysisSettings Float :=
  let defaults : AnalysisSettings Float := default
  let nat := fun name => environment.setting profile name (readNat Integer.greatestUnsigned)
  let float := fun name => environment.setting profile name readFloat
  { clusterLimit := nat "CLUSTER_LIMIT" defaults.clusterLimit
    zeroDeviationThreshold := float "ZERO_DEVIATION_THRESHOLD" defaults.zeroDeviationThreshold
    direction := environment.setting profile "FREQUENCY_DIRECTION"
      (fun text => (Direction.ofText text).toOption) defaults.direction
    diffBand :=
      (float "DIFF_BAND_LOW" defaults.diffBand.1, float "DIFF_BAND_HIGH" defaults.diffBand.2)
    termFilter := ⟨nat "MIN_DF" defaults.termFilter.least, float "MAX_DF" defaults.termFilter.share⟩
    matchThreshold := float "MATCH_THRESHOLD" defaults.matchThreshold
    maxTags := nat "MAX_TAGS" defaults.maxTags }

end AnalysisSettings

namespace TransportSettings

/-- The transport settings of an environment under a profile. -/
def ofEnvironment (environment : Environment) (profile : String) : TransportSettings where
  authToken := environment.profiled? profile "AUTH_TOKEN"
  maxAttempts := environment.setting profile "HTTP_MAX_ATTEMPTS" (readNat 4294967295)
    default.maxAttempts
  initialBackoff := environment.setting profile "HTTP_BACKOFF_MS" (readNat Integer.greatestUnsigned)
    default.initialBackoff
  timeoutSeconds := environment.setting profile "HTTP_TIMEOUT_SECS"
    (readNat Integer.greatestUnsigned) default.timeoutSeconds

end TransportSettings

namespace Settings

/-- The variable that names the profile. -/
def profileVariable : String :=
  "LOGDIFF_PROFILE"

/-- The general variables for the settings. -/
def variableNames : List String :=
  ["CLUSTER_LIMIT", "ZERO_DEVIATION_THRESHOLD", "FREQUENCY_DIRECTION", "DIFF_BAND_LOW",
    "DIFF_BAND_HIGH", "MIN_DF", "MAX_DF", "MATCH_THRESHOLD", "MAX_TAGS", "AUTH_TOKEN",
    "HTTP_MAX_ATTEMPTS", "HTTP_BACKOFF_MS", "HTTP_TIMEOUT_SECS"]

/-- The settings of an environment under a named profile; the empty name is no profile. -/
def forProfile (environment : Environment) (profile : String) : Settings Float :=
  let profile := profileName profile
  ⟨profile, .ofEnvironment environment profile, .ofEnvironment environment profile⟩

/-- The settings of an environment under the profile that it names. -/
def ofEnvironment (environment : Environment) : Settings Float :=
  forProfile environment ((environment.lookup profileVariable).getD "")

end Settings

end LogDrift
