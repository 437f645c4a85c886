import LogDrift.Remote.Exchange

/-!
# Failures of a command

Why a command ends without a result. The message names what was attempted and then, one by one, the
causes behind it.
-/

namespace LogDrift

/-- The wordings of an error and of the causes behind it. An error of the system wraps its own
text. -/
def Error.causes : Error → List String
  | .io reason => [Error.message (.io reason), reason]
  | error => [error.message]

/-- Why a command ends without a result. -/
inductive Failure
  | knownClustersNotRead (path reason : String)
  | knownClustersInvalid (path : String)
  | eventsRefused (error : Error)
  | previousOutputRefused (path : String) (error : Error)
  | analysisFailed (error : Error)
  | resultsNotWritten (path reason : String)
  | eventsNotFetched (url : String) (fault : Remote.Fault)
  | eventsInvalid
  | previousNotFetched (url : String) (fault : Remote.Fault)
  | previousInvalid
  | resultsNotDelivered (url : String) (fault : Remote.Fault)
  deriving DecidableEq, Repr

namespace Failure

/-- What is said about a body of another shape than expected. -/
def invalidBody : String :=
  "error decoding response body"

/-- The wordings of a failure and of the causes behind it, outermost first. -/
def causes : Failure → List String
  | knownClustersNotRead path reason => [s!"failed to read known clusters from {path}", reason]
  | knownClustersInvalid path => [s!"invalid known clusters file {path}"]
  | eventsRefused error => error.causes
  | previousOutputRefused path error => s!"failed to merge previous output {path}" :: error.causes
  | analysisFailed error => "analysis failed" :: error.causes
  | resultsNotWritten path reason => [s!"failed to write results to {path}", reason]
  | eventsNotFetched url fault => [s!"failed to fetch events from {url}", fault.message]
  | eventsInvalid => ["failed to parse events response", invalidBody]
  | previousNotFetched url fault => [s!"failed to fetch previous state from {url}", fault.message]
  | previousInvalid => ["failed to parse previous state response", invalidBody]
  | resultsNotDelivered url fault => [s!"failed to post results to {url}", fault.message]

/-- The wording of a failure. -/
def message (failure : Failure) : String :=
  ": ".intercalate failure.causes

end Failure

end LogDrift
