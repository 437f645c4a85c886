import LogDrift.Execution.Basic

/-!
# Commands that work on the event service

The events are fetched window by window, then what the previous run delivered. The result is
delivered to the service. Each request is sent only after everything before it has succeeded.
-/

namespace LogDrift

namespace RemoteOptions

/-- What the options ask for. -/
def collection (options : RemoteOptions) : Remote.Collection where
  applicationId := options.applicationId
  workflowId := options.workflowId
  stateExecutionId := options.stateExecutionId
  serviceId := options.serviceId
  minute := options.minute

/-- The settings of the exchanges. A token among the options comes first. -/
def transport (options : RemoteOptions) (settings : TransportSettings) : TransportSettings :=
  { settings with authToken := options.authToken.or settings.authToken }

end RemoteOptions

namespace Store

/-- Adds the events of one side that the service has reported. -/
def addFetched (store : Store Float) (side : Side) (reports : List Json) :
    Except Failure (Store Float) :=
  filled (store.addReports (reports.map fun report => (⟨side, .search⟩, report)))

end Store

namespace Surroundings

variable {M : Type → Type} [Monad M]

/-- Fetches the reports that a message asks for. -/
def fetchReports (around : Surroundings M) (settings : TransportSettings) (url : String)
    (message : Remote.Message) : Effect M (List Json) := do
  match ← around.network.exchange settings url message with
  | .error fault => throw (.eventsNotFetched url fault)
  | .ok response =>
    match response.reports with
    | .error _ => throw .eventsInvalid
    | .ok reports => return reports

/-- Fetches what the previous run delivered, if the service has it. -/
def fetchPrevious (around : Surroundings M) (settings : TransportSettings) (url : String)
    (message : Remote.Message) : Effect M (Option (Snapshot Float)) := do
  match ← around.network.exchange settings url message with
  | .error fault => throw (.previousNotFetched url fault)
  | .ok response =>
    match response.snapshot with
    | .error _ => throw .previousInvalid
    | .ok snapshot => return snapshot

/-- Delivers a result to the service. -/
def post (around : Surroundings M) (settings : TransportSettings) (url : String)
    (snapshot : Snapshot Float) : Effect M Unit := do
  match ← around.network.exchange settings url (.results snapshot) with
  | .error fault => throw (.resultsNotDelivered url fault)
  | .ok _ => return

/-- Gathers the events of both windows. Without an address there are no test events. -/
def gather (around : Surroundings M) (settings : TransportSettings) (options : RemoteOptions)
    (query : Option String) : Effect M (Store Float) := do
  let reports ← around.fetchReports settings options.controlInputUrl
    (.events options.collection options.controlHosts query)
  let store ← Store.empty.addFetched .control reports
  match options.testInputUrl with
  | none => return store
  | some url =>
    let reports ← around.fetchReports settings url
      (.events options.collection options.testHosts query)
    store.addFetched .test reports

/-- Appends the events of the previous run, if there is an address for them. -/
def appendPrevious (around : Surroundings M) (settings : TransportSettings)
    (options : RemoteOptions) (query : Option String) (store : Store Float) :
    Effect M (Store Float) := do
  match options.previousStateUrl with
  | none => return store
  | some url =>
    match ← around.fetchPrevious settings url (.previous options.collection query) with
    | none => return store
    | some snapshot => return (store.mergeSnapshot snapshot).1

/-- Carries out a command whose events come from the service. -/
def executeRemote (around : Surroundings M) (settings : TransportSettings) (brief : Brief)
    (options : RemoteOptions) : Effect M Outcome := do
  let settings := options.transport settings
  let store ← around.gather settings options brief.query
  if store.hasData then
    let store ← around.appendPrevious settings options brief.query store
    let snapshot ← brief.analyse store
    around.post settings options.saveUrl snapshot
    return .done
  else return .noData

end Surroundings

end LogDrift
