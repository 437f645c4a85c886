import LogDrift.CommandLine.Arguments
import LogDrift.CommandLine.Reading
import LogDrift.Settings.Environment

/-!
# The grammar of the command line

Which parameters and subcommands there are, which of them are required, and which variables stand in
for parameters that are not given.
-/

namespace LogDrift

open CommandLine

namespace Window

/-- Reads a window as the value of a parameter. -/
def ofValue (value : String) : Except Refusal Window :=
  (ofText value.toList).mapError fun _ => .invalidValue

end Window

namespace CommandLine

/-- The value of a parameter that must be given. -/
def demand {α : Type} : Option α → Except Refusal α
  | some value => .ok value
  | none => .error .missingParameter

/-- The elements of a list that must be given. -/
def demandSome {α : Type} (elements : List α) : Except Refusal (List α) :=
  if elements.isEmpty then .error .missingParameter else .ok elements

/-- The parameters that may stand before and after the subcommand. -/
def overrides : List (Parameter Overrides) := [
  .single "cluster-limit" Value.natural (·.clusterLimit) fun value given =>
    { given with clusterLimit := value },
  .signed (.single "direction" Value.integer (·.direction) fun value given =>
    { given with direction := value }),
  .single "known-clusters" Value.path (·.knownClusters) fun value given =>
    { given with knownClusters := value },
  .single "query" Value.text (·.query) fun value given => { given with query := value }]

/-- What is given for a command that works on files. -/
structure LocalDraft where
  input : Option String := none
  testInput : Option String := none
  controlWindow : Option Window := none
  testWindow : Option Window := none
  controlHosts : List String := []
  testHosts : List String := []
  previousOutput : Option String := none
  output : Option String := none

namespace LocalDraft

/-- The parameters of every command that works on files. -/
def parameters : List (Parameter LocalDraft) := [
  .single "input" Value.path (·.input) fun value draft => { draft with input := value },
  .single "control-window" Window.ofValue (·.controlWindow) fun value draft =>
    { draft with controlWindow := value },
  .single "test-window" Window.ofValue (·.testWindow) fun value draft =>
    { draft with testWindow := value },
  .single "prev-output" Value.path (·.previousOutput) fun value draft =>
    { draft with previousOutput := value },
  .single "output" Value.path (·.output) fun value draft => { draft with output := value }]

/-- The parameters of the command for production reports alone. -/
def reportParameters : List (Parameter LocalDraft) := [
  .single "test-input" Value.path (·.testInput) fun value draft =>
    { draft with testInput := value },
  .list "control-nodes" fun hosts draft =>
    { draft with controlHosts := draft.controlHosts ++ hosts },
  .list "test-nodes" fun hosts draft => { draft with testHosts := draft.testHosts ++ hosts }]

/-- The options that a draft holds for every command that works on files. -/
def localOptions (draft : LocalDraft) : Except Refusal LocalOptions := do
  return {
    input := ← demand draft.input
    controlWindow := ← demand draft.controlWindow
    testWindow := ← demand draft.testWindow
    previousOutput := draft.previousOutput
    output := draft.output }

/-- The options for production reports. The control hosts may only be left out when the test window
has a report of its own. -/
def fileOptions (draft : LocalDraft) : Except Refusal FileOptions := do
  let options ← draft.localOptions
  if draft.testInput.isNone then
    let _ ← demandSome draft.controlHosts
  return { options with
    testInput := draft.testInput
    controlHosts := draft.controlHosts
    testHosts := draft.testHosts }

end LocalDraft

/-- What is given for the exchange with the event service. -/
structure RemoteDraft where
  controlInputUrl : Option String := none
  testInputUrl : Option String := none
  previousStateUrl : Option String := none
  saveUrl : Option String := none
  authToken : Option String := none
  applicationId : Option String := none
  workflowId : Option String := none
  stateExecutionId : Option String := none
  serviceId : Option String := none
  minute : Option Int := none
  controlHosts : List String := []
  testHosts : List String := []

namespace RemoteDraft

/-- The parameters of the exchange. -/
def parameters : List (Parameter RemoteDraft) := [
  .single "control-input-url" Value.text (·.controlInputUrl) fun value draft =>
    { draft with controlInputUrl := value },
  .single "test-input-url" Value.text (·.testInputUrl) fun value draft =>
    { draft with testInputUrl := value },
  .single "prev-state-url" Value.text (·.previousStateUrl) fun value draft =>
    { draft with previousStateUrl := value },
  .single "save-url" Value.text (·.saveUrl) fun value draft => { draft with saveUrl := value },
  .single "auth-token" Value.text (·.authToken) fun value draft =>
    { draft with authToken := value },
  .single "application-id" Value.text (·.applicationId) fun value draft =>
    { draft with applicationId := value },
  .single "workflow-id" Value.text (·.workflowId) fun value draft =>
    { draft with workflowId := value },
  .single "state-execution-id" Value.text (·.stateExecutionId) fun value draft =>
    { draft with stateExecutionId := value },
  .single "service-id" Value.text (·.serviceId) fun value draft =>
    { draft with serviceId := value },
  .single "log-collection-minute" Value.integer (·.minute) fun value draft =>
    { draft with minute := value },
  .list "control-nodes" fun hosts draft =>
    { draft with controlHosts := draft.controlHosts ++ hosts },
  .list "test-nodes" fun hosts draft => { draft with testHosts := draft.testHosts ++ hosts }]

/-- The variables that stand in for parameters. Here an empty value counts. -/
def variableNames : List String :=
  ["CONTROL_INPUT_URL", "TEST_INPUT_URL", "LOG_ANALYSIS_GET_URL", "LOG_ANALYSIS_SAVE_URL",
    "AUTH_TOKEN"]

/-- A draft in which variables stand in for what is not given. -/
def complete (environment : Environment) (draft : RemoteDraft) : RemoteDraft :=
  { draft with
    controlInputUrl := draft.controlInputUrl.or (environment.lookup "CONTROL_INPUT_URL")
    testInputUrl := draft.testInputUrl.or (environment.lookup "TEST_INPUT_URL")
    previousStateUrl := draft.previousStateUrl.or (environment.lookup "LOG_ANALYSIS_GET_URL")
    saveUrl := draft.saveUrl.or (environment.lookup "LOG_ANALYSIS_SAVE_URL")
    authToken := draft.authToken.or (environment.lookup "AUTH_TOKEN") }

/-- The options that a draft holds. -/
def options (draft : RemoteDraft) : Except Refusal RemoteOptions := do
  return {
    controlInputUrl := ← demand draft.controlInputUrl
    testInputUrl := draft.testInputUrl
    previousStateUrl := draft.previousStateUrl
    saveUrl := ← demand draft.saveUrl
    authToken := draft.authToken
    applicationId := ← demand draft.applicationId
    workflowId := ← demand draft.workflowId
    stateExecutionId := ← demand draft.stateExecutionId
    serviceId := ← demand draft.serviceId
    minute := ← demand draft.minute
    controlHosts := ← demandSome draft.controlHosts
    testHosts := draft.testHosts }

end RemoteDraft

/-- The subcommands that do something. -/
def subcommands : List String :=
  ["remote", "file", "legacy"]

/-- The level before the subcommand. -/
def firstLevel : Level Overrides :=
  ⟨overrides, subcommands ++ ["help"], true⟩

/-- The level after a subcommand with parameters of its own. -/
def secondLevel {T : Type} (parameters : List (Parameter T)) : Level (Overrides × T) :=
  ⟨overrides.map .onFirst ++ parameters.map .onSecond, [], false⟩

/-- Reads the words after the name of a subcommand. -/
def readCommand (environment : Environment) (name : String) (words : List String) :
    Except Refusal Arguments :=
  match name with
  | "remote" => do
    let (given, draft) ← (secondLevel RemoteDraft.parameters).readAll ({}, {}) words
    return ⟨given, .remote (← (draft.complete environment).options)⟩
  | "file" => do
    let parameters := LocalDraft.parameters ++ LocalDraft.reportParameters
    let (given, draft) ← (secondLevel parameters).readAll ({}, {}) words
    return ⟨given, .file (← draft.fileOptions)⟩
  | "legacy" => do
    let (given, draft) ← (secondLevel LocalDraft.parameters).readAll ({}, {}) words
    return ⟨given, .search (← draft.localOptions)⟩
  | _ => .error .unknownSubcommand

/-- Answers a question about subcommands. -/
def answerHelp {α : Type} (words : List String) : Except Refusal α :=
  match words with
  | [] => .error .helpAsked
  | [name] =>
    .error (if firstLevel.subcommands.contains name then .helpAsked else .unknownSubcommand)
  | _ => .error .unknownSubcommand

end CommandLine

namespace Arguments

/-- The arguments that the words of a command line hold. A parameter after the subcommand wins over
one before it. -/
def ofWords (environment : Environment) (words : List String) : Except Refusal Arguments := do
  let (reading, found) ← firstLevel.read { given := {} } words
  match found with
  | none =>
    let given ← reading.settle
    .error (if given = {} then .nothingGiven else .noSubcommand)
  | some (name, rest) =>
    if name = "help" then answerHelp rest
    else
      let arguments ← readCommand environment name rest
      let given ← reading.settle
      return { arguments with overrides := arguments.overrides.orElse given }

end Arguments

end LogDrift
