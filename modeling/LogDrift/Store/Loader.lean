import LogDrift.Document.Snapshot
import LogDrift.Files
import LogDrift.Store.Basic
import LogDrift.Window

/-!
# Filling the store from files

A file of records holds both windows, or one of them. Which records belong to which window is
decided first; then their events are added in order until one is refused. What was added before that
stays.
-/

namespace LogDrift

namespace Report

/-- The refusal of a file that holds no records. -/
def notRecords (path : String) : Error :=
  .malformedEvent s!"{path}: expected an array of records"

/-- The reports of a document: the document itself, or what it holds under `resource`. -/
def listOf (path : String) : Json → Except Error (List Json)
  | .arr records => .ok records
  | .obj members =>
    match Json.member? "resource" (.obj members) with
    | some (.arr records) => .ok records
    | _ => .error (notRecords path)
  | _ => .error (notRecords path)

/-- The reports in a file. -/
def readAll (files : Files) (path : String) : Except Error (List Json) := do
  let text ← files.read path
  match Json.parse text with
  | .error fault => .error (.document (.ofFault fault))
  | .ok document => listOf path document

/-- The minute in which a report was collected. -/
def minute? (report : Json) : Option Int :=
  (report.member? "logCollectionMinute").bind Label.ofJson?

/-- The host of a report, which is empty if there is none. -/
def host (report : Json) : String :=
  ((report.member? "host").bind Json.text?).getD ""

/-- Whether a report in the result of a search starts the next minute. -/
def startsMinute (report : Json) : Bool :=
  (report.member? "cluster_label").bind Label.ofJson? == some 1

/-- The reports of a search with their minutes, which are counted from the reports that start one.
-/
def withMinutes : Int → List Json → List (Int × Json)
  | _, [] => []
  | minute, report :: rest =>
    let minute := if startsMinute report then minute + 1 else minute
    (minute, report) :: withMinutes minute rest

end Report

/-- What is taken from a production report that holds both windows: a window and the hosts of each
side. -/
structure ProductionSelection where
  controlWindow : Window
  testWindow : Window
  controlHosts : List String
  testHosts : List String

namespace ProductionSelection

/-- The sides that a report belongs to. -/
def sides (selection : ProductionSelection) (report : Json) : List Side :=
  match Report.minute? report with
  | none => []
  | some minute =>
    let host := Report.host report
    (if selection.controlWindow.contains minute && selection.controlHosts.contains host
      then [.control] else [])
    ++ (if selection.testWindow.contains minute && selection.testHosts.contains host
      then [.test] else [])

end ProductionSelection

namespace Store

/-- Adds the events of reports in order until one is refused. The result counts them. -/
def addReports (store : Store Float) : List (Origin × Json) → Store Float × Except Error Nat
  | [] => (store, .ok 0)
  | (origin, report) :: rest =>
    match store.addReport origin report with
    | .error refusal => (store, .error refusal)
    | .ok store =>
      let (store, added) := store.addReports rest
      (store, added.map (· + 1))

/-- Adds what `select` takes of the reports in a file. -/
def loadSelected (store : Store Float) (files : Files) (path : String)
    (select : List Json → List (Origin × Json)) : Store Float × Except Error Nat :=
  match Report.readAll files path with
  | .error refusal => (store, .error refusal)
  | .ok reports => store.addReports (select reports)

/-- Loads a production report that holds both windows. -/
def loadProduction (store : Store Float) (files : Files) (path : String)
    (selection : ProductionSelection) : Store Float × Except Error Nat :=
  store.loadSelected files path fun reports =>
    reports.flatMap fun report =>
      (selection.sides report).map fun side => (⟨side, .production⟩, report)

/-- Loads one window of a production report. -/
def loadWindow (store : Store Float) (files : Files) (path : String) (side : Side)
    (window : Window) : Store Float × Except Error Nat :=
  store.loadSelected files path fun reports =>
    (reports.filter fun report => (Report.minute? report).any window.contains).map
      fun report => (⟨side, .production⟩, report)

/-- Loads a production report for each window. -/
def loadProductionPair (store : Store Float) (files : Files) (controlPath : String)
    (controlWindow : Window) (testPath : String) (testWindow : Window) :
    Store Float × Except Error Nat :=
  match store.loadWindow files controlPath .control controlWindow with
  | (store, .error refusal) => (store, .error refusal)
  | (store, .ok fromControl) =>
    let (store, fromTest) := store.loadWindow files testPath .test testWindow
    (store, fromTest.map (fromControl + ·))

/-- Loads the result of a search. Its reports carry no minutes. -/
def loadSearch (store : Store Float) (files : Files) (path : String)
    (controlWindow testWindow : Window) : Store Float × Except Error Nat :=
  store.loadSelected files path fun reports =>
    (Report.withMinutes 0 reports).flatMap fun (minute, report) =>
      (if controlWindow.contains minute then [(⟨.control, .search⟩, report)] else [])
      ++ (if testWindow.contains minute then [(⟨.test, .search⟩, report)] else [])

/-- Appends the events of a run that was saved in a file. The result counts them. -/
def mergeFile (store : Store Float) (files : Files) (path : String) :
    Store Float × Except Error Nat :=
  match files.read path >>= Snapshot.load with
  | .error refusal => (store, .error refusal)
  | .ok snapshot =>
    let (store, added) := store.mergeSnapshot snapshot
    (store, .ok added)

end Store

end LogDrift
