import LogDrift.Proofs.Json.Reading
import LogDrift.Proofs.Store.Taking

/-!
# Which reports of a file are loaded

The ways of loading a file of reports differ only in what the sides take of it. Production reports
name their minute and their host: one file may serve both sides, or each side may have its own. The
result of a search names no minutes. They are counted by the reports that start one, so that the
minute of a report depends on its place in the file.
-/

namespace LogDrift

/-! ## Loading files -/

/-- What loading a file comes to. What the sides take may depend on the whole file. -/
inductive LoadsFile (taking : List Json → Taking) (shape : Shape) (files : Files) (path : String)
    (store : Store Float) : Store Float × Except Error Nat → Prop where
  /-- The file holds no list of reports. -/
  | unread {refusal : Error} (refused : Report.readAll files path = .error refusal) :
    LoadsFile taking shape files path store (store, .error refusal)
  | read {reports : List Json} {result : Store Float × Except Error Nat}
    (found : Report.readAll files path = .ok reports)
    (loaded : (taking reports).Loads shape reports store result) :
    LoadsFile taking shape files path store result

/-- What loading one file after another comes to. -/
inductive LoadsInTurn (first second : Store Float → Store Float × Except Error Nat → Prop)
    (store : Store Float) : Store Float × Except Error Nat → Prop where
  /-- A refusal in the first file ends the loading. -/
  | stopped {store' : Store Float} {refusal : Error}
    (loaded : first store (store', .error refusal)) :
    LoadsInTurn first second store (store', .error refusal)
  /-- What the first file has added stays, whatever comes of the second. -/
  | further {middle : Store Float} {count : Nat} {result : Store Float × Except Error Nat}
    (loaded : first store (middle, .ok count)) (later : second middle result) :
    LoadsInTurn first second store (result.1, result.2.map (count + ·))

/-- The reports that are written to a file are found in it, with sorted members. -/
theorem Report.readAll_render {files : Files} {path : String} (reports : List Json)
    (legible : (Json.arr reports).Legible) (room : (Json.arr reports).nesting ≤ Json.depthLimit)
    (kept : files.read path = .ok (Json.arr reports).render) :
    readAll files path = .ok (Json.canonicalElements reports) := by
  have parsed := Json.parse_render legible room
  simp only [readAll, kept, parsed, bind, Except.bind]
  rfl

theorem loadsFile_loadSelected {taking : List Json → Taking} {shape : Shape}
    (fresh : shape ≠ .saved) {select : List Json → List (Origin × Json)}
    (selects : ∀ reports, select reports = (taking reports).origins shape reports)
    (store : Store Float) (files : Files) (path : String) :
    LoadsFile taking shape files path store (store.loadSelected files path select) := by
  rw [Store.loadSelected]
  cases found : Report.readAll files path with
  | error refusal => exact .unread found
  | ok reports =>
    dsimp only
    rw [selects]
    exact .read found (Taking.loads_addReports fresh _ store reports)

/-- What is taken without regard to places. -/
theorem Taking.origins_eq_flatMap {taking : Taking} {sides : Json → List Side}
    (unplaced : ∀ place report, taking.sides place report = sides report) (shape : Shape)
    (reports : List Json) :
    taking.origins shape reports =
      reports.flatMap fun report => (sides report).map fun side => (⟨side, shape⟩, report) := by
  conv_rhs => rw [← List.zipIdx_map_fst 0 reports, List.flatMap_map]
  simp only [origins, unplaced]

/-! ## Production reports -/

/-- A side takes the reports whose minute lies in its window and whose host is among its hosts. -/
def ProductionSelection.taking (selection : ProductionSelection) : Taking := fun side _ report =>
  (Report.minute? report).any (side.pick selection.controlWindow selection.testWindow).contains &&
    (side.pick selection.controlHosts selection.testHosts).contains (Report.host report)

/-- One side takes the reports whose minute lies in a window, and the other side takes none. -/
def Window.taking (window : Window) (target : Side) : Taking := fun side _ report =>
  side = target && (Report.minute? report).any window.contains

@[simp] theorem ProductionSelection.sides_taking (selection : ProductionSelection) (place : Nat)
    (report : Json) : selection.taking.sides place report = selection.sides report := by
  rw [Taking.sides, ProductionSelection.sides]
  cases found : Report.minute? report with
  | none => simp [taking, found]
  | some minute =>
    simp only [taking, found, List.filter_cons, List.filter_nil, Option.any_some, Side.pick]
    cases selection.controlWindow.contains minute &&
        selection.controlHosts.contains (Report.host report) <;>
      cases selection.testWindow.contains minute &&
          selection.testHosts.contains (Report.host report) <;> rfl

@[simp]
theorem Window.sides_taking (window : Window) (target : Side) (place : Nat) (report : Json) :
    (window.taking target).sides place report =
      if (Report.minute? report).any window.contains then [target] else [] := by
  cases target <;> simp [Taking.sides, taking, List.filter_cons]

theorem Window.origins_taking (window : Window) (side : Side) (reports : List Json) :
    (window.taking side).origins .production reports =
      (reports.filter fun report => (Report.minute? report).any window.contains).map
        fun report => (⟨side, .production⟩, report) := by
  rw [Taking.origins_eq_flatMap (window.sides_taking side)]
  induction reports with
  | nil => rfl
  | cons report rest ih =>
    rw [List.filter_cons, List.flatMap_cons, ih]
    cases (Report.minute? report).any window.contains <;> rfl

namespace Store

theorem loadsFile_loadWindow (store : Store Float) (files : Files) (path : String) (side : Side)
    (window : Window) :
    LoadsFile (fun _ => window.taking side) .production files path store
      (store.loadWindow files path side window) :=
  loadsFile_loadSelected (by decide) (fun reports => (window.origins_taking side reports).symm)
    store files path

/-- Loading production reports, from one file for both sides or from one file for each. -/
theorem production_loads (store : Store Float) (files : Files) :
    (∀ path selection, LoadsFile (fun _ => selection.taking) .production files path store
      (store.loadProduction files path selection)) ∧
    ∀ controlPath controlWindow testPath testWindow, LoadsInTurn
      (LoadsFile (fun _ => Window.taking controlWindow .control) .production files controlPath)
      (LoadsFile (fun _ => Window.taking testWindow .test) .production files testPath) store
      (store.loadProductionPair files controlPath controlWindow testPath testWindow) := by
  constructor
  case left =>
    intro path selection
    refine loadsFile_loadSelected (by decide) ?_ store files path
    exact fun reports => (Taking.origins_eq_flatMap selection.sides_taking _ reports).symm
  case right =>
    intro controlPath controlWindow testPath testWindow
    have loaded := loadsFile_loadWindow store files controlPath .control controlWindow
    rw [loadProductionPair]
    cases found : store.loadWindow files controlPath .control controlWindow with
    | mk middle result =>
      rw [found] at loaded
      cases result with
      | error refusal => exact .stopped loaded
      | ok count =>
        exact .further loaded (loadsFile_loadWindow middle files testPath .test testWindow)

/-- A report that both sides take, one that neither takes, and one that both take although it has no
label. -/
def sharedReports : List Json := [
  .obj [("clusterLabel", .int 1), ("host", .str "web"), ("logCollectionMinute", .str "2"),
    ("logMessage", .str "disk full")],
  .int 7,
  .obj [("host", .str "web"), ("logCollectionMinute", .int 2)]]

def sharedFiles : Files :=
  .ofList [("shared.json", .ok (Json.arr sharedReports).render)]

def sharedSelection : ProductionSelection :=
  ⟨⟨1, 2⟩, ⟨2, 3⟩, ["web"], ["web"]⟩

/-- The report without a label ends the loading, after both sides have received the first one. -/
theorem production_loads_shared :
    ∃ store refusal,
      LoadsFile (fun _ => sharedSelection.taking) .production sharedFiles "shared.json" .empty
        (store, .error refusal) ∧
      store.controlTexts = [⟨1, "disk full"⟩] ∧ store.testTexts = [⟨1, "disk full"⟩] := by
  have loaded := (production_loads .empty sharedFiles).1 "shared.json" sharedSelection
  have read : Report.readAll sharedFiles "shared.json" = .ok sharedReports :=
    Report.readAll_render sharedReports (by decide) (by decide) rfl
  rw [loadProduction, loadSelected, read] at loaded
  exact ⟨_, _, loaded, rfl, rfl⟩

end Store

/-! ## Searches -/

/-- The minute of the report at a place of a search: how many reports up to it start a minute. -/
def Report.minuteAt (reports : List Json) (place : Nat) : Int :=
  (reports.take (place + 1)).countP startsMinute

/-- A side takes the reports of a search whose minute lies in its window. -/
def Report.searchTaking (controlWindow testWindow : Window) (reports : List Json) : Taking :=
  fun side place _ => (side.pick controlWindow testWindow).contains (minuteAt reports place)

theorem Report.withMinutes_eq (start : Int) (reports : List Json) :
    withMinutes start reports =
      reports.zipIdx.map fun entry => (start + minuteAt reports entry.2, entry.1) := by
  induction reports generalizing start with
  | nil => rfl
  | cons report rest ih =>
    have first : (if startsMinute report then start + 1 else start) =
        start + minuteAt (report :: rest) 0 := by
      rw [minuteAt, List.take_succ_cons, List.countP_cons]
      split <;> simp
    have later : ∀ place, (if startsMinute report then start + 1 else start) + minuteAt rest place =
        start + minuteAt (report :: rest) (place + 1) := by
      intro place
      rw [minuteAt, minuteAt, List.take_succ_cons, List.countP_cons]
      split <;> omega
    rw [withMinutes, ih, List.zipIdx_cons, List.zipIdx_succ, List.map_cons, List.map_map]
    simp only [first, Function.comp_def, ← later]

theorem Report.origins_searchTaking (controlWindow testWindow : Window) (reports : List Json) :
    (searchTaking controlWindow testWindow reports).origins .search reports =
      (withMinutes 0 reports).flatMap fun (minute, report) =>
        (if controlWindow.contains minute then [(⟨.control, .search⟩, report)] else [])
        ++ (if testWindow.contains minute then [(⟨.test, .search⟩, report)] else []) := by
  rw [withMinutes_eq, List.flatMap_map, Taking.origins]
  congr 1
  funext entry
  simp only [Int.zero_add, Taking.sides, searchTaking, List.filter_cons, List.filter_nil,
    Side.pick]
  cases controlWindow.contains (minuteAt reports entry.2) <;>
    cases testWindow.contains (minuteAt reports entry.2) <;> rfl

namespace Store

/-- Loading the result of a search. -/
theorem loadSearch_loads (store : Store Float) (files : Files) (path : String)
    (controlWindow testWindow : Window) :
    LoadsFile (Report.searchTaking controlWindow testWindow) .search files path store
      (store.loadSearch files path controlWindow testWindow) :=
  loadsFile_loadSelected (by decide)
    (fun reports => (Report.origins_searchTaking controlWindow testWindow reports).symm)
    store files path

/-- Reports of two minutes, after one that is counted to none of them. -/
def minuteReports : List Json := [
  .int 7,
  .obj [("_raw", .str "disk full"), ("cluster_label", .str "1")],
  .obj [("_raw", .str "link lost"), ("cluster_label", .int 5)],
  .obj [("_raw", .int 4), ("cluster_label", .int 1)]]

def minuteFiles : Files :=
  .ofList [("minutes.json", .ok (Json.arr minuteReports).render)]

/-- The report that starts the second minute is no event and ends the loading, after both sides have
received those of the first minute. -/
theorem loadSearch_loads_minutes :
    ∃ store refusal,
      LoadsFile (Report.searchTaking ⟨1, 1⟩ ⟨1, 2⟩) .search minuteFiles "minutes.json" .empty
        (store, .error refusal) ∧
      store.controlTexts = [⟨1, "disk full"⟩, ⟨5, "link lost"⟩] ∧
      store.testTexts = [⟨1, "disk full"⟩, ⟨5, "link lost"⟩] := by
  have loaded := loadSearch_loads .empty minuteFiles "minutes.json" ⟨1, 1⟩ ⟨1, 2⟩
  have read : Report.readAll minuteFiles "minutes.json" = .ok minuteReports :=
    Report.readAll_render minuteReports (by decide) (by decide) rfl
  rw [loadSearch, loadSelected, read] at loaded
  exact ⟨_, _, loaded, rfl, rfl⟩

end Store

end LogDrift
