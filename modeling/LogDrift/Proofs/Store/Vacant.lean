import LogDrift.Brief
import LogDrift.Proofs.Store.Selection

/-!
# Loading without finding anything

Loading reports leaves a store without data just if neither side takes any of the reports. Then it
does not matter what the reports look like.
-/

namespace LogDrift

/-- A file holds reports, of which neither side takes any. -/
def Taking.Untaken (taking : List Json → Taking) (files : Files) (path : String) : Prop :=
  ∃ reports, Report.readAll files path = .ok reports ∧
    ∀ side, (taking reports).taken side reports = []

theorem Taking.Untaken.of_text {taking : List Json → Taking} {files files' : Files} {path : String}
    (untaken : Untaken taking files path) (same : files'.text path = files.text path) :
    Untaken taking files' path := by
  obtain ⟨reports, read, untouched⟩ := untaken
  refine ⟨reports, ?_, untouched⟩
  rw [← read, Report.readAll, Report.readAll, Files.read, Files.read, same]

namespace Store

/-- Loading has succeeded, and there is no data. -/
def Vacant (result : Store Float × Except Error Nat) : Prop :=
  result.1.hasData = false ∧ ∃ count, result.2 = .ok count

theorem exists_filled_iff {result : Store Float × Except Error Nat} :
    (∃ store, filled result = .ok store ∧ store.hasData = false) ↔ Vacant result := by
  rcases result with ⟨store, _ | count⟩ <;> simp [filled, Vacant]

/-- Loading a file brings no data just if nothing is taken of it. -/
theorem vacant_loadSelected {taking : List Json → Taking} {shape : Shape}
    {select : List Json → List (Origin × Json)}
    (selects : ∀ reports, select reports = (taking reports).origins shape reports)
    (store : Store Float) (files : Files) (path : String) :
    Vacant (store.loadSelected files path select) ↔
      store.hasData = false ∧ Taking.Untaken taking files path := by
  rw [loadSelected]
  cases read : Report.readAll files path with
  | error refusal => simp [Vacant, Taking.Untaken, read]
  | ok reports =>
    have chosen : select reports = [] ↔ ∀ side, (taking reports).taken side reports = [] := by
      rw [selects, Taking.origins_eq_nil_iff]
    simp only [Taking.Untaken, read, Except.ok.injEq, exists_eq_left', ← chosen]
    cases added : store.addReports (select reports) with
    | mk store' result =>
      cases result with
      | error refusal =>
        have nonempty : select reports ≠ [] := by
          intro bare
          rw [bare] at added
          cases added
        simp [Vacant, nonempty]
      | ok count => simp [Vacant, hasData_addReports added]

theorem vacant_loadProduction (store : Store Float) (files : Files) (path : String)
    (selection : ProductionSelection) :
    Vacant (store.loadProduction files path selection) ↔
      store.hasData = false ∧ Taking.Untaken (fun _ => selection.taking) files path :=
  vacant_loadSelected
    (fun _ => (Taking.origins_eq_flatMap selection.sides_taking .production _).symm)
    store files path

theorem vacant_loadWindow (store : Store Float) (files : Files) (path : String) (side : Side)
    (window : Window) :
    Vacant (store.loadWindow files path side window) ↔
      store.hasData = false ∧ Taking.Untaken (fun _ => window.taking side) files path :=
  vacant_loadSelected (fun _ => (window.origins_taking side _).symm) store files path

theorem vacant_loadProductionPair (store : Store Float) (files : Files) (controlPath : String)
    (controlWindow : Window) (testPath : String) (testWindow : Window) :
    Vacant (store.loadProductionPair files controlPath controlWindow testPath testWindow) ↔
      store.hasData = false ∧
        Taking.Untaken (fun _ => controlWindow.taking .control) files controlPath ∧
        Taking.Untaken (fun _ => testWindow.taking .test) files testPath := by
  have control := vacant_loadWindow store files controlPath .control controlWindow
  rw [← and_assoc, ← control, loadProductionPair]
  cases loaded : store.loadWindow files controlPath .control controlWindow with
  | mk middle result =>
    have test := vacant_loadWindow middle files testPath .test testWindow
    cases result with
    | error refusal => simp [Vacant]
    | ok count =>
      have same : Vacant (middle, .ok count) ↔ middle.hasData = false := by simp [Vacant]
      rw [same, ← test]
      cases later : middle.loadWindow files testPath .test testWindow with
      | mk whole result => cases result <;> simp [Vacant, later, Except.map]

theorem vacant_loadSearch (store : Store Float) (files : Files) (path : String)
    (controlWindow testWindow : Window) :
    Vacant (store.loadSearch files path controlWindow testWindow) ↔ store.hasData = false ∧
      Taking.Untaken (Report.searchTaking controlWindow testWindow) files path :=
  vacant_loadSelected (fun _ => (Report.origins_searchTaking controlWindow testWindow _).symm)
    store files path

end Store

end LogDrift
