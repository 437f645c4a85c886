import LogDrift.Proofs.Execution.Disk
import LogDrift.Proofs.Store.Vacant
import LogDrift.Settings.Environment

/-!
# What commands that work on files leave behind

A command that works on files has read all that it needs, and its result is complete, before it
writes anything. It therefore leaves its whole result behind or leaves the disk as it was. Whether
there is data depends on the reports alone, and not on the previous output.
-/

namespace LogDrift

/-! ## Commands that work on files -/

/-- What both sides take of a report that serves both of them. -/
def FileOptions.selection (options : FileOptions) : ProductionSelection :=
  ⟨options.controlWindow, options.testWindow, options.controlHosts, options.testHosts⟩

namespace Command

/-- A command that works on files, with its options and with what loading its reports comes to. -/
inductive Loads (files : Files) : Command → LocalOptions → Except Failure (Store Float) → Prop
  | file (options : FileOptions) :
    Loads files (.file options) options.toLocalOptions (options.load files)
  | search (options : LocalOptions) :
    Loads files (.search options) options (options.loadSearch files)

/-- The reports of a command can be read, and none of them lands in either window. -/
inductive Blank (files : Files) : Command → Prop
  | together {options : FileOptions} (alone : options.testInput = none)
    (untaken : Taking.Untaken (fun _ => options.selection.taking) files options.input) :
    Blank files (.file options)
  | apart {options : FileOptions} {testInput : String} (given : options.testInput = some testInput)
    (control : Taking.Untaken (fun _ => options.controlWindow.taking .control) files options.input)
    (test : Taking.Untaken (fun _ => options.testWindow.taking .test) files testInput) :
    Blank files (.file options)
  | search {options : LocalOptions} (untaken : Taking.Untaken
      (Report.searchTaking options.controlWindow options.testWindow) files options.input) :
    Blank files (.search options)

variable {files files' : Files} {command : Command} {options : LocalOptions}
  {gathered : Except Failure (Store Float)}

/-- Loading succeeds without bringing any data just if no report lands in either window. -/
theorem Loads.blank_iff (loads : Loads files command options gathered) :
    (∃ store, gathered = .ok store ∧ store.hasData = false) ↔ Blank files command := by
  have nothing : (Store.empty : Store Float).hasData = false := rfl
  cases loads with
  | file options =>
    cases given : options.testInput with
    | none =>
      rw [FileOptions.load, given, Store.exists_filled_iff, Store.vacant_loadProduction]
      constructor
      · exact fun vacant => .together given vacant.2
      · intro blank
        cases blank with
        | together _ untaken => exact ⟨nothing, untaken⟩
        | apart given' => cases given.symm.trans given'
    | some testInput =>
      rw [FileOptions.load, given, Store.exists_filled_iff, Store.vacant_loadProductionPair]
      constructor
      · exact fun vacant => .apart given vacant.2.1 vacant.2.2
      · intro blank
        cases blank with
        | together alone => cases given.symm.trans alone
        | apart given' control test =>
          cases given.symm.trans given'
          exact ⟨nothing, control, test⟩
  | search =>
    rw [LocalOptions.loadSearch, Store.exists_filled_iff, Store.vacant_loadSearch]
    constructor
    · exact fun vacant => .search vacant.2
    · intro blank
      cases blank with
      | search untaken => exact ⟨nothing, untaken⟩

/-- The same command with another previous output, or with none. -/
def recalling (previous : Option String) : Command → Command
  | remote options => remote options
  | file options => file { options with previousOutput := previous }
  | search options => search { options with previousOutput := previous }

/-- The files with the reports of a command. -/
def sources : Command → List String
  | remote _ => []
  | file options => options.input :: options.testInput.toList
  | search options => [options.input]

/-- Whether reports land in a window depends neither on the previous output nor on any file but
those with the reports. -/
theorem Blank.recalling (blank : Blank files command)
    (same : ∀ path ∈ command.sources, files'.text path = files.text path)
    (previous : Option String) : Blank files' (command.recalling previous) := by
  cases blank with
  | together alone untaken =>
    exact .together alone (untaken.of_text (same _ List.mem_cons_self))
  | apart given control test =>
    refine .apart given (control.of_text (same _ List.mem_cons_self)) (test.of_text (same _ ?_))
    exact List.mem_cons_of_mem _ (Option.mem_toList.2 given)
  | search untaken => exact .search (untaken.of_text (same _ List.mem_cons_self))

@[simp] theorem sources_recalling (command : Command) (previous : Option String) :
    (command.recalling previous).sources = command.sources := by
  cases command <;> rfl

theorem Loads.recalling_recalling (loads : Loads files command options gathered)
    (previous : Option String) :
    (command.recalling previous).recalling options.previousOutput = command := by
  cases loads <;> rfl

theorem Loads.blank_recalling_iff (loads : Loads files command options gathered)
    (same : ∀ path ∈ command.sources, files'.text path = files.text path)
    (previous : Option String) :
    Blank files' (command.recalling previous) ↔ Blank files command := by
  constructor
  · intro blank
    rw [← loads.recalling_recalling previous]
    apply blank.recalling
    intro path source
    rw [sources_recalling] at source
    exact (same path source).symm
  · exact fun blank => blank.recalling same previous

end Command

/-! ## What is written -/

/-- The events of the previous output follow those that are loaded. -/
inductive Merges (files : Files) (store : Store Float) :
    Option String → Except Failure (Store Float) → Prop
  | alone : Merges files store none (.ok store)
  | refused {path : String} {error : Error}
    (refused : files.read path >>= Snapshot.load = .error error) :
    Merges files store (some path) (.error (.previousOutputRefused path error))
  | merged {path : String} {previous : Snapshot Float}
    (read : files.read path >>= Snapshot.load = .ok previous) :
    Merges files store (some path) (.ok (store.mergeSnapshot previous).1)

/-- What comes of the events that are loaded: a result, nothing where there is no data, or a
failure. -/
inductive Results (files : Files) (brief : Brief) (previousOutput : Option String) :
    Except Failure (Store Float) → Except Failure (Option (Snapshot Float)) → Prop
  | unloaded (failure : Failure) :
    Results files brief previousOutput (.error failure) (.error failure)
  | nothing {store : Store Float} (empty : store.hasData = false) :
    Results files brief previousOutput (.ok store) (.ok none)
  | unmerged {store : Store Float} {failure : Failure} (filled : store.hasData = true)
    (merges : Merges files store previousOutput (.error failure)) :
    Results files brief previousOutput (.ok store) (.error failure)
  | unanalysed {store whole : Store Float} {failure : Failure} (filled : store.hasData = true)
    (merges : Merges files store previousOutput (.ok whole))
    (analysed : brief.analyse whole = .error failure) :
    Results files brief previousOutput (.ok store) (.error failure)
  | finished {store whole : Store Float} {snapshot : Snapshot Float}
    (filled : store.hasData = true) (merges : Merges files store previousOutput (.ok whole))
    (analysed : brief.analyse whole = .ok snapshot) :
    Results files brief previousOutput (.ok store) (.ok (some snapshot))

section Results

variable {options : LocalOptions} {files : Files} {brief : Brief} {store : Store Float}

theorem mergePrevious_of_merges {whole : Except Failure (Store Float)}
    (merges : Merges files store options.previousOutput whole) :
    options.mergePrevious files store = whole := by
  rw [LocalOptions.mergePrevious]
  generalize options.previousOutput = previousOutput at merges
  cases merges with
  | alone => rfl
  | refused refused => simp only [Store.mergeFile, refused]
  | merged read => simp only [Store.mergeFile, read]

theorem merges_mergePrevious (options : LocalOptions) (files : Files) (store : Store Float) :
    Merges files store options.previousOutput (options.mergePrevious files store) := by
  rw [LocalOptions.mergePrevious]
  cases options.previousOutput with
  | none => exact .alone
  | some path =>
    cases read : files.read path >>= Snapshot.load with
    | error error =>
      simp only [Store.mergeFile, read]
      exact .refused read
    | ok previous =>
      simp only [Store.mergeFile, read]
      exact .merged read

@[simp] theorem result?_of_empty (empty : store.hasData = false) :
    options.result? files brief store = .ok none := by
  rw [LocalOptions.result?, empty]
  rfl

theorem result?_of_merges {whole : Except Failure (Store Float)} (filled : store.hasData = true)
    (merges : Merges files store options.previousOutput whole) :
    options.result? files brief store =
      whole >>= fun whole => (brief.analyse whole).map some := by
  rw [LocalOptions.result?, filled, mergePrevious_of_merges merges]
  rfl

/-- A command that works on files computes what comes of its events. -/
theorem results_iff {gathered : Except Failure (Store Float)}
    {result : Except Failure (Option (Snapshot Float))} :
    Results files brief options.previousOutput gathered result ↔
      result = gathered >>= options.result? files brief := by
  constructor
  · intro results
    cases results with
    | unloaded => rfl
    | nothing empty => exact (result?_of_empty empty).symm
    | unmerged filled merges => exact (result?_of_merges filled merges).symm
    | unanalysed filled merges analysed =>
      have computed := congrArg (Except.map some) analysed
      exact ((result?_of_merges filled merges).trans computed).symm
    | finished filled merges analysed =>
      have computed := congrArg (Except.map some) analysed
      exact ((result?_of_merges filled merges).trans computed).symm
  · intro same
    rw [same]
    cases gathered with
    | error failure => exact .unloaded failure
    | ok store =>
      show Results _ _ _ _ (options.result? files brief store)
      cases filled : store.hasData with
      | false =>
        rw [result?_of_empty filled]
        exact .nothing filled
      | true =>
        have merges := merges_mergePrevious options files store
        cases merged : options.mergePrevious files store with
        | error failure =>
          rw [merged] at merges
          rw [result?_of_merges filled merges]
          exact .unmerged filled merges
        | ok whole =>
          rw [merged] at merges
          rw [result?_of_merges filled merges]
          show Results _ _ _ _ ((brief.analyse whole).map some)
          cases analysed : brief.analyse whole with
          | error failure => exact .unanalysed filled merges analysed
          | ok snapshot => exact .finished filled merges analysed

/-- Nothing comes of events just if there are none. -/
theorem results_none_iff {previousOutput : Option String}
    {gathered : Except Failure (Store Float)} :
    Results files brief previousOutput gathered (.ok none) ↔
      ∃ store, gathered = .ok store ∧ store.hasData = false := by
  constructor
  · intro results
    cases results with
    | nothing empty => exact ⟨_, rfl, empty⟩
  · intro vacant
    obtain ⟨store, rfl, empty⟩ := vacant
    exact .nothing empty

end Results

/-- How a command leaves a disk, after what has come of its events. -/
def Disk.settle (disk : Disk) (path : String) :
    Except Failure (Option (Snapshot Float)) → Except Failure Outcome × Disk
  | .error failure => (.error failure, disk)
  | .ok none => (.ok .noData, disk)
  | .ok (some snapshot) => (.ok .done, disk.put path snapshot.save)

namespace Disk

variable {disk : Disk} {path : String} {outcome : Except Failure (Option (Snapshot Float))}

@[simp] theorem settle_done_iff :
    (disk.settle path outcome).1 = .ok .done ↔ ∃ snapshot, .ok (some snapshot) = outcome := by
  rcases outcome with failure | _ | snapshot <;> simp [settle]

@[simp]
theorem settle_noData_iff : (disk.settle path outcome).1 = .ok .noData ↔ .ok none = outcome := by
  rcases outcome with failure | _ | snapshot <;> simp [settle]

@[simp] theorem settle_failed_iff {failure : Failure} :
    (disk.settle path outcome).1 = .error failure ↔ .error failure = outcome := by
  rcases outcome with failure | _ | snapshot <;> simp [settle, eq_comm]

/-- A disk stays the same just if a command is not done. -/
@[simp] theorem settle_untouched_iff :
    (disk.settle path outcome).2 = disk ↔ (disk.settle path outcome).1 ≠ .ok .done := by
  rcases outcome with failure | _ | snapshot <;> simp [settle, put_ne]

theorem settle_elsewhere {other : String} (elsewhere : disk.place other ≠ disk.place path) :
    (disk.settle path outcome).2.files.text other = disk.files.text other := by
  rcases outcome with failure | _ | snapshot
  · rfl
  · rfl
  · exact text_put_of_ne elsewhere _

end Disk

namespace Surroundings

variable {around : Surroundings (StateM Disk)} {disk : Disk} {path : String}

theorem run_finishLocal {options : LocalOptions} (output : options.output = some path)
    (writable : disk.Writable path) (files : Files) (brief : Brief) (store : Store Float) :
    (around.onDisk.finishLocal files brief options store).run.run disk =
      disk.settle path (options.result? files brief store) := by
  rw [finishLocal, run_bind_liftM]
  cases options.result? files brief store with
  | error failure => rfl
  | ok result =>
    cases result with
    | none => rfl
    | some snapshot =>
      have delivered := @run_deliver around disk path writable snapshot
      dsimp only
      rw [output, ExceptT.run_bind, StateT.run_bind, delivered]
      rfl

/-- A command that works on files settles what comes of its events, and does nothing else. -/
theorem run_execute {settings : Settings Float} {arguments : Arguments} {brief : Brief}
    {options : LocalOptions} {gathered : Except Failure (Store Float)}
    (prepared : Brief.prepare disk.files settings.analysis arguments.overrides = .ok brief)
    (loads : arguments.command.Loads disk.files options gathered)
    (output : options.output = some path) (writable : disk.Writable path) :
    (around.onDisk.execute disk.files settings arguments).run.run disk =
      disk.settle path (gathered >>= options.result? disk.files brief) := by
  rcases arguments with ⟨overrides, command⟩
  rw [execute, run_bind_liftM, prepared]
  cases loads with
  | file options =>
    dsimp only
    rw [run_bind_liftM]
    cases options.load disk.files with
    | error failure => rfl
    | ok store => exact run_finishLocal output writable disk.files brief store
  | search =>
    dsimp only
    rw [run_bind_liftM]
    cases options.loadSearch disk.files with
    | error failure => rfl
    | ok store => exact run_finishLocal output writable disk.files brief store

end Surroundings

/-- How a command that works on files ends and what it leaves behind, with what loading its reports
comes to. -/
structure LocalProtocol (disk : Disk) (command : Command) (options : LocalOptions) (brief : Brief)
    (gathered : Except Failure (Store Float)) (path : String) (result : Except Failure Outcome)
    (after : Disk) : Prop where
  /-- A command is done just if there is a result. -/
  done : result = .ok .done ↔
    ∃ snapshot, Results disk.files brief options.previousOutput gathered (.ok (some snapshot))
  /-- A result is written once and as a whole. -/
  written : ∀ snapshot,
    Results disk.files brief options.previousOutput gathered (.ok (some snapshot)) →
      after.files.text path = .ok snapshot.save ∧ after.log = disk.log ++ [(path, snapshot.save)]
  /-- Nothing is written but the result. -/
  elsewhere : ∀ other, disk.place other ≠ disk.place path →
    after.files.text other = disk.files.text other
  /-- Nothing at all is written just if a command is not done. -/
  untouched : after = disk ↔ result ≠ .ok .done
  /-- There is no data just if the reports can be read and none lands in a window. -/
  noData : result = .ok .noData ↔ command.Blank disk.files
  /-- That depends neither on the previous output nor on what other files hold. -/
  independent : ∀ (files : Files) (previous : Option String),
    (∀ source ∈ command.sources, files.text source = disk.files.text source) →
      (result = .ok .noData ↔ (command.recalling previous).Blank files)
  /-- A command fails just if its reports cannot be loaded, or if the previous output cannot be
  merged or the analysis fails. -/
  failed : ∀ failure, result = .error failure ↔
    Results disk.files brief options.previousOutput gathered (.error failure)

theorem Disk.localProtocol_settle {disk : Disk} {command : Command} {options : LocalOptions}
    {gathered : Except Failure (Store Float)} (loads : command.Loads disk.files options gathered)
    (brief : Brief) (path : String) :
    LocalProtocol disk command options brief gathered path
      (disk.settle path (gathered >>= options.result? disk.files brief)).1
      (disk.settle path (gathered >>= options.result? disk.files brief)).2 := by
  have blank : .ok none = (gathered >>= options.result? disk.files brief) ↔
      command.Blank disk.files :=
    results_iff.symm.trans (results_none_iff.trans loads.blank_iff)
  constructor
  case done =>
    rw [settle_done_iff]
    simp only [results_iff]
  case written =>
    intro snapshot results
    rw [← results_iff.1 results]
    exact ⟨text_put disk path snapshot.save, rfl⟩
  case elsewhere => exact fun other => settle_elsewhere
  case untouched => exact settle_untouched_iff
  case noData => exact settle_noData_iff.trans blank
  case independent =>
    intro files previous same
    exact (settle_noData_iff.trans blank).trans (loads.blank_recalling_iff same previous).symm
  case failed => exact fun failure => settle_failed_iff.trans results_iff.symm

/-- Whatever files hold, a command that works on them writes its result as a whole or nothing. -/
theorem Surroundings.execute_local (around : Surroundings (StateM Disk)) (settings : Settings Float)
    {disk : Disk} {arguments : Arguments} {brief : Brief} {options : LocalOptions}
    {gathered : Except Failure (Store Float)} {path : String}
    (prepared : Brief.prepare disk.files settings.analysis arguments.overrides = .ok brief)
    (loads : arguments.command.Loads disk.files options gathered)
    (output : options.output = some path) (writable : disk.Writable path) :
    ∃ result after,
      (around.onDisk.execute disk.files settings arguments).run.run disk = (result, after) ∧
        LocalProtocol disk arguments.command options brief gathered path result after :=
  ⟨_, _, run_execute prepared loads output writable, Disk.localProtocol_settle loads brief path⟩

/-! ## A disk with a search -/

/-- A report in the first minute and one in the second that is no event. -/
def foundReports : List Json := [
  .obj [("_raw", .str "disk full"), ("cluster_label", .int 1)],
  .obj [("_raw", .int 7), ("cluster_label", .int 1)]]

/-- A disk that holds the result of a search and nothing else. -/
def foundDisk : Disk where
  place path := if path = "found.json" then 0 else if path = "result.json" then 1 else 2
  contents place :=
    if place = 0 then .ok (Json.arr foundReports).render
    else .error FileRefusal.missing.message
  refusal? _ := none

/-- The surroundings of a disk, without a network. -/
def diskSurroundings : Surroundings (StateM Disk) where
  network := {
    send := fun _ => pure (.error "there is no network")
    wait := fun _ => pure () }
  write := Disk.write
  print := fun _ => pure ()

/-- A search for the reports of a minute. -/
def foundOptions (minute : Int) (previous : Option String) : LocalOptions :=
  ⟨"found.json", ⟨9, 9⟩, ⟨minute, minute⟩, previous, some "result.json"⟩

def foundBrief : Brief :=
  ⟨(Settings.ofEnvironment []).analysis, {}, none⟩

theorem readAll_foundDisk : Report.readAll foundDisk.files "found.json" = .ok foundReports :=
  Report.readAll_render foundReports (by decide) (by decide) rfl

/-- The first minute has a result, although there are no events to compare it with. -/
theorem results_foundDisk : ∃ snapshot, Results foundDisk.files foundBrief none
    ((foundOptions 1 none).loadSearch foundDisk.files) (.ok (some snapshot)) := by
  rw [LocalOptions.loadSearch, Store.loadSearch, Store.loadSelected]
  have read := readAll_foundDisk
  simp only [foundOptions, read]
  exact ⟨_, .finished rfl .alone rfl⟩

/-- With an event a result is written. Without one nothing is written, and it does not matter that
the previous output is missing. -/
theorem Surroundings.execute_local_found :
    (∃ after text, (diskSurroundings.onDisk.execute foundDisk.files (.ofEnvironment [])
        ⟨{}, .search (foundOptions 1 none)⟩).run.run foundDisk = (.ok .done, after) ∧
      after.log = [("result.json", text)] ∧ after.files.text "result.json" = .ok text) ∧
    (diskSurroundings.onDisk.execute foundDisk.files (.ofEnvironment [])
      ⟨{}, .search (foundOptions 3 (some "old.json"))⟩).run.run foundDisk =
        (.ok .noData, foundDisk) := by
  have prepared : Brief.prepare foundDisk.files (Settings.ofEnvironment []).analysis {} =
      .ok foundBrief := rfl
  have writable : foundDisk.Writable "result.json" := rfl
  constructor
  case left =>
    obtain ⟨snapshot, results⟩ := results_foundDisk
    have loads : Command.Loads foundDisk.files (.search (foundOptions 1 none)) _ _ := .search _
    obtain ⟨result, after, ran, protocol⟩ :=
      @execute_local diskSurroundings _ _ ⟨{}, _⟩ _ _ _ _ prepared loads rfl writable
    obtain ⟨text, logged⟩ := protocol.written snapshot results
    rw [protocol.done.2 ⟨snapshot, results⟩] at ran
    exact ⟨after, snapshot.save, ran, logged, text⟩
  case right =>
    have loads : Command.Loads foundDisk.files (.search (foundOptions 3 (some "old.json"))) _ _ :=
      .search _
    obtain ⟨result, after, ran, protocol⟩ :=
      @execute_local diskSurroundings _ _ ⟨{}, _⟩ _ _ _ _ prepared loads rfl writable
    have blank : Command.Blank foundDisk.files (.search (foundOptions 3 (some "old.json"))) :=
      .search ⟨foundReports, readAll_foundDisk, fun side => by cases side <;> rfl⟩
    have ended := protocol.noData.2 blank
    have same := protocol.untouched.2 (by rw [ended]; decide)
    rw [ended, same] at ran
    exact ran

end LogDrift
