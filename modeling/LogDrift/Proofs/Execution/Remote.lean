import LogDrift.Execution.Remote
import LogDrift.Proofs.Execution.Conversation
import LogDrift.Proofs.Store.Loader

/-!
# What a command asks the event service

A command that works on the event service makes its calls in a fixed order and leaves out those for
which it was given no address. Each call is made only after what came before has succeeded, and the
result is delivered last, if there is one.
-/

namespace LogDrift

open Remote (Call Conversation Message Service)

/-! ## What is made of an answer -/

theorem Store.hasData_addFetched {side : Side} {reports : List Json} {store store' : Store Float}
    (filled : store.addFetched side reports = .ok store') :
    store'.hasData = (store.hasData || !reports.isEmpty) := by
  rw [Store.addFetched] at filled
  cases added : store.addReports (reports.map fun report => (⟨side, .search⟩, report)) with
  | mk whole outcome =>
    rw [added] at filled
    cases outcome with
    | error refusal => cases filled
    | ok count =>
      cases filled
      rw [Store.hasData_addReports added, List.isEmpty_map]

namespace Remote.Call

/-- The reports that an answer holds. -/
def events (call : Call) : Except Failure (List Json) :=
  match call.answer with
  | .error fault => .error (.eventsNotFetched call.url fault)
  | .ok response =>
    match response.reports with
    | .error _ => .error .eventsInvalid
    | .ok reports => .ok reports

/-- What the previous run delivered, according to an answer. -/
def previous (call : Call) : Except Failure (Option (Snapshot Float)) :=
  match call.answer with
  | .error fault => .error (.previousNotFetched call.url fault)
  | .ok response =>
    match response.snapshot with
    | .error _ => .error .previousInvalid
    | .ok snapshot => .ok snapshot

/-- Whether a result has been accepted. -/
def delivered (call : Call) : Except Failure Unit :=
  match call.answer with
  | .error fault => .error (.resultsNotDelivered call.url fault)
  | .ok _ => .ok ()

/-- Adds the events of one side that an answer holds. -/
def filling (call : Call) (side : Side) (store : Store Float) : Except Failure (Store Float) :=
  call.events >>= store.addFetched side

/-- Appends the events of the previous run, if an answer holds some. -/
def recalling (call : Call) (store : Store Float) : Except Failure (Store Float) :=
  call.previous >>= fun
    | none => .ok store
    | some snapshot => .ok (store.mergeSnapshot snapshot).1

theorem filling_of_error {call : Call} {failure : Failure} (failed : call.events = .error failure)
    (side : Side) (store : Store Float) : call.filling side store = .error failure := by
  rw [filling, failed]
  rfl

theorem filling_of_ok {call : Call} {reports : List Json} (fetched : call.events = .ok reports)
    (side : Side) (store : Store Float) :
    call.filling side store = store.addFetched side reports := by
  rw [filling, fetched]
  rfl

/-- Whatever is filled in comes from the reports of the call. -/
theorem hasData_filling {call : Call} {side : Side} {store store' : Store Float}
    (filled : call.filling side store = .ok store') :
    store'.hasData = false ↔ store.hasData = false ∧ call.events = .ok [] := by
  cases fetched : call.events with
  | error failure =>
    rw [filling_of_error fetched] at filled
    cases filled
  | ok reports =>
    rw [filling_of_ok fetched] at filled
    simp [Store.hasData_addFetched filled]

/-- The call delivers a result. -/
def Delivers (call : Call) : Prop :=
  ∃ snapshot, call.message = .results snapshot

/-- The call posts a snapshot as a document. -/
structure Posts (call : Call) (snapshot : Snapshot Float) : Prop where
  message : call.message = .results snapshot
  method : call.message.method = .post
  payload : call.message.payload = .document snapshot.toJson

theorem posts_of_asks {call : Call} {url : String} {snapshot : Snapshot Float}
    (asked : call.Asks url (.results snapshot)) : call.Posts snapshot := by
  constructor
  · exact asked.2
  · rw [asked.2]
    rfl
  · rw [asked.2]
    rfl

end Remote.Call

/-! ## The calls of a command -/

/-- Calls that fetch the events of both windows, with what comes of it. -/
inductive Gathers (options : RemoteOptions) (query : Option String) :
    List Call → Except Failure (Store Float) → Prop
  | refused {call : Call} {failure : Failure}
      (asked : call.Asks options.controlInputUrl
        (.events options.collection options.controlHosts query))
      (refused : call.filling .control .empty = .error failure) :
      Gathers options query [call] (.error failure)
  | control {call : Call} {store : Store Float} (alone : options.testInputUrl = none)
      (asked : call.Asks options.controlInputUrl
        (.events options.collection options.controlHosts query))
      (filled : call.filling .control .empty = .ok store) :
      Gathers options query [call] (.ok store)
  | both {control test : Call} {url : String} {store : Store Float}
      (given : options.testInputUrl = some url)
      (asked : control.Asks options.controlInputUrl
        (.events options.collection options.controlHosts query))
      (filled : control.filling .control .empty = .ok store)
      (tested : test.Asks url (.events options.collection options.testHosts query)) :
      Gathers options query [control, test] (test.filling .test store)

/-- Calls that append what the previous run delivered, with what comes of it. -/
inductive Recalls (options : RemoteOptions) (query : Option String) (store : Store Float) :
    List Call → Except Failure (Store Float) → Prop
  | unasked (missing : options.previousStateUrl = none) :
      Recalls options query store [] (.ok store)
  | asked {call : Call} {url : String} (given : options.previousStateUrl = some url)
      (asked : call.Asks url (.previous options.collection query)) :
      Recalls options query store [call] (call.recalling store)

/-- The calls of a command after it has gathered events, with its result. -/
inductive Concludes (brief : Brief) (options : RemoteOptions) (store : Store Float) :
    List Call → Except Failure Outcome → Prop
  | unrecalled {calls : List Call} {failure : Failure}
      (recalls : Recalls options brief.query store calls (.error failure)) :
      Concludes brief options store calls (.error failure)
  | unanalysed {calls : List Call} {whole : Store Float} {failure : Failure}
      (recalls : Recalls options brief.query store calls (.ok whole))
      (analysed : brief.analyse whole = .error failure) :
      Concludes brief options store calls (.error failure)
  | delivered {calls : List Call} {call : Call} {whole : Store Float} {snapshot : Snapshot Float}
      (recalls : Recalls options brief.query store calls (.ok whole))
      (analysed : brief.analyse whole = .ok snapshot)
      (asked : call.Asks options.saveUrl (.results snapshot)) :
      Concludes brief options store (calls ++ [call]) (call.delivered.map fun _ => .done)

/-- All calls of a command, with its result. -/
inductive Proceeds (brief : Brief) (options : RemoteOptions) :
    List Call → Except Failure Outcome → Prop
  | ungathered {calls : List Call} {failure : Failure}
      (gathers : Gathers options brief.query calls (.error failure)) :
      Proceeds brief options calls (.error failure)
  | noData {calls : List Call} {store : Store Float}
      (gathers : Gathers options brief.query calls (.ok store)) (empty : store.hasData = false) :
      Proceeds brief options calls (.ok .noData)
  | concluded {calls more : List Call} {store : Store Float} {result : Except Failure Outcome}
      (gathers : Gathers options brief.query calls (.ok store)) (filled : store.hasData = true)
      (concludes : Concludes brief options store more result) :
      Proceeds brief options (calls ++ more) result

section Calls

variable {brief : Brief} {options : RemoteOptions} {query : Option String}
  {calls more : List Call} {store : Store Float} {result : Except Failure Outcome}

theorem Gathers.not_delivers {gathered : Except Failure (Store Float)}
    (gathers : Gathers options query calls gathered) : ∀ call ∈ calls, ¬ call.Delivers := by
  cases gathers <;> simp_all [Call.Asks, Call.Delivers]

/-- How many calls it takes to gather both windows. -/
theorem Gathers.length_eq (gathers : Gathers options query calls (.ok store)) :
    calls.length = options.testInputUrl.toList.length + 1 := by
  generalize equal : Except.ok store = gathered at gathers
  cases gathers with
  | refused => cases equal
  | control alone => rw [alone]; rfl
  | both given => rw [given]; rfl

/-- What comes of gathering is settled by the answers. -/
theorem Gathers.unique {gathered gathered' : Except Failure (Store Float)}
    (gathers : Gathers options query calls gathered)
    (again : Gathers options query calls gathered') : gathered = gathered' := by
  cases gathers <;> cases again <;> simp_all

/-- When both windows are gathered, no more calls gather anything. -/
theorem Gathers.final {gathered : Except Failure (Store Float)}
    (gathers : Gathers options query calls (.ok store))
    (longer : Gathers options query (calls ++ more) gathered) : more = [] := by
  generalize equal : Except.ok store = gathered' at gathers
  generalize all : calls ++ more = calls' at longer
  cases gathers with
  | refused => cases equal
  | control => cases longer <;> simp_all
  | both => cases longer <;> simp_all

theorem Gathers.hasData (gathers : Gathers options query calls (.ok store)) :
    store.hasData = false ↔ ∀ call ∈ calls, call.events = .ok [] := by
  have nothing : (Store.empty : Store Float).hasData = false := rfl
  generalize equal : Except.ok store = gathered at gathers
  cases gathers with
  | refused => cases equal
  | control _ _ filled =>
    cases equal
    simp [Call.hasData_filling filled, nothing]
  | both _ _ filled =>
    simp [Call.hasData_filling equal.symm, Call.hasData_filling filled, nothing]

theorem Recalls.length_eq {recalled : Except Failure (Store Float)}
    (recalls : Recalls options query store calls recalled) :
    calls.length = options.previousStateUrl.toList.length := by
  cases recalls with
  | unasked missing => rw [missing]; rfl
  | asked given => rw [given]; rfl

theorem Recalls.unique {recalled recalled' : Except Failure (Store Float)}
    (recalls : Recalls options query store calls recalled)
    (again : Recalls options query store calls recalled') : recalled = recalled' := by
  cases recalls <;> cases again <;> rfl

theorem Recalls.not_delivers {recalled : Except Failure (Store Float)}
    (recalls : Recalls options query store calls recalled) : ∀ call ∈ calls, ¬ call.Delivers := by
  cases recalls <;> simp_all [Call.Asks, Call.Delivers]

/-- A conclusion contains the call for what the previous run delivered. -/
theorem Concludes.length_le (concludes : Concludes brief options store calls result) :
    options.previousStateUrl.toList.length ≤ calls.length := by
  cases concludes with
  | unrecalled recalls => exact Nat.le_of_eq recalls.length_eq.symm
  | unanalysed recalls => exact Nat.le_of_eq recalls.length_eq.symm
  | delivered recalls => simp [← recalls.length_eq]

/-- A command that has gathered events does not end without data. -/
theorem Concludes.ne_noData (concludes : Concludes brief options store calls result) :
    result ≠ .ok .noData := by
  cases concludes with
  | unrecalled => simp
  | unanalysed => simp
  | @delivered _ call =>
    cases call.delivered <;> simp [Except.map]

theorem Proceeds.gathers (proceeds : Proceeds brief options calls result) :
    ∃ first rest gathered, calls = first ++ rest ∧ Gathers options brief.query first gathered := by
  cases proceeds with
  | ungathered gathers => exact ⟨calls, [], _, by simp, gathers⟩
  | noData gathers => exact ⟨calls, [], _, by simp, gathers⟩
  | concluded gathers => exact ⟨_, _, _, rfl, gathers⟩

/-- Once events are gathered, a command goes on to its conclusion. -/
theorem Proceeds.concludes (proceeds : Proceeds brief options (calls ++ more) result)
    (gathers : Gathers options brief.query calls (.ok store)) (filled : store.hasData = true) :
    Concludes brief options store more result := by
  generalize all : calls ++ more = calls' at proceeds
  cases proceeds with
  | ungathered failed =>
    subst all
    obtain rfl := gathers.final failed
    rw [List.append_nil] at failed
    cases gathers.unique failed
  | noData gathers' empty =>
    subst all
    obtain rfl := gathers.final gathers'
    rw [List.append_nil] at gathers'
    cases gathers.unique gathers'
    simp [filled] at empty
  | concluded gathers' _ concludes =>
    -- Gathering takes a fixed number of calls, so both ways of splitting them agree.
    obtain ⟨rfl, rfl⟩ := List.append_inj all (gathers.length_eq.trans gathers'.length_eq.symm)
    cases gathers.unique gathers'
    exact concludes

/-- Once it is clear that there are no events, a command ends. -/
theorem Proceeds.of_empty (proceeds : Proceeds brief options calls result)
    (gathers : Gathers options brief.query calls (.ok store)) (empty : store.hasData = false) :
    result = .ok .noData := by
  cases proceeds with
  | ungathered failed => cases gathers.unique failed
  | noData => rfl
  | concluded gathers' filled =>
    obtain rfl := gathers'.final gathers
    rw [List.append_nil] at gathers
    cases gathers.unique gathers'
    simp [filled] at empty

theorem Proceeds.noData_iff (proceeds : Proceeds brief options calls result) :
    result = .ok .noData ↔ ∃ store, Gathers options brief.query calls (.ok store) ∧
      ∀ call ∈ calls, call.events = .ok [] := by
  constructor
  · rintro rfl
    generalize equal : Except.ok Outcome.noData = ended at proceeds
    cases proceeds with
    | ungathered => cases equal
    | noData gathers empty => exact ⟨_, gathers, gathers.hasData.1 empty⟩
    | concluded _ _ concludes => exact (concludes.ne_noData equal.symm).elim
  · rintro ⟨store, gathers, nothing⟩
    exact proceeds.of_empty gathers (gathers.hasData.2 nothing)

end Calls

/-! ## How a command makes its calls -/

namespace Surroundings

/-- The same surroundings, with a service whose answers are settled beforehand. -/
def withService (around : Surroundings (StateM Service)) : Surroundings (StateM Service) :=
  { around with network := Service.network }

variable {settings : TransportSettings} {around : Surroundings (StateM Service)}

theorem converses_fetchReports (url : String) (message : Message) :
    Converses settings (around.withService.fetchReports settings url message)
      (OneCall url message Call.events) := by
  apply Converses.exchange
  rintro ⟨url, message, retries, answer⟩ service rfl
  cases answer with
  | error fault => rfl
  | ok response =>
    cases decoded : response.reports <;> simp only [Call.events, decoded] <;> rfl

theorem converses_fetchPrevious (url : String) (message : Message) :
    Converses settings (around.withService.fetchPrevious settings url message)
      (OneCall url message Call.previous) := by
  apply Converses.exchange
  rintro ⟨url, message, retries, answer⟩ service rfl
  cases answer with
  | error fault => rfl
  | ok response =>
    cases decoded : response.snapshot <;> simp only [Call.previous, decoded] <;> rfl

theorem converses_post (url : String) (snapshot : Snapshot Float) :
    Converses settings (around.withService.post settings url snapshot)
      (OneCall url (.results snapshot) Call.delivered) := by
  apply Converses.exchange
  rintro ⟨url, message, retries, answer⟩ service rfl
  cases answer <;> rfl

/-- Gathering makes one call for each window. -/
theorem converses_gather (options : RemoteOptions) (query : Option String) :
    Converses settings (around.withService.gather settings options query)
      (Gathers options query) := by
  refine (converses_fetchReports _ _).bind ?_ ?_
  · rintro _ failure ⟨call, asked, rfl, failed⟩
    exact .refused asked (Call.filling_of_error failed.symm _ _)
  · rintro _ reports ⟨call, asked, rfl, fetched⟩
    have filling := call.filling_of_ok fetched.symm .control .empty
    -- An answer may hold a report that is refused.
    cases filled : Store.empty.addFetched .control reports with
    | error failure => exact .silent (fun _ => rfl) (.refused asked (filling.trans filled))
    | ok store =>
      have filled := filling.trans filled
      cases given : options.testInputUrl with
      | none => exact .silent (fun _ => rfl) (.control given asked filled)
      | some url =>
        refine ((converses_fetchReports _ _).reading fun _ _ => rfl).imp ?_
        rintro _ _ ⟨test, tested, rfl, rfl⟩
        exact .both given asked filled tested

/-- Appending what the previous run delivered makes one call, if there is an address for it. -/
theorem converses_appendPrevious (options : RemoteOptions) (query : Option String)
    (store : Store Float) :
    Converses settings (around.withService.appendPrevious settings options query store)
      (Recalls options query store) := by
  rw [appendPrevious]
  cases given : options.previousStateUrl with
  | none => exact .silent (fun _ => rfl) (.unasked given)
  | some url =>
    refine Converses.imp (?appends : Converses settings _
      (OneCall url (.previous options.collection query) fun call => call.recalling store)) ?fits
    case appends =>
      exact (converses_fetchPrevious _ _).reading fun found _ => by cases found <;> rfl
    case fits =>
      rintro _ _ ⟨call, asked, rfl, rfl⟩
      exact .asked given asked

/-- A command makes its calls one after the other, as long as they succeed. -/
theorem converses_executeRemote (brief : Brief) (options : RemoteOptions) :
    Converses (options.transport settings)
      (around.withService.executeRemote settings brief options) (Proceeds brief options) := by
  refine (converses_gather options brief.query).bind (fun _ _ => .ungathered) ?_
  intro calls store gathers
  cases filled : store.hasData with
  | false => exact .silent (fun _ => rfl) (calls.append_nil.symm ▸ .noData gathers filled)
  | true =>
    refine Converses.imp (?concludes : Converses _ _ (Concludes brief options store))
      fun _ _ => .concluded gathers filled
    refine (converses_appendPrevious options brief.query store).bind (fun _ _ => .unrecalled) ?_
    intro calls whole recalls
    cases analysed : brief.analyse whole with
    | error failure =>
      exact .silent (fun _ => rfl) (calls.append_nil.symm ▸ .unanalysed recalls analysed)
    | ok snapshot =>
      refine ((converses_post options.saveUrl snapshot).reading fun _ _ => rfl).imp ?_
      rintro _ _ ⟨call, asked, rfl, rfl⟩
      exact .delivered recalls analysed asked

end Surroundings

/-! ## What a command may ask, and when -/

/-- What is asked next, after some calls. -/
inductive Due (brief : Brief) (options : RemoteOptions) : List Call → String → Message → Prop
  | control : Due brief options [] options.controlInputUrl
      (.events options.collection options.controlHosts brief.query)
  | test {control : Call} {store : Store Float} {url : String}
      (filled : control.filling .control .empty = .ok store)
      (given : options.testInputUrl = some url) :
      Due brief options [control] url (.events options.collection options.testHosts brief.query)
  | previous {calls : List Call} {store : Store Float} {url : String}
      (gathers : Gathers options brief.query calls (.ok store)) (filled : store.hasData = true)
      (given : options.previousStateUrl = some url) :
      Due brief options calls url (.previous options.collection brief.query)
  | results {calls more : List Call} {store whole : Store Float} {snapshot : Snapshot Float}
      (gathers : Gathers options brief.query calls (.ok store)) (filled : store.hasData = true)
      (recalls : Recalls options brief.query store more (.ok whole))
      (analysed : brief.analyse whole = .ok snapshot) :
      Due brief options (calls ++ more) options.saveUrl (.results snapshot)

/-- Calls each of which is due after those before it. -/
inductive Orderly (brief : Brief) (options : RemoteOptions) : List Call → Prop
  | nil : Orderly brief options []
  | snoc {calls : List Call} {call : Call} {url : String} {message : Message}
      (orderly : Orderly brief options calls) (due : Due brief options calls url message)
      (asked : call.Asks url message) : Orderly brief options (calls ++ [call])

/-- How the calls of a command and its result agree on what is delivered. -/
inductive Delivery : List Call → Except Failure Outcome → Prop
  /-- One call delivers something, which it posts as a document. It comes last, and a command ends as
  it does. -/
  | made {calls : List Call} {call : Call} {snapshot : Snapshot Float}
      (others : ∀ other ∈ calls, ¬ other.Delivers) (posts : call.Posts snapshot) :
      Delivery (calls ++ [call]) (call.delivered.map fun _ => .done)
  /-- No call delivers anything, so that a command is not done. -/
  | missing {calls : List Call} {result : Except Failure Outcome}
      (others : ∀ other ∈ calls, ¬ other.Delivers) (undone : result ≠ .ok .done) :
      Delivery calls result

/-- The protocol of a command that works on the event service. -/
structure Protocol (brief : Brief) (options : RemoteOptions) (calls : List Call)
    (result : Except Failure Outcome) : Prop where
  /-- Each call is made when it is due. -/
  orderly : Orderly brief options calls
  /-- At the end, no call is due. -/
  complete : ∀ url message, ¬ Due brief options calls url message
  /-- There is no data just if each window is asked for and holds no event, and that is all that is
  asked. -/
  noData : result = .ok .noData ↔ ∃ store, Gathers options brief.query calls (.ok store) ∧
    ∀ call ∈ calls, call.events = .ok []
  /-- What is delivered is delivered once, at the end. -/
  delivery : Delivery calls result

section Protocol

variable {brief : Brief} {options : RemoteOptions} {calls more : List Call}
  {store : Store Float} {result : Except Failure Outcome}

theorem Gathers.orderly {gathered : Except Failure (Store Float)}
    (gathers : Gathers options brief.query calls gathered) : Orderly brief options calls := by
  cases gathers with
  | refused asked _ => exact .snoc .nil .control asked
  | control _ asked _ => exact .snoc .nil .control asked
  | both given asked filled tested =>
    exact .snoc (.snoc .nil .control asked) (.test filled given) tested

theorem Recalls.orderly {recalled : Except Failure (Store Float)}
    (recalls : Recalls options brief.query store more recalled)
    (gathers : Gathers options brief.query calls (.ok store)) (filled : store.hasData = true) :
    Orderly brief options (calls ++ more) := by
  cases recalls with
  | unasked =>
    rw [List.append_nil]
    exact gathers.orderly
  | asked given asked => exact .snoc gathers.orderly (.previous gathers filled given) asked

theorem Concludes.orderly (concludes : Concludes brief options store more result)
    (gathers : Gathers options brief.query calls (.ok store)) (filled : store.hasData = true) :
    Orderly brief options (calls ++ more) := by
  cases concludes with
  | unrecalled recalls => exact recalls.orderly gathers filled
  | unanalysed recalls => exact recalls.orderly gathers filled
  | delivered recalls analysed asked =>
    rw [← List.append_assoc]
    exact .snoc (recalls.orderly gathers filled) (.results gathers filled recalls analysed) asked

theorem Proceeds.orderly (proceeds : Proceeds brief options calls result) :
    Orderly brief options calls := by
  cases proceeds with
  | ungathered gathers => exact gathers.orderly
  | noData gathers => exact gathers.orderly
  | concluded gathers filled concludes => exact concludes.orderly gathers filled

theorem Proceeds.complete (proceeds : Proceeds brief options calls result) (url : String)
    (message : Message) : ¬ Due brief options calls url message := by
  intro due
  cases due with
  | control =>
    obtain ⟨first, rest, gathered, nothing, gathers⟩ := proceeds.gathers
    cases gathers <;> simp at nothing
  | test filled given =>
    obtain ⟨first, rest, gathered, single, gathers⟩ := proceeds.gathers
    cases gathers <;> simp_all
  | previous gathers filled given =>
    -- The conclusion would make this call, but no call is left for it.
    have concludes := Proceeds.concludes (calls.append_nil ▸ proceeds) gathers filled
    simpa [given] using concludes.length_le
  | results gathers filled recalls analysed =>
    cases proceeds.concludes gathers filled with
    | unrecalled failed => cases recalls.unique failed
    | unanalysed recalls' failed =>
      cases recalls.unique recalls'
      simp [analysed] at failed
    | delivered recalls' =>
      have longer := recalls.length_eq.trans recalls'.length_eq.symm
      simp at longer

theorem Delivery.append (delivery : Delivery more result)
    (others : ∀ other ∈ calls, ¬ other.Delivers) : Delivery (calls ++ more) result := by
  cases delivery with
  | made others' posts =>
    rw [← List.append_assoc]
    exact .made (List.forall_mem_append.2 ⟨others, others'⟩) posts
  | missing others' undone => exact .missing (List.forall_mem_append.2 ⟨others, others'⟩) undone

theorem Concludes.delivery (concludes : Concludes brief options store calls result) :
    Delivery calls result := by
  cases concludes with
  | unrecalled recalls => exact .missing recalls.not_delivers nofun
  | unanalysed recalls => exact .missing recalls.not_delivers nofun
  | delivered recalls _ asked => exact .made recalls.not_delivers (Call.posts_of_asks asked)

theorem Proceeds.delivery (proceeds : Proceeds brief options calls result) :
    Delivery calls result := by
  cases proceeds with
  | ungathered gathers => exact .missing gathers.not_delivers nofun
  | noData gathers => exact .missing gathers.not_delivers nofun
  | concluded gathers _ concludes => exact concludes.delivery.append gathers.not_delivers

end Protocol

/-- Whatever the service answers, a command follows the protocol, and over the network it does
nothing but make its calls. -/
theorem Surroundings.executeRemote_protocol (around : Surroundings (StateM Service))
    (settings : TransportSettings) (brief : Brief) (options : RemoteOptions) (service : Service) :
    ∃ calls result after,
      (around.withService.executeRemote settings brief options).run.run service =
        (result, after) ∧
      Conversation (options.transport settings) service calls after ∧
      after.log = service.log ++ calls.flatMap (Call.trail (options.transport settings)) ∧
      Protocol brief options calls result := by
  obtain ⟨calls, result, after, ran, conversation, proceeds⟩ :=
    @converses_executeRemote settings around brief options service
  exact ⟨calls, result, after, ran, conversation, conversation.log_eq, proceeds.orderly,
    proceeds.complete, proceeds.noData_iff, proceeds.delivery⟩

end LogDrift
