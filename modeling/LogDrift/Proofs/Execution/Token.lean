import Mathlib
import LogDrift.Execution.Command
import LogDrift.Proofs.CommandLine.Reading
import LogDrift.Proofs.Execution.Remote

/-!
# The token of a command

Settings take the token of the profile before the general one. The general variable, however, also
stands in for the parameter, and what is given as a parameter comes before the settings. So the token
of a profile is sent only where the general variable is missing or holds the same.
-/

namespace LogDrift

open Remote (Action Call Conversation Service)

/-- The token that an environment holds for the profile that it names. -/
def Environment.token (environment : Environment) : Option String :=
  environment.profiled? (profileName ((environment.lookup Settings.profileVariable).getD ""))
    "AUTH_TOKEN"

@[simp] theorem Settings.authToken_ofEnvironment (environment : Environment) :
    (Settings.ofEnvironment environment).transport.authToken = environment.token := by
  rw [Settings.ofEnvironment, Settings.forProfile, TransportSettings.ofEnvironment,
    Environment.token]

/-! ## The token among the arguments -/

namespace CommandLine

/-- Whether words give no token. -/
def Tokenless (words : List String) : Prop :=
  ∀ word ∈ words, ∀ value, Word.ofText word ≠ .named "auth-token" value

/-- No parameter but that for the token gives one. -/
theorem keeps_tokenless : ∀ parameter ∈ (secondLevel RemoteDraft.parameters).parameters,
    parameter.name ≠ "auth-token" → parameter.Keeps fun given => given.2.authToken = none := by
  intro parameter listed other
  rcases List.mem_append.1 listed with listed | listed
  · obtain ⟨first, _, rfl⟩ := List.mem_map.1 listed
    exact Parameter.keeps_onFirst (fun draft : RemoteDraft => draft.authToken = none) first
  · obtain ⟨second, known, rfl⟩ := List.mem_map.1 listed
    refine Parameter.keeps_onSecond (fun draft : RemoteDraft => draft.authToken = none) ?_
    simp only [RemoteDraft.parameters, List.mem_cons, List.not_mem_nil, or_false] at known
    rcases known with rfl | rfl | rfl | rfl | rfl | rfl | rfl | rfl | rfl | rfl | rfl | rfl <;>
    first
    | exact absurd rfl other
    | exact Parameter.keeps_single fun _ _ kept => kept
    | exact Parameter.keeps_list fun _ _ kept => kept

/-- Words that give no token leave none in the draft. -/
theorem authToken_readAll {words : List String} (tokenless : Tokenless words)
    {given : Overrides × RemoteDraft}
    (read : (secondLevel RemoteDraft.parameters).readAll ({}, {}) words = .ok given) :
    given.2.authToken = none := by
  refine Level.holds_readAll (fun given => given.2.authToken = none) ?_ ?_ read
  · intro word listed name value form parameter known named
    refine keeps_tokenless parameter known fun same => ?_
    exact tokenless word listed value (by rw [form, ← named, same])
  · rfl

theorem authToken_options {draft : RemoteDraft} {options : RemoteOptions}
    (made : draft.options = .ok options) : options.authToken = draft.authToken := by
  rw [RemoteDraft.options] at made
  iterate 8 obtain ⟨_, _, made⟩ := exists_of_bind_eq_ok made
  cases made
  rfl

theorem answerHelp_ne_ok {α : Type} {words : List String} {value : α} :
    answerHelp words ≠ .ok value := by
  unfold answerHelp
  split <;> exact nofun

/-- The words after the name of a subcommand give the options of a command with a service, if that is
the subcommand. -/
theorem authToken_readCommand {environment : Environment} {name : String} {words : List String}
    {arguments : Arguments} {options : RemoteOptions} (tokenless : Tokenless words)
    (read : readCommand environment name words = .ok arguments)
    (command : arguments.command = .remote options) :
    options.authToken = environment.lookup "AUTH_TOKEN" := by
  unfold readCommand at read
  split at read
  · obtain ⟨⟨given, draft⟩, drafted, made⟩ := exists_of_bind_eq_ok read
    obtain ⟨_, complete, made⟩ := exists_of_bind_eq_ok made
    cases made
    cases command
    have bare : draft.authToken = none := authToken_readAll tokenless drafted
    rw [authToken_options complete, RemoteDraft.complete, bare, Option.none_or]
  · obtain ⟨_, _, made⟩ := exists_of_bind_eq_ok read
    obtain ⟨_, _, made⟩ := exists_of_bind_eq_ok made
    cases made
    cases command
  · obtain ⟨_, _, made⟩ := exists_of_bind_eq_ok read
    obtain ⟨_, _, made⟩ := exists_of_bind_eq_ok made
    cases made
    cases command
  · cases read

/-- Without a token among the words, the general variable stands in for it. -/
theorem authToken_ofWords {environment : Environment} {words : List String}
    {arguments : Arguments} {options : RemoteOptions} (tokenless : Tokenless words)
    (read : Arguments.ofWords environment words = .ok arguments)
    (command : arguments.command = .remote options) :
    options.authToken = environment.lookup "AUTH_TOKEN" := by
  obtain ⟨⟨reading, found⟩, first, made⟩ := exists_of_bind_eq_ok read
  cases found with
  | none =>
    obtain ⟨_, _, refused⟩ := exists_of_bind_eq_ok made
    cases refused
  | some found =>
    obtain ⟨name, rest⟩ := found
    have within := Level.subset_of_read first
    by_cases help : name = "help"
    · simp only [help, if_true] at made
      exact (answerHelp_ne_ok made).elim
    · simp only [help, if_false] at made
      obtain ⟨before, second, made⟩ := exists_of_bind_eq_ok made
      obtain ⟨_, _, made⟩ := exists_of_bind_eq_ok made
      cases made
      exact authToken_readCommand (fun word listed => tokenless word (within listed)) second command

end CommandLine

/-! ## The token of requests -/

namespace Remote

/-- All attempts of a call send one request. -/
theorem eq_of_sent_mem_trail {initial : Nat} {request other : Request} {made retries : Nat}
    (listed : Action.sent other ∈ trail initial request made retries) : other = request := by
  have either : other = request ∨ (∃ place, made ≤ place ∧ place < made + retries) ∧
      other = request := by
    simpa [trail] using listed
  exact either.elim id And.right

/-- Every request of a conversation carries the token of the settings. -/
theorem authorization_of_sent {settings : TransportSettings} {calls : List Call} {request : Request}
    (listed : Action.sent request ∈ calls.flatMap (Call.trail settings)) :
    request.authorization = settings.authToken := by
  obtain ⟨call, _, listed⟩ := List.mem_flatMap.1 listed
  rw [eq_of_sent_mem_trail listed, Message.authorization_request]

end Remote

/-- A command that proceeds makes a call. -/
theorem Proceeds.ne_nil {brief : Brief} {options : RemoteOptions} {calls : List Call}
    {result : Except Failure Outcome} (proceeds : Proceeds brief options calls result) :
    calls ≠ [] := by
  obtain ⟨first, rest, gathered, rfl, gathers⟩ := proceeds.gathers
  cases gathers <;> simp

namespace Surroundings

variable (around : Surroundings (StateM Service)) (files : Files)

/-- A command that works on the service sends requests just if it can be prepared. All of them carry
the token of its options, or else that of the settings. -/
theorem execute_sends (settings : Settings Float) {arguments : Arguments}
    {options : RemoteOptions} (command : arguments.command = .remote options) (service : Service) :
    ∃ result after actions,
      (around.withService.execute files settings arguments).run.run service = (result, after) ∧
      after.log = service.log ++ actions ∧
      (∀ request, .sent request ∈ actions →
        request.authorization = options.authToken.or settings.transport.authToken) ∧
      ((∃ request, .sent request ∈ actions) ↔
        ∃ brief, Brief.prepare files settings.analysis arguments.overrides = .ok brief) := by
  cases prepared : Brief.prepare files settings.analysis arguments.overrides with
  | error failure =>
    refine ⟨.error failure, service, [], ?_, (List.append_nil _).symm, nofun, by simp⟩
    rw [execute, prepared]
    rfl
  | ok brief =>
    obtain ⟨calls, result, after, ran, conversation, proceeds⟩ :=
      @converses_executeRemote settings.transport around brief options service
    refine ⟨result, after, _, ?_, conversation.log_eq, fun _ => Remote.authorization_of_sent, ?_⟩
    · rw [← ran, execute, prepared]
      simp only [command]
      rfl
    · obtain ⟨call, listed⟩ := List.exists_mem_of_ne_nil _ proceeds.ne_nil
      exact iff_of_true ⟨_, List.mem_flatMap.2 ⟨call, listed, .head _⟩⟩ ⟨brief, rfl⟩

/-- Where the words of a command line give no token, every request carries the general one, or else
that of the profile. So all of them carry the token of the profile just if the general variable is
missing or does not hold another one. -/
theorem execute_authorizes {environment : Environment} {words : List String}
    {arguments : Arguments} {options : RemoteOptions} (tokenless : CommandLine.Tokenless words)
    (read : Arguments.ofWords environment words = .ok arguments)
    (command : arguments.command = .remote options) (service : Service) :
    ∃ result after actions,
      (around.withService.execute files (.ofEnvironment environment) arguments).run.run service =
        (result, after) ∧
      after.log = service.log ++ actions ∧
      (∀ request, .sent request ∈ actions →
        request.authorization = (environment.lookup "AUTH_TOKEN").or environment.token) ∧
      ((∀ request, .sent request ∈ actions → request.authorization = environment.token) ↔
        (∀ request, .sent request ∉ actions) ∨
          ∀ token, environment.lookup "AUTH_TOKEN" = some token →
            environment.token = some token) := by
  obtain ⟨result, after, actions, ran, logged, authorized, _⟩ :=
    execute_sends around files (.ofEnvironment environment) command service
  rw [CommandLine.authToken_ofWords tokenless read command,
    Settings.authToken_ofEnvironment] at authorized
  refine ⟨result, after, actions, ran, logged, authorized, ?_, ?_⟩
  · intro profiled
    refine or_iff_not_imp_left.2 fun asks token given => ?_
    obtain ⟨request, sent⟩ := not_forall_not.1 asks
    rw [← profiled request sent, authorized request sent, given, Option.some_or]
  · rintro (silent | agrees) request sent
    · exact (silent request sent).elim
    · rw [authorized request sent]
      cases given : environment.lookup "AUTH_TOKEN" with
      | none => exact Option.none_or
      | some token => rw [Option.some_or, agrees token given]

/-! ### A token that is passed over -/

/-- Variables with a general token and another one for the profile. -/
def shadowedVariables : Environment :=
  [("AUTH_TOKEN", "plain"), ("LOGDIFF_PROFILE", "x"), ("X_AUTH_TOKEN", "xtok")]

/-- The words of a command that gives no token. -/
def collectWords : List String :=
  ["remote", "--control-input-url", "http://c", "--save-url", "http://s", "--application-id", "app",
    "--workflow-id", "wf", "--state-execution-id", "se", "--service-id", "svc",
    "--log-collection-minute", "3", "--control-nodes", "h1"]

/-- What the words give. -/
def collectDraft : CommandLine.RemoteDraft :=
  { controlInputUrl := some "http://c", saveUrl := some "http://s", applicationId := some "app"
    workflowId := some "wf", stateExecutionId := some "se", serviceId := some "svc"
    minute := some 3, controlHosts := ["h1"] }

/-- What the words and the variables come to. -/
def collectOptions : RemoteOptions where
  controlInputUrl := "http://c"
  testInputUrl := none
  previousStateUrl := none
  saveUrl := "http://s"
  authToken := some "plain"
  applicationId := "app"
  workflowId := "wf"
  stateExecutionId := "se"
  serviceId := "svc"
  minute := 3
  controlHosts := ["h1"]
  testHosts := []

theorem tokenless_collectWords : CommandLine.Tokenless collectWords := by
  simp [CommandLine.Tokenless, collectWords, CommandLine.Word.ofText, CommandLine.Word.ofName]

theorem readCommand_collectWords :
    CommandLine.readCommand shadowedVariables "remote" collectWords.tail =
      .ok ⟨{}, .remote collectOptions⟩ := by
  have drafted : (CommandLine.secondLevel CommandLine.RemoteDraft.parameters).readAll ({}, {})
      collectWords.tail = .ok ({}, collectDraft) := by
    have hosts : [] ++ "h1".splitOn "," = ["h1"] := by cbv
    rw [collectDraft, ← hosts]
    rfl
  rw [CommandLine.readCommand, drafted]
  rfl

theorem ofWords_collectWords : Arguments.ofWords shadowedVariables collectWords =
    .ok ⟨{}, .remote collectOptions⟩ := by
  have first : CommandLine.firstLevel.read { given := {} } collectWords =
      .ok ({ given := {} }, some ("remote", collectWords.tail)) := rfl
  rw [Arguments.ofWords, first]
  show (do
    let arguments ← CommandLine.readCommand shadowedVariables "remote" collectWords.tail
    return { arguments with overrides := arguments.overrides.orElse {} }) = _
  rw [readCommand_collectWords]
  rfl

theorem token_shadowedVariables : shadowedVariables.token = some "xtok" := by decide +kernel

/-- Surroundings in which nothing is written or printed. -/
def stillSurroundings : Surroundings (StateM Service) where
  network := Service.network
  write _ _ := pure (.ok ())
  print _ := pure ()

/-- The general token is sent although the profile has one of its own. -/
theorem execute_authorizes_collectWords :
    CommandLine.Tokenless collectWords ∧
    Arguments.ofWords shadowedVariables collectWords = .ok ⟨{}, .remote collectOptions⟩ ∧
    ∃ result after actions,
      (stillSurroundings.withService.execute (.ofList []) (.ofEnvironment shadowedVariables)
        ⟨{}, .remote collectOptions⟩).run.run ⟨fun _ => .error "timed out", []⟩ = (result, after) ∧
      after.log = actions ∧
      ∀ request, .sent request ∈ actions → request.authorization = some "plain" := by
  obtain ⟨result, after, actions, ran, logged, authorized, _⟩ := execute_authorizes
    stillSurroundings (.ofList []) tokenless_collectWords ofWords_collectWords rfl
    ⟨fun _ => .error "timed out", []⟩
  exact ⟨tokenless_collectWords, ofWords_collectWords, result, after, actions, ran, logged,
    authorized⟩

/-- Requests do not always carry the token of the profile. -/
theorem execute_passes_over_profile :
    ¬ ∀ (environment : Environment) (words : List String) (arguments : Arguments)
      (options : RemoteOptions), CommandLine.Tokenless words →
      Arguments.ofWords environment words = .ok arguments → arguments.command = .remote options →
      ∀ (around : Surroundings (StateM Service)) (files : Files)
        (answers : Nat → Except String Remote.Response) (request : Remote.Request),
        .sent request ∈ ((around.withService.execute files (.ofEnvironment environment)
          arguments).run.run ⟨answers, []⟩).2.log → request.authorization = environment.token := by
  intro profiled
  have command : (⟨{}, .remote collectOptions⟩ : Arguments).command = .remote collectOptions := rfl
  obtain ⟨result, after, actions, ran, logged, authorized, sends⟩ :=
    execute_sends stillSurroundings (.ofList []) (.ofEnvironment shadowedVariables) command
      ⟨fun _ => .error "timed out", []⟩
  obtain ⟨request, sent⟩ := sends.2 ⟨_, rfl⟩
  have token := profiled _ _ _ _ tokenless_collectWords ofWords_collectWords command
    stillSurroundings (.ofList []) (fun _ => .error "timed out") request
  rw [ran, logged] at token
  have carried := (authorized request sent).symm.trans (token sent)
  rw [Settings.authToken_ofEnvironment, token_shadowedVariables] at carried
  exact absurd carried (by decide)

end Surroundings

end LogDrift
