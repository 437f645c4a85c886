import LogDrift.Proofs.Matching.Separation

/-!
# Relabelling up to a gap

Relabelling needs an answer to every label: the cluster of a control label, the outcome of a test
label. It fails when some label has none, and names the first of these in store order. The events of
the labels before this gap are then left as every call leaves them that has the same answers for
them and succeeds. The events of the gap and of all later labels stay as they are, and what the
events say never changes.
-/

namespace LogDrift.Matching

variable {S Model Answers Answer σ : Type}

/-! ## What failing comes to -/

/-- A way to relabel events by answers to their labels. -/
abbrev Relabelling (S Answers σ : Type) := Answers → EventMap S → Except Error σ × EventMap S

/-- What becomes of the events of some labels in every call that has the same answers for them. -/
structure Settled (relabel : Relabelling S Answers σ) (answer? : Answers → Label → Option Answer)
    (answers : Answers) (before relabelled : List (Label × List (Event S))) : Prop where
  /-- A call with these labels alone succeeds. -/
  alone : ∃ early result done, early.entries = before ∧
    relabel answers early = (.ok result, done) ∧ done.entries = relabelled
  /-- Where these labels come first, they are treated alike, whatever comes after them. -/
  always : ∀ answers', (∀ entry ∈ before, answer? answers' entry.1 = answer? answers entry.1) →
    ∀ (whole : EventMap S) rest, whole.entries = before ++ rest →
      ∃ rest', (relabel answers' whole).2.entries = relabelled ++ rest'

/-- How relabelling fails: before the first label without an answer everything is done, and from
that label on nothing. -/
structure Confined (relabel : Relabelling S Answers σ) (answer? : Answers → Label → Option Answer)
    (refusal : Label → Error) (answers : Answers) (events : EventMap S) : Prop where
  fails_iff : (∃ reason, (relabel answers events).1 = .error reason) ↔
    ∃ label ∈ events.keys, answer? answers label = none
  /-- Labels, their order, texts and occurrences are kept, also where the call fails. -/
  contents : (relabel answers events).2.contents = events.contents
  gap : ∀ reason, (relabel answers events).1 = .error reason →
    ∃ before label group after relabelled, events.entries = before ++ (label, group) :: after ∧
      (∀ entry ∈ before, (answer? answers entry.1).isSome) ∧
      answer? answers label = none ∧ reason = refusal label ∧
      (relabel answers events).2.entries = relabelled ++ (label, group) :: after ∧
      Settled relabel answer? answers before relabelled

/-! ## From one label to all of them -/

/-- What holds of relabelling the events of one label. The states of two calls are linked when they
make the same of the events that follow. -/
structure Answered (step : Answers → σ → Label → List (Event S) → Except Error (σ × List (Event S)))
    (answer? : Answers → Label → Option Answer) (refusal : Label → Error) (linked : σ → σ → Prop) :
    Prop where
  refuses : ∀ {answers label}, answer? answers label = none →
    ∀ state group, step answers state label group = .error (refusal label)
  accepts : ∀ {answers label answer}, answer? answers label = some answer →
    ∀ state group, ∃ image, step answers state label group = .ok image
  contents : ∀ {answers state label group next group'},
    step answers state label group = .ok (next, group') →
      group'.map Event.content = group.map Event.content
  follows : ∀ {answers answers' state state' label group next group'}, linked state state' →
    answer? answers' label = answer? answers label →
    step answers state label group = .ok (next, group') →
      ∃ next', step answers' state' label group = .ok (next', group') ∧ linked next next'

namespace Answered

variable {step : Answers → σ → Label → List (Event S) → Except Error (σ × List (Event S))}
  {answer? : Answers → Label → Option Answer} {refusal : Label → Error} {linked : σ → σ → Prop}

/-- Labels whose events are relabelled have an answer. -/
theorem isSome_of_ok (laws : Answered step answer? refusal linked) {answers : Answers} {state : σ}
    {label : Label} {group : List (Event S)} {image : σ × List (Event S)}
    (stepped : step answers state label group = .ok image) : (answer? answers label).isSome := by
  cases found : answer? answers label with
  | some answer => rfl
  | none =>
    rw [laws.refuses found] at stepped
    cases stepped

/-- A label whose events are refused has no answer, and the refusal names it. -/
theorem unanswered_of_error (laws : Answered step answer? refusal linked) {answers : Answers}
    {state : σ} {label : Label} {group : List (Event S)} {reason : Error}
    (refused : step answers state label group = .error reason) :
    answer? answers label = none ∧ reason = refusal label := by
  cases found : answer? answers label with
  | some answer =>
    obtain ⟨image, stepped⟩ := laws.accepts found state group
    simp [stepped] at refused
  | none =>
    rw [laws.refuses found] at refused
    exact ⟨rfl, (Except.error.inj refused).symm⟩

/-- A sweep that goes through has an answer to every label, and keeps what the events say. -/
theorem of_swept (laws : Answered step answer? refusal linked) {answers : Answers} {start final : σ}
    {events events' : EventMap S}
    (swept : events.sweep (step answers) start = (final, none, events')) :
    (∀ entry ∈ events.entries, (answer? answers entry.1).isSome) ∧
      events'.contents = events.contents := by
  refine OrderedMap.sweep_induction (fun _ before after =>
    (∀ entry ∈ before, (answer? answers entry.1).isSome) ∧
      after.map (fun entry => (entry.1, entry.2.map Event.content)) =
        before.map fun entry => (entry.1, entry.2.map Event.content)) ?_ ?_ swept
  · exact ⟨List.forall_mem_nil _, rfl⟩
  · intro state before after label group next group' kept stepped
    constructor
    case left =>
      rw [List.forall_mem_append, List.forall_mem_singleton]
      exact ⟨kept.1, laws.isSome_of_ok stepped⟩
    case right =>
      simp [kept.2, laws.contents stepped]

/-- The events that a sweep has gone through are settled. -/
theorem settled (laws : Answered step answer? refusal linked) {start : σ}
    (same : linked start start) {answers : Answers} {final : σ} {early : EventMap S}
    {images : List (Label × List (Event S))}
    (swept : OrderedMap.sweepEntries (step answers) start early.entries = ((final, none), images)) :
    Settled (fun answers events => ofSweep (events.sweep (step answers) start)) answer? answers
      early.entries images := by
  constructor
  case alone =>
    obtain ⟨done, entries, accepted⟩ := OrderedMap.exists_sweep swept
    exact ⟨early, final, done, rfl, by rw [accepted]; rfl, entries⟩
  case always =>
    intro answers' agree whole rest split
    have follows : ∀ state state', linked state state' → ∀ entry entry' : Label × List (Event S),
        (entry = entry' ∧ entry ∈ early.entries) → ∀ next image,
        step answers state entry.1 entry.2 = .ok (next, image) →
        ∃ next' image', step answers' state' entry'.1 entry'.2 = .ok (next', image') ∧
          linked next next' ∧ (entry.1, image) = (entry'.1, image') := by
      rintro state state' link entry _ ⟨rfl, member⟩ next image stepped
      obtain ⟨next', stepped', joined⟩ := laws.follows link (agree entry member) stepped
      exact ⟨next', image, stepped', joined, rfl⟩
    obtain ⟨final', _, swept', _, alike⟩ := OrderedMap.sweepEntries_followed follows
      (List.forall₂_same.2 fun _ member => ⟨rfl, member⟩) same swept
    rw [List.forall₂_eq_eq_eq] at alike
    subst alike
    refine ⟨(OrderedMap.sweepEntries (step answers') final' rest).2, ?_⟩
    rw [snd_ofSweep]
    show (OrderedMap.sweepEntries (step answers') start whole.entries).2 = _
    rw [split, OrderedMap.sweepEntries_append swept']

/-- A sweep that goes through does not fail. -/
theorem confined_of_swept (laws : Answered step answer? refusal linked) {answers : Answers}
    {start final : σ} {events events' : EventMap S}
    (swept : events.sweep (step answers) start = (final, none, events')) :
    Confined (fun answers events => ofSweep (events.sweep (step answers) start)) answer? refusal
      answers events := by
  obtain ⟨answered, contents⟩ := laws.of_swept swept
  have relabelled : ofSweep (events.sweep (step answers) start) = (.ok final, events') := by
    rw [swept]
    rfl
  constructor
  case fails_iff =>
    simp only [relabelled, reduceCtorEq, exists_false, false_iff, not_exists, not_and]
    intro label member absent
    obtain ⟨entry, present, rfl⟩ := List.mem_map.1 member
    simpa [absent] using answered entry present
  case contents => simp only [relabelled, contents]
  case gap =>
    intro reason failed
    simp [relabelled] at failed

/-- A sweep that refuses a label fails there. -/
theorem confined_of_refused (laws : Answered step answer? refusal linked) {start : σ}
    (same : linked start start) {answers : Answers} {events early events' : EventMap S}
    {label : Label} {group : List (Event S)} {after images : List (Label × List (Event S))}
    {final : σ} {reason : Error} (split : events.entries = early.entries ++ (label, group) :: after)
    (swept : OrderedMap.sweepEntries (step answers) start early.entries = ((final, none), images))
    (refused : step answers final label group = .error reason)
    (failed : events.sweep (step answers) start = (final, some reason, events'))
    (entries : events'.entries = images ++ (label, group) :: after) :
    Confined (fun answers events => ofSweep (events.sweep (step answers) start)) answer? refusal
      answers events := by
  obtain ⟨unanswered, named⟩ := laws.unanswered_of_error refused
  obtain ⟨done, doneEntries, accepted⟩ := OrderedMap.exists_sweep swept
  obtain ⟨answered, kept⟩ := laws.of_swept accepted
  have relabelled : ofSweep (events.sweep (step answers) start) = (.error reason, events') := by
    rw [failed]
    rfl
  constructor
  case fails_iff =>
    simp only [relabelled, Except.error.injEq, exists_eq', true_iff]
    exact ⟨label, by simp [OrderedMap.keys, split], unanswered⟩
  case contents =>
    simp only [EventMap.contents, doneEntries] at kept
    simp [relabelled, EventMap.contents, entries, split, kept]
  case gap =>
    intro reason' failed'
    simp only [relabelled, Except.error.injEq] at failed'
    subst failed'
    refine ⟨early.entries, label, group, after, images, split, answered, unanswered, named, ?_,
      laws.settled same swept⟩
    simp only [relabelled, entries]

/-- Where the laws hold, failing is confined. -/
theorem confined (laws : Answered step answer? refusal linked) {start : σ}
    (same : linked start start) (answers : Answers) (events : EventMap S) :
    Confined (fun answers events => ofSweep (events.sweep (step answers) start)) answer? refusal
      answers events := by
  rcases OrderedMap.sweep_cases (step answers) start events with
    ⟨final, events', swept⟩ |
    ⟨early, label, group, after, final, images, reason, events', split, swept, refused, failed,
      entries⟩
  · exact laws.confined_of_swept swept
  · exact laws.confined_of_refused same split swept refused failed entries

end Answered

/-! ## Both sides -/

/-- The cluster of a control label is the answer to it. -/
theorem answered_controlStep (tagLimit : Nat) :
    Answered (fun clustering : Clustering Model => controlStep (S := S) clustering tagLimit)
      Clustering.clusterOf? unassigned fun _ _ => True where
  refuses found state group := by rw [controlStep, found]
  accepts found state group := by
    rw [controlStep, found]
    exact ⟨_, rfl⟩
  contents {clustering state label group next group'} stepped := by
    obtain ⟨cluster, _, _, rfl⟩ := controlStep_cases stepped
    simp [Event.content]
  follows {clustering clustering' state state' label group next group'} _ agree stepped := by
    obtain ⟨cluster, found, _, rfl⟩ := controlStep_cases stepped
    rw [controlStep, agree, found]
    exact ⟨_, rfl, trivial⟩

/-- The outcome of a test label is the answer to it. The states of two calls are linked when they
go on with the same label. -/
theorem answered_testStep [Zero S] (clustering : Clustering Model) (tagLimit : Nat) :
    Answered (fun outcomes : SortedMap Label (MatchOutcome S) =>
        testStep outcomes clustering tagLimit)
      SortedMap.get? noOutcome fun state state' => state.next = state'.next where
  refuses found state group := by rw [testStep, found]
  accepts {outcomes label outcome} found state group := by
    rw [testStep, found]
    cases isMatched : matched? outcome with
    | none => exact ⟨_, by simp only [isMatched]; rfl⟩
    | some cluster => exact ⟨_, by simp only [isMatched]; rfl⟩
  contents {outcomes state label group next group'} stepped := by
    obtain ⟨outcome, _, ⟨cluster, _, _, rfl⟩ | ⟨_, _, rfl⟩⟩ := testStep_cases stepped
    · simp
    · exact content_labelledFrom outcome state.next group
  follows {outcomes outcomes' state state' label group next group'} linked agree stepped := by
    obtain ⟨outcome, found, ⟨cluster, isMatched, rfl, rfl⟩ | ⟨isUnmatched, rfl, rfl⟩⟩ :=
      testStep_cases stepped
    · simp only [testStep, agree, found, isMatched]
      exact ⟨_, rfl, linked⟩
    · simp only [testStep, agree, found, isUnmatched, linked]
      exact ⟨_, rfl, rfl⟩

/-- A gap among the answers confines what relabelling does to the labels before it. -/
theorem relabelling_confined [Zero S] (tagLimit : Nat) :
    (∀ (clustering : Clustering Model) (events : EventMap S),
      Confined (fun clustering => relabelControl clustering tagLimit) Clustering.clusterOf?
        unassigned clustering events) ∧
    ∀ (clustering : Clustering Model) outcomes (events : EventMap S),
      Confined (fun outcomes => relabelTest outcomes clustering tagLimit) SortedMap.get? noOutcome
        outcomes events := by
  constructor
  · intro clustering events
    have swept : (fun clustering : Clustering Model => relabelControl (S := S) clustering tagLimit) =
        fun clustering events => ofSweep (events.sweep (controlStep clustering tagLimit) .empty) := by
      funext clustering events
      exact relabelControl_eq_ofSweep clustering tagLimit events
    rw [swept]
    exact (answered_controlStep tagLimit).confined trivial clustering events
  · intro clustering outcomes events
    have swept : (fun outcomes => relabelTest (S := S) outcomes clustering tagLimit) =
        fun outcomes events => ofSweep (events.sweep (testStep outcomes clustering tagLimit) {}) := by
      funext outcomes events
      exact relabelTest_eq_ofSweep outcomes clustering tagLimit events
    rw [swept]
    exact (answered_testStep clustering tagLimit).confined rfl outcomes events

/-- Outcomes of a key that is matched and of one that is not. The keys after these have none. -/
def partialOutcomes : SortedMap Label (MatchOutcome Float) :=
  .ofList [(1, ⟨true, some 0, 0.9, 0.8⟩), (2, ⟨false, some 0, 0.9, 0.1⟩)]

theorem relabelling_confined_mixed :
    Confined (fun outcomes => relabelTest outcomes (⟨.empty, .empty, ()⟩ : Clustering Unit) 5)
        SortedMap.get? noOutcome partialOutcomes mixedEvents ∧
      (relabelTest partialOutcomes (⟨.empty, .empty, ()⟩ : Clustering Unit) 5 mixedEvents).1 =
        .error (noOutcome 3) ∧
      (relabelTest partialOutcomes (⟨.empty, .empty, ()⟩ : Clustering Unit) 5 mixedEvents).2.all.map
        Event.label = [0, 1000000, 1000001, 3, 4] :=
  ⟨(relabelling_confined 5).2 _ partialOutcomes mixedEvents, rfl, rfl⟩

end LogDrift.Matching
