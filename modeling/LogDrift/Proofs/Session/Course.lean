import LogDrift.Session

/-!
# The course of a run

A run is a chain of stages with questions to the clusterer between them. The relation `Yields` takes
such a chain apart, and `Course` collects what every stage of a completed run made of the session.
Statements about runs are read off the course and never open the run itself.
-/

namespace LogDrift.Session

variable {S Model W α β : Type}

/-! ## Progress -/

/-- Some progress of a run leads from one state to another and yields an answer. -/
def Yields (progress : Analysis S W α) (before : Session S × W) (answer : α)
    (after : Session S × W) : Prop :=
  progress.run.run before = (.ok answer, after)

theorem yields_unique {progress : Analysis S W α} {before left right : Session S × W}
    {first second : α} (one : Yields progress before first left)
    (other : Yields progress before second right) : (first, left) = (second, right) := by
  have equal := one.symm.trans other
  cases equal
  rfl

/-- A chain runs its first part and goes on with the answer, unless there is a refusal. -/
theorem run_bind (progress : Consulted W α) (next : α → Consulted W β) (before : W) :
    (progress >>= next).run.run before =
      match (progress.run.run before : Except Error α × W) with
      | (.ok answer, after) => (next answer).run.run after
      | (.error refusal, after) => (.error refusal, after) := by
  simp only [bind, ExceptT.bind, ExceptT.mk, StateT.bind, ExceptT.bindCont, ExceptT.run, StateT.run]
  cases (progress before : Except Error α × W) with
  | mk result after => cases result <;> rfl

/-- A refusal that is caught is handled in the state that it left. -/
theorem run_tryCatch (progress : Consulted W α) (handle : Error → Consulted W α) (before : W) :
    (tryCatch progress handle).run.run before =
      match (progress.run.run before : Except Error α × W) with
      | (.ok answer, after) => (.ok answer, after)
      | (.error refusal, after) => (handle refusal).run.run after := by
  simp only [tryCatch, tryCatchThe, MonadExceptOf.tryCatch, ExceptT.tryCatch, ExceptT.mk, bind,
    StateT.bind, ExceptT.run, StateT.run]
  cases (progress before : Except Error α × W) with
  | mk result after => cases result <;> rfl

theorem yields_bind {progress : Analysis S W α} {next : α → Analysis S W β}
    {before after : Session S × W} {answer : β} :
    Yields (progress >>= next) before answer after ↔
      ∃ given middle, Yields progress before given middle ∧
        Yields (next given) middle answer after := by
  unfold Yields
  rw [run_bind]
  cases found : (progress.run.run before : Except Error α × (Session S × W)) with
  | mk result middle =>
    cases result with
    | ok given =>
      constructor
      · intro later
        exact ⟨given, middle, rfl, later⟩
      · intro found
        rcases found with ⟨given', middle', equal, later⟩
        cases equal
        exact later
    | error refusal =>
      constructor
      · intro impossible
        cases impossible
      · intro found
        rcases found with ⟨given', middle', equal, _⟩
        cases equal

@[simp] theorem yields_pure {given answer : α} {before after : Session S × W} :
    Yields (pure given) before answer after ↔ answer = given ∧ after = before := by
  constructor
  · intro equal
    cases equal
    exact ⟨rfl, rfl⟩
  · intro both
    rcases both with ⟨rfl, rfl⟩
    rfl

@[simp] theorem yields_ask {question : Session S → StateM W α} {before after : Session S × W}
    {answer : α} :
    Yields (ask question) before answer after ↔
      (question before.1).run before.2 = (answer, after.2) ∧ after.1 = before.1 := by
  rcases before with ⟨session, world⟩
  rcases after with ⟨session', world'⟩
  constructor
  · intro equal
    cases equal
    exact ⟨rfl, rfl⟩
  · intro both
    rcases both with ⟨equal, same⟩
    simp only at equal same
    subst same
    have asked : (ask question).run.run (session', world) =
        ((fun answered : α × W => (Except.ok answered.1, (session', answered.2)))
          ((question session').run world) : Except Error α × (Session S × W)) := rfl
    rw [Yields, asked, equal]

@[simp] theorem yields_view {part : Session S → α} {before after : Session S × W} {answer : α} :
    Yields (view part) before answer after ↔ answer = part before.1 ∧ after = before := by
  rcases before with ⟨session, world⟩
  rcases after with ⟨session', world'⟩
  constructor
  · intro equal
    cases equal
    exact ⟨rfl, rfl⟩
  · intro both
    rcases both with ⟨rfl, equal⟩
    cases equal
    rfl

@[simp] theorem yields_demand {question : Session S → Consulted W α}
    {before after : Session S × W} {answer : α} :
    Yields (demand question) before answer after ↔
      (question before.1).run.run before.2 = (.ok answer, after.2) ∧ after.1 = before.1 := by
  unfold demand
  rw [yields_bind]
  constructor
  · intro found
    rcases found with ⟨result, middle, asked, rest⟩
    rw [yields_ask] at asked
    cases result with
    | ok given =>
      rcases yields_pure.1 rest with ⟨rfl, rfl⟩
      exact asked
    | error refusal => cases rest
  · intro both
    rcases both with ⟨asked, same⟩
    exact ⟨.ok answer, after, yields_ask.2 ⟨asked, same⟩, yields_pure.2 ⟨rfl, rfl⟩⟩

@[simp] theorem yields_advance {stage : Session S → Except Error Unit × Session S}
    {before after : Session S × W} {answer : Unit} :
    Yields (advance stage) before answer after ↔
      stage before.1 = (.ok (), after.1) ∧ after.2 = before.2 := by
  have staged : (advance stage).run.run before =
      (((stage before.1).1, ((stage before.1).2, before.2)) : Except Error Unit × (Session S × W)) :=
    rfl
  rw [Yields, staged]
  constructor
  · intro equal
    rcases Prod.mk.inj equal with ⟨result, same⟩
    exact ⟨Prod.ext result (congrArg Prod.fst same), (congrArg Prod.snd same).symm⟩
  · intro taken
    rcases taken with ⟨result, same⟩
    rw [result, ← same]

@[simp] theorem yields_improve {stage : Session S → Session S} {before after : Session S × W}
    {answer : Unit} :
    Yields (improve stage) before answer after ↔ after = (stage before.1, before.2) := by
  unfold improve
  rw [yields_advance]
  constructor
  · intro both
    rcases both with ⟨equal, same⟩
    exact Prod.ext (Prod.mk.inj equal).2.symm same
  · intro same
    subst same
    exact ⟨rfl, rfl⟩

/-- Whether progress ends with a completed run. -/
def completes (progress : Analysis S W (RunStatus S)) (before : Session S × W) : Bool :=
  match (progress.run.run before : Except Error (RunStatus S) × (Session S × W)) with
  | (.ok (.completed ..), _) => true
  | _ => false

theorem yields_of_completes {progress : Analysis S W (RunStatus S)} {before : Session S × W}
    (done : completes progress before = true) :
    ∃ score unknown anomalies after,
      Yields progress before (.completed score unknown anomalies) after := by
  rw [completes] at done
  split at done
  · next score unknown anomalies after found => exact ⟨score, unknown, anomalies, after, found⟩
  · contradiction

variable [Scalar S]

/-- Unknown events are grouped by the clusterer's answer, if there are any. -/
theorem yields_clusterUnknown {clusterer : Clusterer S Model W} {before after : Session S × W}
    {answer : Unit} :
    Yields (clusterUnknown clusterer) before answer after ↔
      (before.1.unknownEvents = [] ∧ after = before) ∨
      (before.1.unknownEvents ≠ [] ∧ ∃ assignments,
        (assignUnknown clusterer before.1).run.run before.2 = (.ok assignments, after.2) ∧
        groupUnknown assignments before.1 = (.ok (), after.1)) := by
  unfold clusterUnknown
  simp only [yields_bind, yields_view]
  constructor
  · intro found
    rcases found with ⟨isEmpty, middle, ⟨rfl, rfl⟩, rest⟩
    cases empty : middle.1.unknownEvents with
    | nil =>
      rw [empty] at rest
      exact .inl ⟨rfl, (yields_pure.1 rest).2⟩
    | cons group groups =>
      rw [empty] at rest
      rcases yields_bind.1 rest with ⟨assignments, asked, answered, grouped⟩
      rcases yields_demand.1 answered with ⟨answered, same⟩
      rcases yields_advance.1 grouped with ⟨grouped, world⟩
      rw [same] at grouped
      rw [← world] at answered
      exact .inr ⟨List.cons_ne_nil _ _, assignments, answered, grouped⟩
  · intro either
    rcases either with ⟨empty, rfl⟩ | ⟨present, assignments, answered, grouped⟩
    · refine ⟨_, _, ⟨rfl, rfl⟩, ?_⟩
      rw [empty]
      exact yields_pure.2 ⟨rfl, rfl⟩
    · refine ⟨_, _, ⟨rfl, rfl⟩, ?_⟩
      cases unknown : before.1.unknownEvents with
      | nil => exact (present unknown).elim
      | cons group groups =>
        refine yields_bind.2 ⟨assignments, (before.1, after.2), yields_demand.2 ⟨answered, rfl⟩, ?_⟩
        exact yields_advance.2 ⟨grouped, rfl⟩

omit [Scalar S] in
/-- Laying out succeeds, whatever the clusterer answers: there are no texts, there are no points, or
the points move the clusters. -/
theorem arrange_answered (clusterer : Clusterer S Model W) (before : Session S × W) :
    ∃ after, Yields (arrange clusterer) before () after ∧
      ((Layout.texts before.1.maps = [] ∧ after = before) ∨
      (∃ refusal, (placeTexts clusterer (Layout.texts before.1.maps)).run.run before.2 =
        (.error refusal, after.2) ∧ after.1 = before.1) ∨
      ∃ points, (placeTexts clusterer (Layout.texts before.1.maps)).run.run before.2 =
        (.ok points, after.2) ∧
          after.1 = moveClusters (Layout.texts before.1.maps) points before.1) := by
  unfold arrange
  cases laid : Layout.texts before.1.maps with
  | nil =>
    refine ⟨before, yields_bind.2 ⟨[], before, yields_view.2 ⟨laid.symm, rfl⟩, ?_⟩, .inl ⟨rfl, rfl⟩⟩
    exact yields_pure.2 ⟨rfl, rfl⟩
  | cons text texts =>
    cases placed : ((placeTexts clusterer (text :: texts)).run.run before.2 :
        Except Error (List (S × S)) × W) with
    | mk result world =>
      have asked : Yields (ask fun _ => (placeTexts clusterer (text :: texts)).run) before result
          (before.1, world) := yields_ask.2 ⟨placed, rfl⟩
      cases result with
      | error refusal =>
        refine ⟨(before.1, world), ?_, .inr (.inl ⟨refusal, rfl, rfl⟩)⟩
        refine yields_bind.2 ⟨text :: texts, before, yields_view.2 ⟨laid.symm, rfl⟩, ?_⟩
        exact yields_bind.2 ⟨_, _, asked, yields_pure.2 ⟨rfl, rfl⟩⟩
      | ok points =>
        refine ⟨(moveClusters (text :: texts) points before.1, world), ?_,
          .inr (.inr ⟨points, rfl, rfl⟩)⟩
        refine yields_bind.2 ⟨text :: texts, before, yields_view.2 ⟨laid.symm, rfl⟩, ?_⟩
        exact yields_bind.2 ⟨_, _, asked, yields_improve.2 rfl⟩

omit [Scalar S] in
/-- Whatever the clusterer answers, laying out succeeds, and at most it moves the clusters. -/
theorem arrange_total (clusterer : Clusterer S Model W) (before : Session S × W) :
    ∃ after, Yields (arrange clusterer) before () after ∧
      (after.1 = before.1 ∨
        ∃ points, after.1 = moveClusters (Layout.texts before.1.maps) points before.1) := by
  obtain ⟨after, arranged, ⟨_, same⟩ | ⟨_, _, same⟩ | ⟨points, _, moved⟩⟩ :=
    arrange_answered clusterer before
  · exact ⟨after, arranged, .inl (by rw [same])⟩
  · exact ⟨after, arranged, .inl same⟩
  · exact ⟨after, arranged, .inr ⟨points, moved⟩⟩

/-- The stages of a completed run up to the rating, with what each of them made of the session. -/
structure Course (clusterer : Clusterer S Model W) (comparer : Comparer S)
    (before after : Session S × W) where
  clustering : Clustering Model
  outcomes : SortedMap Label (MatchOutcome S)
  world : W
  analysed : skipReason? before.1 = none
  matched : (matchTexts clusterer before.1).run.run before.2 = (.ok (clustering, outcomes), world)
  relabelled : Session S
  control : relabelControl clustering before.1 = (.ok (), relabelled)
  split : Session S
  test : relabelTest outcomes clustering relabelled = (.ok (), split)
  grouped : Session S
  unknown : Yields (clusterUnknown clusterer) (split, world) () (grouped, after.2)
  compared : Session S
  frequencies : compareFrequencies (attachAlerts comparer grouped) = (.ok (), compared)
  rated : after.1 = rate compared

/-- A run either says why it does not analyse the session and leaves it as it is, or follows a course
to its end and then lays the clusters out. -/
theorem run_follows {clusterer : Clusterer S Model W} {comparer : Comparer S}
    {before after : Session S × W} {status : RunStatus S}
    (ran : Yields (run clusterer comparer) before status after) :
    (∃ reason, skipReason? before.1 = some reason ∧ status = .skipped reason ∧ after = before) ∨
    (status = after.1.status ∧ ∃ rated, Nonempty (Course clusterer comparer before rated) ∧
      Yields (arrange clusterer) rated () after) := by
  rcases yields_bind.1 ran with ⟨reason?, middle, viewed, rest⟩
  rcases yields_view.1 viewed with ⟨rfl, rfl⟩
  cases skip : skipReason? middle.1 with
  | some reason =>
    rw [skip] at rest
    rcases yields_pure.1 rest with ⟨rfl, rfl⟩
    exact .inl ⟨reason, rfl, rfl, rfl⟩
  | none =>
    rw [skip] at rest
    rcases yields_bind.1 rest with ⟨⟨clustering, outcomes⟩, ⟨session, _⟩, matched, rest⟩
    rcases yields_bind.1 rest with ⟨_, ⟨relabelled, _⟩, control, rest⟩
    rcases yields_bind.1 rest with ⟨_, ⟨split, _⟩, test, rest⟩
    rcases yields_bind.1 rest with ⟨_, ⟨grouped, _⟩, unknown, rest⟩
    rcases yields_bind.1 rest with ⟨_, _, alerted, rest⟩
    rcases yields_bind.1 rest with ⟨_, ⟨compared, _⟩, frequencies, rest⟩
    rcases yields_bind.1 rest with ⟨_, rated, rating, rest⟩
    rcases yields_bind.1 rest with ⟨_, _, arranged, rest⟩
    rcases yields_view.1 rest with ⟨rfl, rfl⟩
    rcases yields_demand.1 matched with ⟨matched, rfl⟩
    rcases yields_advance.1 control with ⟨control, rfl⟩
    rcases yields_advance.1 test with ⟨test, rfl⟩
    cases yields_improve.1 alerted
    rcases yields_advance.1 frequencies with ⟨frequencies, rfl⟩
    cases yields_improve.1 rating
    refine .inr ⟨rfl, _, ⟨?_⟩, arranged⟩
    exact {
      clustering, outcomes, matched, relabelled, control, split, test, grouped, unknown, compared
      frequencies
      world := _
      analysed := skip
      rated := rfl }

/-- A run either leaves the session as it is, or follows a course to its end and then at most moves
the clusters. -/
theorem run_cases {clusterer : Clusterer S Model W} {comparer : Comparer S}
    {before after : Session S × W} {status : RunStatus S}
    (ran : Yields (run clusterer comparer) before status after) :
    (∃ reason, skipReason? before.1 = some reason ∧ status = .skipped reason ∧ after = before) ∨
    (status = after.1.status ∧ ∃ rated, Nonempty (Course clusterer comparer before rated) ∧
      (after.1 = rated.1 ∨
        ∃ points, after.1 = moveClusters (Layout.texts rated.1.maps) points rated.1)) := by
  rcases run_follows ran with skipped | ⟨completed, rated, course, arranged⟩
  · exact .inl skipped
  · rcases arrange_total clusterer rated with ⟨after, total, moved⟩
    cases yields_unique arranged total
    exact .inr ⟨completed, rated, course, moved⟩

omit [Scalar S] in
/-- A run analyses sessions with control labels, but not too many of them. -/
@[simp] theorem skipReason?_eq_none {session : Session S} :
    skipReason? session = none ↔ 0 < session.store.control.size ∧
      session.store.control.size ≤ session.settings.clusterLimit := by
  simp only [skipReason?]
  split
  · next empty => simp [empty]
  · next present =>
    split
    · next many => simp [Nat.not_le.2 many]
    · next few => simp [Nat.pos_of_ne_zero present, Nat.not_lt.1 few]

/-- A session that is not analysed stays as it is. -/
theorem run_of_skipped {clusterer : Clusterer S Model W} {comparer : Comparer S}
    {before : Session S × W} {reason : SkipReason} (skipped : skipReason? before.1 = some reason) :
    Yields (run clusterer comparer) before (.skipped reason) before := by
  refine yields_bind.2 ⟨some reason, before, yields_view.2 ⟨skipped.symm, rfl⟩, ?_⟩
  exact yields_pure.2 ⟨rfl, rfl⟩

/-- A refusal of the texts is the refusal of the run. -/
theorem run_of_refused {clusterer : Clusterer S Model W} {comparer : Comparer S}
    {before : Session S × W} {refusal : Error} {world : W}
    (analysed : skipReason? before.1 = none)
    (refused : (matchTexts clusterer before.1).run.run before.2 = (.error refusal, world)) :
    (run clusterer comparer).run.run before = (.error refusal, (before.1, world)) := by
  have viewed : (view skipReason?).run.run before =
      ((.ok none, before) : Except Error (Option SkipReason) × (Session S × W)) := by
    rw [← analysed]
    rfl
  have asked : (ask fun session => (matchTexts clusterer session).run).run.run before =
      ((.ok (.error refusal), (before.1, world)) :
        Except Error (Except Error (Clustering Model × SortedMap Label (MatchOutcome S))) ×
          (Session S × W)) := by
    have answered : (ask fun session => (matchTexts clusterer session).run).run.run before =
        ((fun answer : Except Error (Clustering Model × SortedMap Label (MatchOutcome S)) × W =>
          (Except.ok answer.1, (before.1, answer.2)))
          ((matchTexts clusterer before.1).run.run before.2) :
        Except Error (Except Error (Clustering Model × SortedMap Label (MatchOutcome S))) ×
          (Session S × W)) := rfl
    rw [answered, refused]
  rw [run, run_bind, viewed]
  simp only
  rw [run_bind, demand, run_bind, asked]
  rfl

/-- A course can be followed: once the clusters are laid out, its run is at its end. -/
theorem Course.run {clusterer : Clusterer S Model W} {comparer : Comparer S}
    {before rated after : Session S × W} (course : Course clusterer comparer before rated)
    (arranged : Yields (arrange clusterer) rated () after) :
    Yields (run clusterer comparer) before after.1.status after := by
  refine yields_bind.2 ⟨none, before, yields_view.2 ⟨course.analysed.symm, rfl⟩, ?_⟩
  refine yields_bind.2 ⟨(course.clustering, course.outcomes), (before.1, course.world),
    yields_demand.2 ⟨course.matched, rfl⟩, ?_⟩
  refine yields_bind.2 ⟨(), (course.relabelled, course.world),
    yields_advance.2 ⟨course.control, rfl⟩, ?_⟩
  refine yields_bind.2 ⟨(), (course.split, course.world),
    yields_advance.2 ⟨course.test, rfl⟩, ?_⟩
  refine yields_bind.2 ⟨(), _, course.unknown, ?_⟩
  refine yields_bind.2 ⟨(), _, yields_improve.2 rfl, ?_⟩
  refine yields_bind.2 ⟨(), (course.compared, _), yields_advance.2 ⟨course.frequencies, rfl⟩, ?_⟩
  refine yields_bind.2 ⟨(), _, yields_improve.2 rfl, ?_⟩
  refine yields_bind.2 ⟨(), after, ?_, yields_view.2 ⟨rfl, rfl⟩⟩
  rw [← course.rated]
  exact arranged

theorem Course.completes {clusterer : Clusterer S Model W} {comparer : Comparer S}
    {before rated : Session S × W} (course : Course clusterer comparer before rated) :
    ∃ after, Yields (Session.run clusterer comparer) before after.1.status after := by
  rcases arrange_total clusterer rated with ⟨after, arranged, _⟩
  exact ⟨after, course.run arranged⟩

end LogDrift.Session
