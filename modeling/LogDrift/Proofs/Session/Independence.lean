import LogDrift.Brief
import LogDrift.Proofs.Session.Unchanged
import LogDrift.Proofs.Unknown.Baseline

/-!
# Known clusters and the clusterer at hand

The texts of known clusters stand in where an unknown message has no control cluster near it. The
clusterer at hand names a nearest cluster for every text, and that cluster has events, so that this
never happens: runs which differ in the known clusters only come to the same end.
-/

namespace LogDrift

variable {S : Type} [Scalar S]

/-- Every entry of the unknown clusters was compared with the text of a live control cluster. -/
def Snapshot.Alerted (size : Nat) (snapshot : Snapshot S) : Prop :=
  snapshot.unknownClusters.All (Unknown.ComparedLive size snapshot.controlClusters)

namespace Session

variable {Model W α β : Type}

omit [Scalar S] in
/-- The session with other known clusters. -/
def withKnown (session : Session S) (known : KnownClusters) : Session S :=
  { session with known }

/-! ## Progress that ignores known clusters -/

omit [Scalar S] in
/-- What progress from a state comes to. -/
def outcome (progress : Analysis S W α) (before : Session S × W) :
    Except Error α × (Session S × W) :=
  progress.run.run before

omit [Scalar S] in
/-- With other known clusters, progress from a state comes to the same result and changes nothing
else. -/
def Ignores (progress : Analysis S W α) (before : Session S × W) : Prop :=
  ∀ known, outcome progress (before.1.withKnown known, before.2) =
    ((outcome progress before).1,
      ((outcome progress before).2.1.withKnown known, (outcome progress before).2.2))

omit [Scalar S] in
theorem ignores_pure (answer : α) (before : Session S × W) :
    Ignores (pure answer : Analysis S W α) before :=
  fun _ => rfl

omit [Scalar S] in
theorem ignores_throw (refusal : Error) (before : Session S × W) :
    Ignores (throw refusal : Analysis S W α) before :=
  fun _ => rfl

omit [Scalar S] in
/-- A chain ignores what its first part ignores, if its second part does so wherever it is
reached. -/
theorem ignores_bind {progress : Analysis S W α} {next : α → Analysis S W β}
    {before : Session S × W} (first : Ignores progress before)
    (second : ∀ answer middle, Yields progress before answer middle →
      Ignores (next answer) middle) : Ignores (progress >>= next) before := by
  intro known
  have changed := first known
  unfold outcome at changed ⊢
  rw [run_bind, run_bind, changed]
  cases found : (progress.run.run before : Except Error α × (Session S × W)) with
  | mk result middle =>
    cases result with
    | ok answer => exact second answer middle found known
    | error refusal => rfl

omit [Scalar S] in
theorem ignores_ask {question : Session S → StateM W α} {before : Session S × W}
    (blind : ∀ known, question (before.1.withKnown known) = question before.1) :
    Ignores (ask question) before := by
  intro known
  have asked : ∀ before : Session S × W, outcome (ask question) before =
      (fun answered : α × W => (.ok answered.1, (before.1, answered.2)))
        ((question before.1).run before.2) := fun _ => rfl
  rw [asked, asked, blind known]

omit [Scalar S] in
theorem ignores_view {part : Session S → α} {before : Session S × W}
    (blind : ∀ known, part (before.1.withKnown known) = part before.1) :
    Ignores (view part) before :=
  ignores_ask fun known => congrArg pure (blind known)

omit [Scalar S] in
theorem ignores_demand {question : Session S → Consulted W α} {before : Session S × W}
    (blind : ∀ known, question (before.1.withKnown known) = question before.1) :
    Ignores (demand question) before := by
  apply ignores_bind (ignores_ask fun known => congrArg ExceptT.run (blind known))
  intro result middle _
  cases result with
  | ok answer => exact ignores_pure answer middle
  | error refusal => exact ignores_throw refusal middle

omit [Scalar S] in
theorem ignores_advance {stage : Session S → Except Error Unit × Session S}
    {before : Session S × W}
    (blind : ∀ known, stage (before.1.withKnown known) =
      ((stage before.1).1, (stage before.1).2.withKnown known)) :
    Ignores (advance stage) before := by
  intro known
  have staged : ∀ before : Session S × W, outcome (advance stage) before =
      ((stage before.1).1, ((stage before.1).2, before.2)) := fun _ => rfl
  rw [staged, staged, blind known]

omit [Scalar S] in
theorem ignores_improve {stage : Session S → Session S} {before : Session S × W}
    (blind : ∀ known, stage (before.1.withKnown known) = (stage before.1).withKnown known) :
    Ignores (improve stage) before :=
  ignores_advance fun known => congrArg (Prod.mk (Except.ok ())) (blind known)

/-! ## Stages -/

omit [Scalar S] in
theorem ignores_relabelControl (clustering : Clustering Model) (before : Session S × W) :
    Ignores (advance (relabelControl clustering)) before := by
  apply ignores_advance
  intro known
  simp only [relabelControl, withKnown]
  cases Matching.relabelControl clustering before.1.settings.maxTags before.1.store.control with
  | mk result events => cases result <;> rfl

theorem ignores_relabelTest (outcomes : SortedMap Label (MatchOutcome S))
    (clustering : Clustering Model) (before : Session S × W) :
    Ignores (advance (relabelTest outcomes clustering)) before := by
  apply ignores_advance
  intro known
  simp only [relabelTest, withKnown]
  cases Matching.relabelTest outcomes clustering before.1.settings.maxTags
      before.1.store.test with
  | mk result events => cases result <;> rfl

theorem ignores_clusterUnknown (clusterer : Clusterer S Model W) (before : Session S × W) :
    Ignores (clusterUnknown clusterer) before := by
  apply ignores_bind (ignores_view fun _ => rfl)
  intro isEmpty middle _
  cases isEmpty with
  | true => exact ignores_pure () middle
  | false =>
    apply ignores_bind (ignores_demand fun _ => rfl)
    intro assignments middle _
    apply ignores_advance
    intro known
    simp only [groupUnknown, withKnown]
    cases Unknown.groupEvents middle.1.unknownEvents assignments <;> rfl

theorem ignores_compareFrequencies (before : Session S × W) :
    Ignores (advance compareFrequencies) before := by
  apply ignores_advance
  intro known
  rw [compareFrequencies_eq_ok, compareFrequencies_eq_ok]
  rfl

omit [Scalar S] in
theorem ignores_arrange (clusterer : Clusterer S Model W) (before : Session S × W) :
    Ignores (arrange clusterer) before := by
  apply ignores_bind (ignores_view fun _ => rfl)
  intro texts middle _
  cases texts with
  | nil => exact ignores_pure () middle
  | cons text texts =>
    apply ignores_bind (ignores_ask fun _ => rfl)
    intro result middle _
    cases result with
    | error refusal => exact ignores_pure () middle
    | ok points =>
      apply ignores_improve
      intro known
      simp only [moveClusters]
      split <;> rfl

/-- Where every unknown entry has a live text, attaching alerts asks for no known cluster. -/
theorem ignores_attachAlerts {before : Session S × W}
    (live : before.1.maps.unknown.All fun entry =>
      Unknown.Live before.1.maps.control entry.label) (comparer : Comparer S) :
    Ignores (improve (attachAlerts comparer)) before := by
  apply ignores_improve
  intro known
  have same := Unknown.attachAlerts_known live comparer known before.1.known
    before.1.settings.diffBand
  simp only [attachAlerts, withKnown, same]

/-! ## Runs with the clusterer at hand -/

open CentroidModel

/-- Once the unknown events are clustered, every entry has the label of a control cluster with
events. -/
theorem live_of_stages {threshold : S} {before : Session S × W}
    {clustering : Clustering (CentroidModel S)} {outcomes : SortedMap Label (MatchOutcome S)}
    {relabelled split : Session S} {world : W} {after : Session S × W}
    (fresh : before.1.maps.unknown = .empty) (analysed : skipReason? before.1 = none)
    (matched : (matchTexts (clusterer W threshold) before.1).run.run before.2 =
      (.ok (clustering, outcomes), world))
    (control : relabelControl clustering before.1 = (.ok (), relabelled))
    (test : relabelTest outcomes clustering relabelled = (.ok (), split))
    (unknown : Yields (clusterUnknown (clusterer W threshold)) (split, world) () after) :
    after.1.maps.unknown.All fun entry =>
      Unknown.Live after.1.maps.control entry.label := by
  rcases relabelControl_eq_ok.1 control with ⟨clusters, controlEvents, collected, rfl⟩
  rcases relabelTest_eq_ok.1 test with ⟨parts, testEvents, divided, rfl⟩
  obtain ⟨vocabulary, _, rfl, rfl⟩ := exists_learnt_of_matched matched
  have labels := before.1.store.control.nodup_labels_texts
  -- A control label has a cluster, so there is a text to be the nearest.
  have present : before.1.store.controlTexts ≠ [] := by
    intro bare
    have assigned := Matching.relabelControl_taken collected
    rw [bare] at assigned
    have size := (skipReason?_eq_none.1 analysed).1
    rw [OrderedMap.size] at size
    rcases List.exists_mem_of_length_pos size with ⟨entry, member⟩
    rcases List.mem_iff_getElem.1 member with ⟨place, inBounds, _⟩
    rcases List.forall₂_iff_get.1 assigned with ⟨sizes, taken⟩
    rcases (taken place inBounds (sizes ▸ inBounds)).2 with ⟨cluster, found, _⟩
    cases found
  have named : ∀ label outcome,
      (classify threshold (clustered threshold vocabulary before.1.store.controlTexts).model
        before.1.store.testTexts).get? label = some outcome →
      ∃ cluster, outcome.nearest = some cluster ∧ Unknown.Live clusters cluster := by
    intro label outcome found
    rcases List.mem_map.1 (SortedMap.mem_of_get?_ofList found) with ⟨text, _, same⟩
    rcases exists_nearest_text threshold vocabulary labels present text.text with
      ⟨cluster, nearest, other, member, assigned⟩
    rcases EventMap.exists_group_of_mem_texts member with ⟨event, rest, stored, _⟩
    rcases Matching.exists_entry_of_relabelControl collected stored assigned with ⟨entry, found⟩
    exact ⟨cluster, (Prod.mk.inj same).2 ▸ nearest, Unknown.live_of_find? found⟩
  have passed := Matching.nearest_relabelTest named divided
  rcases yields_clusterUnknown.1 unknown with ⟨_, rfl⟩ | ⟨_, assignments, _, grouped⟩
  · dsimp only
    rw [fresh]
    exact ClusterMap.all_empty _
  · rcases groupUnknown_eq_ok.1 grouped with ⟨grouping, found, same⟩
    rw [same]
    exact Unknown.labels_scoreEvents (Unknown.labels_groupEvents passed found)

/-- Runs with the clusterer at hand ignore known clusters. -/
theorem ignores_run (threshold : S) (comparer : Comparer S) (before : Session S × W)
    (fresh : before.1.maps.unknown = .empty) :
    Ignores (run (clusterer W threshold) comparer) before := by
  apply ignores_bind (ignores_view fun _ => rfl)
  intro reason? middle viewed
  rcases yields_view.1 viewed with ⟨rfl, rfl⟩
  cases analysed : skipReason? middle.1 with
  | some reason => exact ignores_pure _ middle
  | none =>
    apply ignores_bind (ignores_demand fun _ => rfl)
    rintro ⟨clustering, outcomes⟩ ⟨session, _⟩ matched
    apply ignores_bind (ignores_relabelControl clustering _)
    rintro _ ⟨relabelled, _⟩ control
    apply ignores_bind (ignores_relabelTest outcomes clustering _)
    rintro _ ⟨split, _⟩ test
    apply ignores_bind (ignores_clusterUnknown _ _)
    rintro _ grouped unknown
    rcases yields_demand.1 matched with ⟨matched, rfl⟩
    rcases yields_advance.1 control with ⟨control, rfl⟩
    rcases yields_advance.1 test with ⟨test, rfl⟩
    have live := live_of_stages fresh analysed matched control test unknown
    apply ignores_bind (ignores_attachAlerts live comparer)
    intro _ alerted _
    apply ignores_bind (ignores_compareFrequencies alerted)
    intro _ compared _
    apply ignores_bind (ignores_improve fun _ => rfl)
    intro _ rated _
    apply ignores_bind (ignores_arrange _ rated)
    intro _ arranged _
    exact ignores_view fun _ => rfl

/-- A course with the collaborators at hand compares every unknown entry with a live text. -/
theorem Course.alerted {threshold : S} {size : Nat} {before rated : Session S × W}
    (course : Course (clusterer W threshold) (Gram.comparer size) before rated)
    (fresh : before.1.maps.unknown = .empty) : rated.1.snapshot.Alerted size := by
  have live := live_of_stages fresh course.analysed course.matched course.control course.test
    course.unknown
  have frequencies := course.frequencies
  rw [compareFrequencies_eq_ok] at frequencies
  have rating := course.rated
  rw [← (Prod.mk.inj frequencies).2] at rating
  rw [rating]
  exact Unknown.comparedLive_attachAlerts live size course.grouped.known
    course.grouped.settings.diffBand

omit [Scalar S] in
/-- What decides whether an entry was compared with a live text. -/
def said (entry : UnknownEntry S) : String × Label × Option S :=
  (entry.text, entry.label, entry.alertScore)

/-- Points change neither texts nor labels nor alerts. -/
theorem Alerted.moveClusters {session : Session S} {size : Nat} (texts : List String)
    (points : List (S × S)) (alerted : session.snapshot.Alerted size) :
    (moveClusters texts points session).snapshot.Alerted size := by
  rw [snapshot_moveClusters]
  have control : ClusterMap.contents ControlEntry.text
      (Session.moveClusters texts points session).maps.control =
        ClusterMap.contents ControlEntry.text session.maps.control :=
    contents_moveClusters .control (fun _ _ => rfl) texts points session
  have unknown : ClusterMap.contents said
      (Session.moveClusters texts points session).maps.unknown =
        ClusterMap.contents said session.maps.unknown :=
    contents_moveClusters .unknown (fun _ _ => rfl) texts points session
  have before := alerted.imp fun entry => (Unknown.comparedLive_iff size _ entry).1
  have after := ClusterMap.All.of_contents unknown (fun told => ∃ text,
    ((ClusterMap.contents ControlEntry.text session.maps.control).get? told.2.1).bind
      (fun texts => texts.values.head?) = some text ∧
    told.2.2 = some (Gram.overlap size text told.1)) before
  rw [← control] at after
  exact after.imp fun entry => (Unknown.comparedLive_iff size _ entry).2

/-- A completed run from a start has compared every unknown entry with a live text. -/
theorem alerted_of_completed {threshold : S} {size : Nat} {store : Store S}
    {settings : AnalysisSettings S} {known : KnownClusters} {query : Option String} {world : W}
    {score : S} {unknown anomalies : Nat} {after : Session S × W}
    (ran : Yields (run (clusterer W threshold) (Gram.comparer size))
      (start store settings known query, world) (.completed score unknown anomalies) after) :
    after.1.snapshot.Alerted size := by
  rcases run_cases ran with ⟨_, _, skipped, _⟩ | ⟨_, rated, ⟨course⟩, moved⟩
  · cases skipped
  · have alerted := course.alerted rfl
    rcases moved with same | ⟨points, same⟩
    · rw [same]
      exact alerted
    · rw [same]
      exact Alerted.moveClusters _ points alerted

/-- With the collaborators at hand a run comes to the same result and to the same snapshot whatever
the known clusters are. If it completes, every entry of the unknown clusters was compared with the
text of a live control cluster. -/
theorem run_at_hand_ignores_known (threshold : S) (size : Nat) (store : Store S)
    (settings : AnalysisSettings S) (query : Option String) (world : W)
    (known known' : KnownClusters) :
    ∃ result one other,
      (run (clusterer W threshold) (Gram.comparer size)).run.run
        (start store settings known query, world) = (result, one) ∧
      (run (clusterer W threshold) (Gram.comparer size)).run.run
        (start store settings known' query, world) = (result, other) ∧
      other.1.snapshot = one.1.snapshot ∧ other.2 = one.2 ∧
      ∀ score unknown anomalies, result = .ok (.completed score unknown anomalies) →
        one.1.snapshot.Alerted size := by
  have ignored := ignores_run threshold (Gram.comparer size)
    (start store settings known query, world) rfl known'
  refine ⟨_, _, _, rfl, ignored, rfl, rfl, ?_⟩
  intro score unknown anomalies completed
  exact alerted_of_completed (Prod.ext completed rfl)

/-- A message of the control window, and another one of the test window. -/
def lostStore : Store ℝ :=
  (Store.empty.add ⟨.control, .search⟩ (seen 1 "ready")).add ⟨.test, .search⟩ (seen 1 "lost")

/-- Known clusters that would have a text for the first control cluster. -/
def readyKnown : KnownClusters where
  ignored := .ofList [(0, "lost")]
  feedback := .ofList [(0, "ready")]

/-- Where similarities up to one are not enough, the test message is unknown. -/
theorem exists_unknown_lostStore {score : ℝ} {unknown anomalies : Nat} {after : Session ℝ × Unit}
    (ran : Yields (run (clusterer Unit (2 : ℝ)) (Gram.comparer Gram.defaultSize))
      (start lostStore .default {} none, ()) (.completed score unknown anomalies) after) :
    ∃ cluster entry, after.1.snapshot.unknownClusters.find? cluster "a" = some entry := by
  rcases run_decides ran with ⟨vocabulary, _, _, contents, decided⟩
  have derived : after.1.snapshot.Rederivable := by
    rcases run_rederivable rfl ran with ⟨_, skipped, _⟩ | ⟨_, derived⟩
    · cases skipped
    · exact derived
  have stored : lostStore.test.get? 1 = some [seen 1 "lost"] := rfl
  rcases EventMap.exists_get?_of_contents contents stored with ⟨events, found, same⟩
  have unlisted : (clustered 2 vocabulary lostStore.controlTexts).model.featureless.lookup
      "lost" = none := by
    rw [List.lookup_eq_none_iff]
    rintro ⟨text, cluster⟩ member
    rcases mem_featureless.1 member with ⟨_, inBounds, _, other, inside, _, rfl⟩
    rcases mem_members.1 (mem_members_of_group (List.getElem_mem inBounds) inside) with
      ⟨within, source, _⟩
    have ready : other.source ∈ lostStore.controlTexts := source ▸ List.getElem_mem within
    rw [List.mem_singleton.1 ready]
    rfl
  have unmatched := isMatched_eq_false_of_one_lt Scalar.exact_real one_lt_two unlisted
  have own := (decided ⟨1, "lost"⟩ (.head _) events found).own (by
    rw [Matching.matched?, Option.filter_eq_none_iff, unmatched]
    exact fun _ _ => Bool.false_ne_true)
  cases events with
  | nil => cases same
  | cons event rest =>
    have occurrences : event.occurrences = [{ count := 1, host := "a" }] :=
      congrArg Prod.snd (List.cons.inj same).1
    have member : event ∈ after.1.snapshot.testEvents.all :=
      EventMap.mem_all.2 ⟨_, OrderedMap.get?_eq_some_iff.1 found, .head _⟩
    have host : event.host = "a" := by rw [Event.host, occurrences, Occurrence.hostOf]
    have unnamed : event ∈ Matching.unnamed after.1.snapshot.testEvents.all :=
      List.mem_filter.2 ⟨member, by rw [own event (.head _)]; rfl⟩
    have kept : { count := 1, host := "a" } ∈
        Unknown.recordsAt after.1.snapshot.unknownClusters "a" := by
      rw [(derived.hosts "a").mem_iff, List.mem_flatMap]
      exact ⟨event, List.mem_filter.2 ⟨unnamed, decide_eq_true host⟩,
        by rw [occurrences]; exact .head _⟩
    rcases List.mem_flatMap.1 kept with ⟨entry, inside, _⟩
    rcases List.mem_filterMap.1 inside with ⟨hosts, present, here⟩
    rcases List.mem_map.1 present with ⟨⟨cluster, _⟩, stored, rfl⟩
    exact ⟨cluster, entry, ClusterMap.find?_eq_some_iff.2
      ⟨_, SortedMap.get?_of_mem_entries stored, here⟩⟩

/-- With known clusters and without them a run reports the same unknown message. -/
theorem run_at_hand_ignores_known_ready :
    ∃ score unknown anomalies one other,
      (run (clusterer Unit (2 : ℝ)) (Gram.comparer Gram.defaultSize)).run.run
        (start lostStore .default {} none, ()) = (.ok (.completed score unknown anomalies), one) ∧
      (run (clusterer Unit (2 : ℝ)) (Gram.comparer Gram.defaultSize)).run.run
        (start lostStore .default readyKnown none, ()) =
          (.ok (.completed score unknown anomalies), other) ∧
      other.1.snapshot = one.1.snapshot ∧
      ∃ cluster entry, one.1.snapshot.unknownClusters.find? cluster "a" = some entry ∧
        Unknown.ComparedLive Gram.defaultSize one.1.snapshot.controlClusters entry := by
  have occupied : lostStore.Occupied := (Store.Built.add _ _ (.add _ _ .empty)).occupied
  rcases course_of_token Scalar.faithfulCounts_real 2 (Gram.comparer Gram.defaultSize)
    (start lostStore .default {} none, ()) (skipReason?_eq_none.2 ⟨by decide, by decide⟩) occupied
    ⟨⟨1, "ready"⟩, .head _, by decide⟩ with ⟨rated, ⟨course⟩⟩
  rcases course.completes with ⟨after, ran⟩
  rcases exists_unknown_lostStore ran with ⟨cluster, entry, found⟩
  rcases run_at_hand_ignores_known (2 : ℝ) Gram.defaultSize lostStore .default none () {} readyKnown
    with ⟨result, one, other, first, second, same, _, alerted⟩
  rw [Yields, first] at ran
  cases ran
  exact ⟨_, _, _, after, other, first, second, same, cluster, entry, found,
    alerted _ _ _ rfl cluster "a" entry found⟩

end Session

end LogDrift
