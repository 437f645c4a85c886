import LogDrift.Proofs.Session.Course
import LogDrift.Proofs.Session.Stages
import LogDrift.Similarity.Collaborators

/-!
# Clusterers that answer alike in every state

A clusterer may keep a state from one question to the next. It is pure when no state changes what it
answers, and then the answers to all questions of a run are decided by the session alone.
-/

namespace LogDrift

variable {S Model W α β : Type}

/-- An answer is pure when it is the same whatever the state of the collaborator. -/
def Consulted.IsPure (answer : Consulted W α) : Prop :=
  ∃ result, ∀ world, (answer.run.run world : Except Error α × W).1 = result

namespace Consulted.IsPure

/-- What is answered in one state is answered in every state. -/
theorem again {answer : Consulted W α} (isPure : IsPure answer) {world after : W}
    {result : Except Error α} (answered : answer.run.run world = (result, after)) (world' : W) :
    ∃ after', answer.run.run world' = (result, after') := by
  obtain ⟨always, same⟩ := isPure
  have here := same world
  rw [answered] at here
  cases here
  exact ⟨(answer.run.run world').2, Prod.ext (same world') rfl⟩

theorem pure (given : α) : IsPure (pure given : Consulted W α) :=
  ⟨.ok given, fun _ => rfl⟩

theorem throw (refusal : Error) : IsPure (throw refusal : Consulted W α) :=
  ⟨.error refusal, fun _ => rfl⟩

theorem bind {answer : Consulted W α} {next : α → Consulted W β} (first : IsPure answer)
    (second : ∀ given, IsPure (next given)) : IsPure (answer >>= next) := by
  obtain ⟨result, always⟩ := first
  have answered : ∀ world, (answer.run.run world : Except Error α × W) =
      (result, (answer.run.run world).2) := fun world => Prod.ext (always world) rfl
  cases result with
  | error refusal =>
    refine ⟨.error refusal, fun world => ?_⟩
    rw [Session.run_bind, answered]
  | ok given =>
    obtain ⟨result, always⟩ := second given
    refine ⟨result, fun world => ?_⟩
    rw [Session.run_bind, answered]
    exact always _

theorem tryCatch {answer : Consulted W α} {handle : Error → Consulted W α} (first : IsPure answer)
    (second : ∀ refusal, IsPure (handle refusal)) : IsPure (tryCatch answer handle) := by
  obtain ⟨result, always⟩ := first
  have answered : ∀ world, (answer.run.run world : Except Error α × W) =
      (result, (answer.run.run world).2) := fun world => Prod.ext (always world) rfl
  cases result with
  | ok given =>
    refine ⟨.ok given, fun world => ?_⟩
    rw [Session.run_tryCatch, answered]
  | error refusal =>
    obtain ⟨result, always⟩ := second refusal
    refine ⟨result, fun world => ?_⟩
    rw [Session.run_tryCatch, answered]
    exact always _

end Consulted.IsPure

/-- A clusterer is pure when all its answers are. -/
structure Clusterer.IsPure (clusterer : Clusterer S Model W) : Prop where
  cluster : ∀ texts corpus filter, Consulted.IsPure (clusterer.cluster texts corpus filter)
  classify : ∀ model texts, Consulted.IsPure (clusterer.classify model texts)
  distances : ∀ texts, Consulted.IsPure (clusterer.distances texts)
  place : ∀ distances, Consulted.IsPure (clusterer.place distances)

/-- The clusterer at hand keeps no state. -/
theorem CentroidModel.isPure_clusterer [Scalar S] (W : Type) (threshold : S) :
    (clusterer W threshold).IsPure where
  cluster _ _ _ := ⟨_, fun _ => rfl⟩
  classify _ _ := ⟨_, fun _ => rfl⟩
  distances _ := ⟨_, fun _ => rfl⟩
  place _ := ⟨_, fun _ => rfl⟩

namespace Session

variable [Scalar S] {clusterer : Clusterer S Model W}

/-! ## Questions -/

theorem isPure_clusterTexts (isPure : clusterer.IsPure) (filter : TermFilter S)
    (texts corpus : List LabelledText) :
    Consulted.IsPure (clusterTexts clusterer filter texts corpus) := by
  apply Consulted.IsPure.tryCatch (isPure.cluster _ _ _)
  intro refusal
  cases refusal with
  | emptyVocabulary reason => exact isPure.cluster _ _ _
  | _ => exact .throw _

theorem isPure_matchTexts (isPure : clusterer.IsPure) (session : Session S) :
    Consulted.IsPure (matchTexts clusterer session) := by
  apply Consulted.IsPure.bind (isPure_clusterTexts isPure _ _ _)
  intro clustering
  cases session.store.testTexts.isEmpty with
  | true => exact .pure _
  | false => exact .bind (isPure.classify _ _) fun _ => .pure _

theorem isPure_assignUnknown (isPure : clusterer.IsPure) (session : Session S) :
    Consulted.IsPure (assignUnknown clusterer session) := by
  apply Consulted.IsPure.tryCatch
  · exact .bind (isPure_clusterTexts isPure _ _ _) fun _ => .pure _
  · intro refusal
    cases refusal with
    | emptyVocabulary reason => exact .pure _
    | _ => exact .throw _

omit [Scalar S] in
theorem isPure_placeTexts (isPure : clusterer.IsPure) (texts : List String) :
    Consulted.IsPure (placeTexts clusterer texts) :=
  .bind (isPure.distances _) isPure.place

/-! ## Laying out -/

omit [Scalar S] in
/-- A pure clusterer lays equal clusters out alike, whatever the rest of the session. -/
theorem arrange_again (isPure : clusterer.IsPure) {before after : Session S × W}
    (arranged : Yields (arrange clusterer) before () after) {session : Session S}
    (same : session.maps = before.1.maps) (world : W) :
    after.1 = { before.1 with maps := after.1.maps } ∧
    ∃ world', Yields (arrange clusterer) (session, world) ()
      ({ session with maps := after.1.maps }, world') := by
  obtain ⟨texts, before, viewed, rest⟩ := yields_bind.1 arranged
  obtain ⟨laid, rfl⟩ := yields_view.1 viewed
  have viewed' : Yields (view fun session => Layout.texts session.maps) (session, world) texts
      (session, world) := yields_view.2 ⟨by rw [laid, ← same], rfl⟩
  cases texts with
  | nil =>
    obtain ⟨_, rfl⟩ := yields_pure.1 rest
    refine ⟨rfl, world, yields_bind.2 ⟨_, _, viewed', ?_⟩⟩
    rw [← same]
    exact yields_pure.2 ⟨rfl, rfl⟩
  | cons text texts =>
    obtain ⟨result, middle, asked, rest⟩ := yields_bind.1 rest
    obtain ⟨answered, kept⟩ := yields_ask.1 asked
    obtain ⟨world', answered'⟩ := (isPure_placeTexts isPure (text :: texts)).again answered world
    have asked' : Yields (ask fun _ => (placeTexts clusterer (text :: texts)).run)
        (session, world) result (session, world') := yields_ask.2 ⟨answered', rfl⟩
    cases result with
    | error refusal =>
      obtain ⟨_, rfl⟩ := yields_pure.1 rest
      rw [kept]
      refine ⟨rfl, world', yields_bind.2 ⟨_, _, viewed', yields_bind.2 ⟨_, _, asked', ?_⟩⟩⟩
      rw [← same]
      exact yields_pure.2 ⟨rfl, rfl⟩
    | ok points =>
      cases yields_improve.1 rest
      have moved := moveClusters_eq (text :: texts) points middle.1
      have moved' := moveClusters_eq (text :: texts) points session
      rw [kept] at moved
      rw [same] at moved'
      simp only [kept, moved]
      refine ⟨trivial, world', yields_bind.2 ⟨_, _, viewed', yields_bind.2 ⟨_, _, asked', ?_⟩⟩⟩
      rw [yields_improve, moved']

end Session

end LogDrift
