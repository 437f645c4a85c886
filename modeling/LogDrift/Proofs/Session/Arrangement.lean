import LogDrift.Proofs.Layout.Order
import LogDrift.Proofs.Session.Rederivation

/-!
# Laying clusters out

The clusterer is asked for the points of the texts in layout order. If it has one for every text,
each entry lies at the point of the text of its cluster. Otherwise no entry changes.
-/

namespace LogDrift

namespace Layout

variable {S : Type}

/-- Each entry lies at the point that stands where the text of its cluster stands. -/
def Pinned (points : List (S × S)) (before after : ClusterMaps S) : Prop :=
  ∀ (kind : Kind) (label : Label) (host : String) (entry : kind.Entry S),
    (kind.clusters after).find? label host = some entry →
      ∃ (place : Nat) (text : String) (point : S × S),
        (order before)[place]? = some (kind, label) ∧
        firstText? before (kind, label) = some text ∧ (texts before)[place]? = some text ∧
        points[place]? = some point ∧ kind.position entry = (some point.1, some point.2)

/-- The text at the place of a cluster is the text of the cluster. -/
theorem text_of_place {maps : ClusterMaps S} {place : Nat} {slot : Kind × Label}
    (there : (order maps)[place]? = some slot) :
    ∃ text, firstText? maps slot = some text ∧ (texts maps)[place]? = some text := by
  have listed : ((texts maps).map some)[place]? = ((order maps).map (firstText? maps))[place]? := by
    rw [map_some_texts]
  rw [List.getElem?_map, List.getElem?_map, there, Option.map_some,
    Option.map_eq_some_iff] at listed
  obtain ⟨text, found, same⟩ := listed
  exact ⟨text, same.symm, found⟩

variable {points : List (S × S)} {before after : ClusterMaps S}

/-- Clusters that have no place have no entries after they were placed. -/
theorem Placed.mem_order (placed : Placed points before after) {kind : Kind} {label : Label}
    {host : String} {entry : kind.Entry S}
    (present : (kind.clusters after).find? label host = some entry) :
    (kind, label) ∈ order before := by
  by_cases there : (kind, label) ∈ order before
  · exact there
  · rw [ClusterMap.find?, placed.kept kind label there] at present
    exact ((ordered before).hosts kind label).2 ⟨host, entry, present⟩

/-- With a point for every text, all entries have theirs. -/
theorem Placed.pinned (placed : Placed points before after)
    (enough : points.length = (texts before).length) : Pinned points before after := by
  intro kind label host entry present
  obtain ⟨place, there⟩ := List.mem_iff_getElem?.1 (placed.mem_order present)
  obtain ⟨text, text_eq, found⟩ := text_of_place there
  have bound : place < points.length := by
    rw [enough]
    exact (List.getElem?_eq_some_iff.1 found).1
  refine ⟨place, text, points[place], there, text_eq, found, List.getElem?_eq_getElem bound, ?_⟩
  rw [ClusterMap.find?, placed.moved place kind label there, List.getElem?_eq_getElem bound,
    Option.bind_map, Option.bind_eq_some_iff] at present
  obtain ⟨hosts, _, moved⟩ := present
  simp only [Function.comp_apply, Option.elim_some, SortedMap.get?_mapValues,
    Option.map_eq_some_iff] at moved
  obtain ⟨entry, _, rfl⟩ := moved
  exact kind.position_move _ entry

end Layout

namespace Session

variable {S Model W : Type}

/-- What laying out comes to. -/
inductive Arranged (clusterer : Clusterer S Model W) (before after : Session S × W) : Prop
  /-- There is nothing to lay out. -/
  | bare (empty : Layout.texts before.1.maps = []) (same : after = before)
  /-- There is a point for every text. -/
  | placed (points : List (S × S))
      (answered : (placeTexts clusterer (Layout.texts before.1.maps)).run.run before.2 =
        (.ok points, after.2))
      (enough : points.length = (Layout.texts before.1.maps).length)
      (rest : after.1 = { before.1 with maps := after.1.maps })
      (placed : Layout.Placed points before.1.maps after.1.maps)
      (pinned : Layout.Pinned points before.1.maps after.1.maps)
  /-- There are no points, or not as many as texts. -/
  | unplaced (answer : Except Error (List (S × S)))
      (answered : (placeTexts clusterer (Layout.texts before.1.maps)).run.run before.2 =
        (answer, after.2))
      (unfit : ∀ points, answer = .ok points → points.length ≠ (Layout.texts before.1.maps).length)
      (same : after.1 = before.1)

/-- Laying out succeeds, and it either pins every entry or changes none. -/
theorem arrange_arranged (clusterer : Clusterer S Model W) (before : Session S × W) :
    ∃ after, Yields (arrange clusterer) before () after ∧ Arranged clusterer before after := by
  obtain ⟨after, arranged, ⟨empty, same⟩ | ⟨refusal, answered, same⟩ | ⟨points, answered, moved⟩⟩ :=
    arrange_answered clusterer before
  · exact ⟨after, arranged, .bare empty same⟩
  · refine ⟨after, arranged, .unplaced _ answered ?_ same⟩
    intro points impossible
    cases impossible
  · refine ⟨after, arranged, ?_⟩
    rw [moveClusters] at moved
    split at moved
    · next enough =>
      have placed := Layout.placed_place points before.1.maps
      have maps : after.1.maps = Layout.place points before.1.maps := by rw [moved]
      rw [← maps] at placed moved
      exact .placed points answered enough moved placed (placed.pinned enough)
    · next unfit =>
      refine .unplaced _ answered ?_ moved
      intro points' same
      cases same
      exact unfit

variable [Scalar S]

/-- Points go to the clusters in the order in which their texts are listed. After a run that is not
skipped, either every entry lies at the point of the text of its cluster, or laying out has changed
none. -/
theorem points_follow_texts :
    (∀ maps : ClusterMaps S, Layout.Ordered maps ∧
      ∀ points, Layout.Placed points maps (Layout.place points maps)) ∧
    ∀ (clusterer : Clusterer S Model W) (before : Session S × W),
      (∃ after, Yields (arrange clusterer) before () after ∧ Arranged clusterer before after) ∧
      ∀ comparer status after, Yields (run clusterer comparer) before status after →
        (∃ reason, status = .skipped reason ∧ after = before) ∨
        ∃ rated, Nonempty (Course clusterer comparer before rated) ∧
          Arranged clusterer rated after := by
  constructor
  · intro maps
    exact ⟨Layout.ordered maps, fun points => Layout.placed_place points maps⟩
  · intro clusterer before
    refine ⟨arrange_arranged clusterer before, ?_⟩
    intro comparer status after ran
    rcases run_follows ran with ⟨reason, _, skipped, same⟩ | ⟨_, rated, course, yielded⟩
    · exact .inl ⟨reason, skipped, same⟩
    · obtain ⟨after', yielded', arranged⟩ := arrange_arranged clusterer rated
      cases yields_unique yielded yielded'
      exact .inr ⟨rated, course, arranged⟩

/-- A clusterer that answers from tables and lays three texts out in a row. -/
def rowed : Clusterer Float Unit Unit :=
  { tabled (.ofList [(0, 3), (1, 7)])
      (.ofList [(1, ⟨true, some 7, 1, 1⟩), (2, ⟨false, some 7, 1, 0⟩)]) with
    distances := fun _ => pure []
    place := fun _ => pure [(0, 0), (1, 0), (2, 0)] }

theorem points_follow_texts_rowed :
    ∃ score unknown anomalies after,
      Yields (run rowed ⟨fun _ _ => [], fun _ _ => []⟩) (start diskStore .default {} none, ())
        (.completed score unknown anomalies) after ∧
      ∃ rated : Session Float × Unit,
        Layout.Pinned [(0, 0), (1, 0), (2, 0)] rated.1.maps after.1.maps := by
  have done : completes (run rowed ⟨fun _ _ => [], fun _ _ => []⟩)
      (start diskStore .default {} none, ()) = true := by
    decide +kernel
  have shown : (Layout.texts ((run rowed ⟨fun _ _ => [], fun _ _ => []⟩).run.run
      (start diskStore .default {} none, ())).2.1.maps).length = 3 := by
    decide +kernel
  obtain ⟨score, unknown, anomalies, after, ran⟩ := yields_of_completes done
  rw [ran] at shown
  refine ⟨score, unknown, anomalies, after, ran, ?_⟩
  rcases (points_follow_texts.2 rowed _).2 _ _ _ ran with
    ⟨reason, skipped, _⟩ | ⟨rated, _, arranged⟩
  · cases skipped
  · refine ⟨rated, ?_⟩
    cases arranged with
    | bare empty same => simp [same, empty] at shown
    | placed points answered _ _ _ pinned =>
      cases answered
      exact pinned
    | unplaced answer answered unfit same =>
      cases answered
      rw [same] at shown
      exact (unfit _ rfl shown.symm).elim

end Session

end LogDrift
