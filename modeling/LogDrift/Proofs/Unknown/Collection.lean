import LogDrift.Proofs.Exact.Scalar
import LogDrift.Proofs.Numeral.Wrapping
import LogDrift.Proofs.Unknown.Records

/-!
# What secondary clusters collect

Groups are collected until one has no cluster. Where all have one, the clusters are those that the
groups are assigned to, and the entry of a cluster on a host is made of the events on that host in all
groups of the cluster, in their order: the first of them gives it its text, label and control score,
and every one adds its occurrences and its weighted score. The weight is the mean of the counts as
long as these add up to an integer of 64 bits.
-/

namespace LogDrift

namespace SortedMap

variable {K V W : Type} [Ord K] [Std.TransOrd K]

/-- Which keys a map has after one was altered does not depend on the values. -/
theorem keys_alter_congr {map : SortedMap K V} {map' : SortedMap K W} (same : map.keys = map'.keys)
    (key : K) (update : Option V → V) (update' : Option W → W) :
    (map.alter key update).keys = (map'.alter key update').keys := by
  have all : ∀ (entries : List (K × V)) (entries' : List (K × W)),
      entries.map Prod.fst = entries'.map Prod.fst →
      (updateEntries key update entries).map Prod.fst =
        (updateEntries key update' entries').map Prod.fst := by
    intro entries
    induction entries with
    | nil =>
      intro entries' same
      rw [List.map_eq_nil_iff.1 same.symm]
      rfl
    | cons head rest ih =>
      intro entries' same
      cases entries' with
      | nil => cases same
      | cons head' rest' =>
        obtain ⟨first, later⟩ := List.cons.inj same
        unfold updateEntries
        rw [← first]
        cases compare key head.1 with
        | lt => simp [first, later]
        | eq => simp [first, later]
        | gt => simp [first, ih rest' later]
  exact all map.entries map'.entries same

/-- Altering a key that is there brings in no other. -/
theorem keys_alter_of_mem [Std.LawfulEqOrd K] [DecidableEq K] {map : SortedMap K V} {key : K}
    (present : key ∈ map.keys) (update : Option V → V) : (map.alter key update).keys = map.keys := by
  obtain ⟨value, found⟩ := Option.isSome_iff_exists.1 (mem_keys_iff.1 present)
  rw [keys_alter_congr rfl key update fun _ => value]
  exact congrArg keys (insert_of_get? found)

end SortedMap

namespace Unknown

variable {S : Type} [Scalar S]

/-! ## Events of one entry -/

/-- The entry that events make in their order, if there are any. -/
def gathered : List (UnknownEvent S) → Option (UnknownEntry S)
  | [] => none
  | first :: rest => some {
      text := first.text
      label := first.label
      occurrences := (first :: rest).flatMap UnknownEvent.occurrences
      controlScore := first.controlScore
      testScore := 0
      pending := (first :: rest).map fun event =>
        (event.testScore, Occurrence.meanCount event.occurrences) }

omit [Scalar S] in
/-- The events on a host in those of some numbered groups that are assigned to a cluster, in order. -/
def eventsAt (assignments : SortedMap Label Label) (numbered : List (List (UnknownEvent S) × Nat))
    (cluster : Label) (host : String) : List (UnknownEvent S) :=
  ((numbered.filter fun entry => assignments.get? (entry.2 : Int) = some cluster).flatMap
    Prod.fst).filter fun event => event.host = host

omit [Scalar S] in
theorem eventsAt_append (assignments : SortedMap Label Label)
    (left right : List (List (UnknownEvent S) × Nat)) (cluster : Label) (host : String) :
    eventsAt assignments (left ++ right) cluster host =
      eventsAt assignments left cluster host ++ eventsAt assignments right cluster host := by
  simp [eventsAt]

omit [Scalar S] in
theorem exists_group_of_mem_eventsAt {assignments : SortedMap Label Label}
    {groups : List (List (UnknownEvent S))} {cluster : Label} {host : String}
    {event : UnknownEvent S} (inside : event ∈ eventsAt assignments groups.zipIdx cluster host) :
    ∃ group ∈ groups, event ∈ group := by
  obtain ⟨entry, listed, held⟩ := List.mem_flatMap.1 (List.mem_filter.1 inside).1
  have numbered := List.mem_zipIdx_iff_getElem?.1 (List.mem_filter.1 listed).1
  exact ⟨entry.1, List.mem_of_getElem? numbered, held⟩

@[simp] theorem isSome_gathered {events : List (UnknownEvent S)} :
    (gathered events).isSome ↔ ∃ event, event ∈ events := by
  cases events with
  | nil => simp [gathered]
  | cons first rest => exact ⟨fun _ => ⟨first, .head _⟩, fun _ => rfl⟩

/-- One of the events gives their entry its label and control score. -/
theorem exists_event_of_gathered {events : List (UnknownEvent S)} {entry : UnknownEntry S}
    (found : gathered events = some entry) :
    ∃ event ∈ events, entry.label = event.label ∧ entry.controlScore = event.controlScore := by
  cases events with
  | nil => cases found
  | cons first rest =>
    cases found
    exact ⟨first, .head _, rfl, rfl⟩

/-- Collecting an event extends the entry of its cluster and host. -/
theorem find?_collect {clusters : ClusterMap (UnknownEntry S)} {cluster : Label}
    {event : UnknownEvent S} {cluster' : Label} {host : String} {events : List (UnknownEvent S)}
    (found : clusters.find? cluster' host = gathered events) :
    (collect cluster clusters event).find? cluster' host =
      gathered (if cluster = cluster' ∧ event.host = host then events ++ [event] else events) := by
  rw [collect, ClusterMap.find?_alterEntry]
  by_cases here : cluster = cluster' ∧ event.host = host
  · obtain ⟨rfl, rfl⟩ := here
    rw [if_pos ⟨rfl, rfl⟩, if_pos ⟨rfl, rfl⟩, found]
    cases events with
    | nil => simp [gathered]
    | cons first rest => simp [gathered]
  · rw [if_neg here, if_neg here, found]

theorem find?_foldl_collect {cluster cluster' : Label} {host : String}
    (group : List (UnknownEvent S)) {clusters : ClusterMap (UnknownEntry S)}
    {events : List (UnknownEvent S)} (found : clusters.find? cluster' host = gathered events) :
    (group.foldl (collect cluster) clusters).find? cluster' host = gathered (events ++
      if cluster = cluster' then group.filter fun event => event.host = host else []) := by
  induction group generalizing clusters events with
  | nil => simpa using found
  | cons event rest ih =>
    rw [List.foldl_cons, ih (find?_collect found)]
    by_cases same : cluster = cluster'
    · by_cases here : event.host = host
      · simp [same, here]
      · simp [same, here]
    · simp [same]

theorem keys_foldl_collect {cluster : Label} (group : List (UnknownEvent S))
    {clusters : ClusterMap (UnknownEntry S)} (present : cluster ∈ clusters.keys) :
    (group.foldl (collect cluster) clusters).keys = clusters.keys := by
  induction group generalizing clusters with
  | nil => rfl
  | cons event rest ih =>
    have kept : (collect cluster clusters event).keys = clusters.keys :=
      SortedMap.keys_alter_of_mem present _
    rw [List.foldl_cons, ih (kept ▸ present), kept]

/-! ## Groups -/

/-- What holds after some numbered groups were collected. -/
structure Collected (assignments : SortedMap Label Label)
    (numbered : List (List (UnknownEvent S) × Nat)) (grouping : Grouping S) : Prop where
  /-- The clusters are those that groups are assigned to. -/
  clusters : ∀ cluster, cluster ∈ grouping.clusters.keys ↔
    ∃ entry ∈ numbered, assignments.get? (entry.2 : Int) = some cluster
  scored : grouping.scores.keys = grouping.clusters.keys
  initial : ∀ cluster score, grouping.scores.get? cluster = some score → score = ⟨1, 1⟩
  /-- The events of a cluster and host make its entry. -/
  entries : ∀ cluster host, grouping.clusters.find? cluster host =
    gathered (eventsAt assignments numbered cluster host)

namespace Collected

variable {assignments : SortedMap Label Label} {numbered : List (List (UnknownEvent S) × Nat)}
  {grouping : Grouping S}

theorem start : Collected assignments [] ({} : Grouping S) where
  clusters cluster := by simp [SortedMap.keys]
  scored := rfl
  initial _ _ found := nomatch found
  entries _ _ := rfl

/-- One more group adds its events to the cluster that it is assigned to. -/
theorem addGroup (kept : Collected assignments numbered grouping) {number : Nat} {cluster : Label}
    (assigned : assignments.get? (number : Int) = some cluster) (group : List (UnknownEvent S)) :
    Collected assignments (numbered ++ [(group, number)])
      (Unknown.addGroup grouping cluster group) := by
  have opened : cluster ∈ (grouping.clusters.alter cluster fun hosts => hosts.getD .empty).keys := by
    rw [SortedMap.mem_keys_iff, SortedMap.get?_alter, if_pos rfl]
    rfl
  have keys : (Unknown.addGroup grouping cluster group).clusters.keys =
      (grouping.clusters.alter cluster fun hosts => hosts.getD .empty).keys :=
    keys_foldl_collect group opened
  constructor
  case clusters =>
    intro other
    rw [keys, SortedMap.mem_keys_iff, SortedMap.get?_alter]
    by_cases same : cluster = other
    · subst same
      simp [assigned]
    · rw [if_neg same, ← SortedMap.mem_keys_iff, kept.clusters]
      simp [or_and_right, exists_or, assigned, same]
  case scored =>
    rw [keys]
    exact SortedMap.keys_alter_congr kept.scored cluster _ _
  case initial =>
    intro other score found
    rw [Unknown.addGroup, SortedMap.get?_alter] at found
    by_cases same : cluster = other
    · rw [if_pos same, Option.some_inj] at found
      cases before : grouping.scores.get? cluster with
      | none =>
        rw [before] at found
        exact found.symm
      | some score =>
        rw [before] at found
        exact found ▸ kept.initial cluster score before
    · rw [if_neg same] at found
      exact kept.initial other score found
  case entries =>
    intro other host
    have before := kept.entries other host
    rw [← ClusterMap.find?_alter_getD grouping.clusters cluster] at before
    refine (find?_foldl_collect group before).trans (congrArg gathered ?_)
    rw [eventsAt_append]
    by_cases same : cluster = other
    · simp [eventsAt, assigned, same]
    · simp [eventsAt, assigned, same]

/-- Collecting numbered groups, all of which have clusters. -/
theorem foldlM (more : List (List (UnknownEvent S) × Nat)) {grouping' : Grouping S}
    (kept : Collected assignments numbered grouping)
    (grouped : more.foldlM (groupStep assignments) grouping = .ok grouping') :
    Collected assignments (numbered ++ more) grouping' := by
  induction more generalizing numbered grouping with
  | nil =>
    cases grouped
    rwa [List.append_nil]
  | cons head rest ih =>
    rw [List.foldlM_cons, groupStep] at grouped
    cases assigned : assignments.get? (head.2 : Int) with
    | none =>
      rw [assigned] at grouped
      cases grouped
    | some cluster =>
      rw [assigned] at grouped
      have later := ih (kept.addGroup assigned head.1) grouped
      rwa [List.append_assoc] at later

/-- The events of an entry are there when a group that is assigned to its cluster has one on its
host. -/
theorem isSome_find?_iff (kept : Collected assignments numbered grouping) (cluster : Label)
    (host : String) :
    (grouping.clusters.find? cluster host).isSome ↔ ∃ entry ∈ numbered,
      assignments.get? (entry.2 : Int) = some cluster ∧ ∃ event ∈ entry.1, event.host = host := by
  rw [kept.entries, isSome_gathered]
  simp only [eventsAt, List.mem_filter, List.mem_flatMap, decide_eq_true_iff]
  constructor
  · rintro ⟨event, ⟨entry, ⟨listed, assigned⟩, inside⟩, here⟩
    exact ⟨entry, listed, assigned, event, inside, here⟩
  · rintro ⟨entry, listed, assigned, event, inside, here⟩
    exact ⟨event, ⟨entry, ⟨listed, assigned⟩, inside⟩, here⟩

end Collected

/-! ## Refusals -/

/-- Collecting groups from some number on is refused for the first of them without a cluster. -/
theorem foldlM_eq_error_iff {assignments : SortedMap Label Label}
    (groups : List (List (UnknownEvent S))) (start : Nat) (grouping : Grouping S)
    (refusal : Error) :
    (groups.zipIdx start).foldlM (groupStep assignments) grouping = .error refusal ↔
      ∃ number, start ≤ number ∧ number < start + groups.length ∧
        assignments.get? (number : Int) = none ∧
        (∀ earlier : Nat, start ≤ earlier → earlier < number →
          (assignments.get? (earlier : Int)).isSome) ∧
        refusal = unassigned number := by
  induction groups generalizing start grouping with
  | nil =>
    constructor
    · exact fun grouped => nomatch grouped
    · rintro ⟨number, after, before, _⟩
      exact absurd after (Nat.not_le.2 before)
  | cons group rest ih =>
    rw [List.zipIdx_cons, List.foldlM_cons, groupStep, List.length_cons]
    cases assigned : assignments.get? (start : Int) with
    | none =>
      constructor
      · intro refused
        cases refused
        exact ⟨start, Nat.le_refl _, by omega, assigned, fun _ _ _ => by omega, rfl⟩
      · rintro ⟨number, after, before, _, earlier, rfl⟩
        rcases Nat.eq_or_lt_of_le after with rfl | after
        · rfl
        · have first := earlier start (Nat.le_refl _) after
          rw [assigned] at first
          contradiction
    | some cluster =>
      refine (ih (start + 1) _).trans ?_
      constructor
      · rintro ⟨number, after, before, absent, earlier, same⟩
        refine ⟨number, by omega, by omega, absent, fun other begins ends => ?_, same⟩
        rcases Nat.eq_or_lt_of_le begins with rfl | begins
        · rw [assigned]
          rfl
        · exact earlier other begins ends
      · rintro ⟨number, after, before, absent, earlier, same⟩
        have differ : start ≠ number := by
          rintro rfl
          rw [assigned] at absent
          contradiction
        exact ⟨number, by omega, by omega, absent,
          fun other begins ends => earlier other (by omega) ends, same⟩

theorem groupEvents_eq_error_iff {groups : List (List (UnknownEvent S))}
    {assignments : SortedMap Label Label} {refusal : Error} :
    groupEvents groups assignments = .error refusal ↔ ∃ number < groups.length,
      assignments.get? (number : Int) = none ∧
      (∀ earlier < number, (assignments.get? (earlier : Int)).isSome) ∧
      refusal = unassigned number := by
  rw [groupEvents_eq, foldlM_eq_error_iff]
  simp

/-- Groups are collected when every number has a cluster. -/
theorem groupEvents_total {groups : List (List (UnknownEvent S))}
    {assignments : SortedMap Label Label}
    (assigned : ∀ number : Nat, number < groups.length →
      (assignments.get? (number : Int)).isSome) :
    ∃ grouping, groupEvents groups assignments = .ok grouping := by
  cases grouped : groupEvents groups assignments with
  | ok grouping => exact ⟨grouping, rfl⟩
  | error refusal =>
    obtain ⟨number, inBounds, absent, _⟩ := groupEvents_eq_error_iff.1 grouped
    have present := assigned number inBounds
    rw [absent] at present
    contradiction

/-- When groups were collected, every number has a cluster. -/
theorem assigned_of_groupEvents {groups : List (List (UnknownEvent S))}
    {assignments : SortedMap Label Label} {grouping : Grouping S}
    (grouped : groupEvents groups assignments = .ok grouping) {number : Nat}
    (inBounds : number < groups.length) : (assignments.get? (number : Int)).isSome := by
  induction number using Nat.strongRecOn with
  | ind number earlier =>
    cases assigned : assignments.get? (number : Int) with
    | some cluster => rfl
    | none =>
      have refused := groupEvents_eq_error_iff.2 ⟨number, inBounds, assigned,
        fun other before => earlier other before (Nat.lt_trans before inBounds), rfl⟩
      rw [grouped] at refused
      cases refused

theorem collected_groupEvents {groups : List (List (UnknownEvent S))}
    {assignments : SortedMap Label Label} {grouping : Grouping S}
    (grouped : groupEvents groups assignments = .ok grouping) :
    Collected assignments groups.zipIdx grouping := by
  rw [groupEvents_eq] at grouped
  exact Collected.start.foldlM groups.zipIdx grouped

/-! ## Weights -/

/-- How occurrences are weighed. -/
structure Weighs (occurrences : List Occurrence) (total : Int) (weight : S) : Prop where
  /-- The weight is the mean of what the counts add up to. -/
  mean : weight = if occurrences = [] then 0 else Int.cast total / Scalar.ofNat occurrences.length
  /-- The counts are added up in sums that wrap around. -/
  wraps : total = Integer.wrap (Occurrence.counts occurrences).sum
  /-- They add up to their sum exactly when it fits into 64 bits. -/
  total_eq_iff : total = (Occurrence.counts occurrences).sum ↔
    Integer.Fits (Occurrence.counts occurrences).sum
  /-- Where sums are checked, there is the same total or none. -/
  checked : ∀ sum, Occurrence.totalCount? occurrences = some sum → total = sum

theorem weighs_meanCount (occurrences : List Occurrence) :
    Weighs occurrences (Occurrence.totalCount occurrences)
      (Occurrence.meanCount occurrences : S) where
  mean := by simp only [Occurrence.meanCount, List.isEmpty_iff]
  wraps := Occurrence.totalCount_eq_wrap occurrences
  total_eq_iff := Occurrence.totalCount_eq_sum_iff
  checked _ := Occurrence.totalCount_of_totalCount?

/-- Every event adds its score with its weight to its entry. -/
theorem forall₂_pending_gathered {events : List (UnknownEvent S)} {entry : UnknownEntry S}
    (found : gathered events = some entry) :
    List.Forall₂ (fun event pair => pair.1 = event.testScore ∧
      ∃ total, Weighs event.occurrences total pair.2) events entry.pending := by
  cases events with
  | nil => cases found
  | cons first rest =>
    cases found
    rw [List.forall₂_map_right_iff, List.forall₂_same]
    exact fun event _ => ⟨rfl, _, weighs_meanCount event.occurrences⟩

/-- An event on one host that was counted as often as can be, twice. -/
noncomputable def crowdedEvent : UnknownEvent ℝ where
  text := "link lost"
  label := 0
  occurrences := [{ count := Integer.greatest, host := "web" },
    { count := Integer.greatest, host := "web" }]
  controlScore := 1
  testScore := 0

end Unknown

end LogDrift
