import LogDrift.Proofs.Matching.Filing
import LogDrift.Unknown.Alert
import LogDrift.Unknown.Score

/-!
# The records of unknown clusters

Grouping files every unmatched event under its host in some cluster. Which cluster that is depends
on the clusterer; counted over all clusters, the occurrences kept for a host are those of the
unmatched events on that host. Scoring and comparing with baseline texts touch neither texts nor
occurrences.
-/

namespace LogDrift

variable {S E C : Type}

namespace ClusterMap

/-- The entries of all clusters on a host. -/
def entriesAt (clusters : ClusterMap E) (host : String) : List E :=
  clusters.values.filterMap fun hosts => hosts.get? host

@[simp] theorem entriesAt_contents (content : E → C) (clusters : ClusterMap E) (host : String) :
    entriesAt (contents content clusters) host = (entriesAt clusters host).map content := by
  rw [entriesAt, entriesAt, contents, SortedMap.values_mapValues, List.filterMap_map,
    List.map_filterMap]
  congr 1
  funext hosts
  exact SortedMap.get?_mapValues hosts content host

theorem mem_entriesAt_of_find? {clusters : ClusterMap E} {cluster : Label} {host : String}
    {entry : E} (found : find? clusters cluster host = some entry) :
    entry ∈ entriesAt clusters host := by
  rcases find?_eq_some_iff.1 found with ⟨hosts, present, found⟩
  exact List.mem_filterMap.2 ⟨hosts, SortedMap.mem_values_of_get? present, found⟩

/-- Altering a cluster replaces its entry on a host, if it has one, and keeps the entries of all
other clusters there. -/
theorem perm_entriesAt_alter (clusters : ClusterMap E) (cluster : Label) (host : String)
    (update : Option (SortedMap String E) → SortedMap String E) :
    ∃ others, (entriesAt clusters host).Perm ((find? clusters cluster host).toList ++ others) ∧
      (entriesAt (clusters.alter cluster update) host).Perm
        (((update (clusters.get? cluster)).get? host).toList ++ others) := by
  rcases SortedMap.perm_values_alter clusters cluster update with ⟨others, before, after⟩
  refine ⟨others.filterMap fun hosts => hosts.get? host, ?_, ?_⟩
  · have image := before.filterMap fun hosts => hosts.get? host
    rw [List.filterMap_append] at image
    rw [find?]
    cases present : clusters.get? cluster with
    | none =>
      rw [present] at image
      exact image
    | some hosts =>
      rw [present] at image
      cases found : hosts.get? host with
      | none => simpa [entriesAt, found] using image
      | some entry => simpa [entriesAt, found] using image
  · have image := after.filterMap fun hosts => hosts.get? host
    cases found : (update (clusters.get? cluster)).get? host with
    | none => simpa [entriesAt, found] using image
    | some entry => simpa [entriesAt, found] using image

end ClusterMap

namespace Unknown

/-- The occurrences kept for a host in all unknown clusters together. -/
def recordsAt (clusters : ClusterMap (UnknownEntry S)) (host : String) : List Occurrence :=
  (clusters.entriesAt host).flatMap UnknownEntry.occurrences

/-- The occurrences of the events on a host. -/
def hostRecords (events : List (UnknownEvent S)) (host : String) : List Occurrence :=
  (events.filter fun event => event.host = host).flatMap UnknownEvent.occurrences

theorem recordsAt_of_contents {clusters clusters' : ClusterMap (UnknownEntry S)}
    (same : ClusterMap.contents UnknownEntry.content clusters' =
      ClusterMap.contents UnknownEntry.content clusters) (host : String) :
    recordsAt clusters' host = recordsAt clusters host := by
  have through : ∀ clusters : ClusterMap (UnknownEntry S), recordsAt clusters host =
      (ClusterMap.entriesAt (ClusterMap.contents UnknownEntry.content clusters) host).flatMap
        Prod.snd := by
    intro clusters
    rw [ClusterMap.entriesAt_contents, List.flatMap_map]
    rfl
  rw [through, through, same]

variable [Scalar S]

/-- An event adds its occurrences under its host. -/
theorem perm_recordsAt_collect (cluster : Label) (clusters : ClusterMap (UnknownEntry S))
    (event : UnknownEvent S) (host : String) :
    (recordsAt (collect cluster clusters event) host).Perm
      (recordsAt clusters host ++ hostRecords [event] host) := by
  rcases ClusterMap.perm_entriesAt_alter clusters cluster host (fun hosts =>
    (hosts.getD .empty).alter event.host fun present =>
      let entry := present.getD {
        text := event.text
        label := event.label
        occurrences := []
        controlScore := event.controlScore
        testScore := 0 }
      { entry with
        occurrences := entry.occurrences ++ event.occurrences
        pending :=
          entry.pending ++ [(event.testScore, Occurrence.meanCount event.occurrences)] })
    with ⟨others, before, after⟩
  have before := before.flatMap_right UnknownEntry.occurrences
  have after := after.flatMap_right UnknownEntry.occurrences
  refine after.trans (.trans ?_ (before.symm.append_right _))
  rw [SortedMap.get?_alter, ClusterMap.find?]
  by_cases here : event.host = host
  · subst here
    have there : hostRecords [event] event.host = event.occurrences := by simp [hostRecords]
    rw [if_pos rfl, there]
    cases clusters.get? cluster with
    | none => simpa using List.perm_append_comm
    | some hosts =>
      simp only [Option.getD_some, Option.bind_some]
      cases hosts.get? event.host with
      | none => simpa using List.perm_append_comm
      | some entry =>
        simp only [Option.toList_some, List.singleton_append, List.flatMap_cons, Option.getD_some,
          List.append_assoc]
        exact List.perm_append_comm.append_left entry.occurrences
  · have elsewhere : hostRecords [event] host = [] := by simp [hostRecords, here]
    rw [if_neg here, elsewhere, List.append_nil]
    cases clusters.get? cluster <;> exact .refl _

omit [Scalar S] in
@[simp] theorem hostRecords_append (left right : List (UnknownEvent S)) (host : String) :
    hostRecords (left ++ right) host = hostRecords left host ++ hostRecords right host := by
  simp [hostRecords]

theorem perm_recordsAt_foldl (cluster : Label) (group : List (UnknownEvent S))
    (clusters : ClusterMap (UnknownEntry S)) (host : String) :
    (recordsAt (group.foldl (collect cluster) clusters) host).Perm
      (recordsAt clusters host ++ hostRecords group host) := by
  induction group generalizing clusters with
  | nil => simp [hostRecords]
  | cons event rest ih =>
    have first := perm_recordsAt_collect cluster clusters event host
    have split := hostRecords_append [event] rest host
    rw [List.singleton_append] at split
    rw [List.foldl_cons, split, ← List.append_assoc]
    exact (ih _).trans (first.append_right _)

/-- A group adds the occurrences of its events. -/
theorem perm_recordsAt_addGroup (grouping : Grouping S) (cluster : Label)
    (group : List (UnknownEvent S)) (host : String) :
    (recordsAt (addGroup grouping cluster group).clusters host).Perm
      (recordsAt grouping.clusters host ++ hostRecords group host) := by
  refine (perm_recordsAt_foldl cluster group _ host).trans (.append_right _ ?_)
  rcases ClusterMap.perm_entriesAt_alter grouping.clusters cluster host (fun hosts =>
    hosts.getD .empty) with ⟨others, before, after⟩
  have same : ((grouping.clusters.get? cluster).getD SortedMap.empty).get? host =
      grouping.clusters.find? cluster host := by
    rw [ClusterMap.find?]
    cases grouping.clusters.get? cluster <;> rfl
  rw [same] at after
  exact (after.trans before.symm).flatMap_right _

/-- Adds one numbered group to the cluster that is assigned to its number. -/
def groupStep (assignments : SortedMap Label Label) (grouping : Grouping S)
    (numbered : List (UnknownEvent S) × Nat) : Except Error (Grouping S) :=
  match assignments.get? (numbered.2 : Int) with
  | none => .error (unassigned numbered.2)
  | some cluster => .ok (addGroup grouping cluster numbered.1)

theorem groupEvents_eq (groups : List (List (UnknownEvent S)))
    (assignments : SortedMap Label Label) :
    groupEvents groups assignments = groups.zipIdx.foldlM (groupStep assignments) {} := rfl

theorem perm_recordsAt_foldlM {assignments : SortedMap Label Label}
    (numbered : List (List (UnknownEvent S) × Nat)) {grouping grouping' : Grouping S}
    (grouped : numbered.foldlM (groupStep assignments) grouping = .ok grouping') (host : String) :
    (recordsAt grouping'.clusters host).Perm
      (recordsAt grouping.clusters host ++
        hostRecords (numbered.map Prod.fst).flatten host) := by
  induction numbered generalizing grouping with
  | nil =>
    cases grouped
    simp [hostRecords]
  | cons head rest ih =>
    rw [List.foldlM_cons, groupStep] at grouped
    cases assigned : assignments.get? (head.2 : Int) with
    | none =>
      rw [assigned] at grouped
      cases grouped
    | some cluster =>
      rw [assigned] at grouped
      refine (ih grouped).trans ?_
      rw [List.map_cons, List.flatten_cons, hostRecords_append, ← List.append_assoc]
      exact (perm_recordsAt_addGroup grouping cluster head.1 host).append_right _

/-- Grouping keeps every occurrence of every group under its host, and nothing else. -/
theorem perm_recordsAt_groupEvents {groups : List (List (UnknownEvent S))}
    {assignments : SortedMap Label Label} {grouping : Grouping S}
    (grouped : groupEvents groups assignments = .ok grouping) (host : String) :
    (recordsAt grouping.clusters host).Perm (hostRecords groups.flatten host) := by
  rw [groupEvents_eq] at grouped
  have kept := perm_recordsAt_foldlM groups.zipIdx grouped host
  rw [List.zipIdx_map_fst] at kept
  exact kept

/-! ## Scores and alerts -/

theorem contents_scoreEvents {content : UnknownEntry S → C}
    (keeps : ∀ entry testScore pending,
      content { entry with testScore, pending } = content entry) (grouping : Grouping S) :
    ClusterMap.contents content (scoreEvents grouping).clusters =
      ClusterMap.contents content grouping.clusters := by
  have same : ∀ entry, content (settled entry) = content entry := fun entry => keeps entry _ _
  rw [ClusterMap.contents, scoreEvents, SortedMap.mapValues_mapValues]
  simp only [SortedMap.mapValues_mapValues, same]
  rfl

/-- Once the clusters are scored, nothing is left to be summed up. -/
theorem settled_scoreEvents (grouping : Grouping S) :
    (scoreEvents grouping).clusters.All fun entry => entry.pending = [] := by
  intro cluster host entry found
  rcases ClusterMap.find?_eq_some_iff.1 found with ⟨hosts, present, found⟩
  rw [scoreEvents, SortedMap.get?_mapValues, Option.map_eq_some_iff] at present
  rcases present with ⟨unsettled, _, rfl⟩
  rw [SortedMap.get?_mapValues, Option.map_eq_some_iff] at found
  rcases found with ⟨before, _, rfl⟩
  rfl

/-- Comparing an entry with its baseline text keeps what does not depend on the alert. -/
theorem content_alerted {content : UnknownEntry S → C}
    (keeps : ∀ entry alertScore diffTags,
      content { entry with alertScore, diffTags } = content entry)
    (comparer : Comparer S) (control : ClusterMap (ControlEntry S))
    (known : KnownClusters) (band : S × S) (entry : UnknownEntry S) :
    content (alerted comparer control known band entry) = content entry := by
  rw [alerted]
  split
  · rfl
  · rw [compared]
    split
    · rfl
    · split
      · exact keeps entry _ _
      · exact keeps entry _ _

theorem contents_attachAlerts {content : UnknownEntry S → C}
    (keeps : ∀ entry alertScore diffTags,
      content { entry with alertScore, diffTags } = content entry)
    (comparer : Comparer S) (control : ClusterMap (ControlEntry S))
    (known : KnownClusters) (band : S × S) (clusters : ClusterMap (UnknownEntry S)) :
    ClusterMap.contents content (attachAlerts comparer control known band clusters) =
      ClusterMap.contents content clusters := by
  rw [ClusterMap.contents, attachAlerts, SortedMap.mapValues_mapValues]
  simp only [SortedMap.mapValues_mapValues, content_alerted keeps]
  rfl

end Unknown

end LogDrift
