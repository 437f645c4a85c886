import LogDrift.Matching.Test
import LogDrift.Proofs.Map.Sorted

/-!
# Filing events under clusters and hosts

A cluster map holds a list of events when every entry has the text of the first event of its cluster
and host and the occurrences of all of them in order, and there is no other entry. The maps that a
run builds are compared with the events through this relation, which adding one event more keeps.
-/

namespace LogDrift

variable {S E C : Type}

/-- What an event says, whatever label and scores it carries. -/
def Event.content (event : Event S) : String × List Occurrence :=
  (event.text, event.occurrences)

/-- What an unmatched event says. -/
def UnknownEvent.content (event : UnknownEvent S) : String × List Occurrence :=
  (event.text, event.occurrences)

/-- What is collected in an entry. -/
def ControlEntry.content (entry : ControlEntry S) : String × List Occurrence :=
  (entry.text, entry.occurrences)

/-- What is collected in an entry. -/
def TestEntry.content (entry : TestEntry S) : String × List Occurrence :=
  (entry.text, entry.occurrences)

/-- What is collected in an entry. -/
def UnknownEntry.content (entry : UnknownEntry S) : String × List Occurrence :=
  (entry.text, entry.occurrences)

namespace EventMap

/-- All events in store order. -/
def all (events : EventMap S) : List (Event S) :=
  events.values.flatten

theorem all_eq_flatMap (events : EventMap S) : events.all = events.entries.flatMap Prod.snd :=
  List.flatMap_def.symm

theorem mem_all {events : EventMap S} {event : Event S} :
    event ∈ events.all ↔ ∃ entry ∈ events.entries, event ∈ entry.2 := by
  rw [all_eq_flatMap, List.mem_flatMap]

/-- The contents of all events in store order, by the key they are kept under. -/
def contents (events : EventMap S) : List (Label × List (String × List Occurrence)) :=
  events.entries.map fun entry => (entry.1, entry.2.map Event.content)

theorem content_all (events : EventMap S) :
    events.all.map Event.content = events.contents.flatMap Prod.snd := by
  rw [all_eq_flatMap, contents, List.map_flatMap, List.flatMap_map]

end EventMap

namespace Event

/-- The text of the first event with a label and a host, and the occurrences of all of them. -/
def filed (events : List (Event S)) (cluster : Label) (host : String) :
    Option (String × List Occurrence) :=
  let here := events.filter fun event => event.label = cluster && event.host = host
  here.head?.map fun first => (first.text, here.flatMap Event.occurrences)

/-- What an entry holds after another event has come. -/
def addTo (event : Event S) : Option (String × List Occurrence) → String × List Occurrence
  | none => event.content
  | some (text, occurrences) => (text, occurrences ++ event.occurrences)

theorem filed_append (events : List (Event S)) (event : Event S) (cluster : Label)
    (host : String) :
    filed (events ++ [event]) cluster host =
      if event.label = cluster ∧ event.host = host then
        some (event.addTo (filed events cluster host))
      else filed events cluster host := by
  by_cases here : event.label = cluster ∧ event.host = host
  · rw [if_pos here, filed, filed]
    have accepted : (decide (event.label = cluster) && decide (event.host = host)) = true := by
      simpa using here
    simp only [List.filter_append, List.filter_cons, accepted, List.filter_nil, if_true]
    cases found : events.filter fun event => event.label = cluster && event.host = host with
    | nil => simp [addTo, content]
    | cons first rest => simp [addTo]
  · rw [if_neg here, filed, filed]
    have refused : (decide (event.label = cluster) && decide (event.host = host)) = false := by
      simpa using here
    simp only [List.filter_append, List.filter_cons, refused, List.filter_nil, Bool.false_eq_true,
      if_false, List.append_nil]

end Event

namespace ClusterMap

theorem find?_eq_some_iff {clusters : ClusterMap E} {cluster : Label} {host : String} {entry : E} :
    find? clusters cluster host = some entry ↔
      ∃ hosts, clusters.get? cluster = some hosts ∧ hosts.get? host = some entry :=
  Option.bind_eq_some_iff

theorem find?_of_get? {clusters : ClusterMap E} {cluster : Label} {hosts : SortedMap String E}
    (found : clusters.get? cluster = some hosts) (host : String) :
    find? clusters cluster host = hosts.get? host := by
  rw [find?, found, Option.bind_some]

theorem find?_of_mem_entries {clusters : ClusterMap E} {cluster : Label × SortedMap String E}
    (present : cluster ∈ clusters.entries) {entry : String × E}
    (inside : entry ∈ cluster.2.entries) :
    find? clusters cluster.1 entry.1 = some entry.2 :=
  (find?_of_get? (SortedMap.get?_of_mem_entries present) _).trans
    (SortedMap.get?_of_mem_entries inside)

@[simp] theorem find?_alterEntry (clusters : ClusterMap E) (cluster : Label) (host : String)
    (update : Option E → E) (cluster' : Label) (host' : String) :
    find? (alterEntry clusters cluster host update) cluster' host' =
      if cluster = cluster' ∧ host = host' then some (update (find? clusters cluster host))
      else find? clusters cluster' host' := by
  rw [find?, find?, find?, alterEntry, SortedMap.get?_alter]
  by_cases sameCluster : cluster = cluster'
  · subst sameCluster
    rw [if_pos rfl, Option.bind_some, SortedMap.get?_alter]
    by_cases sameHost : host = host'
    · subst sameHost
      rw [if_pos rfl, if_pos ⟨rfl, rfl⟩]
      cases clusters.get? cluster <;> rfl
    · rw [if_neg sameHost, if_neg fun same => sameHost same.2]
      cases clusters.get? cluster <;> rfl
  · rw [if_neg sameCluster, if_neg fun same => sameCluster same.1]

/-- Opening a cluster adds no entry to it. -/
@[simp] theorem find?_alter_getD (clusters : ClusterMap E) (cluster : Label) (cluster' : Label)
    (host : String) :
    find? (clusters.alter cluster fun hosts => hosts.getD .empty) cluster' host =
      find? clusters cluster' host := by
  rw [find?, find?, SortedMap.get?_alter]
  split
  · next same =>
    subst same
    cases clusters.get? cluster <;> rfl
  · rfl

/-- The map with the contents of its entries. -/
def contents (content : E → C) (clusters : ClusterMap E) : ClusterMap C :=
  clusters.mapValues fun hosts => hosts.mapValues content

@[simp] theorem find?_contents (content : E → C) (clusters : ClusterMap E) (cluster : Label)
    (host : String) :
    find? (contents content clusters) cluster host =
      (find? clusters cluster host).map content := by
  rw [find?, find?, contents, SortedMap.get?_mapValues]
  cases clusters.get? cluster with
  | none => rfl
  | some hosts => simp

/-! ## Entries that all pass -/

/-- Whether every entry of a cluster map passes. -/
def All (clusters : ClusterMap E) (passes : E → Prop) : Prop :=
  ∀ cluster host entry, find? clusters cluster host = some entry → passes entry

@[simp] theorem all_empty (passes : E → Prop) : All .empty passes :=
  fun _ _ _ found => nomatch found

@[simp] theorem all_true (clusters : ClusterMap E) : All clusters fun _ => True :=
  fun _ _ _ _ => trivial

/-- All entries pass when those pass that stand under some label and some host. -/
theorem all_iff_values {clusters : ClusterMap E} {passes : E → Prop} :
    All clusters passes ↔ ∀ hosts ∈ clusters.values, ∀ entry ∈ hosts.values, passes entry := by
  constructor
  · intro all hosts member entry inside
    rcases SortedMap.mem_values_iff.1 member with ⟨cluster, present⟩
    rcases SortedMap.mem_values_iff.1 inside with ⟨host, held⟩
    exact all cluster host entry (find?_eq_some_iff.2 ⟨hosts, present, held⟩)
  · intro all cluster host entry found
    rcases find?_eq_some_iff.1 found with ⟨hosts, present, found⟩
    exact all hosts (SortedMap.mem_values_of_get? present) entry
      (SortedMap.mem_values_of_get? found)

instance {clusters : ClusterMap E} {passes : E → Prop} [DecidablePred passes] :
    Decidable (All clusters passes) :=
  decidable_of_iff _ all_iff_values.symm

theorem All.imp {clusters : ClusterMap E} {passes passes' : E → Prop} (all : All clusters passes)
    (weaker : ∀ entry, passes entry → passes' entry) : All clusters passes' :=
  fun cluster host entry found => weaker entry (all cluster host entry found)

theorem All.alterEntry {clusters : ClusterMap E} {passes : E → Prop} (all : All clusters passes)
    (cluster : Label) (host : String) {update : Option E → E}
    (updates : ∀ present, (∀ entry ∈ present, passes entry) → passes (update present)) :
    All (alterEntry clusters cluster host update) passes := by
  intro cluster' host' entry found
  rw [find?_alterEntry] at found
  split at found
  · cases found
    exact updates _ fun entry member => all cluster host entry member
  · exact all cluster' host' entry found

@[simp] theorem all_contents {content : E → C} {clusters : ClusterMap E} {passes : C → Prop} :
    All (contents content clusters) passes ↔ All clusters fun entry => passes (content entry) := by
  constructor
  · intro all cluster host entry found
    apply all cluster host
    rw [find?_contents, found, Option.map_some]
  · intro all cluster host entry found
    rw [find?_contents, Option.map_eq_some_iff] at found
    rcases found with ⟨inner, found, rfl⟩
    exact all cluster host inner found

/-- What passes by its contents passes wherever these are the same. -/
theorem All.of_contents {F : Type} {content : E → C} {content' : F → C} {clusters : ClusterMap E}
    {clusters' : ClusterMap F} (same : contents content' clusters' = contents content clusters)
    (passes : C → Prop) (all : All clusters fun entry => passes (content entry)) :
    All clusters' fun entry => passes (content' entry) := by
  rw [← all_contents, same]
  exact all_contents.2 all

/-! ## Entries that hold events -/

/-- A map holds exactly some events, each under its label and its host. -/
def Holds (content : E → String × List Occurrence) (clusters : ClusterMap E)
    (events : List (Event S)) : Prop :=
  ∀ cluster host, (find? clusters cluster host).map content = Event.filed events cluster host

theorem Holds.of_contents {F : Type} {content : E → String × List Occurrence}
    {content' : F → String × List Occurrence} {clusters : ClusterMap E} {clusters' : ClusterMap F}
    {events : List (Event S)} (same : contents content' clusters' = contents content clusters)
    (holds : Holds content clusters events) : Holds content' clusters' events := by
  intro cluster host
  rw [← find?_contents, same, find?_contents]
  exact holds cluster host

@[simp] theorem holds_empty (content : E → String × List Occurrence) :
    Holds content .empty ([] : List (Event S)) :=
  fun _ _ => rfl

/-- A map that holds an event has an entry for it, with its occurrences among those of others. -/
theorem Holds.exists_entry {content : E → String × List Occurrence} {clusters : ClusterMap E}
    {events : List (Event S)} (holds : Holds content clusters events) {event : Event S}
    (member : event ∈ events) :
    ∃ entry, find? clusters event.label event.host = some entry ∧
      event.occurrences <:+: (content entry).2 := by
  have here : event ∈ events.filter fun other =>
      other.label = event.label && other.host = event.host :=
    List.mem_filter.2 ⟨member, by simp⟩
  have held := holds event.label event.host
  rw [Event.filed, List.head?_eq_some_head (List.ne_nil_of_mem here), Option.map_some,
    Option.map_eq_some_iff] at held
  rcases held with ⟨entry, present, same⟩
  refine ⟨entry, present, ?_⟩
  rw [same, List.flatMap_def]
  exact List.infix_of_mem_flatten (List.mem_map_of_mem here)

/-- Filing one event more, under its label and its host. -/
theorem Holds.collect {content : E → String × List Occurrence} {clusters : ClusterMap E}
    {events : List (Event S)} (holds : Holds content clusters events) (event : Event S)
    {update : Option E → E}
    (adds : ∀ present, content (update present) = event.addTo (present.map content)) :
    Holds content (alterEntry clusters event.label event.host update) (events ++ [event]) := by
  intro cluster host
  rw [find?_alterEntry, Event.filed_append]
  by_cases here : event.label = cluster ∧ event.host = host
  · rcases here with ⟨rfl, rfl⟩
    rw [if_pos ⟨rfl, rfl⟩, if_pos ⟨rfl, rfl⟩, Option.map_some, adds, holds]
  · rw [if_neg here, if_neg here]
    exact holds cluster host

end ClusterMap

end LogDrift
