import LogDrift.Proofs.Unknown.Baseline

/-!
# What alerts say

An unknown message is compared with one baseline text: the live text of its control cluster, or else
that of an ignored cluster, or else that of a cluster with feedback. What the comparer answers
decides about two fields of the entry. The other entries have no part in it.
-/

namespace LogDrift

namespace Unknown

variable {S : Type} {control : ClusterMap (ControlEntry S)} {known : KnownClusters} {label : Label}

/-! ## Baselines -/

/-- The entry of a control cluster on the least of its hosts. -/
structure IsFirst (control : ClusterMap (ControlEntry S)) (label : Label) (host : String)
    (entry : ControlEntry S) : Prop where
  present : control.find? label host = some entry
  least : ∀ other, (control.find? label other).isSome → host = other ∨ host < other

/-- The text that messages with a label are compared with. A level is asked only where those before
it have no text, and a control cluster without hosts has none. -/
inductive Baseline (control : ClusterMap (ControlEntry S)) (known : KnownClusters) (label : Label) :
    Option String → Prop
  | live {host : String} {entry : ControlEntry S} (first : IsFirst control label host entry) :
      Baseline control known label (some entry.text)
  | ignored {text : String} (bare : ∀ host, control.find? label host = none)
      (listed : known.ignored.get? label = some text) : Baseline control known label (some text)
  | feedback {text : String} (bare : ∀ host, control.find? label host = none)
      (unlisted : known.ignored.get? label = none)
      (given : known.feedback.get? label = some text) : Baseline control known label (some text)
  | none (bare : ∀ host, control.find? label host = none)
      (unlisted : known.ignored.get? label = none)
      (withheld : known.feedback.get? label = none) : Baseline control known label none

/-- The live text is that of the first entry, and only clusters without hosts have none. -/
theorem liveText_cases (control : ClusterMap (ControlEntry S)) (label : Label) :
    (∃ host entry, IsFirst control label host entry ∧ liveText control label = some entry.text) ∨
      (∀ host, control.find? label host = none) ∧ liveText control label = none := by
  simp only [liveText, ClusterMap.find?]
  cases found : control.get? label with
  | none => exact .inr ⟨fun _ => rfl, rfl⟩
  | some hosts =>
    cases head : hosts.values.head? with
    | none => exact .inr ⟨SortedMap.get?_of_head?_values head, by simp [head]⟩
    | some entry =>
      obtain ⟨host, present, least⟩ := SortedMap.exists_of_head?_values head
      refine .inl ⟨host, entry, ⟨?_, ?_⟩, by simp [head]⟩
      · rw [ClusterMap.find?_of_get? found, present]
      · intro other occupied
        rw [ClusterMap.find?_of_get? found] at occupied
        exact (least other occupied).imp_right compareOfLessAndEq_eq_lt.1

theorem baseline_baselineText (control : ClusterMap (ControlEntry S)) (known : KnownClusters)
    (label : Label) : Baseline control known label (baselineText label control known) := by
  have levels : baselineText label control known =
    ((liveText control label).or (known.ignored.get? label)).or (known.feedback.get? label) := rfl
  rw [levels]
  rcases liveText_cases control label with ⟨host, entry, first, live⟩ | ⟨bare, live⟩
  · simpa [live] using Baseline.live first
  · cases listed : known.ignored.get? label with
    | some text => simpa [live] using Baseline.ignored bare listed
    | none =>
      cases given : known.feedback.get? label with
      | some text => simpa [live] using Baseline.feedback bare listed given
      | none => simpa [live] using Baseline.none bare listed given

theorem IsFirst.unique {host host' : String} {entry entry' : ControlEntry S}
    (first : IsFirst control label host entry) (first' : IsFirst control label host' entry') :
    entry = entry' := by
  have below := first.least host' (by simp [first'.present])
  have above := first'.least host (by simp [first.present])
  have same : host = host' := by grind
  exact Option.some.inj (first.present.symm.trans (same ▸ first'.present))

/-- No label has two baselines. -/
theorem Baseline.unique {text text' : Option String} (baseline : Baseline control known label text)
    (baseline' : Baseline control known label text') : text = text' := by
  cases baseline <;> cases baseline' <;> grind [IsFirst, IsFirst.unique]

theorem baselineText_eq_iff {text : Option String} :
    baselineText label control known = text ↔ Baseline control known label text := by
  constructor
  · rintro rfl
    exact baseline_baselineText control known label
  · exact (baseline_baselineText control known label).unique

/-! ## Alerts -/

variable [Scalar S] {comparer : Comparer S} {band : S × S}

/-- What comparing makes of an entry. -/
inductive Alert (comparer : Comparer S) (control : ClusterMap (ControlEntry S))
    (known : KnownClusters) (band : S × S) (entry : UnknownEntry S) : UnknownEntry S → Prop
  /-- There is nothing to compare it with. -/
  | unknown (baseline : Baseline control known entry.label none) :
      Alert comparer control known band entry entry
  /-- The comparer does not answer. -/
  | unanswered {base : String} (baseline : Baseline control known entry.label (some base))
      (answer : comparer.similarity base [entry.text] = []) :
      Alert comparer control known band entry entry
  /-- The texts are alike or unrelated. -/
  | outside {base : String} {score : S} {rest : List S}
      (baseline : Baseline control known entry.label (some base))
      (answer : comparer.similarity base [entry.text] = score :: rest)
      (out : ¬ (band.1 < score ∧ score < band.2)) :
      Alert comparer control known band entry { entry with alertScore := some score }
  /-- The texts are related, and their difference is listed. -/
  | inside {base : String} {score : S} {rest : List S}
      (baseline : Baseline control known entry.label (some base))
      (answer : comparer.similarity base [entry.text] = score :: rest)
      (above : band.1 < score) (below : score < band.2) :
      Alert comparer control known band entry { entry with
        alertScore := some score
        diffTags := (comparer.difference base [entry.text]).head? }

theorem alert_alerted (comparer : Comparer S) (control : ClusterMap (ControlEntry S))
    (known : KnownClusters) (band : S × S) (entry : UnknownEntry S) :
    Alert comparer control known band entry (alerted comparer control known band entry) := by
  have baseline := baseline_baselineText control known entry.label
  rw [alerted]
  cases found : baselineText entry.label control known with
  | none => exact .unknown (found ▸ baseline)
  | some base =>
    rw [found] at baseline
    cases answer : comparer.similarity base [entry.text] with
    | nil => simpa [compared, answer] using Alert.unanswered baseline answer
    | cons score rest =>
      simp only [compared, answer, List.head?_cons]
      split
      · next within => exact .inside baseline answer within.1 within.2
      · next out => exact .outside baseline answer out

/-- An alert is settled by the entry itself. -/
theorem alerted_eq_iff {entry entry' : UnknownEntry S} :
    alerted comparer control known band entry = entry' ↔
      Alert comparer control known band entry entry' := by
  constructor
  · rintro rfl
    exact alert_alerted comparer control known band entry
  · intro alert
    cases alert with
    | unknown baseline => simp [alerted, baselineText_eq_iff.2 baseline]
    | unanswered baseline answer =>
      simp [alerted, baselineText_eq_iff.2 baseline, compared, answer]
    | outside baseline answer out =>
      simp [alerted, baselineText_eq_iff.2 baseline, compared, answer, out]
    | inside baseline answer above below =>
      simp [alerted, baselineText_eq_iff.2 baseline, compared, answer, above, below]

/-- What comparing makes of the unknown clusters. -/
structure Alerts (comparer : Comparer S) (control : ClusterMap (ControlEntry S))
    (known : KnownClusters) (band : S × S) (before after : ClusterMap (UnknownEntry S)) : Prop where
  /-- Clusters keep their labels and hosts. -/
  hosts : after.mapValues SortedMap.keys = before.mapValues SortedMap.keys
  /-- Each entry gets its own alert. -/
  entries : ∀ cluster host entry', after.find? cluster host = some entry' ↔
    ∃ entry, before.find? cluster host = some entry ∧
      Alert comparer control known band entry entry'
  /-- Nothing but the score and the difference of an entry changes. -/
  kept : ∀ cluster host entry entry', before.find? cluster host = some entry →
    after.find? cluster host = some entry' →
      entry' = { entry with alertScore := entry'.alertScore, diffTags := entry'.diffTags }
  /-- An entry comes out the same among other entries, in whatever place. -/
  alone : ∀ others cluster host cluster' host',
    before.find? cluster host = others.find? cluster' host' → after.find? cluster host =
      (attachAlerts comparer control known band others).find? cluster' host'

theorem find?_attachAlerts (comparer : Comparer S) (control : ClusterMap (ControlEntry S))
    (known : KnownClusters) (band : S × S) (clusters : ClusterMap (UnknownEntry S))
    (cluster : Label) (host : String) :
    (attachAlerts comparer control known band clusters).find? cluster host =
      (clusters.find? cluster host).map (alerted comparer control known band) :=
  ClusterMap.find?_contents _ clusters cluster host

/-- Every entry of the unknown clusters is compared by itself, and only what the comparer answers
about its baseline text changes. -/
theorem attachAlerts_alerts (comparer : Comparer S) (control : ClusterMap (ControlEntry S))
    (known : KnownClusters) (band : S × S) (clusters : ClusterMap (UnknownEntry S)) :
    Alerts comparer control known band clusters
      (attachAlerts comparer control known band clusters) where
  hosts := by
    simp [attachAlerts]
  entries cluster host entry' := by
    rw [find?_attachAlerts, Option.map_eq_some_iff]
    simp only [alerted_eq_iff]
  kept := by
    intro cluster host entry entry' present summed
    rw [find?_attachAlerts, present, Option.map_some, Option.some.injEq, alerted_eq_iff] at summed
    cases summed <;> rfl
  alone := by
    intro others cluster host cluster' host' same
    rw [find?_attachAlerts, find?_attachAlerts, same]

end Unknown

end LogDrift
