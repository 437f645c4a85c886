import LogDrift.Proofs.Exact.Rounding
import LogDrift.Proofs.Unknown.Records

/-!
# The host that deviates most

Scoring sums up what is pending for every host. The first of the hosts that deviate most gives its
cluster the score, so that no host of the cluster has a greater one; where no host deviates, the score
stays as it was. Deviations are compared before they are rounded, which keeps their order.
-/

namespace LogDrift.Unknown

open Scalar (ExactRounding)

variable {S : Type} [Scalar S] {value : S → ℝ}

/-! ## Hosts of one cluster -/

/-- How far the weighted mean of the pending scores of a host is from its control score. -/
noncomputable def deviation (value : S → ℝ) (entry : UnknownEntry S) : ℝ :=
  |value entry.controlScore - value (weightedMean entry.pending)|

theorem deviation_nonneg (value : S → ℝ) (entry : UnknownEntry S) : 0 ≤ deviation value entry :=
  abs_nonneg _

theorem value_abs_shortfall (exact : ExactRounding value) (entry : UnknownEntry S) :
    value (Scalar.abs (shortfall entry)) = deviation value entry := by
  rw [exact.abs, shortfall, exact.sub, deviation]

/-- A host deviates when its deviation is positive. -/
theorem deviates_iff (exact : ExactRounding value) (entry : UnknownEntry S) :
    0 < Scalar.abs (shortfall entry) ↔ 0 < deviation value entry := by
  rw [exact.lt_iff, exact.zero, value_abs_shortfall exact]

/-- The score that a host gives its cluster. -/
def scoreBy (entry : UnknownEntry S) : UnknownScore S :=
  ⟨entry.controlScore, Scalar.roundHundredths (Scalar.abs (shortfall entry))⟩

theorem value_scoreBy (exact : ExactRounding value) (entry : UnknownEntry S) :
    value (scoreBy entry).testScore = Scalar.roundHundredths (deviation value entry) := by
  rw [scoreBy, exact.roundHundredths, value_abs_shortfall exact]

/-- Whether a host is the first of those that deviate most. -/
structure IsWorst (value : S → ℝ) (entries : List (String × UnknownEntry S))
    (worst : String × UnknownEntry S) : Prop where
  greatest : ∀ other ∈ entries, deviation value other.2 ≤ deviation value worst.2
  first : ∃ before after, entries = before ++ worst :: after ∧
    ∀ other ∈ before, deviation value other.2 < deviation value worst.2

theorem IsWorst.mem {entries : List (String × UnknownEntry S)} {worst : String × UnknownEntry S}
    (isWorst : IsWorst value entries worst) : worst ∈ entries := by
  obtain ⟨before, after, split, _⟩ := isWorst.first
  rw [split]
  exact List.mem_append_right before (.head after)

/-- A host that does not deviate more changes nothing. -/
theorem IsWorst.append {entries : List (String × UnknownEntry S)} {worst : String × UnknownEntry S}
    (isWorst : IsWorst value entries worst) {entry : String × UnknownEntry S}
    (below : deviation value entry.2 ≤ deviation value worst.2) :
    IsWorst value (entries ++ [entry]) worst := by
  obtain ⟨before, after, split, ahead⟩ := isWorst.first
  constructor
  case greatest =>
    intro other listed
    rcases List.mem_append.1 listed with listed | last
    · exact isWorst.greatest other listed
    · exact List.mem_singleton.1 last ▸ below
  case first => exact ⟨before, after ++ [entry], by simp [split], ahead⟩

/-- A host that deviates more than all before it is the worst. -/
theorem isWorst_append {entries : List (String × UnknownEntry S)}
    {entry : String × UnknownEntry S}
    (above : ∀ other ∈ entries, deviation value other.2 < deviation value entry.2) :
    IsWorst value (entries ++ [entry]) entry := by
  constructor
  case greatest =>
    intro other listed
    rcases List.mem_append.1 listed with listed | last
    · exact (above other listed).le
    · exact List.mem_singleton.1 last ▸ le_rfl
  case first => exact ⟨entries, [], rfl, above⟩

/-- Going through the hosts finds the first of those that deviate most, if any deviates. -/
theorem foldl_worse (exact : ExactRounding value) (entries : List (String × UnknownEntry S))
    (score : UnknownScore S) :
    ((∀ entry ∈ entries, deviation value entry.2 = 0) ∧
      (entries.map Prod.snd).foldl worse (0, score) = (0, score)) ∨
    ∃ worst, IsWorst value entries worst ∧ 0 < deviation value worst.2 ∧
      (entries.map Prod.snd).foldl worse (0, score) =
        (Scalar.abs (shortfall worst.2), scoreBy worst.2) := by
  induction entries using List.reverseRecOn with
  | nil => exact .inl ⟨nofun, rfl⟩
  | append_singleton earlier entry ih =>
    rw [List.map_append, List.foldl_append, List.map_singleton, List.foldl_cons, List.foldl_nil]
    rcases ih with ⟨still, found⟩ | ⟨worst, isWorst, positive, found⟩
    · rw [found, worse]
      by_cases deviates : (0 : S) < Scalar.abs (shortfall entry.2)
      · have above := (deviates_iff exact entry.2).1 deviates
        exact .inr ⟨entry, isWorst_append fun other listed => still other listed ▸ above, above,
          if_pos deviates⟩
      · have zero : deviation value entry.2 = 0 := (deviation_nonneg value entry.2).antisymm'
          (not_lt.1 (mt (deviates_iff exact entry.2).2 deviates))
        refine .inl ⟨?_, if_neg deviates⟩
        rw [List.forall_mem_append, List.forall_mem_singleton]
        exact ⟨still, zero⟩
    · rw [found, worse]
      by_cases further : Scalar.abs (shortfall worst.2) < Scalar.abs (shortfall entry.2)
      · have above : deviation value worst.2 < deviation value entry.2 := by
          rwa [exact.lt_iff, value_abs_shortfall exact, value_abs_shortfall exact] at further
        exact .inr ⟨entry, isWorst_append fun other listed =>
          (isWorst.greatest other listed).trans_lt above, positive.trans above, if_pos further⟩
      · have below : deviation value entry.2 ≤ deviation value worst.2 := by
          rwa [exact.lt_iff, value_abs_shortfall exact, value_abs_shortfall exact, not_lt] at further
        exact .inr ⟨worst, isWorst.append below, positive, if_neg further⟩

/-! ## Scores of clusters -/

/-- The score of a cluster after its hosts have been compared, if it has one. -/
def scoreAfter (hosts : SortedMap String (UnknownEntry S)) (before : Option (UnknownScore S)) :
    Option (UnknownScore S) :=
  if hosts.values.any fun entry => 0 < Scalar.abs (shortfall entry) then
    some (worst hosts (before.getD .initial))
  else before

theorem get?_addWorst (scores : SortedMap Label (UnknownScore S)) (cluster : Label)
    (hosts : SortedMap String (UnknownEntry S)) (other : Label) :
    (addWorst scores cluster hosts).get? other =
      if cluster = other then scoreAfter hosts (scores.get? cluster) else scores.get? other := by
  rw [addWorst, scoreAfter]
  split
  · rw [SortedMap.get?_alter]
  · split
    · next same => rw [same]
    · rfl

/-- Only the hosts of a cluster change its score. -/
theorem get?_scores_scoreEvents (grouping : Grouping S) (cluster : Label) :
    (scoreEvents grouping).scores.get? cluster =
      (grouping.clusters.get? cluster).elim (grouping.scores.get? cluster) fun hosts =>
        scoreAfter hosts (grouping.scores.get? cluster) := by
  have all : ∀ (entries : List (Label × SortedMap String (UnknownEntry S)))
      (scores : SortedMap Label (UnknownScore S)),
      entries.Pairwise (fun a b => compare a.1 b.1 = .lt) →
      (entries.foldl (fun scores entry => addWorst scores entry.1 entry.2) scores).get? cluster =
        (SortedMap.findValue entries cluster).elim (scores.get? cluster) fun hosts =>
          scoreAfter hosts (scores.get? cluster) := by
    intro entries
    induction entries with
    | nil => exact fun _ _ => rfl
    | cons head rest ih =>
      intro scores sorted
      rw [List.pairwise_cons] at sorted
      rw [List.foldl_cons, ih _ sorted.2, get?_addWorst, SortedMap.findValue_cons]
      by_cases same : head.1 = cluster
      · subst same
        simp only [SortedMap.findValue_eq_none sorted.1, if_true, Option.elim]
      · simp only [if_neg same]
  exact all grouping.clusters.entries grouping.scores grouping.clusters.sorted

/-- The hosts of a cluster leave its score as it is, or the first of those that deviate most gives it
one. -/
theorem scoreAfter_cases (exact : ExactRounding value) (hosts : SortedMap String (UnknownEntry S))
    (before : Option (UnknownScore S)) :
    ((∀ entry ∈ hosts.entries, deviation value entry.2 = 0) ∧ scoreAfter hosts before = before) ∨
    ∃ worst, IsWorst value hosts.entries worst ∧ 0 < deviation value worst.2 ∧
      scoreAfter hosts before = some (scoreBy worst.2) := by
  rcases foldl_worse exact hosts.entries (before.getD .initial) with
    ⟨still, _⟩ | ⟨worst, isWorst, positive, found⟩
  · refine .inl ⟨still, if_neg fun deviates => ?_⟩
    obtain ⟨entry, valued, above⟩ := List.any_eq_true.1 deviates
    obtain ⟨named, listed, rfl⟩ := List.mem_map.1 valued
    have positive := (deviates_iff exact named.2).1 (of_decide_eq_true above)
    exact positive.ne' (still named listed)
  · have deviates : hosts.values.any fun entry => 0 < Scalar.abs (shortfall entry) := by
      rw [List.any_eq_true]
      exact ⟨worst.2, List.mem_map_of_mem isWorst.mem,
        decide_eq_true ((deviates_iff exact worst.2).2 positive)⟩
    refine .inr ⟨worst, isWorst, positive, (if_pos deviates).trans ?_⟩
    rw [Unknown.worst, SortedMap.values, found]

/-! ## Scoring -/

/-- Whether a host decides about its cluster: it is the first in the order of names of those that
deviate most. -/
structure DecidedBy (value : S → ℝ) (clusters : ClusterMap (UnknownEntry S)) (cluster : Label)
    (host : String) (entry : UnknownEntry S) : Prop where
  present : clusters.find? cluster host = some entry
  greatest : ∀ other entry', clusters.find? cluster other = some entry' →
    deviation value entry' ≤ deviation value entry
  first : ∀ other entry', clusters.find? cluster other = some entry' →
    deviation value entry' = deviation value entry → compare host other ≠ .gt

/-- What scoring makes of clusters and scores. -/
structure Scored (value : S → ℝ) (grouping scored : Grouping S) : Prop where
  clusters : scored.clusters.keys = grouping.clusters.keys
  /-- The pending scores of every host are summed up, and nothing else is changed. -/
  entries : ∀ cluster host, scored.clusters.find? cluster host =
    (grouping.clusters.find? cluster host).map fun entry => { entry with
      testScore := Scalar.roundHundredths (entry.controlScore - weightedMean entry.pending)
      pending := [] }
  /-- Where no host deviates, the score stays, and so it does where there is no host or no cluster. -/
  still : ∀ cluster, (∀ host entry, grouping.clusters.find? cluster host = some entry →
    deviation value entry = 0) → scored.scores.get? cluster = grouping.scores.get? cluster
  /-- Where a host deviates, one decides about the score, and no host has a greater one. -/
  decided : ∀ cluster, (∃ host entry, grouping.clusters.find? cluster host = some entry ∧
    0 < deviation value entry) → ∃ host entry score,
      DecidedBy value grouping.clusters cluster host entry ∧
      scored.scores.get? cluster = some score ∧ score.controlScore = entry.controlScore ∧
      value score.testScore = Scalar.roundHundredths (deviation value entry) ∧
      ∀ other entry', scored.clusters.find? cluster other = some entry' →
        |value entry'.testScore| ≤ value score.testScore

@[simp] theorem find?_scoreEvents (grouping : Grouping S) (cluster : Label) (host : String) :
    (scoreEvents grouping).clusters.find? cluster host =
      (grouping.clusters.find? cluster host).map settled :=
  ClusterMap.find?_contents settled grouping.clusters cluster host

/-- Of the hosts of a cluster the worst decides. -/
theorem IsWorst.decidedBy {clusters : ClusterMap (UnknownEntry S)} {cluster : Label}
    {hosts : SortedMap String (UnknownEntry S)} (found : clusters.get? cluster = some hosts)
    {worst : String × UnknownEntry S} (isWorst : IsWorst value hosts.entries worst) :
    DecidedBy value clusters cluster worst.1 worst.2 := by
  have listed : ∀ {host entry}, clusters.find? cluster host = some entry →
      (host, entry) ∈ hosts.entries := by
    intro host entry present
    rw [ClusterMap.find?_of_get? found] at present
    exact SortedMap.mem_entries_of_get? present
  constructor
  case present =>
    rw [ClusterMap.find?_of_get? found]
    exact SortedMap.get?_of_mem_entries isWorst.mem
  case greatest => exact fun other entry' present => isWorst.greatest _ (listed present)
  case first =>
    intro other entry' present same after
    obtain ⟨before, later, split, ahead⟩ := isWorst.first
    have sorted := hosts.sorted
    rw [split, List.pairwise_append, List.pairwise_cons] at sorted
    have inside := listed present
    rw [split, List.mem_append, List.mem_cons] at inside
    rcases inside with early | itself | late
    · exact (ahead _ early).ne same
    · simp [← itself] at after
    · have less := sorted.2.1.1 _ late
      rw [less] at after
      contradiction

/-- Where a host deviates, the worst gives the cluster its score. -/
theorem exists_decidedBy (exact : ExactRounding value) {grouping : Grouping S} {cluster : Label}
    {host : String} {entry : UnknownEntry S}
    (present : grouping.clusters.find? cluster host = some entry)
    (deviates : 0 < deviation value entry) :
    ∃ worst entry', DecidedBy value grouping.clusters cluster worst entry' ∧
      (scoreEvents grouping).scores.get? cluster = some (scoreBy entry') := by
  obtain ⟨hosts, found, inside⟩ := Option.bind_eq_some_iff.1 present
  rcases scoreAfter_cases exact hosts (grouping.scores.get? cluster) with
    ⟨still, _⟩ | ⟨worst, isWorst, _, scored⟩
  · exact absurd (still _ (SortedMap.mem_entries_of_get? inside)) deviates.ne'
  · refine ⟨worst.1, worst.2, isWorst.decidedBy found, ?_⟩
    rw [get?_scores_scoreEvents, found]
    exact scored

/-- A host has no greater score than one that deviates at least as far. -/
theorem abs_settled_le (exact : ExactRounding value) {entry other : UnknownEntry S}
    (le : deviation value other ≤ deviation value entry) :
    |value (settled other).testScore| ≤ value (scoreBy entry).testScore := by
  have magnitude : |value (settled other).testScore| =
      Scalar.roundHundredths (deviation value other) := by
    rw [settled, exact.roundHundredths, Scalar.abs_roundHundredths, shortfall, exact.sub, deviation]
  rw [magnitude, value_scoreBy exact]
  exact Scalar.roundHundredths_le (deviation_nonneg value other) le

/-- Scoring lets the first of the hosts that deviate most decide about each cluster. -/
theorem scoreEvents_decides (exact : ExactRounding value) (grouping : Grouping S) :
    Scored value grouping (scoreEvents grouping) where
  clusters := SortedMap.keys_mapValues _ _
  entries := find?_scoreEvents grouping
  still := by
    intro cluster still
    rw [get?_scores_scoreEvents]
    cases found : grouping.clusters.get? cluster with
    | none => rfl
    | some hosts =>
      rcases scoreAfter_cases exact hosts (grouping.scores.get? cluster) with
        ⟨_, same⟩ | ⟨worst, isWorst, positive, _⟩
      · exact same
      · exact absurd (still _ _ (isWorst.decidedBy found).present) positive.ne'
  decided := by
    rintro cluster ⟨host, entry, present, deviates⟩
    obtain ⟨worst, entry', decides, scored⟩ := exists_decidedBy exact present deviates
    refine ⟨worst, entry', scoreBy entry', decides, scored, rfl, value_scoreBy exact entry', ?_⟩
    intro other entry' summed
    rw [find?_scoreEvents, Option.map_eq_some_iff] at summed
    obtain ⟨pending, held, rfl⟩ := summed
    exact abs_settled_le exact (decides.greatest other pending held)

/-- A host with a control score and one pending score, both in hundredths. -/
noncomputable def pendingEntry (control score : ℕ) : UnknownEntry ℝ where
  text := "link lost"
  label := 3
  occurrences := [{ count := 1 }]
  controlScore := Scalar.ratio control 100
  testScore := 0
  pending := [(Scalar.ratio score 100, 1)]

theorem deviation_pendingEntry (control score : ℕ) :
    deviation (fun x : ℝ => x) (pendingEntry control score) =
      |(control : ℝ) / 100 - score / 100| := by
  have hundredths : ∀ n, (Scalar.ratio n 100 : ℝ) = n / 100 := fun n =>
    Scalar.exact_real.ratio n 100
  norm_num [deviation, pendingEntry, weightedMean, Scalar.sum, hundredths]

/-- Two hosts that deviate alike, after one that deviates less. -/
noncomputable def tiedGrouping : Grouping ℝ where
  clusters := .ofList [(4, .ofList [("app", pendingEntry 100 90), ("db", pendingEntry 100 50),
    ("web", pendingEntry 75 25)])]
  scores := .ofList [(4, .initial)]

theorem scoreEvents_decides_tied :
    ExactRounding (fun x : ℝ => x) ∧
    Scored (fun x : ℝ => x) tiedGrouping (scoreEvents tiedGrouping) ∧
    DecidedBy (fun x : ℝ => x) tiedGrouping.clusters 4 "db" (pendingEntry 100 50) := by
  have scored := scoreEvents_decides Scalar.exactRounding_real tiedGrouping
  have db : tiedGrouping.clusters.find? 4 "db" = some (pendingEntry 100 50) := rfl
  have positive : 0 < deviation (fun x : ℝ => x) (pendingEntry 100 50) := by
    rw [deviation_pendingEntry]
    norm_num
  obtain ⟨host, entry, score, decides, _⟩ := scored.decided 4 ⟨"db", _, db, positive⟩
  have further := decides.greatest _ _ db
  have earlier := decides.first _ _ db
  refine ⟨Scalar.exactRounding_real, scored, ?_⟩
  have listed : (host, entry) ∈ [("app", pendingEntry 100 90), ("db", pendingEntry 100 50),
      ("web", pendingEntry 75 25)] := SortedMap.mem_entries_of_get? decides.present
  simp only [List.mem_cons, List.not_mem_nil, or_false, Prod.mk.injEq] at listed
  rcases listed with ⟨rfl, rfl⟩ | ⟨rfl, rfl⟩ | ⟨rfl, rfl⟩
  · rw [deviation_pendingEntry, deviation_pendingEntry] at further
    norm_num at further
  · exact decides
  · rw [deviation_pendingEntry, deviation_pendingEntry] at earlier
    exact absurd (by decide) (earlier (by norm_num))

end LogDrift.Unknown
