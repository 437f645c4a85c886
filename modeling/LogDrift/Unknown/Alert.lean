import LogDrift.Unknown.Group

/-!
# Alerts

An unknown message is compared with a text that is already known. When the two are neither alike nor
unrelated, the difference is listed.
-/

namespace LogDrift.Unknown

variable {S : Type} [Scalar S]

/-- The text to compare an unknown message with: that of the control cluster nearest to it, or else
that of an ignored cluster, or else that of a cluster with feedback. -/
def baselineText (label : Label) (control : ClusterMap (ControlEntry S)) (known : KnownClusters) :
    Option String :=
  let live := (control.get? label).bind fun hosts => hosts.values.head?.map ControlEntry.text
  (live.or (known.ignored.get? label)).or (known.feedback.get? label)

/-- An entry with what comparing it to a base text says. -/
def compared (comparer : Comparer S) (band : S × S) (base : String) (entry : UnknownEntry S) :
    UnknownEntry S :=
  match (comparer.similarity base [entry.text]).head? with
  | none => entry
  | some score =>
    if band.1 < score ∧ score < band.2 then
      { entry with
        alertScore := some score
        diffTags := (comparer.difference base [entry.text]).head? }
    else { entry with alertScore := some score }

/-- An entry compared with its baseline text, if there is one. -/
def alerted (comparer : Comparer S) (control : ClusterMap (ControlEntry S)) (known : KnownClusters)
    (band : S × S) (entry : UnknownEntry S) : UnknownEntry S :=
  match baselineText entry.label control known with
  | none => entry
  | some base => compared comparer band base entry

/-- Compares every entry with its baseline text. -/
def attachAlerts (comparer : Comparer S) (control : ClusterMap (ControlEntry S))
    (known : KnownClusters) (band : S × S) (clusters : ClusterMap (UnknownEntry S)) :
    ClusterMap (UnknownEntry S) :=
  clusters.mapValues fun hosts => hosts.mapValues (alerted comparer control known band)

end LogDrift.Unknown
