import LogDrift.Proofs.Matching.Renaming
import LogDrift.Proofs.Similarity.Centroid
import LogDrift.Proofs.Similarity.Matching

/-!
# Texts under other labels

Clustering tells texts apart by their places; their labels are only what it hands out clusters for.
Hence texts under renamed labels have the same clusters and outcomes, as long as the renaming keeps
apart the labels that are looked up.
-/

namespace LogDrift

namespace CentroidModel

variable {S : Type} [Scalar S] (threshold : S) (vocabulary : Vocabulary S)
  (rename : Label → Label)

/-- The member for a text under a renamed label. -/
def Member.renamed (member : Member S) : Member S :=
  { member with source := member.source.renamed rename }

omit [Scalar S] in
@[simp] theorem beq_renamed (left right : Member S) :
    (left.renamed rename == right.renamed rename) = (left == right) := rfl

@[simp] theorem members_renamed (texts : List LabelledText) :
    members vocabulary (texts.map (LabelledText.renamed rename)) =
      (members vocabulary texts).map (Member.renamed rename) := by
  simp only [members, List.zipIdx_map, List.map_map]
  rfl

/-- Links are between vectors, and elements are the same by their places. -/
theorem groups_renamed (texts : List LabelledText) :
    groups threshold vocabulary (texts.map (LabelledText.renamed rename)) =
      (groups threshold vocabulary texts).map (List.map (Member.renamed rename)) := by
  rw [groups, members_renamed]
  exact Component.components_map (fun _ _ => rfl) (beq_renamed rename) _

/-- The labels of members play no part in centroids, tags and texts without terms. -/
@[simp]
theorem ofGroups_renamed (assigned : List (Label × Label)) (groups : List (List (Member S))) :
    ofGroups vocabulary assigned (groups.map (List.map (Member.renamed rename))) =
      ofGroups vocabulary assigned groups := by
  simp only [ofGroups, List.zipIdx_map, List.map_map, List.flatMap_map, Function.comp_def,
    Prod.map_fst, Prod.map_snd, List.filter_map]
  rfl

/-- Renaming labels changes nothing but the labels that clusters are assigned to. -/
theorem clustered_renamed (texts : List LabelledText) :
    clustered threshold vocabulary (texts.map (LabelledText.renamed rename)) =
      { clustered threshold vocabulary texts with
        assignments := .ofList (((members vocabulary texts).map fun member =>
          (member.source.label, groupOf (groups threshold vocabulary texts) member)).map fun entry =>
            (rename entry.1, entry.2)) } := by
  have numbers : ∀ member : Member S,
      groupOf ((groups threshold vocabulary texts).map (List.map (Member.renamed rename)))
          (member.renamed rename) = groupOf (groups threshold vocabulary texts) member :=
    fun member => congrArg Nat.cast (Component.numberIn_map (beq_renamed rename) _ member)
  rw [clustered, members_renamed, groups_renamed, ofGroups_renamed, List.map_map, List.map_map]
  simp only [Function.comp_def, numbers]
  rfl

variable {rename : Label → Label} {texts : List LabelledText} {label : Label}

/-- A label that no other one is renamed to keeps its cluster. -/
theorem clusterOf?_renamed
    (apart : ∀ text ∈ texts, rename text.label = rename label → text.label = label) :
    (clustered threshold vocabulary (texts.map (LabelledText.renamed rename))).clusterOf?
        (rename label) = (clustered threshold vocabulary texts).clusterOf? label := by
  rw [clustered_renamed]
  apply SortedMap.get?_ofList_rename
  rw [List.forall_mem_map]
  intro member listed
  exact apart _ (source_of_member listed).1

/-- A label that no other one is renamed to keeps its outcome. -/
theorem get?_classify_renamed (model : CentroidModel S)
    (apart : ∀ text ∈ texts, rename text.label = rename label → text.label = label) :
    (classify threshold model (texts.map (LabelledText.renamed rename))).get? (rename label) =
      (classify threshold model texts).get? label := by
  have outcomes : classify threshold model (texts.map (LabelledText.renamed rename)) =
      .ofList ((texts.map fun text => (text.label, model.matchText threshold text.text)).map
        fun entry => (rename entry.1, entry.2)) := by
    rw [classify, List.map_map, List.map_map]
    rfl
  rw [outcomes]
  apply SortedMap.get?_ofList_rename
  rw [List.forall_mem_map]
  exact apart

end CentroidModel

end LogDrift
