import PodPlacement.Placement
import PodPlacement.Proofs.Affinity.Merging
import PodPlacement.Proofs.Constraints.Content
import PodPlacement.Proofs.LabelMap
import PodPlacement.Proofs.Toleration

/-!
# Folding in a selection

A selection is folded into constraints part by part, and a part that is absent
leaves the constraints as they are there. As long as nothing else happens to
the constraints, folding in the same selection again changes nothing.
-/

namespace PodPlacement

/-- The required node terms of a selection, none if nothing is required. -/
def Selection.requiredTerms (selection : Selection) : List NodeTerm :=
  (selection.affinity.map Affinity.requiredTerms).getD []

/-- The preferences of a selection among nodes, none if there are none. -/
def Selection.preferences (selection : Selection) : List NodePreference :=
  (selection.affinity.map Affinity.preferences).getD []

namespace Constraints

/-! ## The parts -/

theorem nodeLabels_select (constraints : Constraints) (selection : Selection) :
    (constraints.select selection).nodeLabels =
      (selection.nodeLabels.getD .empty).override constraints.nodeLabels := by
  rcases selection with ⟨_ | labels, affinity, tolerations⟩
  · exact (LabelMap.empty_override _).symm
  · rfl

theorem tolerations_select (constraints : Constraints) (selection : Selection) :
    (constraints.select selection).tolerations.getD [] =
      match selection.tolerations with
      | none => constraints.tolerations.getD []
      | some tolerations => Toleration.merge (constraints.tolerations.getD []) tolerations := by
  rcases selection with ⟨labels, affinity, _ | tolerations⟩
  · rfl
  · simp only [select, filter_tolerations, Option.getD_some]
    cases Toleration.merge (constraints.tolerations.getD []) tolerations <;> rfl

theorem affinity_select_of_none (constraints : Constraints) {selection : Selection}
    (absent : selection.affinity = none) :
    (constraints.select selection).affinity = constraints.affinity := by
  simp [select, absent]

theorem affinity_select_of_some (constraints : Constraints) {selection : Selection}
    {incoming : Affinity} (given : selection.affinity = some incoming) :
    (constraints.select selection).affinity =
      Affinity.collapse (some (Affinity.merge constraints.affinity incoming)) := by
  simp [select, given]

theorem requiredTerms_select_of_none (constraints : Constraints) {selection : Selection}
    (absent : selection.affinity = none) :
    (constraints.select selection).requiredTerms = constraints.requiredTerms := by
  rw [requiredTerms, affinity_select_of_none _ absent, requiredTerms]

/-- A selected affinity is merged, whatever is collapsed afterwards. -/
theorem content_affinity_select_of_some (constraints : Constraints) {selection : Selection}
    {incoming : Affinity} (given : selection.affinity = some incoming) :
    Affinity.content (constraints.select selection).affinity =
      Affinity.content (some (Affinity.merge constraints.affinity incoming)) := by
  rw [affinity_select_of_some _ given, Affinity.content_collapse]

theorem requiredTerms_select_of_some (constraints : Constraints) {selection : Selection}
    {incoming : Affinity} (given : selection.affinity = some incoming) :
    (constraints.select selection).requiredTerms =
      Affinity.joined constraints.affinity constraints.requiredTerms incoming.requiredTerms := by
  rw [← required_content, ← required_content, ← Affinity.required_content_some, content,
    content_affinity_select_of_some _ given, Affinity.content_merge]
  rfl

theorem preferences_select_of_some (constraints : Constraints) {selection : Selection}
    {incoming : Affinity} (given : selection.affinity = some incoming) :
    (constraints.select selection).preferences =
      Affinity.joined constraints.affinity constraints.preferences incoming.preferences := by
  rw [← preferred_content, ← preferred_content, ← Affinity.preferred_content_some, content,
    content_affinity_select_of_some _ given, Affinity.content_merge]
  rfl

/-! ## The same selection again -/

theorem affinity_select_select (constraints : Constraints) (selection : Selection) :
    ((constraints.select selection).select selection).affinity =
      (constraints.select selection).affinity := by
  cases given : selection.affinity with
  | none => exact affinity_select_of_none _ given
  | some incoming =>
      rw [affinity_select_of_some _ given, affinity_select_of_some _ given]
      apply Affinity.collapse_congr
      exact Affinity.content_merge_collapse_merge constraints.affinity incoming

theorem tolerations_select_select (constraints : Constraints) (selection : Selection) :
    ((constraints.select selection).select selection).tolerations =
      (constraints.select selection).tolerations := by
  rcases selection with ⟨labels, affinity, _ | tolerations⟩
  · rfl
  · have again := tolerations_select constraints ⟨labels, affinity, some tolerations⟩
    simp only at again
    simp only [select] at again ⊢
    rw [again, Toleration.merge_merge_self]

/-- Folding in the same selection again changes nothing. -/
theorem select_select (constraints : Constraints) (selection : Selection) :
    (constraints.select selection).select selection = constraints.select selection := by
  apply Constraints.ext
  · exact affinity_select_select constraints selection
  · exact tolerations_select_select constraints selection
  · rw [nodeLabels_select, nodeLabels_select, LabelMap.override_override_self]

end Constraints

end PodPlacement
