import PodPlacement.Constraints
import PodPlacement.Proofs.Affinity.Content
import PodPlacement.Proofs.LabelMap
import PodPlacement.Proofs.Toleration

/-!
# The content of constraints

The content of constraints forgets which of their parts are absent and which
are empty. On contents, an enrichment is a short list of changes for each mode,
and enriched constraints are determined by their content. So two enrichments
give equal constraints as soon as the changes of the contents agree, however
differently the constraints that they started from were written.
-/

namespace PodPlacement

/-- The requirements that an enrichment prunes from the required terms. It prunes
none if it leaves the terms alone or replaces them all. -/
def Source.prunedRequirements (source : Source) (mode : Mode) : List NodeRequirement :=
  if source.isConfigured then
    match mode with
    | .off => []
    | .prevent => if source.tolerations.isEmpty then [] else source.requirements .isIn
    | .constrain => []
    | .allow => source.requirements .notIn ++ source.requirements .isIn
  else []

namespace Constraints

/-- What constraints say, where an absent part says as much as an empty one. -/
structure Content extends Affinity.Content where
  tolerations : List Toleration := []
  nodeLabels : LabelMap := .empty
  deriving DecidableEq, Repr

/-- The content of constraints. -/
def content (constraints : Constraints) : Content :=
  { Affinity.content constraints.affinity with
    tolerations := constraints.tolerations.getD []
    nodeLabels := constraints.nodeLabels }

/-- The required node terms of constraints, none if nothing is required. -/
def requiredTerms (constraints : Constraints) : List NodeTerm :=
  (constraints.affinity.map Affinity.requiredTerms).getD []

theorem required_content (constraints : Constraints) :
    constraints.content.required = constraints.requiredTerms := by
  rcases constraints with ⟨_ | affinity, tolerations, nodeLabels⟩
  · rfl
  · exact Affinity.required_content_some affinity

/-- The preferences among nodes, none if there are none. -/
def preferences (constraints : Constraints) : List NodePreference :=
  (constraints.affinity.map Affinity.preferences).getD []

theorem preferred_content (constraints : Constraints) :
    constraints.content.preferred = constraints.preferences := by
  rcases constraints with ⟨_ | affinity, tolerations, nodeLabels⟩
  · rfl
  · exact Affinity.preferred_content_some affinity

theorem content_congr {first second : Constraints}
    (sameAffinity : Affinity.content first.affinity = Affinity.content second.affinity)
    (sameTolerations : first.tolerations.getD [] = second.tolerations.getD [])
    (sameLabels : first.nodeLabels = second.nodeLabels) : first.content = second.content := by
  rw [content, content, sameAffinity, sameTolerations, sameLabels]

/-! ## Collapsing -/

/-- Whether a list of tolerations is dropped depends on what is in it only. -/
theorem filter_tolerations (tolerations : Option (List Toleration)) :
    tolerations.filter (fun tolerations => !tolerations.isEmpty) =
      if (tolerations.getD []).isEmpty then none else some (tolerations.getD []) := by
  rcases tolerations with _ | ⟨_ | ⟨toleration, tolerations⟩⟩ <;> rfl

@[simp]
theorem content_collapse (constraints : Constraints) :
    constraints.collapse.content = constraints.content := by
  have sameTolerations : constraints.collapse.tolerations.getD [] =
      constraints.tolerations.getD [] := by
    rw [collapse, filter_tolerations]
    cases constraints.tolerations.getD [] <;> rfl
  rw [content, content, sameTolerations]
  simp [collapse]

/-- Collapsing depends on the content only. -/
theorem collapse_congr {first second : Constraints}
    (equal : first.content = second.content) : first.collapse = second.collapse := by
  have sameAffinity : Affinity.content first.affinity = Affinity.content second.affinity :=
    congrArg Content.toContent equal
  have sameTolerations : first.tolerations.getD [] = second.tolerations.getD [] :=
    congrArg Content.tolerations equal
  have sameLabels : first.nodeLabels = second.nodeLabels :=
    congrArg Content.nodeLabels equal
  rw [collapse, collapse, Affinity.collapse_congr sameAffinity, filter_tolerations,
    filter_tolerations, sameTolerations, sameLabels]

@[simp]
theorem collapse_collapse (constraints : Constraints) :
    constraints.collapse.collapse = constraints.collapse :=
  collapse_congr constraints.content_collapse

/-! ## Single changes -/

@[simp]
theorem content_pruneRequirements (constraints : Constraints)
    (pruned : List NodeRequirement) :
    (constraints.pruneRequirements pruned).content =
      { constraints.content with
        required := NodeTerm.remaining constraints.content.required pruned } := by
  simp [content, pruneRequirements]

@[simp]
theorem content_require (constraints : Constraints) (terms : List NodeTerm) :
    (constraints.require terms).content = { constraints.content with required := terms } := by
  simp [content, require]

@[simp]
theorem content_pruneTolerations (constraints : Constraints) (pruned : List Toleration) :
    (constraints.pruneTolerations pruned).content =
      { constraints.content with
        tolerations := Toleration.prune constraints.content.tolerations pruned } := by
  rcases constraints with ⟨affinity, _ | tolerations, nodeLabels⟩ <;> rfl

@[simp]
theorem content_mergeTolerations (constraints : Constraints) (incoming : List Toleration) :
    (constraints.mergeTolerations incoming).content =
      { constraints.content with
        tolerations := Toleration.merge constraints.content.tolerations incoming } :=
  rfl

@[simp]
theorem content_pruneLabels (constraints : Constraints) (pruned : LabelMap) :
    (constraints.pruneLabels pruned).content =
      { constraints.content with nodeLabels := constraints.content.nodeLabels.prune pruned } :=
  rfl

/-! ## Enrichment -/

/-- The content that a mode makes of one. -/
def Content.enrich (content : Content) (source : Source) : Mode → Content
  | .off => content
  | .prevent =>
      { content with
        required :=
          if source.tolerations.isEmpty then source.antiTerms
          else NodeTerm.remaining content.required (source.requirements .isIn)
        tolerations := Toleration.prune content.tolerations source.tolerations
        nodeLabels := content.nodeLabels.prune source.labels }
  | .constrain =>
      { content with
        required := source.terms
        tolerations := Toleration.merge content.tolerations source.tolerations }
  | .allow =>
      { content with
        required := NodeTerm.remaining content.required
          (source.requirements .notIn ++ source.requirements .isIn)
        tolerations := Toleration.merge content.tolerations source.tolerations
        nodeLabels := content.nodeLabels.prune source.labels }

/-- The changes that a mode makes need not be made twice. -/
theorem Content.enrich_again (content : Content) (source : Source) (mode : Mode) :
    (content.enrich source mode).enrich source mode = content.enrich source mode := by
  cases mode with
  | off => rfl
  | prevent =>
      simp only [Content.enrich, Toleration.prune_prune_self, LabelMap.prune_prune_self]
      split
      · rfl
      · rw [NodeTerm.remaining_remaining_self]
  | constrain => simp only [Content.enrich, Toleration.merge_merge_self]
  | allow =>
      simp only [Content.enrich, Toleration.merge_merge_self, LabelMap.prune_prune_self,
        NodeTerm.remaining_remaining_self]

theorem content_prevent (constraints : Constraints) (source : Source) :
    (constraints.prevent source).content = constraints.content.enrich source .prevent := by
  rw [prevent, Content.enrich]
  split <;> simp

theorem content_constrain (constraints : Constraints) (source : Source) :
    (constraints.constrain source).content =
      constraints.content.enrich source .constrain := by
  simp [constrain, Content.enrich]

theorem content_allow (constraints : Constraints) (source : Source) :
    (constraints.allow source).content = constraints.content.enrich source .allow := by
  simp [allow, Content.enrich, NodeTerm.remaining_remaining]

/-- Enriching constraints changes their content as the mode wants it. -/
theorem content_enrich (constraints : Constraints) {source : Source} (mode : Mode)
    (configured : source.isConfigured = true) :
    (constraints.enrich source mode).content = constraints.content.enrich source mode := by
  unfold enrich
  rw [if_pos configured]
  cases mode with
  | off => rfl
  | prevent => exact (content_collapse _).trans (constraints.content_prevent source)
  | constrain => exact (content_collapse _).trans (constraints.content_constrain source)
  | allow => exact (content_collapse _).trans (constraints.content_allow source)

section Configured

variable (constraints : Constraints) {source : Source} (mode : Mode)
  (configured : source.isConfigured = true)

include configured

theorem requiredTerms_enrich :
    (constraints.enrich source mode).requiredTerms =
      (constraints.content.enrich source mode).required := by
  rw [← required_content, content_enrich _ _ configured]

theorem tolerations_enrich :
    (constraints.enrich source mode).tolerations.getD [] =
      (constraints.content.enrich source mode).tolerations :=
  congrArg Content.tolerations (constraints.content_enrich mode configured)

theorem nodeLabels_enrich :
    (constraints.enrich source mode).nodeLabels =
      (constraints.content.enrich source mode).nodeLabels :=
  congrArg Content.nodeLabels (constraints.content_enrich mode configured)

/-- Of what an affinity says, an enrichment changes the required terms only. -/
theorem content_affinity_enrich :
    Affinity.content (constraints.enrich source mode).affinity =
      { Affinity.content constraints.affinity with
        required := (constraints.enrich source mode).requiredTerms } := by
  rw [requiredTerms_enrich _ _ configured]
  have content := congrArg Content.toContent (constraints.content_enrich mode configured)
  cases mode <;> exact content

/-- An enrichment prunes the required terms or replaces them. -/
theorem requiredTerms_enrich_cases :
    (∀ constraints : Constraints, (constraints.enrich source mode).requiredTerms =
      NodeTerm.remaining constraints.requiredTerms (source.prunedRequirements mode)) ∨
    source.prunedRequirements mode = [] ∧
      ∃ terms, ∀ constraints : Constraints,
        (constraints.enrich source mode).requiredTerms = terms := by
  simp only [requiredTerms_enrich _ _ configured, ← required_content]
  unfold Source.prunedRequirements
  rw [if_pos configured]
  cases mode with
  | off => exact .inl fun _ => rfl
  | prevent =>
      simp only [Content.enrich]
      split
      · exact .inr ⟨rfl, source.antiTerms, fun _ => rfl⟩
      · exact .inl fun _ => rfl
  | constrain => exact .inr ⟨rfl, source.terms, fun _ => rfl⟩
  | allow => exact .inl fun _ => rfl

/-- An enrichment keeps the tolerations, prunes them or merges others into
them. -/
theorem tolerations_enrich_cases :
    (∀ constraints : Constraints, (constraints.enrich source mode).tolerations.getD [] =
      constraints.tolerations.getD []) ∨
    (∀ constraints : Constraints, (constraints.enrich source mode).tolerations.getD [] =
      Toleration.prune (constraints.tolerations.getD []) source.tolerations) ∨
    ∀ constraints : Constraints, (constraints.enrich source mode).tolerations.getD [] =
      Toleration.merge (constraints.tolerations.getD []) source.tolerations := by
  simp only [tolerations_enrich _ _ configured]
  cases mode with
  | off => exact .inl fun _ => rfl
  | prevent => exact .inr (.inl fun _ => rfl)
  | constrain => exact .inr (.inr fun _ => rfl)
  | allow => exact .inr (.inr fun _ => rfl)

/-- An enrichment keeps the node labels or prunes them. -/
theorem nodeLabels_enrich_cases :
    (∀ constraints : Constraints, (constraints.enrich source mode).nodeLabels =
      constraints.nodeLabels) ∨
    ∀ constraints : Constraints, (constraints.enrich source mode).nodeLabels =
      constraints.nodeLabels.prune source.labels := by
  simp only [nodeLabels_enrich _ _ configured]
  cases mode with
  | off => exact .inl fun _ => rfl
  | prevent => exact .inr fun _ => rfl
  | constrain => exact .inl fun _ => rfl
  | allow => exact .inr fun _ => rfl

end Configured

@[simp]
theorem enrich_off (constraints : Constraints) (source : Source) :
    constraints.enrich source .off = constraints := by
  simp [enrich]

theorem enrich_of_not_configured (constraints : Constraints) {source : Source} (mode : Mode)
    (notConfigured : source.isConfigured = false) :
    constraints.enrich source mode = constraints := by
  simp [enrich, notConfigured]

/-- An enrichment that does something leaves no part that says nothing. -/
theorem collapse_enrich (constraints : Constraints) {source : Source} {mode : Mode}
    (configured : source.isConfigured = true) (active : mode ≠ .off) :
    (constraints.enrich source mode).collapse = constraints.enrich source mode := by
  unfold enrich
  rw [if_pos configured]
  cases mode with
  | off => exact absurd rfl active
  | prevent => exact collapse_collapse _
  | constrain => exact collapse_collapse _
  | allow => exact collapse_collapse _

/-- Enriched constraints are equal if their contents are. -/
theorem enrich_eq_enrich {first second : Constraints} {source : Source}
    {firstMode secondMode : Mode} (configured : source.isConfigured = true)
    (firstActive : firstMode ≠ .off) (secondActive : secondMode ≠ .off)
    (equal : first.content.enrich source firstMode =
      second.content.enrich source secondMode) :
    first.enrich source firstMode = second.enrich source secondMode := by
  rw [← first.collapse_enrich configured firstActive,
    ← second.collapse_enrich configured secondActive]
  apply collapse_congr
  rw [content_enrich _ _ configured, content_enrich _ _ configured, equal]

end Constraints

end PodPlacement
