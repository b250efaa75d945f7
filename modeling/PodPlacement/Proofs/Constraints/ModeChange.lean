import PodPlacement.Proofs.Constraints.Content
import PodPlacement.Proofs.Source

/-!
# Changing modes

Enriching twice for one mode is enriching once, for any source. If the source
derives its answers from its labels, every mode also removes what another mode
has added, so that constraints which do not speak of preemptible nodes only
remember the last mode that they were enriched for.
-/

namespace PodPlacement

namespace Constraints

/-! ## The same mode again -/

/-- A second enrichment for the same mode changes nothing. -/
theorem enrich_enrich_self (constraints : Constraints) (source : Source) (mode : Mode) :
    (constraints.enrich source mode).enrich source mode = constraints.enrich source mode := by
  by_cases configured : source.isConfigured = true
  · by_cases active : mode = .off
    · rw [active, enrich_off, enrich_off]
    · apply enrich_eq_enrich configured active active
      rw [content_enrich _ _ configured, Content.enrich_again]
  · rw [Bool.not_eq_true] at configured
    rw [enrich_of_not_configured _ _ configured, enrich_of_not_configured _ _ configured]

/-! ## Another mode -/

/-- Constraints that do not speak of the preemptible nodes of a source and
require no node terms. -/
structure Neutral (constraints : Constraints) (source : Source) : Prop where
  required : constraints.requiredTerms = []
  nodup : (constraints.tolerations.getD []).Nodup
  tolerations : ∀ toleration ∈ constraints.tolerations.getD [],
    toleration ∉ source.tolerations
  nodeLabels : ∀ entry ∈ source.labels.entries, entry.2 ≠ "" →
    entry ∉ constraints.nodeLabels.entries

variable {constraints : Constraints} {source : Source}

theorem Neutral.prune_tolerations (neutral : constraints.Neutral source) :
    Toleration.prune constraints.content.tolerations source.tolerations =
      constraints.content.tolerations :=
  Toleration.prune_eq_self neutral.tolerations

theorem Neutral.prune_merge_tolerations (neutral : constraints.Neutral source) :
    Toleration.prune (Toleration.merge constraints.content.tolerations source.tolerations)
        source.tolerations =
      constraints.content.tolerations := by
  rw [Toleration.prune_merge, Toleration.prune_self, neutral.prune_tolerations]
  exact Toleration.merge_eq_self neutral.nodup (by simp)

theorem Neutral.prune_nodeLabels (neutral : constraints.Neutral source) :
    constraints.content.nodeLabels.prune source.labels = constraints.content.nodeLabels := by
  apply LabelMap.prune_eq_self
  intro entry member
  rw [← Bool.not_eq_true, LabelMap.hasLabel_iff]
  rintro ⟨notEmpty, found⟩
  exact neutral.nodeLabels entry ((LabelMap.get?_eq_some_iff _ _ _).mp found) notEmpty member

/-- What one mode leaves in neutral constraints, every other mode takes away. -/
theorem Neutral.enrich_enrich (neutral : constraints.Neutral source)
    (follows : source.FollowsLabels) (first : Mode) {second : Mode} (active : second ≠ .off) :
    (constraints.content.enrich source first).enrich source second =
      constraints.content.enrich source second := by
  have required : constraints.content.required = [] :=
    constraints.required_content.trans neutral.required
  have noTerms (others : List NodeRequirement) :
      NodeTerm.remaining source.terms (others ++ source.requirements .isIn) = [] :=
    follows.remaining_terms fun _ member => List.mem_append_right others member
  have noAntiTerms (others : List NodeRequirement) :
      NodeTerm.remaining source.antiTerms (source.requirements .notIn ++ others) = [] :=
    follows.remaining_antiTerms fun _ member => List.mem_append_left others member
  -- The second mode decides which artefacts of the first one have to go.
  cases second with
  | off => exact absurd rfl active
  | prevent =>
      cases first with
      | off => rfl
      | prevent => exact Content.enrich_again _ _ _
      | constrain =>
          simp only [Content.enrich, neutral.prune_merge_tolerations,
            neutral.prune_tolerations, required, NodeTerm.nil_remaining]
          rw [← List.nil_append (source.requirements .isIn), noTerms]
      | allow =>
          simp only [Content.enrich, neutral.prune_merge_tolerations,
            neutral.prune_tolerations, required, NodeTerm.nil_remaining,
            LabelMap.prune_prune_self]
  | constrain =>
      cases first with
      | off => rfl
      | prevent =>
          simp only [Content.enrich, neutral.prune_tolerations, neutral.prune_nodeLabels]
      | constrain => exact Content.enrich_again _ _ _
      | allow =>
          simp only [Content.enrich, neutral.prune_nodeLabels, Toleration.merge_merge_self]
  | allow =>
      cases first with
      | off => rfl
      | prevent =>
          simp only [Content.enrich, neutral.prune_tolerations, required,
            NodeTerm.nil_remaining, LabelMap.prune_prune_self]
          split
          · rw [noAntiTerms]
          · rw [NodeTerm.nil_remaining]
      | constrain =>
          simp only [Content.enrich, required, NodeTerm.nil_remaining, noTerms,
            Toleration.merge_merge_self]
      | allow => exact Content.enrich_again _ _ _

/-! ## Sequences of modes -/

/-- The constraints enriched for one mode after another. -/
def enrichEach (constraints : Constraints) (source : Source) (modes : List Mode) :
    Constraints :=
  modes.foldl (fun constraints mode => constraints.enrich source mode) constraints

theorem enrichEach_concat (constraints : Constraints) (source : Source) (modes : List Mode)
    (mode : Mode) :
    constraints.enrichEach source (modes ++ [mode]) =
      (constraints.enrichEach source modes).enrich source mode := by
  simp [enrichEach]

end Constraints

/-- The last mode of a sequence that does something. -/
def Mode.lastActive (modes : List Mode) : Option Mode :=
  (modes.filter fun mode => mode ≠ .off).getLast?

theorem Mode.lastActive_concat (modes : List Mode) (mode : Mode) :
    lastActive (modes ++ [mode]) = if mode = .off then lastActive modes else some mode := by
  cases mode <;> simp [lastActive]

namespace Constraints

/-- Neutral constraints remember the last mode only. -/
theorem enrichEach_eq_of_neutral (constraints : Constraints) (source : Source)
    (follows : source.FollowsLabels) (neutral : constraints.Neutral source)
    (modes : List Mode) :
    constraints.enrichEach source modes =
      match Mode.lastActive modes with
      | none => constraints
      | some mode => constraints.enrich source mode := by
  induction modes using List.reverseRecOn with
  | nil => rfl
  | append_singleton modes mode inductionHypothesis =>
      rw [enrichEach_concat, Mode.lastActive_concat, inductionHypothesis]
      by_cases active : mode = .off
      · rw [if_pos active, active, enrich_off]
      · rw [if_neg active]
        cases configured : source.isConfigured with
        | false => split <;> simp only [enrich_of_not_configured _ _ configured]
        | true =>
            split
            · rfl
            · next first _ =>
                apply enrich_eq_enrich configured active active
                rw [content_enrich _ _ configured]
                exact neutral.enrich_enrich follows first active

/-- The tolerations that two modes add and take away do not pile up, and a
toleration and a label of another kind outlast every mode. -/
theorem enrichEach_tainted :
    (PreemptibleNodes.tainted : Source).FollowsLabels ∧
      Neutral
        { tolerations := some [.anyValue "gpu" .noSchedule]
          nodeLabels := .ofList [("disk", "ssd")] }
        PreemptibleNodes.tainted ∧
      enrichEach
          { tolerations := some [.anyValue "gpu" .noSchedule]
            nodeLabels := .ofList [("disk", "ssd")] }
          PreemptibleNodes.tainted [.constrain, .prevent, .constrain, .off, .allow, .off] =
        { tolerations :=
            some [.anyValue "gpu" .noSchedule, .anyValue "preempt" .noSchedule]
          nodeLabels := .ofList [("disk", "ssd")] } := by
  have follows : (PreemptibleNodes.tainted : Source).FollowsLabels :=
    Source.followsLabels_derived _
  have neutral : Neutral
      { tolerations := some [.anyValue "gpu" .noSchedule]
        nodeLabels := .ofList [("disk", "ssd")] }
      PreemptibleNodes.tainted :=
    ⟨rfl, by decide, by decide, by decide⟩
  refine ⟨follows, neutral, ?_⟩
  exact (enrichEach_eq_of_neutral _ _ follows neutral _).trans rfl

end Constraints

end PodPlacement
