import PodPlacement.Proofs.LabelMap
import PodPlacement.Proofs.Placement.Enriched
import PodPlacement.Proofs.Source
import PodPlacement.Proofs.Toleration

/-!
# What a mode says of the constraints

Each mode makes a statement about the constraints of a pod: that they keep it
off preemptible nodes, keep it on them, or let it go to both. An enrichment
makes the statement true from whatever constraints it starts, so it is true of
every placement that a run with one source passes through.
-/

namespace PodPlacement

namespace Constraints

/-! ## The statements -/

/-- The constraints have the tolerations of a source, and no toleration
twice. -/
structure Tolerates (constraints : Constraints) (source : Source) : Prop where
  nodup : (constraints.tolerations.getD []).Nodup
  tolerations : ∀ toleration ∈ source.tolerations,
    toleration ∈ constraints.tolerations.getD []

/-- No required term holds a requirement on the labels of preemptible nodes with
the given operator. -/
def LacksRequirements (constraints : Constraints) (source : Source)
    (operator : NodeOperator) : Prop :=
  ∀ term ∈ constraints.requiredTerms, ∀ requirement ∈ term.expressions,
    requirement ∉ source.requirements operator

/-- No node label with a value is one of preemptible nodes. -/
def LacksLabels (constraints : Constraints) (source : Source) : Prop :=
  ∀ entry ∈ constraints.nodeLabels.entries, entry.2 ≠ "" → entry ∉ source.labels.entries

/-- The pod is kept off preemptible nodes: by their taints, or by the required
terms if they have none. -/
structure KeptOff (constraints : Constraints) (source : Source) : Prop where
  tolerations : ∀ toleration ∈ constraints.tolerations.getD [],
    toleration ∉ source.tolerations
  requirements : constraints.LacksRequirements source .isIn
  nodeLabels : constraints.LacksLabels source
  antiTerms : source.tolerations = [] → constraints.requiredTerms = source.antiTerms

/-- The pod is kept on preemptible nodes. -/
structure KeptOn (constraints : Constraints) (source : Source) : Prop
    extends constraints.Tolerates source where
  terms : constraints.requiredTerms = source.terms

/-- The pod may go to preemptible nodes and to others. -/
structure LetOn (constraints : Constraints) (source : Source) : Prop
    extends constraints.Tolerates source where
  attracting : constraints.LacksRequirements source .isIn
  excluding : constraints.LacksRequirements source .notIn
  nodeLabels : constraints.LacksLabels source

/-- What a mode says is true of the constraints. -/
def Expresses (constraints : Constraints) (source : Source) : Mode → Prop
  | .off => True
  | .prevent => constraints.KeptOff source
  | .constrain => constraints.KeptOn source
  | .allow => constraints.LetOn source

/-! ## Enrichment makes them true -/

variable (constraints : Constraints) {source : Source}
  (configured : source.isConfigured = true)

include configured

theorem tolerates_enrich {mode : Mode}
    (merged : (constraints.content.enrich source mode).tolerations =
      Toleration.merge constraints.content.tolerations source.tolerations) :
    (constraints.enrich source mode).Tolerates source := by
  constructor
  · rw [tolerations_enrich _ _ configured, merged]
    exact Toleration.nodup_merge _ _
  · intro toleration member
    rw [tolerations_enrich _ _ configured, merged, Toleration.mem_merge]
    exact .inr member

theorem lacksLabels_enrich {mode : Mode}
    (pruned : (constraints.content.enrich source mode).nodeLabels =
      constraints.content.nodeLabels.prune source.labels) :
    (constraints.enrich source mode).LacksLabels source := by
  rintro ⟨key, value⟩ member notEmpty shared
  rw [nodeLabels_enrich _ _ configured, pruned] at member
  have unlabelled := LabelMap.hasLabel_eq_false_of_mem_prune member
  rw [← Bool.not_eq_true, LabelMap.hasLabel_iff] at unlabelled
  exact unlabelled ⟨notEmpty, (LabelMap.get?_eq_some_iff _ _ _).mpr shared⟩

theorem lacksRequirements_enrich {mode : Mode} {operator : NodeOperator}
    {pruned : List NodeRequirement}
    (left : (constraints.content.enrich source mode).required =
      NodeTerm.remaining constraints.content.required pruned)
    (covered : ∀ requirement ∈ source.requirements operator, requirement ∈ pruned) :
    (constraints.enrich source mode).LacksRequirements source operator := by
  intro term member requirement required named
  rw [requiredTerms_enrich _ _ configured, left] at member
  exact NodeTerm.not_mem_pruned_of_mem_remaining member required (covered requirement named)

theorem keptOff_enrich (follows : source.FollowsLabels) :
    (constraints.enrich source .prevent).KeptOff source := by
  constructor
  case tolerations =>
    intro toleration member
    rw [tolerations_enrich _ _ configured] at member
    exact ((Toleration.mem_prune _ _ _).mp member).2
  case requirements =>
    by_cases untainted : source.tolerations.isEmpty = true
    · -- The required terms are replaced by terms that attract to no node.
      intro term member requirement required
      rw [requiredTerms_enrich _ _ configured, Content.enrich, if_pos untainted] at member
      exact follows.not_mem_isIn_of_mem_antiTerms member required
    · have left : (constraints.content.enrich source .prevent).required =
          NodeTerm.remaining constraints.content.required (source.requirements .isIn) :=
        if_neg untainted
      exact lacksRequirements_enrich _ configured left fun _ member => member
  case nodeLabels => exact lacksLabels_enrich _ configured rfl
  case antiTerms =>
    intro untainted
    rw [requiredTerms_enrich _ _ configured, Content.enrich,
      if_pos (List.isEmpty_iff.mpr untainted)]

theorem keptOn_enrich : (constraints.enrich source .constrain).KeptOn source where
  toTolerates := tolerates_enrich _ configured rfl
  terms := requiredTerms_enrich _ _ configured

theorem letOn_enrich : (constraints.enrich source .allow).LetOn source where
  toTolerates := tolerates_enrich _ configured rfl
  attracting := lacksRequirements_enrich _ configured rfl
    fun _ member => List.mem_append_right _ member
  excluding := lacksRequirements_enrich _ configured rfl
    fun _ member => List.mem_append_left _ member
  nodeLabels := lacksLabels_enrich _ configured rfl

/-- Enriched constraints express the mode, whatever they were before. -/
theorem expresses_enrich (follows : source.FollowsLabels) (mode : Mode) :
    (constraints.enrich source mode).Expresses source mode := by
  cases mode with
  | off => trivial
  | prevent => exact constraints.keptOff_enrich configured follows
  | constrain => exact constraints.keptOn_enrich configured
  | allow => exact constraints.letOn_enrich configured

end Constraints

namespace Placement

/-- The constraints of a placement express its mode. -/
def ExpressesMode (placement : Placement) (source : Source) : Prop :=
  placement.toConstraints.Expresses source placement.mode

theorem IsEnriched.expressesMode {placement : Placement} {source : Source}
    (enriched : placement.IsEnriched source) (follows : source.FollowsLabels)
    (configured : source.isConfigured = true) : placement.ExpressesMode source := by
  obtain ⟨earlier, equal⟩ := enriched
  rw [ExpressesMode, equal]
  exact earlier.expresses_enrich configured follows placement.mode

/-- A placement expresses its mode once it is built and after every following
change, failing ones included. -/
theorem expressesMode_throughout {source : Source} (follows : source.FollowsLabels)
    (configured : source.isConfigured = true) {constraints : Constraints}
    {modeName : Option String} {built : Placement}
    (wasBuilt : build source constraints modeName = .ok built) (steps : List Step) :
    built.ExpressesMode source ∧
      ∀ reached ∈ Run.history (apply source) steps built,
        reached.state.ExpressesMode source := by
  have enriched := isEnriched_of_build wasBuilt
  constructor
  · exact enriched.expressesMode follows configured
  · intro reached member
    have stillEnriched : reached.state.IsEnriched source :=
      Run.invariant_of_mem_history (fun _ _ _ _ applied => isEnriched_of_apply applied)
        enriched member
    exact stillEnriched.expressesMode follows configured

/-- A run that sets a mode, fails to set another one, asks for a label of the
preemptible nodes and sets a mode that takes it away. -/
theorem expressesMode_tainted :
    build PreemptibleNodes.tainted {} none = .ok ⟨{}, .prevent⟩ ∧
      Run.final (apply PreemptibleNodes.tainted)
          [.setMode (some "constrain"), .setMode (some "sometimes"),
            .select { nodeLabels := some (.ofList [("node-type", "spot")]) },
            .applyMode .allow]
          ⟨{}, .prevent⟩ =
        ⟨{ tolerations := some [.anyValue "preempt" .noSchedule] }, .allow⟩ ∧
      ExpressesMode ⟨{}, .prevent⟩ PreemptibleNodes.tainted ∧
      ∀ reached ∈ Run.history (apply PreemptibleNodes.tainted)
          [.setMode (some "constrain"), .setMode (some "sometimes"),
            .select { nodeLabels := some (.ofList [("node-type", "spot")]) },
            .applyMode .allow]
          ⟨{}, .prevent⟩,
        reached.state.ExpressesMode PreemptibleNodes.tainted := by
  have wasBuilt : build PreemptibleNodes.tainted {} none = .ok ⟨{}, .prevent⟩ := rfl
  refine ⟨wasBuilt, rfl, ?_⟩
  exact expressesMode_throughout (Source.followsLabels_derived _) (by decide) wasBuilt _

end Placement

end PodPlacement
