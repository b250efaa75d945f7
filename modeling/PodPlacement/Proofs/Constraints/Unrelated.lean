import PodPlacement.Proofs.Constraints.Content
import PodPlacement.Proofs.Source

/-!
# What an enrichment keeps

An enrichment edits what constraints say of preemptible nodes and keeps the
rest: the preferences, the affinity to other pods, and the tolerations and node
labels that preemptible nodes do not have. When it prunes the required terms, it
keeps the terms in order and takes nothing from them but the requirements on
those labels.
-/

namespace PodPlacement

/-! ## The statements -/

/-- Affinity to other pods is kept, or it has no terms and is left out. -/
def PodAffinity.IsKept (before after : Option PodAffinity) : Prop :=
  after = before ∨ before = some {} ∧ after = none

namespace Constraints

/-- The tolerations that preemptible nodes do not ask for. -/
def unrelatedTolerations (constraints : Constraints) (source : Source) : List Toleration :=
  (constraints.tolerations.getD []).filter fun toleration => toleration ∉ source.tolerations

/-- What constraints say of other things than preemptible nodes is the same before
and after a change. -/
structure KeepsUnrelated (before after : Constraints) (source : Source) : Prop where
  preferences : after.preferences = before.preferences
  pods : ∀ side, PodAffinity.IsKept (Affinity.pods before.affinity side)
    (Affinity.pods after.affinity side)
  nodeLabels : ∀ entry ∈ before.nodeLabels.entries, entry ∉ source.labels.entries →
    entry ∈ after.nodeLabels.entries
  tolerations : (after.unrelatedTolerations source).eraseDups =
    (before.unrelatedTolerations source).eraseDups

theorem keepsUnrelated_self (constraints : Constraints) (source : Source) :
    constraints.KeepsUnrelated constraints source where
  preferences := rfl
  pods _ := .inl rfl
  nodeLabels _ member _ := member
  tolerations := rfl

end Constraints

/-- The terms without the requirements on labels that follow from those of
preemptible nodes for some operators. A term that has neither such requirements
nor fields left is dropped. -/
def PreemptibleNodes.strip (nodes : PreemptibleNodes) (operators : List NodeOperator)
    (terms : List NodeTerm) : List NodeTerm :=
  (terms.map fun term =>
      { term with
        expressions := term.expressions.filter fun requirement =>
          ∀ operator ∈ operators, requirement ∉ nodes.requirements operator }).filter
    fun term => term.expressions ≠ [] ∨ term.fields ≠ []

/-- The operators of the requirements that a mode takes away. -/
def Mode.prunedOperators : Mode → List NodeOperator
  | .prevent => [.isIn]
  | .allow => [.notIn, .isIn]
  | .off | .constrain => []

/-- The mode prunes the required terms and does not replace them. -/
def Mode.Prunes (mode : Mode) (source : Source) : Prop :=
  mode = .allow ∨ mode = .prevent ∧ source.tolerations ≠ []

theorem Mode.Prunes.prunedOperators_ne_nil {mode : Mode} {source : Source}
    (prunes : mode.Prunes source) : mode.prunedOperators ≠ [] := by
  rcases prunes with rfl | ⟨rfl, _⟩
  · exact List.cons_ne_nil _ _
  · exact List.cons_ne_nil _ _

/-! ## Affinity to other pods -/

theorem PodAffinity.isKept_filter (affinity : Option PodAffinity) :
    IsKept affinity (affinity.filter fun affinity => affinity ≠ {}) := by
  cases affinity with
  | none => exact .inl rfl
  | some affinity =>
      by_cases empty : affinity = {}
      · exact .inr ⟨congrArg some empty, by simp [empty, Option.filter]⟩
      · exact .inl (by simp [empty, Option.filter])

namespace Constraints

variable (constraints : Constraints) {source : Source} (mode : Mode)

theorem pods_enrich (configured : source.isConfigured = true) (active : mode ≠ .off)
    (side : Affinity.Side) :
    Affinity.pods (constraints.enrich source mode).affinity side =
      (Affinity.pods constraints.affinity side).filter fun pods => pods ≠ {} := by
  have collapsed : Affinity.collapse (constraints.enrich source mode).affinity =
      (constraints.enrich source mode).affinity :=
    congrArg affinity (constraints.collapse_enrich configured active)
  have sameContent : (Affinity.content (constraints.enrich source mode).affinity).pods side =
      (Affinity.content constraints.affinity).pods side := by
    rw [content_affinity_enrich _ _ configured]
    cases side <;> rfl
  rw [← collapsed, Affinity.pods_collapse, sameContent, Affinity.pods_content,
    PodAffinity.collapse_getD]

/-! ## The other parts -/

theorem preferences_enrich (configured : source.isConfigured = true) :
    (constraints.enrich source mode).preferences = constraints.preferences := by
  rw [← preferred_content, ← preferred_content, content_enrich _ _ configured]
  cases mode <;> rfl

theorem mem_nodeLabels_enrich (configured : source.isConfigured = true)
    {entry : String × String} (member : entry ∈ constraints.nodeLabels.entries)
    (unrelated : entry ∉ source.labels.entries) :
    entry ∈ (constraints.enrich source mode).nodeLabels.entries := by
  rcases nodeLabels_enrich_cases mode configured with kept | pruned
  · rw [kept]
    exact member
  · rw [pruned, LabelMap.prune, List.mem_filter]
    refine ⟨member, ?_⟩
    rw [Bool.not_eq_true', ← Bool.not_eq_true, LabelMap.hasLabel_iff,
      LabelMap.get?_eq_some_iff]
    exact fun shared => unrelated shared.2

theorem unrelatedTolerations_eq_prune :
    constraints.unrelatedTolerations source =
      Toleration.prune (constraints.tolerations.getD []) source.tolerations :=
  (Toleration.prune_eq_filter _ _).symm

theorem eraseDups_unrelatedTolerations_enrich (configured : source.isConfigured = true) :
    ((constraints.enrich source mode).unrelatedTolerations source).eraseDups =
      (constraints.unrelatedTolerations source).eraseDups := by
  rw [unrelatedTolerations_eq_prune, unrelatedTolerations_eq_prune]
  rcases tolerations_enrich_cases mode configured with kept | pruned | merged
  · rw [kept]
  · rw [pruned, Toleration.prune_prune_self]
  · rw [merged, Toleration.prune_merge_self]
    exact eraseDups_eq_self_of_nodup (nodup_eraseDups _)

/-- Keeping a pod off preemptible nodes does not even remove repeats. -/
theorem unrelatedTolerations_enrich_prevent :
    (constraints.enrich source .prevent).unrelatedTolerations source =
      constraints.unrelatedTolerations source := by
  cases configured : source.isConfigured with
  | false => rw [enrich_of_not_configured _ _ configured]
  | true =>
      rw [unrelatedTolerations_eq_prune, unrelatedTolerations_eq_prune,
        tolerations_enrich _ _ configured]
      exact Toleration.prune_prune_self _ _

/-- Every enrichment keeps what does not concern preemptible nodes. -/
theorem keepsUnrelated_enrich :
    constraints.KeepsUnrelated (constraints.enrich source mode) source := by
  cases configured : source.isConfigured with
  | false =>
      rw [enrich_of_not_configured _ _ configured]
      exact constraints.keepsUnrelated_self source
  | true =>
      by_cases active : mode = .off
      · rw [active, enrich_off]
        exact constraints.keepsUnrelated_self source
      · constructor
        case preferences => exact constraints.preferences_enrich mode configured
        case pods =>
          intro side
          rw [constraints.pods_enrich mode configured active]
          exact PodAffinity.isKept_filter _
        case nodeLabels =>
          exact fun _ member unrelated =>
            constraints.mem_nodeLabels_enrich mode configured member unrelated
        case tolerations =>
          exact constraints.eraseDups_unrelatedTolerations_enrich mode configured

end Constraints

/-! ## Required terms -/

namespace PreemptibleNodes

variable (nodes : PreemptibleNodes)

theorem isEmpty_flatMap_requirements {operators : List NodeOperator}
    (notEmpty : operators ≠ []) :
    (operators.flatMap nodes.requirements).isEmpty = nodes.labels.isEmpty := by
  have requirements_eq_nil_iff (operator : NodeOperator) :
      nodes.requirements operator = [] ↔ nodes.labels.entries = [] :=
    List.map_eq_nil_iff
  rw [Bool.eq_iff_iff, List.isEmpty_iff, List.flatMap_eq_nil_iff, LabelMap.isEmpty,
    List.isEmpty_iff]
  simp only [requirements_eq_nil_iff]
  constructor
  · intro noLabels
    obtain ⟨operator, member⟩ := List.exists_mem_of_ne_nil _ notEmpty
    exact noLabels operator member
  · exact fun noLabels _ _ => noLabels

/-- Pruning by the requirements of several operators takes those away and no
others. -/
theorem pruneAll_requirements (operators : List NodeOperator) (terms : List NodeTerm) :
    NodeTerm.pruneAll terms (operators.flatMap nodes.requirements) =
      nodes.strip operators terms := by
  have samePruned : (fun term : NodeTerm => term.prune (operators.flatMap nodes.requirements)) =
      fun term => { term with
        expressions := term.expressions.filter fun requirement =>
          ∀ operator ∈ operators, requirement ∉ nodes.requirements operator } := by
    funext term
    rw [NodeTerm.prune]
    congr 1
    apply List.filter_congr
    intro requirement _
    rw [Bool.eq_iff_iff]
    simp
  rw [NodeTerm.pruneAll, samePruned, strip]
  apply List.filter_congr
  intro term _
  rw [Bool.eq_iff_iff]
  simp [NodeTerm.isEmpty]

end PreemptibleNodes

namespace Constraints

variable (constraints : Constraints) {source : Source} {mode : Mode}

theorem requiredTerms_enrich_of_prunes (configured : source.isConfigured = true)
    (prunes : mode.Prunes source) :
    (constraints.enrich source mode).requiredTerms =
      NodeTerm.remaining constraints.requiredTerms
        (mode.prunedOperators.flatMap source.requirements) := by
  rw [requiredTerms_enrich _ _ configured, ← required_content]
  rcases prunes with rfl | ⟨rfl, tainted⟩
  · simp [Content.enrich, Mode.prunedOperators]
  · simp [Content.enrich, Mode.prunedOperators, tainted]

/-- An enrichment keeps what constraints say of other things than preemptible
nodes, and keeping a pod off them keeps repeated tolerations as well. If it prunes
the required terms, it takes nothing from them but the requirements of the mode,
and without labels it leaves them as they are. -/
theorem enrich_keeps_unrelated
    (derived : ∀ operator, source.requirements operator = source.nodes.requirements operator) :
    (∀ mode, constraints.KeepsUnrelated (constraints.enrich source mode) source) ∧
      (constraints.enrich source .prevent).unrelatedTolerations source =
        constraints.unrelatedTolerations source ∧
      (source.isConfigured = true → ∀ mode : Mode, mode.Prunes source →
        (constraints.enrich source mode).requiredTerms =
          if source.labels.isEmpty then constraints.requiredTerms
          else source.nodes.strip mode.prunedOperators constraints.requiredTerms) := by
  refine ⟨constraints.keepsUnrelated_enrich, constraints.unrelatedTolerations_enrich_prevent, ?_⟩
  intro configured mode prunes
  have sameRequirements : source.requirements = source.nodes.requirements := funext derived
  rw [constraints.requiredTerms_enrich_of_prunes configured prunes, sameRequirements,
    NodeTerm.remaining, source.nodes.pruneAll_requirements,
    source.nodes.isEmpty_flatMap_requirements prunes.prunedOperators_ne_nil]
  rfl

/-- Constraints that speak of spot nodes and of other things in every part, with an
affinity to other pods that has no terms. -/
def mixed : Constraints :=
  { affinity := some
      { node := some
          { required := some
              ⟨[{ expressions := [⟨"node-type", .isIn, ["spot"]⟩] },
                { expressions :=
                    [⟨"node-type", .notIn, ["spot"]⟩, ⟨"zone", .isIn, ["us-east-1a"]⟩] }]⟩
            preferred := [⟨20, { expressions := [⟨"node-type", .isIn, ["spot"]⟩] }⟩] }
        pod := some {} }
    tolerations := some
      [.anyValue "gpu" .noSchedule, .anyValue "preempt" .noSchedule,
        .anyValue "gpu" .noSchedule]
    nodeLabels := .ofList [("disk", "ssd"), ("node-type", "spot")] }

/-- One term is dropped and the other one cut; the preference stays although it
speaks of spot nodes. -/
theorem enrich_keeps_unrelated_mixed :
    (PreemptibleNodes.tainted : Source).isConfigured = true ∧
      Mode.allow.Prunes PreemptibleNodes.tainted ∧
      mixed.enrich PreemptibleNodes.tainted .allow =
        { affinity := some
            { node := some
                { required := some
                    ⟨[{ expressions := [⟨"zone", .isIn, ["us-east-1a"]⟩] }]⟩
                  preferred := [⟨20, { expressions := [⟨"node-type", .isIn, ["spot"]⟩] }⟩] } }
          tolerations := some
            [.anyValue "gpu" .noSchedule, .anyValue "preempt" .noSchedule]
          nodeLabels := .ofList [("disk", "ssd")] } ∧
      mixed.KeepsUnrelated (mixed.enrich PreemptibleNodes.tainted .allow)
        PreemptibleNodes.tainted ∧
      (mixed.enrich PreemptibleNodes.tainted .allow).requiredTerms =
        PreemptibleNodes.tainted.strip [.notIn, .isIn] mixed.requiredTerms := by
  have configured : (PreemptibleNodes.tainted : Source).isConfigured = true := rfl
  have prunes : Mode.allow.Prunes PreemptibleNodes.tainted := .inl rfl
  have ⟨keeps, _, stripped⟩ :=
    mixed.enrich_keeps_unrelated (Source.followsLabels_derived .tainted).requirements
  exact ⟨configured, prunes, rfl, keeps .allow, stripped configured .allow prunes⟩

end Constraints

end PodPlacement
