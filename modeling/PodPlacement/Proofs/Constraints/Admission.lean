import PodPlacement.Proofs.Affinity.Meaning
import PodPlacement.Proofs.Constraints.Content
import PodPlacement.Proofs.Source

/-!
# The nodes that constraints admit

Constraints admit the nodes that meet their hard constraint, if they have one.
Keeping a pod on preemptible nodes admits exactly the nodes with one of their
labels; keeping it off them by terms admits exactly the others. The required
node labels speak of nodes too, and the two may contradict each other in one
way only: by a label without a value, which is required of the node although
the terms exclude it.
-/

namespace PodPlacement

namespace Affinity

/-- The hard constraint on nodes. -/
def requiredSelector (affinity : Option Affinity) : Option NodeSelector :=
  (affinity.bind Affinity.node).bind NodeAffinity.required

/-- After collapsing there is a hard constraint if it has terms. -/
theorem requiredSelector_collapse (affinity : Option Affinity) :
    requiredSelector (collapse affinity) =
      if (content affinity).required.isEmpty then none
      else some ⟨(content affinity).required⟩ := by
  rw [collapse_eq_ofContent]
  rcases content affinity with ⟨_ | ⟨term, terms⟩, preferred, pod, podAnti⟩
  · rw [ofContent]
    split
    · rfl
    · cases preferred <;> rfl
  · rfl

end Affinity

/-! ## Nodes to try statements out on -/

/-- Spot nodes with two labels and no taint. -/
def PreemptibleNodes.untainted : PreemptibleNodes :=
  { labels := .ofList [("node-type", "spot"), ("pool", "cheap")] }

/-- Nodes that are marked by a label without a value. -/
def PreemptibleNodes.unvalued : PreemptibleNodes :=
  { labels := .ofList [("spot", "")] }

/-- A source that has labels and states that nothing is known. -/
def Source.silent : Source :=
  { nodes := { labels := .ofList [("node-type", "spot")] }, statedConfigured := some false }

namespace Constraints

/-- Constraints that ask for a zone by a required term. -/
def constrainedToZone : Constraints :=
  { affinity := some (.requiring [{ expressions := [⟨"zone", .isIn, ["us-east-1a"]⟩] }]) }

/-- A node meets the hard constraint, if there is one. -/
def Admits (constraints : Constraints) (node : LabelMap) : Prop :=
  ∀ selector ∈ Affinity.requiredSelector constraints.affinity, selector.Holds node

instance (constraints : Constraints) (node : LabelMap) : Decidable (constraints.Admits node) :=
  inferInstanceAs (Decidable (∀ selector ∈ Affinity.requiredSelector constraints.affinity,
    selector.Holds node))

/-- What collapsed constraints admit depends on their required terms only. -/
theorem admits_iff_of_collapse_eq {constraints : Constraints}
    (collapsed : constraints.collapse = constraints) (node : LabelMap) :
    constraints.Admits node ↔
      constraints.requiredTerms = [] ∨
        (⟨constraints.requiredTerms⟩ : NodeSelector).Holds node := by
  have selector : Affinity.requiredSelector constraints.affinity =
      if constraints.requiredTerms.isEmpty then none else some ⟨constraints.requiredTerms⟩ := by
    rw [← required_content, content, ← Affinity.requiredSelector_collapse]
    exact congrArg (fun constraints => Affinity.requiredSelector constraints.affinity)
      collapsed.symm
  rw [Admits, selector]
  cases constraints.requiredTerms with
  | nil => simp
  | cons term terms => simp

section Enriched

variable (constraints : Constraints) {source : Source} (node : LabelMap)
  (configured : source.isConfigured = true)

include configured

theorem admits_enrich_iff {mode : Mode} (active : mode ≠ .off) :
    (constraints.enrich source mode).Admits node ↔
      (constraints.content.enrich source mode).required = [] ∨
        (⟨(constraints.content.enrich source mode).required⟩ : NodeSelector).Holds node := by
  rw [admits_iff_of_collapse_eq (constraints.collapse_enrich configured active),
    requiredTerms_enrich _ _ configured]

/-- A pod that is kept on preemptible nodes is admitted to those nodes. -/
theorem admits_enrich_constrain_iff (derived : source.terms = source.nodes.terms)
    (labelled : source.labels.isEmpty = false) :
    (constraints.enrich source .constrain).Admits node ↔ source.labels.Meets node := by
  have active : Mode.constrain ≠ .off := by decide
  rw [admits_enrich_iff _ _ configured active, Content.enrich, derived,
    or_iff_right (source.nodes.terms_ne_nil labelled)]
  exact source.nodes.terms_hold_iff node

/-- A pod that is kept off preemptible nodes by terms is admitted to the other
nodes. -/
theorem admits_enrich_prevent_iff (derived : source.antiTerms = source.nodes.antiTerms)
    (untainted : source.tolerations = []) :
    (constraints.enrich source .prevent).Admits node ↔ ¬ source.labels.Meets node := by
  have active : Mode.prevent ≠ .off := by decide
  rw [admits_enrich_iff _ _ configured active, Content.enrich,
    if_pos (List.isEmpty_iff.mpr untainted), derived]
  exact source.nodes.antiTerms_eq_nil_or_hold_iff node

/-- The two ways of keeping a pod in place split the nodes: those with a label of
preemptible nodes, and all others. -/
theorem admits_enrich_iff_meets (derivedTerms : source.terms = source.nodes.terms)
    (derivedAntiTerms : source.antiTerms = source.nodes.antiTerms)
    (labelled : source.labels.isEmpty = false) :
    ((constraints.enrich source .constrain).Admits node ↔ source.labels.Meets node) ∧
      (source.tolerations = [] →
        ((constraints.enrich source .prevent).Admits node ↔ ¬ source.labels.Meets node)) := by
  constructor
  · exact constraints.admits_enrich_constrain_iff node configured derivedTerms labelled
  · intro untainted
    exact constraints.admits_enrich_prevent_iff node configured derivedAntiTerms untainted

end Enriched

/-- A node with one of two labels, and the zone that was asked for before. -/
theorem admits_enrich_untainted :
    (constrainedToZone.enrich PreemptibleNodes.untainted .constrain).Admits
        (.ofList [("pool", "cheap")]) ∧
      ¬ (constrainedToZone.enrich PreemptibleNodes.untainted .prevent).Admits
        (.ofList [("pool", "cheap")]) := by
  have configured : (PreemptibleNodes.untainted : Source).isConfigured = true := by decide
  have labelled : (PreemptibleNodes.untainted : Source).labels.isEmpty = false := by decide
  have untainted : (PreemptibleNodes.untainted : Source).tolerations = [] := rfl
  have ⟨constrained, prevented⟩ := admits_enrich_iff_meets constrainedToZone
    (.ofList [("pool", "cheap")]) configured rfl rfl labelled
  have meets : (PreemptibleNodes.untainted : Source).labels.Meets
      (.ofList [("pool", "cheap")]) := by decide
  exact ⟨constrained.mpr meets, fun admitted => (prevented untainted).mp admitted meets⟩

/-- A source that states that nothing is known leaves the constraints alone, and
so they admit nodes without its labels. -/
theorem admits_enrich_silent :
    Source.silent.FollowsLabels ∧ Source.silent.labels.isEmpty = false ∧
      (({} : Constraints).enrich .silent .constrain).Admits .empty ∧
      ¬ Source.silent.labels.Meets .empty := by
  refine ⟨⟨fun _ => rfl, rfl, rfl⟩, by decide, by decide, by decide⟩

/-! ## Node labels and the nodes admitted -/

/-- A pod that is kept off preemptible nodes by terms has a node that it can run
on, unless a label of preemptible nodes has no value and is required of the
node. -/
theorem exists_admitted_enrich_prevent_iff (constraints : Constraints) {source : Source}
    (configured : source.isConfigured = true)
    (derived : source.antiTerms = source.nodes.antiTerms)
    (untainted : source.tolerations = []) :
    (∃ node : LabelMap,
        (constraints.enrich source .prevent).nodeLabels.entries ⊆ node.entries ∧
          (constraints.enrich source .prevent).Admits node) ↔
      ∀ key, (key, "") ∈ source.labels.entries →
        (key, "") ∉ constraints.nodeLabels.entries := by
  have pruned : (constraints.enrich source .prevent).nodeLabels =
      constraints.nodeLabels.prune source.labels :=
    nodeLabels_enrich _ _ configured
  have meets := LabelMap.meets_prune_iff constraints.nodeLabels source.labels
  simp only [admits_enrich_prevent_iff _ _ configured derived untainted, pruned]
  constructor
  · rintro ⟨node, carries, apart⟩ key excluded required
    exact apart ((meets.mpr ⟨key, excluded, required⟩).mono carries)
  · -- The labels that are left over make such a node.
    intro disjoint
    refine ⟨_, List.Subset.refl _, ?_⟩
    rw [meets]
    rintro ⟨key, excluded, required⟩
    exact disjoint key excluded required

/-- A pod that asks for the label of preemptible nodes with another value. -/
theorem exists_admitted_enrich_unvalued :
    ∃ node : LabelMap,
      (Constraints.enrich { nodeLabels := .ofList [("spot", "no")] }
          PreemptibleNodes.unvalued .prevent).nodeLabels.entries ⊆ node.entries ∧
        (Constraints.enrich { nodeLabels := .ofList [("spot", "no")] }
          PreemptibleNodes.unvalued .prevent).Admits node := by
  apply (exists_admitted_enrich_prevent_iff { nodeLabels := .ofList [("spot", "no")] }
    (by decide) rfl rfl).mpr
  intro key _ required
  have equal : (key, "") = ("spot", "no") := List.mem_singleton.mp required
  have noValue : "" = "no" := congrArg Prod.snd equal
  exact absurd noValue (by decide)

/-- A pod that asks for that label without a value can run nowhere. -/
theorem not_exists_admitted_enrich_unvalued :
    (PreemptibleNodes.unvalued : Source).FollowsLabels ∧
      (PreemptibleNodes.unvalued : Source).isConfigured = true ∧
      (PreemptibleNodes.unvalued : Source).tolerations = [] ∧
      ¬ ∃ node : LabelMap,
        (Constraints.enrich { nodeLabels := .ofList [("spot", "")] }
            PreemptibleNodes.unvalued .prevent).nodeLabels.entries ⊆ node.entries ∧
          (Constraints.enrich { nodeLabels := .ofList [("spot", "")] }
            PreemptibleNodes.unvalued .prevent).Admits node := by
  have configured : (PreemptibleNodes.unvalued : Source).isConfigured = true := by decide
  refine ⟨Source.followsLabels_derived _, configured, rfl, ?_⟩
  rintro ⟨node, carries, admitted⟩
  rw [admits_enrich_prevent_iff _ _ configured rfl rfl] at admitted
  have left : ("spot", "") ∈ (Constraints.enrich { nodeLabels := .ofList [("spot", "")] }
      PreemptibleNodes.unvalued .prevent).nodeLabels.entries := by decide
  exact admitted ⟨("spot", ""), by decide, carries left⟩

end Constraints

end PodPlacement
