import PodPlacement.Constraints
import PodPlacement.Proofs.Affinity.Content

/-!
# Pruning in turn

Pruning an affinity drops what becomes empty: a term, the hard constraint, the
whole node affinity. A second pass then meets another shape than the first one
did. Nothing is lost or kept by that, for whatever the first pass drops says
nothing that the second one could prune. So only the requirements that are named
count, whether in one pass or in several, and in whatever order.
-/

namespace PodPlacement

namespace NodeAffinity

/-- Parts without empty parts are pruned as the parts are. -/
theorem bind_prune_ofParts (required : List NodeTerm) (preferred : List NodePreference)
    (pruned : List NodeRequirement) :
    ((ofParts required preferred).bind fun affinity => affinity.prune pruned) =
      ofParts (NodeTerm.pruneAll required pruned) preferred := by
  cases present : ofParts required preferred with
  | none =>
      -- Nothing was there, so pruning can leave nothing.
      have requiresNothing := requiredTerms_ofParts required preferred
      have prefersNothing := preferred_ofParts required preferred
      rw [present] at requiresNothing prefersNothing
      rw [← requiresNothing, ← prefersNothing]
      rfl
  | some affinity =>
      have sameTerms := requiredTerms_ofParts required preferred
      have samePreferences := preferred_ofParts required preferred
      rw [present, Option.getD_some] at sameTerms samePreferences
      rw [Option.bind_some, prune_eq_ofParts, sameTerms, samePreferences]

/-- The second pass has no node affinity to prune if the first one dropped it. -/
theorem bind_prune_prune (affinity : NodeAffinity) (first second : List NodeRequirement) :
    ((affinity.prune first).bind fun affinity => affinity.prune second) =
      affinity.prune (first ++ second) := by
  rw [prune_eq_ofParts, bind_prune_ofParts, NodeTerm.pruneAll_pruneAll, ← prune_eq_ofParts]

theorem prune_congr (affinity : NodeAffinity) {first second : List NodeRequirement}
    (same : ∀ requirement, requirement ∈ first ↔ requirement ∈ second) :
    affinity.prune first = affinity.prune second := by
  rw [prune_eq_ofParts, prune_eq_ofParts, NodeTerm.pruneAll_congr _ same]

end NodeAffinity

namespace Affinity

variable (affinity : Option Affinity)

@[simp]
theorem prune_nil : prune affinity [] = affinity :=
  rfl

theorem prune_prune (first second : List NodeRequirement) :
    prune (prune affinity first) second = prune affinity (first ++ second) := by
  cases first with
  | nil => rfl
  | cons requirement first =>
      cases second with
      | nil => rw [prune_nil, List.append_nil]
      | cons other second =>
          simp only [prune, List.cons_append, List.isEmpty_cons, Bool.false_eq_true, if_false,
            Option.map_map]
          congr 1
          funext affinity
          simp only [Function.comp_apply, Option.bind_assoc, NodeAffinity.bind_prune_prune,
            List.cons_append]

/-- Pruning depends on what is in the list only. -/
theorem prune_congr {first second : List NodeRequirement}
    (same : ∀ requirement, requirement ∈ first ↔ requirement ∈ second) :
    prune affinity first = prune affinity second := by
  have samePruned : (fun node : NodeAffinity => node.prune first) =
      fun node => node.prune second :=
    funext fun node => node.prune_congr same
  rw [prune, prune, isEmpty_congr same, samePruned]

/-- Two passes prune what any list prunes that names the same requirements. -/
theorem prune_prune_eq {named first second : List NodeRequirement}
    (same : ∀ requirement, requirement ∈ named ↔ requirement ∈ first ∨ requirement ∈ second) :
    prune (prune affinity first) second = prune affinity named := by
  rw [prune_prune]
  apply prune_congr
  simp [same]

theorem prune_comm (first second : List NodeRequirement) :
    prune (prune affinity first) second = prune (prune affinity second) first := by
  rw [prune_prune affinity second]
  apply prune_prune_eq
  simp [or_comm]

theorem prune_prune_self (pruned : List NodeRequirement) :
    prune (prune affinity pruned) pruned = prune affinity pruned := by
  apply prune_prune_eq
  simp

end Affinity

namespace Constraints

variable (constraints : Constraints)

theorem pruneRequirements_pruneRequirements (first second : List NodeRequirement) :
    (constraints.pruneRequirements first).pruneRequirements second =
      constraints.pruneRequirements (first ++ second) := by
  simp only [pruneRequirements, Affinity.prune_prune]

/-- What is pruned to let a pod onto preemptible nodes and off them can be pruned at
once. -/
theorem allow_eq (source : Source) :
    constraints.allow source =
      ((constraints.pruneRequirements
          (source.requirements .notIn ++ source.requirements .isIn)).pruneLabels
        source.labels).mergeTolerations source.tolerations := by
  rw [allow, pruneRequirements_pruneRequirements]

end Constraints

namespace NodeRequirement

/-- A spot node. -/
def spot : NodeRequirement :=
  ⟨"node-type", .isIn, ["spot"]⟩

/-- A node of one zone. -/
def inZone : NodeRequirement :=
  ⟨"zone", .isIn, ["us-east-1a"]⟩

end NodeRequirement

namespace Affinity

/-- Pruning by two lists in turn is pruning by both at once. So it can be done in
either order or by any list that names the same requirements, doing it again
changes nothing, and letting a pod onto preemptible nodes and off them prunes no
other requirements in two passes than it would in one. -/
theorem prune_in_turn (affinity : Option Affinity) (first second : List NodeRequirement) :
    prune (prune affinity first) second = prune affinity (first ++ second) ∧
    prune (prune affinity first) second = prune (prune affinity second) first ∧
    (∀ named : List NodeRequirement,
      (∀ requirement, requirement ∈ named ↔ requirement ∈ first ∨ requirement ∈ second) →
      prune (prune affinity first) second = prune affinity named) ∧
    prune (prune affinity first) first = prune affinity first ∧
    ∀ tolerations nodeLabels (source : Source),
      Constraints.allow ⟨affinity, tolerations, nodeLabels⟩ source =
        ((Constraints.pruneRequirements ⟨affinity, tolerations, nodeLabels⟩
            (source.requirements .notIn ++ source.requirements .isIn)).pruneLabels
          source.labels).mergeTolerations source.tolerations := by
  refine ⟨prune_prune affinity first second, prune_comm affinity first second, ?anyList,
    prune_prune_self affinity first, ?allow⟩
  case anyList =>
    intro named same
    exact prune_prune_eq affinity same
  case allow =>
    intro tolerations nodeLabels source
    exact Constraints.allow_eq _ source

/-- Requires a spot node, of one zone or of any, and to be near to other pods. -/
def spotNearOthers : Affinity :=
  { node := some
      { required := some ⟨[{ expressions := [.spot] }, { expressions := [.spot, .inZone] }]⟩ }
    pod := some { required := [{ topologyKey := "zone" }] } }

/-- The first pass drops one term and leaves the other cut, the second one drops the
node affinity. Named in another order, and one of them twice, the requirements
drop it in one pass. -/
theorem prune_spotNearOthers :
    (∀ requirement : NodeRequirement, requirement ∈ [.inZone, .spot, .inZone] ↔
      requirement ∈ [.spot] ∨ requirement ∈ [.inZone]) ∧
    prune (prune (some spotNearOthers) [.spot]) [.inZone] =
      prune (some spotNearOthers) [.inZone, .spot, .inZone] ∧
    prune (prune (some spotNearOthers) [.spot]) [.inZone] =
      some { pod := some { required := [{ topologyKey := "zone" }] } } := by
  have same : ∀ requirement : NodeRequirement, requirement ∈ [.inZone, .spot, .inZone] ↔
      requirement ∈ [.spot] ∨ requirement ∈ [.inZone] := by
    intro requirement
    simp only [List.mem_cons, List.not_mem_nil, or_false]
    tauto
  exact ⟨same, (prune_in_turn (some spotNearOthers) _ _).2.2.1 _ same, rfl⟩

end Affinity

end PodPlacement
