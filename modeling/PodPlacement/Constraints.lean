import PodPlacement.Source

/-!
# Constraints and their enrichment

The constraints of a pod are its affinity, its tolerations and the labels that
its node must have. Enriching them for a mode removes what an earlier mode may
have put there and adds what the new mode needs; what has nothing to do with
preemptible nodes stays.

| mode | tolerations | required terms | node labels |
|---|---|---|---|
| off | kept | kept | kept |
| prevent | pruned | pruned; replaced if no tolerations are known | pruned |
| constrain | merged | replaced | kept |
| allow | merged | pruned | pruned |

Afterwards no part is left that says nothing.
-/

namespace PodPlacement

/-- The constraints on where a pod may run. -/
@[ext]
structure Constraints where
  affinity : Option Affinity := none
  tolerations : Option (List Toleration) := none
  /-- The labels that a node must have. -/
  nodeLabels : LabelMap := .empty
  deriving DecidableEq, Repr

namespace Constraints

/-- The constraints with the given requirements removed from the required node
terms. -/
def pruneRequirements (constraints : Constraints) (pruned : List NodeRequirement) :
    Constraints :=
  { constraints with affinity := Affinity.prune constraints.affinity pruned }

/-- The constraints with exactly the given required node terms. -/
def require (constraints : Constraints) (terms : List NodeTerm) : Constraints :=
  { constraints with affinity := some (Affinity.require constraints.affinity terms) }

/-- The constraints with the given tolerations removed. -/
def pruneTolerations (constraints : Constraints) (pruned : List Toleration) : Constraints :=
  { constraints with
    tolerations := constraints.tolerations.map fun existing =>
      Toleration.prune existing pruned }

/-- The constraints with the given tolerations added. -/
def mergeTolerations (constraints : Constraints) (incoming : List Toleration) : Constraints :=
  { constraints with
    tolerations := some (Toleration.merge (constraints.tolerations.getD []) incoming) }

/-- The constraints with the given node labels removed. -/
def pruneLabels (constraints : Constraints) (pruned : LabelMap) : Constraints :=
  { constraints with nodeLabels := constraints.nodeLabels.prune pruned }

/-- The constraints without parts that say nothing. -/
def collapse (constraints : Constraints) : Constraints :=
  { constraints with
    affinity := Affinity.collapse constraints.affinity
    tolerations := constraints.tolerations.filter fun tolerations => !tolerations.isEmpty }

/-- Keeps the pod off preemptible nodes. Their taints do that by themselves if
the pod has no toleration for them; without taints the node terms must. -/
def prevent (constraints : Constraints) (source : Source) : Constraints :=
  let pruned := ((constraints.pruneTolerations source.tolerations).pruneRequirements
    (source.requirements .isIn)).pruneLabels source.labels
  if source.tolerations.isEmpty then pruned.require source.antiTerms else pruned

/-- Keeps the pod on preemptible nodes. -/
def constrain (constraints : Constraints) (source : Source) : Constraints :=
  (constraints.mergeTolerations source.tolerations).require source.terms

/-- Lets the pod onto preemptible nodes and off them. -/
def allow (constraints : Constraints) (source : Source) : Constraints :=
  (((constraints.pruneRequirements (source.requirements .notIn)).pruneRequirements
    (source.requirements .isIn)).pruneLabels source.labels).mergeTolerations
      source.tolerations

/-- The constraints as a mode wants them. A source that knows nothing leaves
them as they are. -/
def enrich (constraints : Constraints) (source : Source) (mode : Mode) : Constraints :=
  if source.isConfigured then
    match mode with
    | .off => constraints
    | .prevent => (constraints.prevent source).collapse
    | .constrain => (constraints.constrain source).collapse
    | .allow => (constraints.allow source).collapse
  else constraints

end Constraints

end PodPlacement
