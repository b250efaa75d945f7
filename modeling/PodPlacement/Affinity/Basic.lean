import PodPlacement.Affinity.Node
import PodPlacement.Affinity.Pod

/-!
# Affinity

The affinity of a pod joins node affinity with affinity and anti-affinity to
other pods. Its operations edit the required node terms and leave the rest
alone. An absent affinity and an empty one say the same but are written
differently; `collapse` removes every part that says nothing.
-/

namespace PodPlacement

/-- Where a pod may run and where it had better run. -/
structure Affinity where
  /-- The nodes. -/
  node : Option NodeAffinity := none
  /-- The pods to be near to. -/
  pod : Option PodAffinity := none
  /-- The pods to be away from. -/
  podAnti : Option PodAffinity := none
  deriving DecidableEq, Repr

namespace Affinity

/-- An affinity that requires one of the given terms and nothing else. -/
def requiring (terms : List NodeTerm) : Affinity :=
  { node := some { required := some ⟨terms⟩ } }

/-- The required node terms. -/
def requiredTerms (affinity : Affinity) : List NodeTerm :=
  (affinity.node.map NodeAffinity.requiredTerms).getD []

/-- Whether no part says anything. -/
def isEmpty (affinity : Affinity) : Bool :=
  affinity.node.all NodeAffinity.isEmpty && affinity.pod.all PodAffinity.isEmpty &&
    affinity.podAnti.all PodAffinity.isEmpty

/-- An affinity without the given requirements in its required node terms. With
nothing to prune it stays as it is. -/
def prune (affinity : Option Affinity) (pruned : List NodeRequirement) : Option Affinity :=
  if pruned.isEmpty then affinity
  else affinity.map fun affinity =>
    { affinity with node := affinity.node.bind fun node => node.prune pruned }

/-- An affinity with exactly the given required node terms. -/
def require (affinity : Option Affinity) (terms : List NodeTerm) : Affinity :=
  let affinity := affinity.getD {}
  { affinity with node := some { affinity.node.getD {} with required := some ⟨terms⟩ } }

/-- An affinity without its parts that say nothing, and none if nothing is
left. -/
def collapse (affinity : Option Affinity) : Option Affinity :=
  affinity.bind fun affinity =>
    if affinity.isEmpty then none
    else some
      { node := affinity.node.bind NodeAffinity.collapse
        pod := affinity.pod.bind PodAffinity.collapse
        podAnti := affinity.podAnti.bind PodAffinity.collapse }

/-- An affinity with another one folded in: node terms and preferences are
added, affinity to other pods is replaced. An absent affinity becomes the other
one as it stands. -/
def merge (existing : Option Affinity) (incoming : Affinity) : Affinity :=
  match existing with
  | none => incoming
  | some existing =>
      { node := match incoming.node with
          | none => existing.node
          | some node => some ((existing.node.getD {}).merge node)
        pod := incoming.pod <|> existing.pod
        podAnti := incoming.podAnti <|> existing.podAnti }

end Affinity

end PodPlacement
