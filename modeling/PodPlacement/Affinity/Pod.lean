import PodPlacement.LabelMap

/-!
# Pod affinity

Pod affinity places a pod near other pods, or away from them. The other pods
are chosen by labels, and a key of node labels says what near means. These
terms are carried along as users write them, so an operator is any text.
-/

namespace PodPlacement

/-- A requirement on one label of a pod. -/
structure LabelRequirement where
  key : String
  operator : String
  values : List String := []
  deriving DecidableEq, Repr

/-- Chooses pods by their labels. -/
structure LabelSelector where
  expressions : List LabelRequirement := []
  labels : LabelMap := .empty
  deriving DecidableEq, Repr

/-- Other pods, and the key of the node label that says which nodes are near
each other. -/
structure PodTerm where
  selector : Option LabelSelector := none
  namespaces : List String := []
  topologyKey : String
  deriving DecidableEq, Repr

/-- A term that had better hold, and how much that counts. -/
structure PodPreference where
  weight : Int32
  term : PodTerm
  deriving DecidableEq, Repr

/-- The pods to be near to, or away from. -/
structure PodAffinity where
  required : List PodTerm := []
  preferred : List PodPreference := []
  deriving DecidableEq, Repr

namespace PodAffinity

/-- Whether there are no terms at all. -/
def isEmpty (affinity : PodAffinity) : Bool :=
  affinity.required.isEmpty && affinity.preferred.isEmpty

/-- The affinity, or none if it has no terms. -/
def collapse (affinity : PodAffinity) : Option PodAffinity :=
  if affinity.isEmpty then none else some affinity

end PodAffinity

end PodPlacement
