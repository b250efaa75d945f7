import PodPlacement.PriorityClass
import PodPlacement.Source

/-!
# Cluster configuration

What the placement of pods depends on in a cluster: its preemptible nodes and
the priority classes that it accepts.
-/

namespace PodPlacement

/-- The configuration of a cluster. -/
structure Cluster where
  nodes : PreemptibleNodes := {}
  classes : PriorityClasses := {}
  deriving DecidableEq, Repr

/-- The cluster as a source: every answer follows from its preemptible nodes. -/
def Cluster.source (cluster : Cluster) : Source :=
  .derived cluster.nodes

end PodPlacement
