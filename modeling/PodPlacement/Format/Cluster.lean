import PodPlacement.Cluster.Basic
import PodPlacement.Format.Affinity
import PodPlacement.Format.Toleration
import PodPlacement.Report

/-!
# Clusters and reports as JSON

The configuration of a cluster and the report of a source show all their
fields, whatever their values. In a text every field may be left out.
-/

namespace PodPlacement

open Json

namespace Mode

/-- The mode as JSON: its name. -/
def toJson (mode : Mode) : Json :=
  .string mode.name

/-- A mode read from JSON. -/
def read : Reader Mode :=
  readNamed all name

end Mode

namespace PreemptibleNodes

/-- The preemptible nodes as JSON. -/
def toJson (nodes : PreemptibleNodes) : Json :=
  .object (field "nodeSelector" nodes.labels.toJson ++
    field "tolerations" (Toleration.listToJson nodes.tolerations) ++
    field "defaultPreemptionMode" nodes.defaultMode.toJson)

/-- How preemptible nodes are read. -/
def format : Record PreemptibleNodes where
  type := "PreemptibleNodes"
  fields :=
    [.optional "nodeSelector" LabelMap.read fun labels nodes => { nodes with labels },
      .optional "tolerations" Toleration.readAll fun tolerations nodes =>
        { nodes with tolerations },
      .optional "defaultPreemptionMode" Mode.read fun defaultMode nodes =>
        { nodes with defaultMode }]
  blank := {}

/-- Preemptible nodes read from JSON. -/
def read : Reader PreemptibleNodes :=
  format.read

end PreemptibleNodes

namespace PriorityClasses

/-- The priority classes as JSON. -/
def toJson (classes : PriorityClasses) : Json :=
  .object (field "defaultName" (ofOption .string classes.default) ++
    field "validNames" (strings classes.valid))

/-- How priority classes are read. -/
def format : Record PriorityClasses where
  type := "PriorityClassPolicy"
  fields :=
    [.optional "defaultName" (readOption readString) fun default classes =>
        { classes with default },
      .optional "validNames" (readList readString) fun valid classes =>
        { classes with valid }]
  blank := {}

/-- Priority classes read from JSON. -/
def read : Reader PriorityClasses :=
  format.read

end PriorityClasses

namespace Cluster

/-- The configuration as JSON. -/
def toJson (cluster : Cluster) : Json :=
  .object (field "preemptibleNodes" cluster.nodes.toJson ++
    field "priorityClasses" cluster.classes.toJson)

/-- How configurations are read. -/
def format : Record Cluster where
  type := "ClusterConfig"
  fields :=
    [.optional "preemptibleNodes" PreemptibleNodes.read fun nodes cluster =>
        { cluster with nodes },
      .optional "priorityClasses" PriorityClasses.read fun classes cluster =>
        { cluster with classes }]
  blank := {}

/-- A configuration read from JSON. -/
def read : Reader Cluster :=
  format.read

end Cluster

/-- The report as JSON. -/
def Report.toJson (report : Report) : Json :=
  .object (field "configured" (.bool report.configured) ++
    field "tolerations" (Toleration.listToJson report.tolerations) ++
    field "nodeSelector" report.labels.toJson ++
    field "affinityTerms" (.array (report.terms.map NodeTerm.toJson)) ++
    field "antiAffinityTerms" (.array (report.antiTerms.map NodeTerm.toJson)) ++
    field "defaultPreemptionMode" report.defaultMode.toJson)

end PodPlacement
