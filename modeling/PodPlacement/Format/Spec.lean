import PodPlacement.Format.Cluster
import PodPlacement.JobSpec
import PodPlacement.PodSpec

/-!
# Specifications as JSON

A specification shows its mode and the parts that it has. What it shows can be
read as a user's document, which has the same fields and may leave out the mode
too.
-/

namespace PodPlacement

open Json

namespace Placement

/-- The fields of a placement. -/
def toFields (placement : Placement) : List (String × Json) :=
  optionalField "affinity" (placement.affinity.map Affinity.toJson) ++
    optionalField "tolerations" (placement.tolerations.map Toleration.listToJson) ++
    placement.nodeLabels.toField "nodeSelector" ++
    field "preemptionMode" placement.mode.toJson

/-- The placement as JSON. -/
def toJson (placement : Placement) : Json :=
  .object placement.toFields

end Placement

/-- The specification of a pod as JSON. -/
def PodSpec.toJson (spec : PodSpec) : Json :=
  .object (optionalField "nodeName" (spec.nodeName.map .string) ++
    optionalField "priorityClassName" (spec.priorityClass.map .string) ++
    spec.placement.toFields)

/-- The specification of a job as JSON. -/
def JobSpec.toJson (spec : JobSpec) : Json :=
  .object (field "driver" spec.driver.toJson ++ field "executor" spec.executor.toJson)

namespace SpecDocument

/-- How documents are read. -/
def format : Record SpecDocument where
  type := "ResourceSpecDocument"
  fields :=
    [.optional "nodeName" (readOption readString) fun nodeName document =>
        { document with nodeName },
      .optional "priorityClassName" (readOption readString) fun priorityClass document =>
        { document with priorityClass },
      .optional "nodeSelector" LabelMap.read fun nodeLabels document =>
        { document with constraints := { document.constraints with nodeLabels } },
      .optional "affinity" (readOption Affinity.read) fun affinity document =>
        { document with constraints := { document.constraints with affinity } },
      .optional "tolerations" (readOption Toleration.readAll) fun tolerations document =>
        { document with constraints := { document.constraints with tolerations } },
      .optional "preemptionMode" (readOption readString) fun modeName document =>
        { document with modeName }]
  blank := {}

/-- A document read from JSON. -/
def read : Reader SpecDocument :=
  format.read

end SpecDocument

end PodPlacement
