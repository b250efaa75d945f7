import PodPlacement.Json.Printer
import PodPlacement.Json.Reader
import PodPlacement.Toleration

/-!
# Tolerations as JSON

A toleration shows only the parts that it has.
-/

namespace PodPlacement

open Json

namespace TolerationOperator

/-- The operator as JSON: its name. -/
def toJson (operator : TolerationOperator) : Json :=
  .string operator.name

/-- An operator read from JSON. -/
def read : Reader TolerationOperator :=
  readNamed all name

end TolerationOperator

namespace TaintEffect

/-- The effect as JSON: its name. -/
def toJson (effect : TaintEffect) : Json :=
  .string effect.name

/-- An effect read from JSON. -/
def read : Reader TaintEffect :=
  readNamed all name

end TaintEffect

namespace Toleration

/-- The toleration as JSON. -/
def toJson (toleration : Toleration) : Json :=
  .object (optionalField "key" (toleration.key.map .string) ++
    optionalField "operator" (toleration.operator.map TolerationOperator.toJson) ++
    optionalField "value" (toleration.value.map .string) ++
    optionalField "effect" (toleration.effect.map TaintEffect.toJson) ++
    optionalField "tolerationSeconds" (toleration.seconds.map fun n => .int n.toInt))

/-- How tolerations are read. -/
def format : Record Toleration where
  type := "Toleration"
  fields :=
    [.optional "key" (readOption readString) fun key toleration => { toleration with key },
      .optional "operator" (readOption TolerationOperator.read) fun operator toleration =>
        { toleration with operator },
      .optional "value" (readOption readString) fun value toleration =>
        { toleration with value },
      .optional "effect" (readOption TaintEffect.read) fun effect toleration =>
        { toleration with effect },
      .optional "tolerationSeconds" (readOption readInt64) fun seconds toleration =>
        { toleration with seconds }]
  blank := {}

/-- A toleration read from JSON. -/
def read : Reader Toleration :=
  format.read

/-- A list of tolerations as JSON. -/
def listToJson (tolerations : List Toleration) : Json :=
  .array (tolerations.map toJson)

/-- A list of tolerations read from JSON. -/
def readAll : Reader (List Toleration) :=
  readList read

end Toleration

end PodPlacement
