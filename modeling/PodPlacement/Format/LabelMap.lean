import PodPlacement.Json.Printer
import PodPlacement.Json.Reader
import PodPlacement.LabelMap

/-!
# Label maps as JSON

A label map is an object with a member for each entry, in the order of the
keys. In a text a key may be repeated; its last value counts.
-/

namespace PodPlacement.LabelMap

/-- The map as JSON. -/
def toJson (labels : LabelMap) : Json :=
  .object (labels.entries.map fun entry => (entry.1, .string entry.2))

/-- A map read from JSON. -/
def read : Json.Reader LabelMap :=
  fun draft => (Json.readMap Json.readString draft).map ofList

/-- A field that is left out when its map is empty. -/
def toField (name : String) (labels : LabelMap) : List (String × Json) :=
  if labels.isEmpty then [] else [(name, labels.toJson)]

end PodPlacement.LabelMap
