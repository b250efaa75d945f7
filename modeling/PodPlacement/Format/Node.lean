import PodPlacement.Affinity.Node
import PodPlacement.Json.Printer
import PodPlacement.Json.Reader

/-!
# Node affinity as JSON

Records are written with the field names of the cluster's pod format. Lists
that are empty and parts that are absent are left out, except that a hard
constraint always shows its terms.
-/

namespace PodPlacement

open Json

namespace NodeOperator

/-- The operator as JSON: its name. -/
def toJson (operator : NodeOperator) : Json :=
  .string operator.name

/-- An operator read from JSON. -/
def read : Reader NodeOperator :=
  readNamed all name

end NodeOperator

namespace NodeRequirement

/-- The requirement as JSON. -/
def toJson (requirement : NodeRequirement) : Json :=
  .object (field "key" (.string requirement.key) ++
    field "operator" requirement.operator.toJson ++
    listField "values" .string requirement.values)

/-- How requirements are read. -/
def format : Record NodeRequirement where
  type := "NodeSelectorRequirement"
  fields :=
    [.needed "key" readString fun key requirement => { requirement with key },
      .needed "operator" NodeOperator.read fun operator requirement =>
        { requirement with operator },
      .optional "values" (readList readString) fun values requirement =>
        { requirement with values }]
  blank := ⟨"", .isIn, []⟩

/-- A requirement read from JSON. -/
def read : Reader NodeRequirement :=
  format.read

end NodeRequirement

namespace NodeTerm

/-- The term as JSON. -/
def toJson (term : NodeTerm) : Json :=
  .object (listField "matchExpressions" NodeRequirement.toJson term.expressions ++
    listField "matchFields" NodeRequirement.toJson term.fields)

/-- How terms are read. -/
def format : Record NodeTerm where
  type := "NodeSelectorTerm"
  fields :=
    [.optional "matchExpressions" (readList NodeRequirement.read) fun expressions term =>
        { term with expressions },
      .optional "matchFields" (readList NodeRequirement.read) fun fields term =>
        { term with fields }]
  blank := {}

/-- A term read from JSON. -/
def read : Reader NodeTerm :=
  format.read

end NodeTerm

namespace NodeSelector

/-- The constraint as JSON. -/
def toJson (selector : NodeSelector) : Json :=
  .object (field "nodeSelectorTerms" (.array (selector.terms.map NodeTerm.toJson)))

/-- How constraints are read. -/
def format : Record NodeSelector where
  type := "NodeSelector"
  fields :=
    [.optional "nodeSelectorTerms" (readList NodeTerm.read) fun terms selector =>
      { selector with terms }]
  blank := {}

/-- A constraint read from JSON. -/
def read : Reader NodeSelector :=
  format.read

end NodeSelector

namespace NodePreference

/-- The preference as JSON. -/
def toJson (preference : NodePreference) : Json :=
  .object (field "weight" (.int preference.weight.toInt) ++
    field "preference" preference.term.toJson)

/-- How preferences are read. -/
def format : Record NodePreference where
  type := "PreferredSchedulingTerm"
  fields :=
    [.needed "weight" readInt32 fun weight preference => { preference with weight },
      .needed "preference" NodeTerm.read fun term preference => { preference with term }]
  blank := ⟨0, {}⟩

/-- A preference read from JSON. -/
def read : Reader NodePreference :=
  format.read

end NodePreference

/-- The field of what must hold when a pod is placed. -/
def requiredField : String :=
  "requiredDuringSchedulingIgnoredDuringExecution"

/-- The field of what had better hold when a pod is placed. -/
def preferredField : String :=
  "preferredDuringSchedulingIgnoredDuringExecution"

namespace NodeAffinity

/-- The affinity as JSON. -/
def toJson (affinity : NodeAffinity) : Json :=
  .object (optionalField requiredField (affinity.required.map NodeSelector.toJson) ++
    listField preferredField NodePreference.toJson affinity.preferred)

/-- How affinities are read. -/
def format : Record NodeAffinity where
  type := "NodeAffinity"
  fields :=
    [.optional requiredField (readOption NodeSelector.read) fun required affinity =>
        { affinity with required },
      .optional preferredField (readList NodePreference.read) fun preferred affinity =>
        { affinity with preferred }]
  blank := {}

/-- An affinity read from JSON. -/
def read : Reader NodeAffinity :=
  format.read

end NodeAffinity

end PodPlacement
