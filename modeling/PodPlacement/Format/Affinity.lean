import PodPlacement.Affinity.Basic
import PodPlacement.Format.LabelMap
import PodPlacement.Format.Node

/-!
# Affinity as JSON

Affinity to other pods has the same two fields as node affinity, and its terms
are written like those of nodes: lists and maps that are empty, and parts that
are absent, are left out.
-/

namespace PodPlacement

open Json

namespace LabelRequirement

/-- The requirement as JSON. -/
def toJson (requirement : LabelRequirement) : Json :=
  .object (field "key" (.string requirement.key) ++
    field "operator" (.string requirement.operator) ++
    listField "values" .string requirement.values)

/-- How requirements are read. -/
def format : Record LabelRequirement where
  type := "LabelSelectorRequirement"
  fields :=
    [.needed "key" readString fun key requirement => { requirement with key },
      .needed "operator" readString fun operator requirement =>
        { requirement with operator },
      .optional "values" (readList readString) fun values requirement =>
        { requirement with values }]
  blank := ⟨"", "", []⟩

/-- A requirement read from JSON. -/
def read : Reader LabelRequirement :=
  format.read

end LabelRequirement

namespace LabelSelector

/-- The choice of pods as JSON. -/
def toJson (selector : LabelSelector) : Json :=
  .object (listField "matchExpressions" LabelRequirement.toJson selector.expressions ++
    selector.labels.toField "matchLabels")

/-- How choices of pods are read. -/
def format : Record LabelSelector where
  type := "LabelSelector"
  fields :=
    [.optional "matchExpressions" (readList LabelRequirement.read)
        fun expressions selector => { selector with expressions },
      .optional "matchLabels" LabelMap.read fun labels selector =>
        { selector with labels }]
  blank := {}

/-- A choice of pods read from JSON. -/
def read : Reader LabelSelector :=
  format.read

end LabelSelector

namespace PodTerm

/-- The term as JSON. -/
def toJson (term : PodTerm) : Json :=
  .object (optionalField "labelSelector" (term.selector.map LabelSelector.toJson) ++
    listField "namespaces" .string term.namespaces ++
    field "topologyKey" (.string term.topologyKey))

/-- How terms are read. -/
def format : Record PodTerm where
  type := "PodAffinityTerm"
  fields :=
    [.optional "labelSelector" (readOption LabelSelector.read) fun selector term =>
        { term with selector },
      .optional "namespaces" (readList readString) fun namespaces term =>
        { term with namespaces },
      .needed "topologyKey" readString fun topologyKey term =>
        { term with topologyKey }]
  blank := { topologyKey := "" }

/-- A term read from JSON. -/
def read : Reader PodTerm :=
  format.read

end PodTerm

namespace PodPreference

/-- The preference as JSON. -/
def toJson (preference : PodPreference) : Json :=
  .object (field "weight" (.int preference.weight.toInt) ++
    field "podAffinityTerm" preference.term.toJson)

/-- How preferences are read. -/
def format : Record PodPreference where
  type := "WeightedPodAffinityTerm"
  fields :=
    [.needed "weight" readInt32 fun weight preference => { preference with weight },
      .needed "podAffinityTerm" PodTerm.read fun term preference =>
        { preference with term }]
  blank := ⟨0, { topologyKey := "" }⟩

/-- A preference read from JSON. -/
def read : Reader PodPreference :=
  format.read

end PodPreference

namespace PodAffinity

/-- The affinity as JSON. -/
def toJson (affinity : PodAffinity) : Json :=
  .object (listField requiredField PodTerm.toJson affinity.required ++
    listField preferredField PodPreference.toJson affinity.preferred)

/-- How affinities are read. -/
def format : Record PodAffinity where
  type := "PodAffinity"
  fields :=
    [.optional requiredField (readList PodTerm.read) fun required affinity =>
        { affinity with required },
      .optional preferredField (readList PodPreference.read) fun preferred affinity =>
        { affinity with preferred }]
  blank := {}

/-- An affinity read from JSON. -/
def read : Reader PodAffinity :=
  format.read

end PodAffinity

namespace Affinity

/-- The affinity as JSON. -/
def toJson (affinity : Affinity) : Json :=
  .object (optionalField "nodeAffinity" (affinity.node.map NodeAffinity.toJson) ++
    optionalField "podAffinity" (affinity.pod.map PodAffinity.toJson) ++
    optionalField "podAntiAffinity" (affinity.podAnti.map PodAffinity.toJson))

/-- How affinities are read. -/
def format : Record Affinity where
  type := "Affinity"
  fields :=
    [.optional "nodeAffinity" (readOption NodeAffinity.read) fun node affinity =>
        { affinity with node },
      .optional "podAffinity" (readOption PodAffinity.read) fun pod affinity =>
        { affinity with pod },
      .optional "podAntiAffinity" (readOption PodAffinity.read) fun podAnti affinity =>
        { affinity with podAnti }]
  blank := {}

/-- An affinity read from JSON. -/
def read : Reader Affinity :=
  format.read

end Affinity

end PodPlacement
