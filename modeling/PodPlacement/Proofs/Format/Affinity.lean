import PodPlacement.Format.Affinity
import PodPlacement.Proofs.Json.Record
import PodPlacement.Proofs.LabelMap

/-!
# Reading written affinity

What is written of an affinity is read as that affinity, and so is what is
written of each of its parts.
-/

namespace PodPlacement

open Json Record

namespace LabelMap

/-- A map is put together again from its entries. -/
theorem ofList_entries (labels : LabelMap) : ofList labels.entries = labels :=
  empty_override labels

theorem undoes_read : Undoes read toJson := by
  intro labels
  have entries : readMap readString labels.toJson.toDraft = .ok labels.entries :=
    undoes_readString.readMap labels.entries
  rw [read, entries]
  exact congrArg Except.ok labels.ofList_entries

end LabelMap

/-- A field that is left out when its map is empty. -/
theorem Json.Record.Fills.labelField {ρ : Type} {description : Record ρ}
    {names : List String} {members : List (String × Json)} {before after : ρ}
    (fills : description.Fills names members before after) (name : String)
    {put : LabelMap → ρ → ρ} (labels : LabelMap)
    (found : description.field? name = some (.optional name LabelMap.read put))
    (absent : put .empty after = after) :
    description.Fills (names ++ [name]) (members ++ labels.toField name) before
      (put labels after) := by
  rw [LabelMap.toField]
  split
  · next isEmpty =>
      have equal : labels = .empty := LabelMap.ext (List.isEmpty_iff.mp isEmpty)
      rw [equal, absent]
      exact fills.leaveOut name found rfl
  · exact fills.field name (LabelMap.undoes_read labels) found

/-! ## Node affinity -/

theorem NodeOperator.undoes_read : Undoes read toJson := by
  intro operator
  cases operator <;> rfl

theorem NodeRequirement.undoes_read : Undoes read toJson := by
  intro requirement
  have fills := format.started
    |>.field "key" (undoes_readString requirement.key) rfl
    |>.field "operator" (NodeOperator.undoes_read requirement.operator) rfl
    |>.listField "values" undoes_readString requirement.values rfl rfl
  exact fills.read_eq (by decide)

theorem NodeTerm.undoes_read : Undoes read toJson := by
  intro term
  have fills := format.started
    |>.listField "matchExpressions" NodeRequirement.undoes_read term.expressions rfl rfl
    |>.listField "matchFields" NodeRequirement.undoes_read term.fields rfl rfl
  exact fills.read_eq (by decide)

theorem NodeSelector.undoes_read : Undoes read toJson := by
  intro selector
  have fills := format.started
    |>.field "nodeSelectorTerms" (NodeTerm.undoes_read.readList selector.terms) rfl
  exact fills.read_eq (by decide)

theorem NodePreference.undoes_read : Undoes read toJson := by
  intro preference
  have fills := format.started
    |>.field "weight" (undoes_readInt32 preference.weight) rfl
    |>.field "preference" (NodeTerm.undoes_read preference.term) rfl
  exact fills.read_eq (by decide)

theorem NodeAffinity.undoes_read : Undoes read toJson := by
  intro affinity
  have fills := format.started
    |>.optionalField requiredField NodeSelector.undoes_read affinity.required rfl nofun rfl
    |>.listField preferredField NodePreference.undoes_read affinity.preferred rfl rfl
  exact fills.read_eq (by decide)

/-! ## Affinity to other pods -/

theorem LabelRequirement.undoes_read : Undoes read toJson := by
  intro requirement
  have fills := format.started
    |>.field "key" (undoes_readString requirement.key) rfl
    |>.field "operator" (undoes_readString requirement.operator) rfl
    |>.listField "values" undoes_readString requirement.values rfl rfl
  exact fills.read_eq (by decide)

theorem LabelSelector.undoes_read : Undoes read toJson := by
  intro selector
  have fills := format.started
    |>.listField "matchExpressions" LabelRequirement.undoes_read selector.expressions rfl rfl
    |>.labelField "matchLabels" selector.labels rfl rfl
  exact fills.read_eq (by decide)

theorem PodTerm.undoes_read : Undoes read toJson := by
  intro term
  have fills := format.started
    |>.optionalField "labelSelector" LabelSelector.undoes_read term.selector rfl nofun rfl
    |>.listField "namespaces" undoes_readString term.namespaces rfl rfl
    |>.field "topologyKey" (undoes_readString term.topologyKey) rfl
  exact fills.read_eq (by decide)

theorem PodPreference.undoes_read : Undoes read toJson := by
  intro preference
  have fills := format.started
    |>.field "weight" (undoes_readInt32 preference.weight) rfl
    |>.field "podAffinityTerm" (PodTerm.undoes_read preference.term) rfl
  exact fills.read_eq (by decide)

theorem PodAffinity.undoes_read : Undoes read toJson := by
  intro affinity
  have fills := format.started
    |>.listField requiredField PodTerm.undoes_read affinity.required rfl rfl
    |>.listField preferredField PodPreference.undoes_read affinity.preferred rfl rfl
  exact fills.read_eq (by decide)

/-! ## All of it -/

theorem Affinity.undoes_read : Undoes read toJson := by
  intro affinity
  have fills := format.started
    |>.optionalField "nodeAffinity" NodeAffinity.undoes_read affinity.node rfl nofun rfl
    |>.optionalField "podAffinity" PodAffinity.undoes_read affinity.pod rfl nofun rfl
    |>.optionalField "podAntiAffinity" PodAffinity.undoes_read affinity.podAnti rfl nofun rfl
  exact fills.read_eq (by decide)

end PodPlacement
