import PodPlacement.Cluster.Environment
import PodPlacement.Proofs.Text.Padded

/-!
# What variables say

A variable says what stands in it without the white space around it. It is silent if
it is missing or has nothing but white space. The value of a setting is what its
variable says.
-/

namespace PodPlacement

open Text

namespace Environment

/-- A variable is silent if it is missing or has nothing but white space. -/
def IsSilent (environment : Environment) (setting : Setting) : Prop :=
  ∀ value ∈ environment setting.name, value.toList.all isBlank = true

/-- A variable says a text if it has the text with any white space around it, and the
text begins and ends with something else. -/
structure Says (environment : Environment) (setting : Setting) (text : String) : Prop where
  solid : IsSolid text.toList
  padded : ∃ value ∈ environment setting.name, Pads value.toList text.toList

variable {environment : Environment} {setting : Setting}

theorem value_eq_some_iff {text : String} :
    environment.value setting = some text ↔ environment.Says setting text := by
  rw [value, Option.filter_eq_some_iff, Option.map_eq_some_iff]
  constructor
  · rintro ⟨⟨value, found, rfl⟩, notEmpty⟩
    have nonempty : trimmed value.toList ≠ [] := by
      simpa [trim, String.ofList_eq_empty_iff] using notEmpty
    constructor
    case solid =>
      rw [toList_trim]
      exact isSolid_trimmed nonempty
    case padded =>
      refine ⟨value, found, ?_⟩
      rw [toList_trim]
      exact pads_trimmed value.toList
  · rintro ⟨solid, value, found, pads⟩
    refine ⟨⟨value, found, ?_⟩, by simpa using solid.ne_empty⟩
    rw [trim, trimmed_eq_of_pads solid pads, String.ofList_toList]

theorem value_eq_none_iff :
    environment.value setting = none ↔ environment.IsSilent setting := by
  rw [value, Option.filter_eq_none_iff, IsSilent]
  cases environment setting.name with
  | none => simp
  | some value =>
      simp [trim, String.ofList_eq_empty_iff, trimmed_eq_nil_iff]

end Environment

/-- A cluster is loaded if each of its parts is. -/
theorem Cluster.ofEnvironment_eq_ok_iff {environment : Environment}
    {cluster : Cluster} :
    ofEnvironment environment = .ok cluster ↔
      readLabels environment = .ok cluster.nodes.labels ∧
      readTolerations environment = .ok cluster.nodes.tolerations ∧
      readDefaultMode environment = .ok cluster.nodes.defaultMode ∧
      readClasses environment = cluster.classes := by
  rw [ofEnvironment]
  rcases cluster with ⟨⟨labels, tolerations, defaultMode⟩, classes⟩
  cases readLabels environment <;> cases readTolerations environment <;>
    cases readDefaultMode environment <;>
    simp [bind, Except.bind, pure, Except.pure, and_assoc]

end PodPlacement
