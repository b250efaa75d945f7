import PodPlacement.Format.Spec
import PodPlacement.Proofs.Format.Affinity
import PodPlacement.Proofs.PodSpec

/-!
# Reading written specifications

What is written of a specification is read as a document that asks for the same
node, priority class, constraints and mode.
-/

namespace PodPlacement

open Json Record

/-! ## Tolerations -/

theorem TolerationOperator.undoes_read : Undoes read toJson := by
  intro operator
  cases operator <;> rfl

theorem TaintEffect.undoes_read : Undoes read toJson := by
  intro effect
  cases effect <;> rfl

theorem Toleration.undoes_read : Undoes read toJson := by
  intro toleration
  have fills := format.started
    |>.optionalField "key" undoes_readString toleration.key rfl nofun rfl
    |>.optionalField "operator" TolerationOperator.undoes_read toleration.operator rfl nofun rfl
    |>.optionalField "value" undoes_readString toleration.value rfl nofun rfl
    |>.optionalField "effect" TaintEffect.undoes_read toleration.effect rfl nofun rfl
    |>.optionalField "tolerationSeconds" undoes_readInt64 toleration.seconds rfl nofun rfl
  exact fills.read_eq (by decide)

theorem Toleration.undoes_readAll : Undoes readAll listToJson :=
  undoes_read.readList

/-! ## Specifications -/

theorem SpecDocument.read_toJson (spec : PodSpec) :
    read spec.toJson.toDraft = .ok spec.document := by
  have mode : readOption readString (Json.toDraft spec.placement.mode.toJson) =
      .ok (some spec.placement.mode.name) := rfl
  have fills := format.started
    |>.optionalField "nodeName" undoes_readString spec.nodeName rfl nofun rfl
    |>.optionalField "priorityClassName" undoes_readString spec.priorityClass rfl nofun rfl
    |>.optionalField "affinity" Affinity.undoes_read spec.placement.affinity rfl nofun rfl
    |>.optionalField "tolerations" Toleration.undoes_readAll spec.placement.tolerations rfl nofun
      rfl
    |>.labelField "nodeSelector" spec.placement.nodeLabels rfl rfl
    |>.field "preemptionMode" mode rfl
  rw [PodSpec.toJson, Placement.toFields]
  simp only [← List.append_assoc]
  exact fills.read_eq (by decide)

end PodPlacement
