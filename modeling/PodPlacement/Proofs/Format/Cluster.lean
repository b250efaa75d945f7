import PodPlacement.Proofs.Format.Spec

/-!
# Reading written configurations

What is written of a configuration is read as that configuration. With this,
every type of values that is written can be read back from its text, with or
without white space.
-/

namespace PodPlacement

open Json Record

/-! ## Configurations -/

theorem Mode.undoes_read : Undoes read toJson := by
  intro mode
  cases mode <;> rfl

theorem PreemptibleNodes.undoes_read : Undoes read toJson := by
  intro nodes
  have fills := format.started
    |>.field "nodeSelector" (LabelMap.undoes_read nodes.labels) rfl
    |>.field "tolerations" (Toleration.undoes_readAll nodes.tolerations) rfl
    |>.field "defaultPreemptionMode" (Mode.undoes_read nodes.defaultMode) rfl
  exact fills.read_eq (by decide)

theorem PriorityClasses.undoes_read : Undoes read toJson := by
  intro classes
  have fills := format.started
    |>.field "defaultName" (undoes_readString.readOption nofun classes.default) rfl
    |>.field "validNames" (undoes_readString.readList classes.valid) rfl
  exact fills.read_eq (by decide)

theorem Cluster.undoes_read : Undoes read toJson := by
  intro cluster
  have fills := format.started
    |>.field "preemptibleNodes" (PreemptibleNodes.undoes_read cluster.nodes) rfl
    |>.field "priorityClasses" (PriorityClasses.undoes_read cluster.classes) rfl
  exact fills.read_eq (by decide)

/-! ## The whole format -/

/-- Every value is read back from its text, compact or with a line for every item:
the parts of node affinity and of affinity to other pods, tolerations, label maps,
and configurations with all their parts. The text of a specification is read as
the document that has its node, priority class, constraints and mode. -/
theorem readsBack_written :
    (ReadsBack NodeOperator.read NodeOperator.toJson ∧
      ReadsBack NodeRequirement.read NodeRequirement.toJson ∧
      ReadsBack NodeTerm.read NodeTerm.toJson ∧
      ReadsBack NodeSelector.read NodeSelector.toJson ∧
      ReadsBack NodePreference.read NodePreference.toJson ∧
      ReadsBack NodeAffinity.read NodeAffinity.toJson) ∧
    (ReadsBack LabelRequirement.read LabelRequirement.toJson ∧
      ReadsBack LabelSelector.read LabelSelector.toJson ∧
      ReadsBack PodTerm.read PodTerm.toJson ∧
      ReadsBack PodPreference.read PodPreference.toJson ∧
      ReadsBack PodAffinity.read PodAffinity.toJson ∧
      ReadsBack Affinity.read Affinity.toJson) ∧
    (ReadsBack TolerationOperator.read TolerationOperator.toJson ∧
      ReadsBack TaintEffect.read TaintEffect.toJson ∧
      ReadsBack Toleration.read Toleration.toJson ∧
      ReadsBack Toleration.readAll Toleration.listToJson ∧
      ReadsBack LabelMap.read LabelMap.toJson) ∧
    (ReadsBack Mode.read Mode.toJson ∧
      ReadsBack PreemptibleNodes.read PreemptibleNodes.toJson ∧
      ReadsBack PriorityClasses.read PriorityClasses.toJson ∧
      ReadsBack Cluster.read Cluster.toJson) ∧
    ∀ spec : PodSpec, ∃ document : SpecDocument,
      readText SpecDocument.read spec.toJson.compact = .ok document ∧
      readText SpecDocument.read spec.toJson.pretty = .ok document ∧
      document.nodeName = spec.nodeName ∧
      document.priorityClass = spec.priorityClass ∧
      document.constraints = spec.placement.toConstraints ∧
      document.modeName = some spec.placement.mode.name := by
  refine ⟨⟨?_, ?_, ?_, ?_, ?_, ?_⟩, ⟨?_, ?_, ?_, ?_, ?_, ?_⟩, ⟨?_, ?_, ?_, ?_, ?_⟩,
    ⟨?_, ?_, ?_, ?_⟩, ?_⟩
  · exact NodeOperator.undoes_read.readsBack
  · exact NodeRequirement.undoes_read.readsBack
  · exact NodeTerm.undoes_read.readsBack
  · exact NodeSelector.undoes_read.readsBack
  · exact NodePreference.undoes_read.readsBack
  · exact NodeAffinity.undoes_read.readsBack
  · exact LabelRequirement.undoes_read.readsBack
  · exact LabelSelector.undoes_read.readsBack
  · exact PodTerm.undoes_read.readsBack
  · exact PodPreference.undoes_read.readsBack
  · exact PodAffinity.undoes_read.readsBack
  · exact Affinity.undoes_read.readsBack
  · exact TolerationOperator.undoes_read.readsBack
  · exact TaintEffect.undoes_read.readsBack
  · exact Toleration.undoes_read.readsBack
  · exact Toleration.undoes_readAll.readsBack
  · exact LabelMap.undoes_read.readsBack
  · exact Mode.undoes_read.readsBack
  · exact PreemptibleNodes.undoes_read.readsBack
  · exact PriorityClasses.undoes_read.readsBack
  · exact Cluster.undoes_read.readsBack
  · intro spec
    refine ⟨spec.document, ?_, ?_, rfl, rfl, rfl, rfl⟩
    · rw [readText_compact, SpecDocument.read_toJson]
    · rw [readText_pretty, SpecDocument.read_toJson]

end PodPlacement
