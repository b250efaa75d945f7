import PodPlacement.Affinity.Basic
import PodPlacement.Mode
import PodPlacement.Toleration

/-!
# Preemptible nodes

A cluster describes its preemptible nodes by the labels that mark them and the
tolerations that let a pod onto them. Requirements and terms that attract a pod
to these nodes, or keep it away, follow from the labels. A source may also
state such an answer itself instead of deriving it.
-/

namespace PodPlacement

/-- The preemptible nodes of a cluster. -/
structure PreemptibleNodes where
  /-- The labels that mark them. -/
  labels : LabelMap := .empty
  /-- The tolerations that let a pod onto them. -/
  tolerations : List Toleration := []
  /-- The mode of a pod that does not name one. -/
  defaultMode : Mode := .standard
  deriving DecidableEq, Repr

namespace PreemptibleNodes

/-- The nodes with one more label. -/
def addLabel (nodes : PreemptibleNodes) (key value : String) : PreemptibleNodes :=
  { nodes with labels := nodes.labels.insert key value }

/-- The nodes with one more toleration. -/
def addToleration (nodes : PreemptibleNodes) (toleration : Toleration) : PreemptibleNodes :=
  { nodes with tolerations := nodes.tolerations ++ [toleration] }

/-- One requirement for each label: its key, the operator, and its value. -/
def requirements (nodes : PreemptibleNodes) (operator : NodeOperator) :
    List NodeRequirement :=
  nodes.labels.entries.map fun entry => ⟨entry.1, operator, [entry.2]⟩

/-- Terms that match every preemptible node: one for each label. -/
def terms (nodes : PreemptibleNodes) : List NodeTerm :=
  NodeTerm.anyOf (nodes.requirements .isIn)

/-- Terms that match no preemptible node: a single one that excludes every
label, or none if there are no labels. -/
def antiTerms (nodes : PreemptibleNodes) : List NodeTerm :=
  NodeTerm.allOf (nodes.requirements .notIn)

/-- Whether anything is known about preemptible nodes. -/
def isConfigured (nodes : PreemptibleNodes) : Bool :=
  !nodes.tolerations.isEmpty || !nodes.labels.isEmpty

end PreemptibleNodes

/-- A description of preemptible nodes with answers that it states itself. -/
structure Source where
  nodes : PreemptibleNodes := {}
  /-- Whether anything is known, if the source states it. -/
  statedConfigured : Option Bool := none
  /-- The requirements for each operator for which the source states them. -/
  statedRequirements : List (NodeOperator × List NodeRequirement) := []
  /-- The terms that match every preemptible node, if the source states them. -/
  statedTerms : Option (List NodeTerm) := none
  /-- The terms that match no preemptible node, if the source states them. -/
  statedAntiTerms : Option (List NodeTerm) := none
  deriving DecidableEq, Repr

namespace Source

/-- A source whose answers all follow from the labels and tolerations. -/
def derived (nodes : PreemptibleNodes) : Source :=
  { nodes }

instance : Coe PreemptibleNodes Source := ⟨derived⟩

/-- The labels that mark preemptible nodes. -/
def labels (source : Source) : LabelMap :=
  source.nodes.labels

/-- The tolerations that let a pod onto preemptible nodes. -/
def tolerations (source : Source) : List Toleration :=
  source.nodes.tolerations

/-- The mode of a pod that does not name one. -/
def defaultMode (source : Source) : Mode :=
  source.nodes.defaultMode

/-- The requirements that preemptible nodes meet, or do not meet, depending on
the operator. -/
def requirements (source : Source) (operator : NodeOperator) : List NodeRequirement :=
  (source.statedRequirements.lookup operator).getD (source.nodes.requirements operator)

/-- Whether anything is known about preemptible nodes. -/
def isConfigured (source : Source) : Bool :=
  source.statedConfigured.getD source.nodes.isConfigured

/-- The terms that a pod must match one of to be kept on preemptible nodes. -/
def terms (source : Source) : List NodeTerm :=
  source.statedTerms.getD (NodeTerm.anyOf (source.requirements .isIn))

/-- The terms that a pod must match one of to be kept off preemptible nodes. -/
def antiTerms (source : Source) : List NodeTerm :=
  source.statedAntiTerms.getD (NodeTerm.allOf (source.requirements .notIn))

/-- The requirements and terms of a source follow from its labels. Whether
anything is known it may still state itself. -/
structure FollowsLabels (source : Source) : Prop where
  requirements : ∀ operator, source.requirements operator = source.nodes.requirements operator
  terms : source.terms = source.nodes.terms
  antiTerms : source.antiTerms = source.nodes.antiTerms

theorem followsLabels_derived (nodes : PreemptibleNodes) : (derived nodes).FollowsLabels :=
  ⟨fun _ => rfl, rfl, rfl⟩

end Source

end PodPlacement
