import PodPlacement.Placement

/-!
# Pod specifications

A pod specification pins a pod to a node, gives it a priority class, and places
it. The three parts do not look at each other. A user's document asks for a
specification; the cluster's preemptible nodes and priority classes decide what
becomes of it.
-/

namespace PodPlacement

/-- The specification of a pod. -/
structure PodSpec where
  /-- The node that the pod is pinned to. -/
  nodeName : Option String := none
  priorityClass : Option String := none
  placement : Placement
  deriving DecidableEq, Repr

namespace PodSpec

/-- The specification of a pod without a priority class. -/
def build (source : Source) (nodeName : Option String) (constraints : Constraints)
    (modeName : Option String) : Except SpecError PodSpec :=
  (Placement.build source constraints modeName).map fun placement =>
    { nodeName, placement }

/-- The specification with a change of its placement. -/
def place (spec : PodSpec) (source : Source) (step : Placement.Step) :
    Except SpecError PodSpec :=
  (spec.placement.apply source step).map fun placement => { spec with placement }

/-- The specification pinned to a node; without a name it stays where it is. -/
def pin (spec : PodSpec) (nodeName : Option String) : PodSpec :=
  { spec with nodeName := givenName nodeName <|> spec.nodeName }

/-- The specification with a priority class. -/
def setPriorityClass (spec : PodSpec) (classes : PriorityClasses) (name : Option String) :
    Except SpecError PodSpec :=
  (classes.assign name).map fun priorityClass => { spec with priorityClass }

/-- A change of a specification, with what it asks the cluster. -/
inductive Step where
  | setMode (source : Source) (name : Option String)
  | applyMode (source : Source) (mode : Mode)
  | select (source : Source) (nodeName : Option String) (selection : Selection)
  | setPriorityClass (classes : PriorityClasses) (name : Option String)
  deriving DecidableEq, Repr

/-- The specification after one change. -/
def apply : Step → PodSpec → Except SpecError PodSpec
  | .setMode source name, spec => spec.place source (.setMode name)
  | .applyMode source mode, spec => spec.place source (.applyMode mode)
  | .select source nodeName selection, spec =>
      (spec.pin nodeName).place source (.select selection)
  | .setPriorityClass classes name, spec => spec.setPriorityClass classes name

end PodSpec

/-- A specification as a user writes it. -/
structure SpecDocument where
  nodeName : Option String := none
  priorityClass : Option String := none
  constraints : Constraints := {}
  modeName : Option String := none
  deriving DecidableEq, Repr

/-- The specification that a document asks for. -/
def SpecDocument.toSpec (document : SpecDocument) (source : Source)
    (classes : PriorityClasses) : Except SpecError PodSpec := do
  let spec ← PodSpec.build source document.nodeName document.constraints document.modeName
  spec.setPriorityClass classes document.priorityClass

end PodPlacement
