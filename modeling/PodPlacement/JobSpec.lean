import PodPlacement.Placement

/-!
# Job specifications

A distributed job has a driver pod and executor pods. Each group has a
placement of its own, with its own mode, and no change of one group touches the
other.
-/

namespace PodPlacement

/-- A group of pods of a job. -/
inductive Role where
  | driver
  | executor
  deriving DecidableEq, Repr

/-- The specification of a job. -/
structure JobSpec where
  driver : Placement
  executor : Placement
  deriving DecidableEq, Repr

namespace JobSpec

/-- The placement of a group. -/
def group (spec : JobSpec) : Role → Placement
  | .driver => spec.driver
  | .executor => spec.executor

/-- The specification with another placement for a group. -/
def setGroup (spec : JobSpec) (placement : Placement) : Role → JobSpec
  | .driver => { spec with driver := placement }
  | .executor => { spec with executor := placement }

/-- A change of one group, with the source that it asks. -/
structure Step where
  role : Role
  source : Source
  change : Placement.Step
  deriving DecidableEq, Repr

/-- The specification after one change. -/
def apply (step : Step) (spec : JobSpec) : Except SpecError JobSpec :=
  ((spec.group step.role).apply step.source step.change).map fun placement =>
    spec.setGroup placement step.role

end JobSpec

end PodPlacement
