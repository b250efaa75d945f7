import Mathlib.Data.List.Basic
import PodPlacement.JobSpec
import PodPlacement.PodSpec

/-!
# Parts that do not interfere

A specification has parts, and every step changes one of them, or two that do
not look at each other. So each part goes through a run of its own: a step that
does not concern the part might as well not be made, and it does not matter in
which order the steps of different parts come or which of them fail.
-/

namespace PodPlacement

namespace PodSpec

/-! ## What the parts see of a step -/

namespace Step

/-- The change of the placement, with the source that it asks. -/
def placementChange : Step → Option (Source × Placement.Step)
  | .setMode source name => some (source, .setMode name)
  | .applyMode source mode => some (source, .applyMode mode)
  | .select source _ selection => some (source, .select selection)
  | .setPriorityClass _ _ => none

/-- The priority class that is asked for, with the classes that are accepted. -/
def classChange : Step → Option (PriorityClasses × Option String)
  | .setPriorityClass classes name => some (classes, name)
  | _ => none

/-- The node that the pod is pinned to, if one is named. -/
def pinnedNode : Step → Option String
  | .select _ nodeName _ => givenName nodeName
  | _ => none

/-- Whether the step sets the priority class. -/
def setsPriorityClass : Step → Bool
  | .setPriorityClass _ _ => true
  | _ => false

/-- The step, if it changes the placement, without naming a node. -/
def withoutNode : Step → Option Step
  | .setMode source name => some (.setMode source name)
  | .applyMode source mode => some (.applyMode source mode)
  | .select source _ selection => some (.select source none selection)
  | .setPriorityClass _ _ => none

end Step

/-- The parts after one step. -/
theorem state_outcome (step : Step) (spec : PodSpec) :
    (Run.outcome apply step spec).state =
      { nodeName := step.pinnedNode <|> spec.nodeName
        priorityClass := Run.final (fun call _ => call.1.assign call.2)
          step.classChange.toList spec.priorityClass
        placement := Run.final (fun call => Placement.apply call.1 call.2)
          step.placementChange.toList spec.placement } := by
  cases step with
  | setMode source name =>
      have changed : (Run.outcome apply (.setMode source name) spec).state =
          { spec with
            placement := (Run.outcome (fun call => Placement.apply call.1 call.2)
              (source, .setMode name) spec.placement).state } :=
        Run.state_outcome_of_map (fun placement => { spec with placement }) rfl rfl
      exact changed
  | applyMode source mode => rfl
  | select source nodeName selection => rfl
  | setPriorityClass classes name =>
      have changed : (Run.outcome apply (.setPriorityClass classes name) spec).state =
          { spec with
            priorityClass := (Run.outcome (fun call _ => call.1.assign call.2)
              (classes, name) spec.priorityClass).state } :=
        Run.state_outcome_of_map (fun priorityClass => { spec with priorityClass }) rfl rfl
      exact changed

/-! ## The runs of the parts -/

theorem priorityClass_final (steps : List Step) (spec : PodSpec) :
    (Run.final apply steps spec).priorityClass =
      Run.final (fun call _ => call.1.assign call.2) (steps.filterMap Step.classChange)
        spec.priorityClass := by
  apply Run.view_final priorityClass
  intro step spec
  rw [state_outcome]

theorem placement_final (steps : List Step) (spec : PodSpec) :
    (Run.final apply steps spec).placement =
      Run.final (fun call => Placement.apply call.1 call.2)
        (steps.filterMap Step.placementChange) spec.placement := by
  apply Run.view_final placement
  intro step spec
  rw [state_outcome]

/-- Of the nodes that are named, the last one counts. -/
theorem nodeName_final (steps : List Step) (spec : PodSpec) :
    (Run.final apply steps spec).nodeName =
      ((steps.filterMap Step.pinnedNode).getLast? <|> spec.nodeName) := by
  induction steps generalizing spec with
  | nil => simp
  | cons step steps inductionHypothesis =>
      rw [Run.final_cons, inductionHypothesis, state_outcome]
      cases named : step.pinnedNode with
      | none => simp [named]
      | some node => simp [named, List.getLast?_cons]

/-! ## Leaving out what the parts do not see -/

theorem filterMap_classChange_filter (steps : List Step) :
    (steps.filter Step.setsPriorityClass).filterMap Step.classChange =
      steps.filterMap Step.classChange := by
  rw [List.filterMap_filter]
  apply List.filterMap_congr
  intro step _
  cases step <;> rfl

theorem filterMap_placementChange_filterMap (steps : List Step) :
    (steps.filterMap Step.withoutNode).filterMap Step.placementChange =
      steps.filterMap Step.placementChange := by
  rw [List.filterMap_filterMap]
  apply List.filterMap_congr
  intro step _
  cases step <;> rfl

end PodSpec

namespace JobSpec

theorem group_setGroup (spec : JobSpec) (placement : Placement) (changed role : Role) :
    (spec.setGroup placement changed).group role =
      if changed = role then placement else spec.group role := by
  cases changed <;> cases role <;> rfl

theorem setGroup_group (spec : JobSpec) (role : Role) :
    spec.setGroup (spec.group role) role = spec := by
  cases role <;> rfl

/-- A group after one step. -/
theorem group_outcome (step : Step) (spec : JobSpec) (role : Role) :
    (Run.outcome apply step spec).state.group role =
      if step.role = role then
        (Run.outcome (fun step => Placement.apply step.source step.change) step
          (spec.group role)).state
      else spec.group role := by
  have changed : (Run.outcome apply step spec).state =
      spec.setGroup (Run.outcome (fun step => Placement.apply step.source step.change) step
        (spec.group step.role)).state step.role := by
    apply Run.state_outcome_of_map fun placement => spec.setGroup placement step.role
    · exact spec.setGroup_group step.role
    · rfl
  rw [changed, group_setGroup]
  split
  · next same => rw [same]
  · rfl

theorem group_final (steps : List Step) (spec : JobSpec) (role : Role) :
    (Run.final apply steps spec).group role =
      Run.final (fun step => Placement.apply step.source step.change)
        (steps.filter fun step => step.role = role) (spec.group role) := by
  rw [← List.filterMap_eq_filter]
  apply Run.view_final fun spec : JobSpec => spec.group role
  intro step spec
  rw [group_outcome]
  by_cases same : step.role = role
  · simp [Option.guard, same]
  · simp [Option.guard, same]

end JobSpec

/-- The priority class, the placement and the node of a specification are each
what the steps that concern them make of it, and so is each group of a job,
whatever comes between those steps and whichever of them fail. -/
theorem parts_final :
    (∀ (steps : List PodSpec.Step) (spec : PodSpec),
      (Run.final PodSpec.apply steps spec).priorityClass =
          (Run.final PodSpec.apply (steps.filter PodSpec.Step.setsPriorityClass)
            spec).priorityClass ∧
        (Run.final PodSpec.apply steps spec).placement =
          (Run.final PodSpec.apply (steps.filterMap PodSpec.Step.withoutNode)
            spec).placement ∧
        (Run.final PodSpec.apply steps spec).nodeName =
          ((steps.filterMap PodSpec.Step.pinnedNode).getLast? <|> spec.nodeName)) ∧
      ∀ (steps : List JobSpec.Step) (spec : JobSpec) (role : Role),
        (Run.final JobSpec.apply steps spec).group role =
          Run.final (fun step => Placement.apply step.source step.change)
            (steps.filter fun step => step.role = role) (spec.group role) := by
  constructor
  · intro steps spec
    refine ⟨?_, ?_, PodSpec.nodeName_final steps spec⟩
    · rw [PodSpec.priorityClass_final, PodSpec.priorityClass_final,
        PodSpec.filterMap_classChange_filter]
    · rw [PodSpec.placement_final, PodSpec.placement_final,
        PodSpec.filterMap_placementChange_filterMap]
  · exact JobSpec.group_final

end PodPlacement
