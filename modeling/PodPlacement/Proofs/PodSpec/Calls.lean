import PodPlacement.Proofs.PodSpec
import PodPlacement.Proofs.Source
import PodPlacement.Run

/-!
# Calls that change a specification in place

A specification can also be changed in place, by one call after another. What a
call has changed before it fails then stays changed, so it takes an argument
that a failing call might as well not have been made: every call looks for what
it may fail by before it changes anything. In place or not, what becomes of a
step is therefore the same, and a run can be cleared of its failing calls.
-/

namespace PodPlacement

/-! ## Calls that fail -/

namespace Calls

variable {ε σ τ : Type} (perform : τ → σ → Outcome ε σ)

/-- The calls that succeed when all are made in turn. -/
def succeeding : List τ → σ → List τ
  | [], _ => []
  | call :: calls, state =>
      let others := succeeding calls (perform call state).state
      if (perform call state).error.isNone then call :: others else others

/-- A call that fails leaves the state as it was. -/
def Atomic : Prop :=
  ∀ call state, (perform call state).error.isNone = false → (perform call state).state = state

variable {perform}

/-- Without the failing calls, the others do what they did with them. -/
theorem Atomic.outcomes_succeeding (atomic : Atomic perform) (calls : List τ) (state : σ) :
    outcomes perform (succeeding perform calls state) state =
      (outcomes perform calls state).filter fun outcome => outcome.error.isNone := by
  induction calls generalizing state with
  | nil => rfl
  | cons call calls inductionHypothesis =>
      simp only [outcomes, succeeding, List.filter_cons]
      cases succeeds : (perform call state).error.isNone with
      | true =>
          rw [if_pos rfl, if_pos rfl, outcomes, inductionHypothesis]
      | false =>
          rw [if_neg Bool.false_ne_true, if_neg Bool.false_ne_true,
            atomic call state succeeds, inductionHypothesis]

theorem Atomic.final_succeeding (atomic : Atomic perform) (calls : List τ) (state : σ) :
    final perform (succeeding perform calls state) state = final perform calls state := by
  induction calls generalizing state with
  | nil => rfl
  | cons call calls inductionHypothesis =>
      rw [succeeding]
      cases succeeds : (perform call state).error.isNone with
      | true => exact inductionHypothesis _
      | false =>
          have unchanged := atomic call state succeeds
          calc
            final perform (succeeding perform calls (perform call state).state) state =
                final perform (succeeding perform calls state) state := by rw [unchanged]
            _ = final perform calls state := inductionHypothesis state
            _ = final perform calls (perform call state).state := by rw [unchanged]

/-- Steps that throw their result away when they fail are atomic. -/
theorem atomic_outcome (apply : τ → σ → Except ε σ) : Atomic (Run.outcome apply) := by
  intro step state fails
  unfold Run.outcome at fails ⊢
  cases applied : apply step state with
  | ok next =>
      rw [applied] at fails
      cases fails
  | error error => rfl

end Calls

namespace PodSpec

/-! ## Calls on a specification -/

/-- A call that changes a specification in place. If it fails, the specification
is left as far as the call has come. -/
abbrev Call := ExceptT SpecError (StateM PodSpec) Unit

namespace Call

/-- What becomes of a call, with the specification that it leaves. -/
def outcome (call : Call) (spec : PodSpec) : Outcome SpecError PodSpec :=
  match call.run spec with
  | (.ok (), spec) => ⟨none, spec⟩
  | (.error error, spec) => ⟨some error, spec⟩

/-- Changes the placement. -/
def changePlacement (change : Placement → Placement) : Call :=
  modify fun spec => { spec with placement := change spec.placement }

/-- Stores a mode, and then enriches the constraints for it. -/
def applyMode (source : Source) (mode : Mode) : Call := do
  changePlacement fun placement => { placement with mode }
  changePlacement fun placement =>
    ⟨placement.toConstraints.enrich source placement.mode, placement.mode⟩

/-- Finds the mode of a name, and applies it. -/
def setMode (source : Source) (name : Option String) : Call := do
  match givenName name with
  | none => applyMode source source.defaultMode
  | some name =>
      match Mode.ofName? name with
      | some mode => applyMode source mode
      | none => throw (.unknownMode name)

/-- Pins the pod, folds in the parts of a selection one after the other, and
enriches the constraints for the stored mode. -/
def select (source : Source) (nodeName : Option String) (selection : Selection) : Call := do
  if let some name := givenName nodeName then
    modify fun spec => { spec with nodeName := some name }
  if let some labels := selection.nodeLabels then
    changePlacement fun placement =>
      { placement with nodeLabels := labels.override placement.nodeLabels }
  if let some affinity := selection.affinity then
    changePlacement fun placement =>
      { placement with
        affinity := Affinity.collapse (some (Affinity.merge placement.affinity affinity)) }
  if let some tolerations := selection.tolerations then
    changePlacement fun placement =>
      { placement with
        tolerations :=
          some (Toleration.merge (placement.tolerations.getD []) tolerations)
            |>.filter fun merged => !merged.isEmpty }
  changePlacement fun placement =>
    ⟨placement.toConstraints.enrich source placement.mode, placement.mode⟩

/-- Clears the priority class if none is chosen, and otherwise checks the chosen
one before it is stored. -/
def setPriorityClass (classes : PriorityClasses) (name : Option String) : Call := do
  match classes.chosen name with
  | none => modify fun spec => { spec with priorityClass := none }
  | some name =>
      if name ∉ classes.valid then
        throw (.classNotAllowed name classes.valid)
      modify fun spec => { spec with priorityClass := some name }

end Call

/-- The call that makes a step in place. -/
def call : Step → Call
  | .setMode source name => .setMode source name
  | .applyMode source mode => .applyMode source mode
  | .select source nodeName selection => .select source nodeName selection
  | .setPriorityClass classes name => .setPriorityClass classes name

/-- What becomes of a step that is made in place. -/
def perform (step : Step) (spec : PodSpec) : Outcome SpecError PodSpec :=
  (call step).outcome spec

theorem outcome_setMode (source : Source) (name : Option String) (spec : PodSpec) :
    (Call.setMode source name).outcome spec = Run.outcome apply (.setMode source name) spec := by
  unfold Call.setMode Run.outcome
  simp only [apply, place, Placement.apply, Placement.setMode, Placement.modeNamed]
  cases givenName name with
  | none => rfl
  | some name =>
      cases found : Mode.ofName? name with
      | none =>
          simp only [found]
          rfl
      | some mode =>
          simp only [found]
          rfl

theorem outcome_select (source : Source) (nodeName : Option String) (selection : Selection)
    (spec : PodSpec) :
    (Call.select source nodeName selection).outcome spec =
      Run.outcome apply (.select source nodeName selection) spec := by
  rcases selection with ⟨labels, affinity, tolerations⟩
  unfold Call.select Run.outcome
  simp only [apply, place, Placement.apply, pin]
  cases givenName nodeName <;> cases labels <;> cases affinity <;> cases tolerations <;> rfl

theorem outcome_setPriorityClass (classes : PriorityClasses) (name : Option String)
    (spec : PodSpec) :
    (Call.setPriorityClass classes name).outcome spec =
      Run.outcome apply (.setPriorityClass classes name) spec := by
  unfold Call.setPriorityClass Run.outcome
  simp only [apply, setPriorityClass, PriorityClasses.assign]
  cases classes.chosen name with
  | none => rfl
  | some name =>
      by_cases valid : name ∈ classes.valid
      · simp only [valid, not_true_eq_false, if_true, if_false]
        rfl
      · simp only [valid, not_false_eq_true, if_true, if_false]
        rfl

/-- Made in place or not, a step has the same outcome: if it fails, it fails before
it has changed anything. -/
theorem perform_eq_outcome (step : Step) (spec : PodSpec) :
    perform step spec = Run.outcome apply step spec := by
  cases step with
  | setMode source name => exact outcome_setMode source name spec
  | applyMode source mode => rfl
  | select source nodeName selection => exact outcome_select source nodeName selection spec
  | setPriorityClass classes name => exact outcome_setPriorityClass classes name spec

theorem atomic_perform : Calls.Atomic perform := by
  have inPlace : perform = Run.outcome apply :=
    funext fun step => funext fun spec => perform_eq_outcome step spec
  rw [inPlace]
  exact Calls.atomic_outcome apply

/-! ## Priority classes -/

/-- The step, if it sets a priority class, asks for one of the given ones. -/
def Step.AsksFor (classes : PriorityClasses) : Step → Prop
  | .setPriorityClass asked _ => asked = classes
  | _ => True

instance (classes : PriorityClasses) : (step : Step) → Decidable (step.AsksFor classes)
  | .setPriorityClass asked _ => inferInstanceAs (Decidable (asked = classes))
  | .setMode _ _ | .applyMode _ _ | .select _ _ _ => inferInstanceAs (Decidable True)

/-- The specification has no priority class or a valid one. -/
def HasValidClass (spec : PodSpec) (classes : PriorityClasses) : Prop :=
  ∀ name ∈ spec.priorityClass, name ∈ classes.valid

/-- A change of the placement does not touch the priority class. -/
theorem priorityClass_of_place {spec next : PodSpec} {source : Source}
    {step : Placement.Step} (placed : spec.place source step = .ok next) :
    next.priorityClass = spec.priorityClass := by
  rcases exists_of_map_eq_ok placed with ⟨placement, _, rfl⟩
  rfl

theorem HasValidClass.apply {spec next : PodSpec} {classes : PriorityClasses} {step : Step}
    (valid : spec.HasValidClass classes) (asks : step.AsksFor classes)
    (applied : PodSpec.apply step spec = .ok next) : next.HasValidClass classes := by
  rw [HasValidClass]
  cases step with
  | setMode source name =>
      rw [priorityClass_of_place applied]
      exact valid
  | applyMode source mode =>
      rw [priorityClass_of_place applied]
      exact valid
  | select source nodeName selection =>
      rw [priorityClass_of_place applied]
      exact valid
  | setPriorityClass asked name =>
      cases asks
      rcases exists_of_map_eq_ok applied with ⟨priorityClass, assigned, rfl⟩
      exact (classes.assign_eq_ok_iff.mp assigned).2

theorem HasValidClass.perform {spec : PodSpec} {classes : PriorityClasses} {step : Step}
    (valid : spec.HasValidClass classes) (asks : step.AsksFor classes) :
    (perform step spec).state.HasValidClass classes := by
  rw [perform_eq_outcome, Run.outcome]
  split
  · next next applied => exact valid.apply asks applied
  · exact valid

theorem hasValidClass_of_build {source : Source} {nodeName : Option String}
    {constraints : Constraints} {modeName : Option String} {built : PodSpec}
    (wasBuilt : build source nodeName constraints modeName = .ok built)
    (classes : PriorityClasses) : built.HasValidClass classes := by
  rcases exists_of_map_eq_ok wasBuilt with ⟨placement, _, rfl⟩
  exact nofun

/-! ## Runs without their failing calls -/

/-- From a specification that was built, the calls that fail in a run can be left
out: the others all succeed, with the same effects, and leave the same
specification. And if all calls ask for the same priority classes, the
specification never has a class that is not valid. -/
theorem outcomes_perform_succeeding {source : Source} {nodeName : Option String}
    {constraints : Constraints} {modeName : Option String} {built : PodSpec}
    (wasBuilt : build source nodeName constraints modeName = .ok built) (steps : List Step) :
    Calls.final perform (Calls.succeeding perform steps built) built =
        Calls.final perform steps built ∧
      Calls.outcomes perform (Calls.succeeding perform steps built) built =
        (Calls.outcomes perform steps built).filter (fun outcome => outcome.error.isNone) ∧
      (∀ outcome ∈ Calls.outcomes perform (Calls.succeeding perform steps built) built,
        outcome.error = none) ∧
      ∀ classes : PriorityClasses, (∀ step ∈ steps, step.AsksFor classes) →
        built.HasValidClass classes ∧
          ∀ outcome ∈ Calls.outcomes perform steps built,
            outcome.state.HasValidClass classes := by
  have sameEffects := atomic_perform.outcomes_succeeding steps built
  refine ⟨atomic_perform.final_succeeding steps built, sameEffects, ?_, ?_⟩
  · intro outcome member
    rw [sameEffects] at member
    exact Option.isNone_iff_eq_none.mp (List.mem_filter.mp member).2
  · intro classes asks
    have valid := hasValidClass_of_build wasBuilt classes
    have preserved : ∀ step ∈ steps, ∀ spec : PodSpec, spec.HasValidClass classes →
        (perform step spec).state.HasValidClass classes :=
      fun step member _ validBefore => validBefore.perform (asks step member)
    have validAfter := Calls.forall_outcomes preserved valid
    exact ⟨valid, validAfter⟩

/-- Calls of which a mode that does not exist and a class that is not accepted
fail. -/
def wavering (classes : PriorityClasses) : List Step :=
  [.setPriorityClass classes (some "high"),
    .setMode PreemptibleNodes.tainted (some "sometimes"),
    .setPriorityClass classes (some "low"),
    .applyMode PreemptibleNodes.tainted .allow]

/-- The class that was set first outlasts the one that is refused, and the calls
that succeed make the same specification on their own. -/
theorem outcomes_perform_succeeding_wavering :
    build PreemptibleNodes.tainted none {} none = .ok { placement := ⟨{}, .prevent⟩ } ∧
      Calls.succeeding perform (wavering { valid := ["high"] }) { placement := ⟨{}, .prevent⟩ } =
        [.setPriorityClass { valid := ["high"] } (some "high"),
          .applyMode PreemptibleNodes.tainted .allow] ∧
      Calls.final perform
          [.setPriorityClass { valid := ["high"] } (some "high"),
            .applyMode PreemptibleNodes.tainted .allow]
          { placement := ⟨{}, .prevent⟩ } =
        Calls.final perform (wavering { valid := ["high"] }) { placement := ⟨{}, .prevent⟩ } ∧
      Calls.final perform (wavering { valid := ["high"] }) { placement := ⟨{}, .prevent⟩ } =
        { priorityClass := some "high"
          placement := ⟨{ tolerations := some [.anyValue "preempt" .noSchedule] }, .allow⟩ } ∧
      ∀ outcome ∈ Calls.outcomes perform (wavering { valid := ["high"] })
          { placement := ⟨{}, .prevent⟩ },
        outcome.state.HasValidClass { valid := ["high"] } := by
  have wasBuilt : build PreemptibleNodes.tainted none {} none =
      .ok { placement := ⟨{}, .prevent⟩ } := rfl
  have ⟨sameFinal, _, _, sameClasses⟩ :=
    outcomes_perform_succeeding wasBuilt (wavering { valid := ["high"] })
  have ⟨_, validAfter⟩ := sameClasses { valid := ["high"] } (by decide)
  exact ⟨wasBuilt, rfl, sameFinal, rfl, validAfter⟩

end PodSpec

end PodPlacement
