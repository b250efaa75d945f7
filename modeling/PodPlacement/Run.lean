/-!
# Runs

A state is changed by one call after another. A call that fails reports an error and
leaves some state as well, so the run goes on with the next call from there; what
became of the run is what became of every call and the state after it. A step is a
call that leaves the state as it was when it fails.
-/

namespace PodPlacement

/-- What became of a call, and the state after it. -/
structure Outcome (ε σ : Type) where
  error : Option ε
  state : σ

/-! ## Runs of calls -/

namespace Calls

variable {ε σ τ : Type} (perform : τ → σ → Outcome ε σ)

/-- What becomes of every call in turn, with the state that it leaves. -/
def outcomes : List τ → σ → List (Outcome ε σ)
  | [], _ => []
  | call :: calls, state =>
      perform call state :: outcomes calls (perform call state).state

/-- The state that the calls leave. -/
def final (calls : List τ) (state : σ) : σ :=
  calls.foldl (fun state call => (perform call state).state) state

variable {perform} {invariant : σ → Prop}

/-- What every call preserves holds of the state that the calls leave. -/
theorem invariant_final {calls : List τ} {state : σ}
    (preserved : ∀ call ∈ calls, ∀ state, invariant state →
      invariant (perform call state).state)
    (holds : invariant state) : invariant (final perform calls state) :=
  List.foldlRecOn calls _ holds fun reached holdsBefore call isCall =>
    preserved call isCall reached holdsBefore

/-- What every call preserves holds of all the states that the calls leave. -/
theorem forall_outcomes {calls : List τ} {state : σ}
    (preserved : ∀ call ∈ calls, ∀ state, invariant state →
      invariant (perform call state).state)
    (holds : invariant state) :
    ∀ outcome ∈ outcomes perform calls state, invariant outcome.state := by
  induction calls generalizing state with
  | nil => exact fun _ member => absurd member List.not_mem_nil
  | cons call calls inductionHypothesis =>
      have holdsAfter := preserved call List.mem_cons_self state holds
      intro outcome member
      rcases List.mem_cons.mp member with rfl | member
      · exact holdsAfter
      · exact inductionHypothesis
          (fun other isCall => preserved other (List.mem_cons_of_mem _ isCall)) holdsAfter
          outcome member

end Calls

/-! ## Runs of steps -/

namespace Run

variable {ε σ τ : Type}

/-- What becomes of one step: a failing one leaves the state as it was. -/
def outcome (apply : τ → σ → Except ε σ) (step : τ) (state : σ) : Outcome ε σ :=
  match apply step state with
  | .ok next => ⟨none, next⟩
  | .error error => ⟨some error, state⟩

/-- The state after all steps. -/
def final (apply : τ → σ → Except ε σ) (steps : List τ) (state : σ) : σ :=
  Calls.final (outcome apply) steps state

/-- What becomes of every step in turn. -/
def history (apply : τ → σ → Except ε σ) (steps : List τ) (state : σ) :
    List (Outcome ε σ) :=
  Calls.outcomes (outcome apply) steps state

@[simp]
theorem final_nil (apply : τ → σ → Except ε σ) (state : σ) :
    final apply [] state = state :=
  rfl

@[simp]
theorem final_cons (apply : τ → σ → Except ε σ) (step : τ) (steps : List τ) (state : σ) :
    final apply (step :: steps) state =
      final apply steps (outcome apply step state).state :=
  rfl

theorem final_append (apply : τ → σ → Except ε σ) (first second : List τ) (state : σ) :
    final apply (first ++ second) state = final apply second (final apply first state) :=
  List.foldl_append

/-! ### Invariants -/

section Invariant

variable {apply : τ → σ → Except ε σ} {invariant : σ → Prop}

/-- What every successful step preserves also holds after a failing one. -/
theorem invariant_outcome
    (preserved : ∀ step state next, invariant state → apply step state = .ok next →
      invariant next)
    (step : τ) {state : σ} (holds : invariant state) :
    invariant (outcome apply step state).state := by
  unfold outcome
  split
  · next next applied => exact preserved step state next holds applied
  · exact holds

theorem invariant_final
    (preserved : ∀ step state next, invariant state → apply step state = .ok next →
      invariant next)
    (steps : List τ) {state : σ} (holds : invariant state) :
    invariant (final apply steps state) :=
  Calls.invariant_final (fun step _ _ => invariant_outcome preserved step) holds

theorem invariant_of_mem_history
    (preserved : ∀ step state next, invariant state → apply step state = .ok next →
      invariant next)
    {steps : List τ} {state : σ} (holds : invariant state) {reached : Outcome ε σ}
    (member : reached ∈ history apply steps state) : invariant reached.state :=
  Calls.forall_outcomes (fun step _ _ => invariant_outcome preserved step) holds reached member

end Invariant

/-! ### Parts of the state -/

section Part

variable {δ ρ υ : Type} {apply : τ → σ → Except ε σ} {applySeen : υ → ρ → Except δ ρ}
  {seen : τ → Option υ}

/-- A step that changes a part of the state leaves the rest as it is, also when
it fails. -/
theorem state_outcome_of_map {applyPart : υ → ρ → Except ε ρ} {step : τ} {state : σ}
    {change : υ} {part : ρ} (put : ρ → σ) (whole : put part = state)
    (mapped : apply step state = (applyPart change part).map put) :
    (outcome apply step state).state = put (outcome applyPart change part).state := by
  unfold outcome
  rw [mapped]
  cases applyPart change part with
  | ok next => rfl
  | error error => exact whole.symm

/-- A part of the state goes through a run of its own, made of what it sees of
every step, if it does so in every single step. -/
theorem view_final (view : σ → ρ)
    (stepwise : ∀ step state, view (outcome apply step state).state =
      final applySeen (seen step).toList (view state))
    (steps : List τ) (state : σ) :
    view (final apply steps state) = final applySeen (steps.filterMap seen) (view state) := by
  induction steps generalizing state with
  | nil => rfl
  | cons step steps inductionHypothesis =>
      have cut : (step :: steps).filterMap seen =
          (seen step).toList ++ steps.filterMap seen := by
        cases isSeen : seen step with
        | none => simp [isSeen]
        | some change => simp [isSeen]
      rw [final_cons, inductionHypothesis, stepwise, cut, final_append]

end Part

end Run

end PodPlacement
