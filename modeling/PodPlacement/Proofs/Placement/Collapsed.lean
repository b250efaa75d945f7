import PodPlacement.Proofs.Affinity.Collapsed
import PodPlacement.Proofs.Constraints.Selection
import PodPlacement.Proofs.Placement.Enriched
import PodPlacement.Proofs.Source

/-!
# Placements without parts that say nothing

Enriching constraints collapses them, unless it does not touch them, and a part
that is merged in is collapsed on its own. So constraints that have no part
that says nothing never get one, whatever each change asks and whichever source
it asks.
-/

namespace PodPlacement

namespace Constraints

/-- An affinity that is present is collapsed, and tolerations that are present
are not empty. -/
structure IsCollapsed (constraints : Constraints) : Prop where
  affinity : ∀ affinity ∈ constraints.affinity, affinity.IsCollapsed
  tolerations : constraints.tolerations ≠ some []

/-- A list of tolerations that is dropped if it is empty is not there empty. -/
theorem filter_tolerations_ne_some_nil (tolerations : Option (List Toleration)) :
    tolerations.filter (fun tolerations => !tolerations.isEmpty) ≠ some [] := by
  intro equal
  have ⟨_, notEmpty⟩ := Option.filter_eq_some_iff.mp equal
  cases notEmpty

theorem isCollapsed_collapse (constraints : Constraints) : constraints.collapse.IsCollapsed where
  affinity _ member := Affinity.isCollapsed_of_mem_collapse member
  tolerations := filter_tolerations_ne_some_nil constraints.tolerations

/-- An enrichment that does something collapses the constraints. -/
theorem isCollapsed_enrich (constraints : Constraints) {source : Source} {mode : Mode}
    (configured : source.isConfigured = true) (active : mode ≠ .off) :
    (constraints.enrich source mode).IsCollapsed := by
  rw [← constraints.collapse_enrich configured active]
  exact isCollapsed_collapse _

variable {constraints : Constraints}

theorem IsCollapsed.enrich (collapsed : constraints.IsCollapsed) (source : Source)
    (mode : Mode) : (constraints.enrich source mode).IsCollapsed := by
  cases configured : source.isConfigured with
  | false =>
      rw [enrich_of_not_configured _ _ configured]
      exact collapsed
  | true =>
      by_cases active : mode = .off
      · rw [active, enrich_off]
        exact collapsed
      · exact constraints.isCollapsed_enrich configured active

theorem IsCollapsed.select (collapsed : constraints.IsCollapsed) (selection : Selection) :
    (constraints.select selection).IsCollapsed := by
  constructor
  case affinity =>
    intro affinity member
    cases given : selection.affinity with
    | none =>
        rw [affinity_select_of_none _ given] at member
        exact collapsed.affinity affinity member
    | some incoming =>
        rw [affinity_select_of_some _ given] at member
        exact Affinity.isCollapsed_of_mem_collapse member
  case tolerations =>
    rw [Constraints.select]
    dsimp only
    split
    · exact collapsed.tolerations
    · exact filter_tolerations_ne_some_nil _

end Constraints

/-- A selection whose parts are all there and say nothing. -/
def Selection.vacuous : Selection :=
  { nodeLabels := some .empty
    affinity := some { node := some { required := some {} }, pod := some {} }
    tolerations := some [] }

namespace Placement

/-- No change brings in a part that says nothing. -/
theorem isCollapsed_of_apply {source : Source} {step : Step} {placement next : Placement}
    (collapsed : placement.toConstraints.IsCollapsed)
    (applied : placement.apply source step = .ok next) : next.toConstraints.IsCollapsed := by
  cases step with
  | setMode name =>
      obtain ⟨mode, _, rfl⟩ := exists_mode_of_setMode applied
      exact collapsed.enrich source mode
  | applyMode mode =>
      cases applied
      exact collapsed.enrich source mode
  | select selection =>
      cases applied
      exact (collapsed.select selection).enrich source placement.mode

/-- The constraints of a placement that is built from collapsed ones are collapsed
throughout every run, even if each change asks a source of its own; and applying
a mode that does something collapses any constraints. -/
theorem isCollapsed_throughout :
    (∀ (source : Source) (constraints : Constraints) (modeName : Option String)
        (built : Placement) (calls : List (Source × Step)),
      constraints.IsCollapsed → build source constraints modeName = .ok built →
        built.toConstraints.IsCollapsed ∧
          ∀ reached ∈ Run.history (fun call => apply call.1 call.2) calls built,
            reached.state.toConstraints.IsCollapsed) ∧
    ∀ (placement : Placement) (source : Source) (mode : Mode),
      source.isConfigured = true → mode ≠ .off →
        (placement.applyMode source mode).toConstraints.IsCollapsed := by
  constructor
  · intro source constraints modeName built calls collapsed wasBuilt
    have builtCollapsed : built.toConstraints.IsCollapsed := by
      obtain ⟨mode, _, rfl⟩ := exists_mode_of_setMode wasBuilt
      exact collapsed.enrich source mode
    refine ⟨builtCollapsed, fun reached member => ?_⟩
    exact Run.invariant_of_mem_history
      (fun _ _ _ before applied => isCollapsed_of_apply before applied) builtCollapsed member
  · intro placement source mode configured active
    exact placement.toConstraints.isCollapsed_enrich configured active

/-- A selection whose parts are all there and say nothing is made of a source that
knows nothing; then a mode of another source takes the last toleration away. -/
theorem isCollapsed_throughout_vacuous :
    build {} { tolerations := some [.anyValue "preempt" .noSchedule] } (some "none") =
        .ok ⟨{ tolerations := some [.anyValue "preempt" .noSchedule] }, .off⟩ ∧
      Run.final (fun call : Source × Step => apply call.1 call.2)
          [({}, .select .vacuous), (PreemptibleNodes.tainted, .setMode (some "prevent"))]
          ⟨{ tolerations := some [.anyValue "preempt" .noSchedule] }, .off⟩ =
        ⟨{}, .prevent⟩ ∧
      (∀ reached ∈ Run.history (fun call : Source × Step => apply call.1 call.2)
          [({}, .select .vacuous), (PreemptibleNodes.tainted, .setMode (some "prevent"))]
          ⟨{ tolerations := some [.anyValue "preempt" .noSchedule] }, .off⟩,
        reached.state.toConstraints.IsCollapsed) ∧
      (applyMode ⟨{ affinity := some {}, tolerations := some [] }, .off⟩
        PreemptibleNodes.tainted .prevent).toConstraints.IsCollapsed := by
  have collapsed : Constraints.IsCollapsed
      { tolerations := some [.anyValue "preempt" .noSchedule] } := ⟨nofun, by decide⟩
  have wasBuilt : build {} { tolerations := some [.anyValue "preempt" .noSchedule] }
      (some "none") =
        .ok ⟨{ tolerations := some [.anyValue "preempt" .noSchedule] }, .off⟩ := rfl
  refine ⟨wasBuilt, by decide, ?_, ?_⟩
  · exact (isCollapsed_throughout.1 _ _ _ _ _ collapsed wasBuilt).2
  · exact isCollapsed_throughout.2 _ _ _ (by decide) (by decide)

end Placement

end PodPlacement
