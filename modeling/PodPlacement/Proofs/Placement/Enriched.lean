import PodPlacement.Placement
import PodPlacement.Proofs.Constraints.Content
import PodPlacement.Proofs.Results

/-!
# Enriched placements

Building a placement and every successful change of it end with an enrichment
for the mode that the placement then has. So along a run with one source, the
constraints are always the result of an enrichment for the stored mode, whatever
became of the single steps.
-/

namespace PodPlacement

namespace Placement

/-- A placement whose constraints come from an enrichment for its mode. -/
def IsEnriched (placement : Placement) (source : Source) : Prop :=
  ∃ earlier : Constraints, placement.toConstraints = earlier.enrich source placement.mode

theorem isEnriched_applyMode (placement : Placement) (source : Source) (mode : Mode) :
    (placement.applyMode source mode).IsEnriched source :=
  ⟨placement.toConstraints, rfl⟩

/-- Setting a mode by name is applying the mode that has the name. -/
theorem exists_mode_of_setMode {placement next : Placement} {source : Source}
    {name : Option String} (set : placement.setMode source name = .ok next) :
    ∃ mode, modeNamed source name = .ok mode ∧ placement.applyMode source mode = next :=
  exists_of_map_eq_ok set

theorem isEnriched_of_setMode {placement next : Placement} {source : Source}
    {name : Option String} (set : placement.setMode source name = .ok next) :
    next.IsEnriched source := by
  obtain ⟨mode, _, rfl⟩ := exists_mode_of_setMode set
  exact placement.isEnriched_applyMode source mode

theorem isEnriched_select (placement : Placement) (source : Source) (selection : Selection) :
    (placement.select source selection).IsEnriched source :=
  ⟨placement.toConstraints.select selection, rfl⟩

theorem isEnriched_of_build {source : Source} {constraints : Constraints}
    {modeName : Option String} {placement : Placement}
    (built : build source constraints modeName = .ok placement) :
    placement.IsEnriched source :=
  isEnriched_of_setMode built

/-- Every change enriches the placement again. -/
theorem isEnriched_of_apply {source : Source} {step : Step} {placement next : Placement}
    (applied : placement.apply source step = .ok next) : next.IsEnriched source := by
  cases step with
  | setMode name => exact isEnriched_of_setMode applied
  | applyMode mode =>
      cases applied
      exact placement.isEnriched_applyMode source mode
  | select selection =>
      cases applied
      exact placement.isEnriched_select source selection

/-- Enriching an enriched placement for its mode does not change what it
says. -/
theorem IsEnriched.content_enrich {placement : Placement} {source : Source}
    (enriched : placement.IsEnriched source) :
    (placement.toConstraints.enrich source placement.mode).content = placement.content := by
  cases configured : source.isConfigured with
  | false => rw [Constraints.enrich_of_not_configured _ _ configured]
  | true =>
      obtain ⟨earlier, equal⟩ := enriched
      rw [equal, Constraints.content_enrich _ _ configured,
        Constraints.content_enrich _ _ configured, Constraints.Content.enrich_again]

/-- Nor does it change how that is written. -/
theorem IsEnriched.enrich_eq {placement : Placement} {source : Source}
    (enriched : placement.IsEnriched source) :
    placement.toConstraints.enrich source placement.mode = placement.toConstraints := by
  cases configured : source.isConfigured with
  | false => exact Constraints.enrich_of_not_configured _ _ configured
  | true =>
      by_cases active : placement.mode = .off
      · rw [active, Constraints.enrich_off]
      · have collapsed : placement.toConstraints.collapse = placement.toConstraints := by
          obtain ⟨earlier, equal⟩ := enriched
          rw [equal, earlier.collapse_enrich configured active]
        calc
          placement.toConstraints.enrich source placement.mode =
              (placement.toConstraints.enrich source placement.mode).collapse :=
            (Constraints.collapse_enrich _ configured active).symm
          _ = placement.toConstraints.collapse :=
            Constraints.collapse_congr enriched.content_enrich
          _ = placement.toConstraints := collapsed

/-- The placements that a run with one source passes through after building
one. -/
def Reachable (placement : Placement) (source : Source) : Prop :=
  ∃ (constraints : Constraints) (modeName : Option String) (built : Placement)
    (steps : List Step), build source constraints modeName = .ok built ∧
      placement = Run.final (apply source) steps built

theorem Reachable.isEnriched {placement : Placement} {source : Source}
    (reachable : placement.Reachable source) : placement.IsEnriched source := by
  obtain ⟨_, _, built, steps, wasBuilt, rfl⟩ := reachable
  exact Run.invariant_final (fun _ _ _ _ applied => isEnriched_of_apply applied) steps
    (isEnriched_of_build wasBuilt)

end Placement

end PodPlacement
