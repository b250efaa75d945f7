import PodPlacement.Proofs.Constraints.Content
import PodPlacement.Report

/-!
# What a report foretells

A report and an enrichment ask a source the same questions, and an enrichment
asks nothing else that could change the required terms it replaces or the
tolerations. So the report of a source tells beforehand what its enrichments
make of any constraints, even if the source states answers that do not follow
from its labels.
-/

namespace PodPlacement

namespace Constraints

/-- An affinity that is there and says nothing does not outlast an enrichment
that does something. -/
theorem enrich_vacuous_ne {source : Source} {mode : Mode}
    (configured : source.isConfigured = true) (active : mode ≠ .off) :
    enrich { affinity := some {} } source mode ≠ { affinity := some {} } := by
  intro unchanged
  have collapsed := collapse_enrich { affinity := some {} } configured active
  rw [unchanged] at collapsed
  exact Option.some_ne_none _ (congrArg affinity collapsed).symm

/-- The sources that know nothing are those whose enrichments change nothing. -/
theorem forall_enrich_eq_self_iff (source : Source) :
    (∀ (constraints : Constraints) (mode : Mode),
        constraints.enrich source mode = constraints) ↔ source.isConfigured = false := by
  constructor
  · intro unchanged
    cases configured : source.isConfigured with
    | false => rfl
    | true =>
        have active : Mode.prevent ≠ .off := by decide
        exact absurd (unchanged _ _) (enrich_vacuous_ne configured active)
  · intro notConfigured constraints mode
    exact constraints.enrich_of_not_configured mode notConfigured

end Constraints

/-- A source that has no labels and states the terms that keep a pod on
preemptible nodes. It states that there are no terms that keep a pod off them. -/
def Source.outspoken : Source :=
  { statedConfigured := some true
    statedTerms := some [{ expressions := [⟨"pool", .isIn, ["cheap"]⟩] }]
    statedAntiTerms := some [] }

/-- Constraints that ask for a zone and have a toleration twice. -/
def Constraints.crowded : Constraints :=
  { affinity := some (.requiring [{ expressions := [⟨"zone", .isIn, ["us-east-1a"]⟩] }])
    tolerations := some [.anyValue "gpu" .noSchedule, .anyValue "gpu" .noSchedule] }

namespace Report

/-- What a report tells about constraints that are enriched for each mode. -/
structure Foretells (report : Report) (constraints : Constraints)
    (enriched : Mode → Constraints) : Prop where
  constrained : (enriched .constrain).requiredTerms = report.terms
  prevented : report.tolerations = [] →
    (enriched .prevent).requiredTerms = report.antiTerms
  merged : ∀ mode, mode = .constrain ∨ mode = .allow →
    FirstOccurrences (constraints.tolerations.getD [] ++ report.tolerations)
      ((enriched mode).tolerations.getD [])
  pruned : (enriched .prevent).tolerations.getD [] =
    (constraints.tolerations.getD []).filter fun toleration =>
      toleration ∉ report.tolerations

theorem foretells_enrich {source : Source} (configured : source.isConfigured = true)
    (constraints : Constraints) :
    (of source).Foretells constraints (constraints.enrich source) where
  constrained := constraints.requiredTerms_enrich _ configured
  prevented untainted := by
    have nothing : source.tolerations.isEmpty = true := List.isEmpty_iff.mpr untainted
    rw [constraints.requiredTerms_enrich _ configured, Constraints.Content.enrich,
      if_pos nothing]
    rfl
  merged mode isMerging := by
    rw [constraints.tolerations_enrich _ configured]
    rcases isMerging with rfl | rfl
    · exact Toleration.firstOccurrences_merge _ _
    · exact Toleration.firstOccurrences_merge _ _
  pruned := by
    rw [constraints.tolerations_enrich _ configured]
    exact Toleration.prune_eq_filter _ _

/-- The report of a source says whether its enrichments change anything, and if
so, what they do. -/
theorem of_foretells (source : Source) :
    ((∀ (constraints : Constraints) (mode : Mode),
        constraints.enrich source mode = constraints) ↔ (of source).configured = false) ∧
      ((of source).configured = true → ∀ constraints : Constraints,
        (of source).Foretells constraints (constraints.enrich source)) :=
  ⟨Constraints.forall_enrich_eq_self_iff source, foretells_enrich⟩

/-- To be kept off preemptible nodes the constraints lose the zone, and since
nothing takes its place, also their affinity. -/
theorem of_foretells_outspoken :
    (of .outspoken).configured = true ∧
      (of .outspoken).Foretells .crowded (Constraints.enrich .crowded .outspoken) ∧
      Constraints.enrich .crowded .outspoken .prevent =
        { tolerations := some [.anyValue "gpu" .noSchedule, .anyValue "gpu" .noSchedule] } := by
  have configured : (of .outspoken).configured = true := rfl
  exact ⟨configured, (of_foretells .outspoken).2 configured _, rfl⟩

end Report

end PodPlacement
