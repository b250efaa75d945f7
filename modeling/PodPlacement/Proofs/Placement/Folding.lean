import PodPlacement.Proofs.Constraints.Selection
import PodPlacement.Proofs.Source

/-!
# Folding in a selection without loss

If the mode does nothing, or nothing is known about preemptible nodes, then
folding in a selection is all that happens to the constraints of a placement.
Each part is merged by a rule of its own: labels that are already required keep
their values, lists keep their order and get what is new at the end, and
affinity to other pods is replaced. Collapsing afterwards takes nothing away
but affinity to other pods without any terms.
-/

namespace PodPlacement

/-! ## The statements -/

/-- A list that starts with another one, goes on with entries that come in, and
misses none of either. -/
structure IsJoin {α : Type} (existing incoming joined : List α) : Prop where
  starts : ∃ added, joined = existing ++ added ∧ ∀ entry ∈ added, entry ∈ incoming
  mem_iff : ∀ entry, entry ∈ joined ↔ entry ∈ existing ∨ entry ∈ incoming

/-- What folding in a selection and nothing else makes of constraints. -/
structure Constraints.FoldsIn (before : Constraints) (selection : Selection)
    (after : Constraints) : Prop where
  nodeLabels : ∀ labels ∈ selection.nodeLabels, ∀ key,
    after.nodeLabels.get? key = (before.nodeLabels.get? key <|> labels.get? key)
  required : IsJoin before.requiredTerms selection.requiredTerms after.requiredTerms
  preferences : IsJoin before.preferences selection.preferences after.preferences
  tolerations : ∀ incoming ∈ selection.tolerations,
    FirstOccurrences (before.tolerations.getD [] ++ incoming) (after.tolerations.getD [])
  pods : selection.affinity ≠ none → ∀ side,
    Affinity.pods after.affinity side =
      (Affinity.pods selection.affinity side <|> Affinity.pods before.affinity side).filter
        fun pods => pods ≠ {}
  noNodeLabels : selection.nodeLabels = none → after.nodeLabels = before.nodeLabels
  noAffinity : selection.affinity = none → after.affinity = before.affinity
  noTolerations : selection.tolerations = none → after.tolerations = before.tolerations

/-! ## Lists -/

theorem isJoin_nil {α : Type} (existing : List α) : IsJoin existing [] existing where
  starts := ⟨[], (List.append_nil existing).symm, nofun⟩
  mem_iff entry := by simp

/-- The lists of an affinity are joined, whether it was there before or not. -/
theorem Affinity.isJoin_joined {α : Type} [DecidableEq α] {existing : Option Affinity}
    {entries : List α} (absent : existing = none → entries = []) (incoming : List α) :
    IsJoin entries incoming (joined existing entries incoming) := by
  obtain ⟨fresh, equal, mem_fresh⟩ := joined_eq_append absent incoming
  constructor
  case starts => exact ⟨fresh, equal, fun entry member => ((mem_fresh entry).mp member).1⟩
  case mem_iff =>
    intro entry
    rw [equal, List.mem_append, mem_fresh]
    by_cases there : entry ∈ entries <;> simp [there]

namespace Constraints

variable (constraints : Constraints) (selection : Selection)

/-- If merging joins the entries of an affinity, folding in a selection joins those
of the constraints. -/
theorem isJoin_select {α : Type} [DecidableEq α] {entries : Affinity → List α}
    (merged : ∀ incoming ∈ selection.affinity,
      ((constraints.select selection).affinity.map entries).getD [] =
        Affinity.joined constraints.affinity ((constraints.affinity.map entries).getD [])
          (entries incoming)) :
    IsJoin ((constraints.affinity.map entries).getD [])
      ((selection.affinity.map entries).getD [])
      (((constraints.select selection).affinity.map entries).getD []) := by
  cases given : selection.affinity with
  | none =>
      rw [affinity_select_of_none _ given]
      exact isJoin_nil _
  | some incoming =>
      rw [merged incoming given]
      apply Affinity.isJoin_joined
      intro absent
      rw [absent]
      rfl

/-! ## The other parts -/

theorem get?_nodeLabels_select {labels : LabelMap}
    (given : selection.nodeLabels = some labels) (key : String) :
    (constraints.select selection).nodeLabels.get? key =
      (constraints.nodeLabels.get? key <|> labels.get? key) := by
  rw [nodeLabels_select, given]
  exact LabelMap.get?_override labels constraints.nodeLabels key

theorem firstOccurrences_tolerations_select {incoming : List Toleration}
    (given : selection.tolerations = some incoming) :
    FirstOccurrences (constraints.tolerations.getD [] ++ incoming)
      ((constraints.select selection).tolerations.getD []) := by
  rw [tolerations_select, given]
  exact Toleration.firstOccurrences_merge _ _

theorem pods_select (given : selection.affinity ≠ none) (side : Affinity.Side) :
    Affinity.pods (constraints.select selection).affinity side =
      (Affinity.pods selection.affinity side <|> Affinity.pods constraints.affinity side).filter
        fun pods => pods ≠ {} := by
  obtain ⟨incoming, given⟩ := Option.ne_none_iff_exists'.mp given
  rw [affinity_select_of_some _ given, Affinity.pods_collapse, Affinity.pods_content_merge,
    given, PodAffinity.collapse_getD]

theorem foldsIn_select : constraints.FoldsIn selection (constraints.select selection) where
  nodeLabels _ given := constraints.get?_nodeLabels_select selection given
  required := constraints.isJoin_select selection fun _ given =>
    constraints.requiredTerms_select_of_some given
  preferences := constraints.isJoin_select selection fun _ given =>
    constraints.preferences_select_of_some given
  tolerations _ given := constraints.firstOccurrences_tolerations_select selection given
  pods given := constraints.pods_select selection given
  noNodeLabels absent := by rw [select, absent]
  noAffinity absent := constraints.affinity_select_of_none absent
  noTolerations absent := by rw [select, absent]

end Constraints

/-- Asks for what is there and for other things in every part, and for an affinity
to other pods without any terms. -/
def Selection.overlapping : Selection :=
  { nodeLabels := some (.ofList [("disk", "hdd"), ("pool", "cheap")])
    affinity := some
      { node := some
          { required := some
              ⟨[{ expressions := [⟨"zone", .isIn, ["us-east-1b"]⟩] },
                { expressions := [⟨"zone", .isIn, ["us-east-1a"]⟩] }]⟩ }
        pod := some {} }
    tolerations := some [.anyValue "preempt" .noSchedule, .anyValue "gpu" .noSchedule] }

namespace Placement

/-- A selection is folded in without loss if the mode does nothing or nothing is
known about preemptible nodes. -/
theorem foldsIn_select_of_untouched (placement : Placement) {source : Source}
    (untouched : placement.mode = .off ∨ source.isConfigured = false)
    (selection : Selection) :
    placement.toConstraints.FoldsIn selection
      (placement.select source selection).toConstraints := by
  have selected : (placement.select source selection).toConstraints =
      placement.toConstraints.select selection := by
    rw [select]
    rcases untouched with off | notConfigured
    · rw [off, Constraints.enrich_off]
    · exact Constraints.enrich_of_not_configured _ _ notConfigured
  rw [selected]
  exact placement.toConstraints.foldsIn_select selection

/-- A placement without a mode, in one zone and near to other pods. -/
def zoned : Placement :=
  { affinity := some
      { node := some
          { required := some ⟨[{ expressions := [⟨"zone", .isIn, ["us-east-1a"]⟩] }]⟩ }
        pod := some { required := [{ topologyKey := "zone" }] } }
    tolerations := some [.anyValue "gpu" .noSchedule, .anyValue "gpu" .noSchedule]
    nodeLabels := .ofList [("disk", "ssd")]
    mode := .off }

/-- The other zone comes second, the label keeps its value, and the affinity to
other pods is replaced and then dropped. -/
theorem foldsIn_select_zoned :
    zoned.mode = .off ∧
      zoned.toConstraints.FoldsIn .overlapping
        (zoned.select PreemptibleNodes.tainted .overlapping).toConstraints ∧
      zoned.select PreemptibleNodes.tainted .overlapping =
        { affinity := some (.requiring
            [{ expressions := [⟨"zone", .isIn, ["us-east-1a"]⟩] },
              { expressions := [⟨"zone", .isIn, ["us-east-1b"]⟩] }])
          tolerations := some [.anyValue "gpu" .noSchedule, .anyValue "preempt" .noSchedule]
          nodeLabels := .ofList [("disk", "ssd"), ("pool", "cheap")]
          mode := .off } := by
  have off : zoned.mode = .off := rfl
  exact ⟨off, foldsIn_select_of_untouched zoned (.inl off) .overlapping, rfl⟩

end Placement

end PodPlacement
