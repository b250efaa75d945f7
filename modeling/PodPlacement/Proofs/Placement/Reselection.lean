import PodPlacement.Proofs.Constraints.Selection
import PodPlacement.Proofs.Placement.Enriched
import PodPlacement.Proofs.Source

/-!
# Repeating a selection

Folding a selection into a placement merges it with what is there and then
enriches the result. Merging looks for terms that are there already, but the
enrichment may have pruned them before, so that a term which pruning cuts is
not found again and is added once more. In a placement that a run can reach,
this is the only way in which repeating a selection changes anything.
-/

namespace PodPlacement

namespace Constraints

/-- The constraints with a selection folded in, enriched for a mode. -/
def selectFor (constraints : Constraints) (source : Source) (mode : Mode)
    (selection : Selection) : Constraints :=
  (constraints.select selection).enrich source mode

variable (constraints : Constraints) {source : Source} (mode : Mode) (selection : Selection)
  (configured : source.isConfigured = true)

include configured

/-! ## What stays the same -/

theorem tolerations_selectFor_selectFor :
    ((constraints.selectFor source mode selection).selectFor source mode
        selection).tolerations.getD [] =
      (constraints.selectFor source mode selection).tolerations.getD [] := by
  rcases tolerations_enrich_cases mode configured with kept | pruned | merged
  · simp only [selectFor, kept, tolerations_select]
    cases selection.tolerations with
    | none => rfl
    | some incoming => exact Toleration.merge_merge_self _ _
  · simp only [selectFor, pruned, tolerations_select]
    cases selection.tolerations with
    | none => exact Toleration.prune_prune_self _ _
    | some incoming => exact Toleration.prune_merge_prune_merge _ _ _
  · simp only [selectFor, merged, tolerations_select]
    cases selection.tolerations with
    | none => exact Toleration.merge_merge_self _ _
    | some incoming => exact Toleration.merge_merge_merge_merge _ _ _

/-- The constraints have to be enriched already, or a label that is pruned now
could make room for one of the selection. -/
theorem nodeLabels_selectFor_selectFor
    (settled : (constraints.enrich source mode).nodeLabels = constraints.nodeLabels) :
    ((constraints.selectFor source mode selection).selectFor source mode
        selection).nodeLabels =
      (constraints.selectFor source mode selection).nodeLabels := by
  rcases nodeLabels_enrich_cases mode configured with kept | pruned
  · simp only [selectFor, kept, nodeLabels_select]
    exact LabelMap.override_override_self _ _
  · rw [pruned] at settled
    simp only [selectFor, pruned, nodeLabels_select]
    exact LabelMap.prune_override_prune_override settled

/-- The affinity changes in its required terms at most. -/
theorem affinity_selectFor_selectFor :
    Affinity.content ((constraints.selectFor source mode selection).selectFor source mode
        selection).affinity =
      { Affinity.content (constraints.selectFor source mode selection).affinity with
        required := ((constraints.selectFor source mode selection).selectFor source mode
          selection).requiredTerms } := by
  have selected : Affinity.content ((constraints.selectFor source mode selection).select
        selection).affinity =
      { Affinity.content (constraints.selectFor source mode selection).affinity with
        required := ((constraints.selectFor source mode selection).select
          selection).requiredTerms } := by
    cases given : selection.affinity with
    | none =>
        rw [affinity_select_of_none _ given, requiredTerms_select_of_none _ given,
          ← required_content]
        rfl
    | some incoming =>
        have before : Affinity.content (constraints.selectFor source mode selection).affinity =
            { Affinity.content (some (Affinity.merge constraints.affinity incoming)) with
              required := (constraints.selectFor source mode selection).content.required } := by
          rw [selectFor, content_affinity_enrich _ _ configured, required_content,
            affinity_select_of_some _ given, Affinity.content_collapse]
        rw [affinity_select_of_some _ given, Affinity.content_collapse,
          Affinity.content_merge_again before, requiredTerms_select_of_some _ given,
          ← required_content, Affinity.required_content_some]
        rfl
  rw [selectFor, content_affinity_enrich _ _ configured, selected]

/-! ## What grows -/

/-- The required terms grow at their end, exactly if the selection has a term
that pruning cuts. -/
theorem requiredTerms_selectFor_selectFor :
    ∃ grown,
      ((constraints.selectFor source mode selection).selectFor source mode
          selection).requiredTerms =
        (constraints.selectFor source mode selection).requiredTerms ++ grown ∧
      (grown = [] ↔
        ∀ term ∈ selection.requiredTerms, ¬ term.IsCut (source.prunedRequirements mode)) := by
  rcases requiredTerms_enrich_cases mode configured with
    pruned | ⟨nothingPruned, terms, replaced⟩
  · cases given : selection.affinity with
    | none =>
        refine ⟨[], ?_, by simp [Selection.requiredTerms, given]⟩
        simp only [selectFor, pruned, requiredTerms_select_of_none _ given,
          NodeTerm.remaining_remaining_self, List.append_nil]
    | some incoming =>
        have sameTerms : selection.requiredTerms = incoming.requiredTerms := by
          simp [Selection.requiredTerms, given]
        rw [sameTerms, selectFor, pruned, requiredTerms_select_of_some _ given, selectFor,
          pruned]
        apply Affinity.remaining_joined
        · intro absent
          rw [← pruned, requiredTerms, absent]
          rfl
        · intro term incomes
          rw [requiredTerms_select_of_some _ given]
          exact Affinity.mem_joined_of_mem_incoming incomes
  · refine ⟨[], ?_, ?_⟩
    · rw [selectFor, selectFor, replaced, replaced, List.append_nil]
    · rw [nothingPruned]
      exact iff_of_true rfl fun term _ => term.not_isCut_nil

/-- Repeating a selection changes the constraints only if it changes the required
terms. -/
theorem selectFor_selectFor_eq_iff
    (settled : (constraints.enrich source mode).nodeLabels = constraints.nodeLabels) :
    (constraints.selectFor source mode selection).selectFor source mode selection =
        constraints.selectFor source mode selection ↔
      ((constraints.selectFor source mode selection).selectFor source mode
          selection).requiredTerms =
        (constraints.selectFor source mode selection).requiredTerms := by
  constructor
  · intro equal
    rw [equal]
  intro sameTerms
  by_cases active : mode = .off
  · simp only [selectFor, active, enrich_off, select_select]
  · have collapsed (constraints : Constraints) :
        (constraints.selectFor source mode selection).collapse =
          constraints.selectFor source mode selection :=
      collapse_enrich _ configured active
    have sameContent :
        ((constraints.selectFor source mode selection).selectFor source mode
            selection).content =
          (constraints.selectFor source mode selection).content := by
      apply content_congr
      · rw [affinity_selectFor_selectFor _ _ _ configured, sameTerms, ← required_content]
        rfl
      · exact tolerations_selectFor_selectFor _ _ _ configured
      · exact nodeLabels_selectFor_selectFor _ _ _ configured settled
    calc
      (constraints.selectFor source mode selection).selectFor source mode selection =
          ((constraints.selectFor source mode selection).selectFor source mode
            selection).collapse := (collapsed _).symm
      _ = (constraints.selectFor source mode selection).collapse :=
          collapse_congr sameContent
      _ = constraints.selectFor source mode selection := collapsed constraints

omit configured in
/-- A selection that is repeated lengthens the list of required terms, or changes
nothing at all. -/
theorem exists_grown_selectFor_selectFor
    (settled : (constraints.enrich source mode).nodeLabels = constraints.nodeLabels) :
    ∃ grown,
      ((constraints.selectFor source mode selection).selectFor source mode
          selection).requiredTerms =
        (constraints.selectFor source mode selection).requiredTerms ++ grown ∧
      ((constraints.selectFor source mode selection).selectFor source mode selection =
        constraints.selectFor source mode selection ↔ grown = []) ∧
      (grown = [] ↔
        ∀ term ∈ selection.requiredTerms, ¬ term.IsCut (source.prunedRequirements mode)) := by
  by_cases configured : source.isConfigured = true
  · obtain ⟨grown, grows, uncut⟩ :=
      constraints.requiredTerms_selectFor_selectFor mode selection configured
    refine ⟨grown, grows, ?_, uncut⟩
    rw [selectFor_selectFor_eq_iff _ _ _ configured settled, grows,
      List.append_right_eq_self]
  · rw [Bool.not_eq_true] at configured
    have unchanged : (constraints.selectFor source mode selection).selectFor source mode
        selection = constraints.selectFor source mode selection := by
      simp only [selectFor, enrich_of_not_configured _ _ configured, select_select]
    have nothingPruned : source.prunedRequirements mode = [] := by
      simp [Source.prunedRequirements, configured]
    refine ⟨[], by rw [unchanged, List.append_nil], iff_of_true unchanged rfl, ?_⟩
    rw [nothingPruned]
    exact iff_of_true rfl fun term _ => term.not_isCut_nil

end Constraints

namespace Selection

/-- Asks for required node terms. -/
def requiring (terms : List NodeTerm) : Selection :=
  { affinity := some { node := some { required := some ⟨terms⟩ } } }

/-- Asks for a spot node or a node of one zone. -/
def spotOrZone : Selection :=
  requiring
    [{ expressions := [⟨"node-type", .isIn, ["spot"]⟩] },
      { expressions := [⟨"zone", .isIn, ["us-east-1a"]⟩] }]

/-- Asks for a spot node of one zone. -/
def spotInZone : Selection :=
  requiring
    [{ expressions := [⟨"node-type", .isIn, ["spot"]⟩, ⟨"zone", .isIn, ["us-east-1a"]⟩] }]

end Selection

namespace Placement

/-- Repeating a selection in a placement that a run can reach changes nothing, and
does not even lengthen the list of required terms, exactly if no required term of
the selection is cut by what the mode prunes. -/
theorem select_select_eq_iff {placement : Placement} {source : Source}
    (reachable : placement.Reachable source) (selection : Selection) :
    ((placement.select source selection).select source selection =
        placement.select source selection ↔
      ∀ term ∈ selection.requiredTerms,
        ¬ term.IsCut (source.prunedRequirements placement.mode)) ∧
    (((placement.select source selection).select source selection).requiredTerms.length ≤
        (placement.select source selection).requiredTerms.length ↔
      ∀ term ∈ selection.requiredTerms,
        ¬ term.IsCut (source.prunedRequirements placement.mode)) := by
  obtain ⟨grown, grows, unchanged, uncut⟩ :=
    placement.toConstraints.exists_grown_selectFor_selectFor placement.mode selection
      (congrArg Constraints.Content.nodeLabels reachable.isEnriched.content_enrich)
  rw [← uncut]
  constructor
  · rw [← unchanged]
    constructor
    · exact congrArg toConstraints
    · exact congrArg fun constraints => (⟨constraints, placement.mode⟩ : Placement)
  · have lengths := congrArg List.length grows
    rw [List.length_append] at lengths
    constructor
    · intro notLonger
      have bounded := Nat.le_trans (Nat.le_of_eq lengths.symm) notLonger
      exact List.eq_nil_of_length_eq_zero
        (Nat.le_zero.mp (Nat.le_of_add_le_add_left bounded))
    · rintro rfl
      exact Nat.le_of_eq lengths

/-- A selection whose terms are taken away whole or left alone. -/
theorem select_select_spotOrZone :
    Reachable ⟨{}, .prevent⟩ PreemptibleNodes.tainted ∧
      (select ⟨{}, .prevent⟩ PreemptibleNodes.tainted .spotOrZone).select
          PreemptibleNodes.tainted .spotOrZone =
        select ⟨{}, .prevent⟩ PreemptibleNodes.tainted .spotOrZone := by
  have reachable : Reachable ⟨{}, .prevent⟩ PreemptibleNodes.tainted :=
    ⟨{}, some "prevent", _, [], rfl, rfl⟩
  exact ⟨reachable, (select_select_eq_iff reachable _).1.mpr (by decide)⟩

/-- A selection with a term that is cut, and added once more when it is
repeated. -/
theorem select_select_spotInZone :
    (PreemptibleNodes.tainted : Source).FollowsLabels ∧
      Reachable ⟨{}, .prevent⟩ PreemptibleNodes.tainted ∧
      (select ⟨{}, .prevent⟩ PreemptibleNodes.tainted .spotInZone).select
          PreemptibleNodes.tainted .spotInZone ≠
        select ⟨{}, .prevent⟩ PreemptibleNodes.tainted .spotInZone ∧
      (select ⟨{}, .prevent⟩ PreemptibleNodes.tainted .spotInZone).requiredTerms.length <
        ((select ⟨{}, .prevent⟩ PreemptibleNodes.tainted .spotInZone).select
          PreemptibleNodes.tainted .spotInZone).requiredTerms.length := by
  refine ⟨Source.followsLabels_derived _, ⟨{}, some "prevent", _, [], rfl, rfl⟩, ?_, ?_⟩
  · decide
  · decide

end Placement

end PodPlacement
