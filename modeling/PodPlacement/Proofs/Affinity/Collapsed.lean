import Mathlib.Tactic.MkIffOfInductiveProp
import PodPlacement.Proofs.Affinity.Content

/-!
# Affinity without parts that say nothing

An affinity is collapsed if everything in it that is present says something.
These are the affinities that collapsing leaves as they are, and collapsing
gives no others.
-/

namespace PodPlacement

/-- A hard constraint that is present has terms, and there are such terms or
preferences. -/
@[mk_iff]
structure NodeAffinity.IsCollapsed (affinity : NodeAffinity) : Prop where
  required : ∀ selector ∈ affinity.required, selector.terms ≠ []
  notEmpty : affinity.requiredTerms ≠ [] ∨ affinity.preferred ≠ []

/-- There are terms or preferences. -/
@[mk_iff]
structure PodAffinity.IsCollapsed (affinity : PodAffinity) : Prop where
  notEmpty : affinity.required ≠ [] ∨ affinity.preferred ≠ []

/-- The parts that are present are collapsed, and there are such parts. -/
@[mk_iff]
structure Affinity.IsCollapsed (affinity : Affinity) : Prop where
  node : ∀ node ∈ affinity.node, node.IsCollapsed
  pod : ∀ pod ∈ affinity.pod, pod.IsCollapsed
  podAnti : ∀ podAnti ∈ affinity.podAnti, podAnti.IsCollapsed
  notEmpty : affinity.node ≠ none ∨ affinity.pod ≠ none ∨ affinity.podAnti ≠ none

/-! ## Parts -/

theorem NodeAffinity.isCollapsed_iff_collapse_eq (affinity : NodeAffinity) :
    affinity.IsCollapsed ↔ affinity.collapse = some affinity := by
  rcases affinity with ⟨_ | ⟨_ | ⟨term, terms⟩⟩, _ | ⟨preference, preferences⟩⟩ <;>
    simp [isCollapsed_iff, collapse, isEmpty, requiredTerms, NodeSelector.termsOf]

theorem NodeAffinity.IsCollapsed.isEmpty_eq {affinity : NodeAffinity}
    (collapsed : affinity.IsCollapsed) : affinity.isEmpty = false := by
  have notEmpty := collapsed.notEmpty
  simpa [isEmpty, ← not_and_or] using notEmpty

theorem PodAffinity.isCollapsed_iff_collapse_eq (affinity : PodAffinity) :
    affinity.IsCollapsed ↔ affinity.collapse = some affinity := by
  rcases affinity with ⟨_ | ⟨term, terms⟩, _ | ⟨preference, preferences⟩⟩ <;>
    simp [isCollapsed_iff, collapse, isEmpty]

theorem PodAffinity.IsCollapsed.isEmpty_eq {affinity : PodAffinity}
    (collapsed : affinity.IsCollapsed) : affinity.isEmpty = false := by
  have notEmpty := collapsed.notEmpty
  simpa [isEmpty, ← not_and_or] using notEmpty

/-! ## Affinity -/

namespace Affinity

theorem IsCollapsed.isEmpty_eq {affinity : Affinity} (collapsed : affinity.IsCollapsed) :
    affinity.isEmpty = false := by
  rcases affinity with ⟨_ | node, _ | pod, _ | podAnti⟩
  case none.none.none => simpa using collapsed.notEmpty
  case none.none.some => simp [isEmpty, (collapsed.podAnti podAnti rfl).isEmpty_eq]
  case none.some.none => simp [isEmpty, (collapsed.pod pod rfl).isEmpty_eq]
  case none.some.some => simp [isEmpty, (collapsed.pod pod rfl).isEmpty_eq]
  all_goals simp [isEmpty, (collapsed.node node rfl).isEmpty_eq]

/-- Parts stay as they are if they are collapsed. -/
theorem bind_eq_self_iff {α : Type} {collapse : α → Option α} (part : Option α) :
    part.bind collapse = part ↔ ∀ value ∈ part, collapse value = some value := by
  cases part <;> simp

/-- An affinity is collapsed exactly if collapsing leaves it as it is. -/
theorem isCollapsed_iff_collapse_eq (affinity : Affinity) :
    affinity.IsCollapsed ↔ collapse (some affinity) = some affinity := by
  have parts : affinity.IsCollapsed ↔ affinity.node.bind NodeAffinity.collapse = affinity.node ∧
      affinity.pod.bind PodAffinity.collapse = affinity.pod ∧
      affinity.podAnti.bind PodAffinity.collapse = affinity.podAnti ∧
      (affinity.node ≠ none ∨ affinity.pod ≠ none ∨ affinity.podAnti ≠ none) := by
    simp only [isCollapsed_iff, bind_eq_self_iff, NodeAffinity.isCollapsed_iff_collapse_eq,
      PodAffinity.isCollapsed_iff_collapse_eq]
  constructor
  · intro collapsed
    obtain ⟨node, pod, podAnti, _⟩ := parts.mp collapsed
    rw [collapse, Option.bind_some, collapsed.isEmpty_eq, node, pod, podAnti]
    rfl
  · intro equal
    rw [collapse, Option.bind_some] at equal
    split at equal
    · cases equal
    · next notEmpty =>
        have same := Option.some.inj equal
        apply parts.mpr
        refine ⟨congrArg Affinity.node same, congrArg Affinity.pod same,
          congrArg Affinity.podAnti same, ?_⟩
        by_contra absent
        simp only [not_or, not_not] at absent
        simp [isEmpty, absent] at notEmpty

/-- Collapsing gives collapsed affinities only. -/
theorem isCollapsed_of_mem_collapse {affinity : Option Affinity} {collapsed : Affinity}
    (member : collapsed ∈ collapse affinity) : collapsed.IsCollapsed := by
  rw [isCollapsed_iff_collapse_eq, ← Option.mem_def.mp member, collapse_collapse]

end Affinity

end PodPlacement
