import PodPlacement.Affinity.Node
import PodPlacement.Proofs.FirstOccurrences

/-!
# Laws of pruning node terms

Pruning a term removes given requirements from it, and a term that then
requires nothing is dropped. Pruning by two lists in turn is pruning by both at
once, for the term that the second pass would drop cannot be kept by the
combined one. What is left holds no pruned requirement.
-/

namespace PodPlacement.NodeTerm

/-! ## One term -/

theorem mem_expressions_prune {term : NodeTerm} {pruned : List NodeRequirement}
    {requirement : NodeRequirement} :
    requirement ∈ (term.prune pruned).expressions ↔
      requirement ∈ term.expressions ∧ requirement ∉ pruned :=
  mem_removeAll

@[simp]
theorem prune_nil (term : NodeTerm) : term.prune [] = term := by
  simp [prune]

/-- A term without any of the requirements stays as it is. -/
theorem prune_eq_self {term : NodeTerm} {pruned : List NodeRequirement}
    (disjoint : ∀ requirement ∈ term.expressions, requirement ∉ pruned) :
    term.prune pruned = term := by
  rw [prune, removeAll_eq_self disjoint]

theorem prune_prune (term : NodeTerm) (first second : List NodeRequirement) :
    (term.prune first).prune second = term.prune (first ++ second) := by
  simp only [prune, removeAll_removeAll]

/-- Pruning depends on what is in the list only. -/
theorem prune_congr (term : NodeTerm) {first second : List NodeRequirement}
    (same : ∀ requirement, requirement ∈ first ↔ requirement ∈ second) :
    term.prune first = term.prune second := by
  have equal : term.expressions.removeAll first = term.expressions.removeAll second := by
    apply List.filter_congr
    intro requirement _
    simp [same requirement]
  rw [prune, prune, equal]

theorem isEmpty_prune_of_isEmpty {term : NodeTerm} (empty : term.isEmpty = true)
    (pruned : List NodeRequirement) : (term.prune pruned).isEmpty = true := by
  have ⟨noExpressions, noFields⟩ := Bool.and_eq_true_iff.mp empty
  rw [List.isEmpty_iff] at noExpressions
  simp [isEmpty, prune, noExpressions, noFields]

/-! ## Dropping emptied terms -/

theorem mem_pruneAll {terms : List NodeTerm} {pruned : List NodeRequirement}
    {term : NodeTerm} :
    term ∈ pruneAll terms pruned ↔
      ∃ original ∈ terms, original.prune pruned = term ∧ term.isEmpty = false := by
  simp only [pruneAll, List.mem_filter, List.mem_map, Bool.not_eq_true']
  constructor
  · rintro ⟨⟨original, member, equal⟩, notEmpty⟩
    exact ⟨original, member, equal, notEmpty⟩
  · rintro ⟨original, member, equal, notEmpty⟩
    exact ⟨⟨original, member, equal⟩, notEmpty⟩

theorem pruneAll_cons (term : NodeTerm) (terms : List NodeTerm)
    (pruned : List NodeRequirement) :
    pruneAll (term :: terms) pruned =
      if (term.prune pruned).isEmpty then pruneAll terms pruned
      else term.prune pruned :: pruneAll terms pruned := by
  cases empty : (term.prune pruned).isEmpty <;> simp [pruneAll, empty]

theorem pruneAll_append (first second : List NodeTerm) (pruned : List NodeRequirement) :
    pruneAll (first ++ second) pruned = pruneAll first pruned ++ pruneAll second pruned := by
  simp [pruneAll]

theorem pruneAll_pruneAll (terms : List NodeTerm) (first second : List NodeRequirement) :
    pruneAll (pruneAll terms first) second = pruneAll terms (first ++ second) := by
  induction terms with
  | nil => rfl
  | cons term terms inductionHypothesis =>
      rw [pruneAll_cons, pruneAll_cons, ← prune_prune]
      split
      · next emptied =>
          -- A term emptied by the first pass is emptied by the combined one.
          rw [if_pos (isEmpty_prune_of_isEmpty emptied second), inductionHypothesis]
      · rw [pruneAll_cons, inductionHypothesis]

theorem pruneAll_congr (terms : List NodeTerm) {first second : List NodeRequirement}
    (same : ∀ requirement, requirement ∈ first ↔ requirement ∈ second) :
    pruneAll terms first = pruneAll terms second := by
  have samePruned : (fun term : NodeTerm => term.prune first) =
      fun term => term.prune second :=
    funext fun term => term.prune_congr same
  rw [pruneAll, pruneAll, samePruned]

/-! ## What pruning leaves -/

/-- The terms that pruning an affinity leaves. With nothing to prune they are
left as they are, even those that require nothing. -/
def remaining (terms : List NodeTerm) (pruned : List NodeRequirement) : List NodeTerm :=
  if pruned.isEmpty then terms else pruneAll terms pruned

@[simp]
theorem remaining_nil (terms : List NodeTerm) : remaining terms [] = terms :=
  rfl

@[simp]
theorem nil_remaining (pruned : List NodeRequirement) : remaining [] pruned = [] := by
  cases pruned <;> rfl

theorem remaining_append (first second : List NodeTerm) (pruned : List NodeRequirement) :
    remaining (first ++ second) pruned = remaining first pruned ++ remaining second pruned := by
  cases pruned with
  | nil => rfl
  | cons requirement pruned => exact pruneAll_append first second _

/-- Pruning by two lists in turn is pruning by both at once. -/
theorem remaining_remaining (terms : List NodeTerm) (first second : List NodeRequirement) :
    remaining (remaining terms first) second = remaining terms (first ++ second) := by
  cases first with
  | nil => rfl
  | cons requirement first =>
      cases second with
      | nil => simp
      | cons other second => exact pruneAll_pruneAll terms _ _

theorem remaining_congr (terms : List NodeTerm) {first second : List NodeRequirement}
    (same : ∀ requirement, requirement ∈ first ↔ requirement ∈ second) :
    remaining terms first = remaining terms second := by
  rw [remaining, remaining, isEmpty_congr same, pruneAll_congr terms same]

@[simp]
theorem remaining_remaining_self (terms : List NodeTerm) (pruned : List NodeRequirement) :
    remaining (remaining terms pruned) pruned = remaining terms pruned := by
  rw [remaining_remaining]
  apply remaining_congr
  simp

/-- A term is left if it comes from pruning one that does not become empty by
it. -/
theorem mem_remaining {terms : List NodeTerm} {pruned : List NodeRequirement}
    {term : NodeTerm} (member : term ∈ remaining terms pruned) :
    ∃ original ∈ terms, original.prune pruned = term := by
  cases pruned with
  | nil => exact ⟨term, member, prune_nil term⟩
  | cons requirement pruned =>
      obtain ⟨original, originalMember, equal, _⟩ := mem_pruneAll.mp member
      exact ⟨original, originalMember, equal⟩

/-- What is left of a term does not depend on the terms around it. -/
theorem mem_remaining_iff {terms : List NodeTerm} {pruned : List NodeRequirement}
    {term : NodeTerm} :
    term ∈ remaining terms pruned ↔
      ∃ original ∈ terms, term ∈ remaining [original] pruned := by
  induction terms with
  | nil => simp
  | cons first terms inductionHypothesis =>
      rw [← List.singleton_append, remaining_append, List.mem_append, inductionHypothesis]
      simp

theorem length_remaining_le (terms : List NodeTerm) (pruned : List NodeRequirement) :
    (remaining terms pruned).length ≤ terms.length := by
  rw [remaining]
  split
  · exact Nat.le_refl _
  · calc
      (pruneAll terms pruned).length ≤
          (terms.map fun term => term.prune pruned).length := List.length_filter_le _ _
      _ = terms.length := List.length_map _

/-- No requirement that was pruned is left. -/
theorem not_mem_pruned_of_mem_remaining {terms : List NodeTerm}
    {pruned : List NodeRequirement} {term : NodeTerm}
    (member : term ∈ remaining terms pruned) {requirement : NodeRequirement}
    (required : requirement ∈ term.expressions) : requirement ∉ pruned := by
  obtain ⟨original, _, rfl⟩ := mem_remaining member
  exact (mem_expressions_prune.mp required).2

/-! ## Terms that pruning takes away -/

/-- Nothing is left if every term becomes empty, unless nothing is pruned. -/
theorem remaining_eq_nil_iff {terms : List NodeTerm} {pruned : List NodeRequirement} :
    remaining terms pruned = [] ↔
      ∀ term ∈ terms, pruned ≠ [] ∧ (term.prune pruned).isEmpty = true := by
  cases pruned with
  | nil => simp [List.eq_nil_iff_forall_not_mem]
  | cons requirement pruned => simp [remaining, pruneAll]

/-- Terms without fields whose requirements are all pruned are not left. -/
theorem remaining_eq_nil {terms : List NodeTerm} {pruned : List NodeRequirement}
    (covered : ∀ term ∈ terms, term.fields = [] ∧ term.expressions ≠ [] ∧
      ∀ requirement ∈ term.expressions, requirement ∈ pruned) :
    remaining terms pruned = [] := by
  rw [remaining_eq_nil_iff]
  intro term member
  have ⟨noFields, notEmpty, all⟩ := covered term member
  constructor
  · rintro rfl
    obtain ⟨requirement, required⟩ := List.exists_mem_of_ne_nil _ notEmpty
    exact List.not_mem_nil (all requirement required)
  · simp [isEmpty, prune, noFields, removeAll_eq_nil all]

theorem remaining_anyOf {requirements pruned : List NodeRequirement}
    (subset : ∀ requirement ∈ requirements, requirement ∈ pruned) :
    remaining (anyOf requirements) pruned = [] := by
  apply remaining_eq_nil
  intro term member
  obtain ⟨requirement, required, rfl⟩ := List.mem_map.mp member
  refine ⟨rfl, List.cons_ne_nil _ _, ?_⟩
  simpa using subset requirement required

theorem remaining_allOf {requirements pruned : List NodeRequirement}
    (subset : ∀ requirement ∈ requirements, requirement ∈ pruned) :
    remaining (allOf requirements) pruned = [] := by
  cases requirements with
  | nil => exact nil_remaining pruned
  | cons requirement requirements =>
      apply remaining_eq_nil
      intro term member
      rw [List.mem_singleton.mp member]
      exact ⟨rfl, List.cons_ne_nil _ _, subset⟩

/-! ## Terms that pruning cuts -/

/-- Pruning changes the term but does not empty it. -/
def IsCut (term : NodeTerm) (pruned : List NodeRequirement) : Prop :=
  term.prune pruned ≠ term ∧ (term.prune pruned).isEmpty = false

instance (term : NodeTerm) (pruned : List NodeRequirement) : Decidable (term.IsCut pruned) :=
  inferInstanceAs (Decidable (_ ∧ _))

theorem not_isCut_nil (term : NodeTerm) : ¬ term.IsCut [] :=
  fun cut => cut.1 (prune_nil term)

/-- A term that is left has been pruned already. -/
theorem prune_eq_self_of_mem_remaining {terms : List NodeTerm}
    {pruned : List NodeRequirement} {term : NodeTerm}
    (member : term ∈ remaining terms pruned) : term.prune pruned = term := by
  obtain ⟨original, _, rfl⟩ := mem_remaining member
  rw [prune_prune]
  apply prune_congr
  simp

/-- A term that pruning neither cuts nor empties is left. -/
theorem mem_remaining_of_not_isCut {terms : List NodeTerm} {pruned : List NodeRequirement}
    {term : NodeTerm} (member : term ∈ terms) (uncut : ¬ term.IsCut pruned)
    (notEmpty : (term.prune pruned).isEmpty = false) : term ∈ remaining terms pruned := by
  have same : term.prune pruned = term := by
    by_contra changed
    exact uncut ⟨changed, notEmpty⟩
  rw [same] at notEmpty
  rw [remaining]
  split
  · exact member
  · exact mem_pruneAll.mpr ⟨term, member, same, notEmpty⟩

end PodPlacement.NodeTerm
