import PodPlacement.Proofs.LabelMap
import PodPlacement.Source

/-!
# What node terms mean

A requirement is true or false of the labels of a node. A term is true if all
its requirements are, and a hard constraint if one of its terms is. The terms
that follow from the labels of preemptible nodes then mean what they are for:
one kind is true of exactly the nodes that have one of the labels, the other
kind of exactly the nodes that have none.
-/

namespace PodPlacement

/-- Whether a text and a bound are numbers, and the first is greater. -/
def exceeds (text bound : String) : Bool :=
  match text.toInt?, bound.toInt? with
  | some number, some bound => bound < number
  | _, _ => false

/-- A node has labels that meet a requirement. -/
def NodeRequirement.Holds (requirement : NodeRequirement) (node : LabelMap) : Prop :=
  match requirement.operator with
  | .isIn => ∃ value ∈ requirement.values, node.get? requirement.key = some value
  | .notIn => ∀ value ∈ requirement.values, node.get? requirement.key ≠ some value
  | .present => node.get? requirement.key ≠ none
  | .absent => node.get? requirement.key = none
  | .greater =>
      ∃ text ∈ node.get? requirement.key, ∃ bound ∈ requirement.values, exceeds text bound
  | .less =>
      ∃ text ∈ node.get? requirement.key, ∃ bound ∈ requirement.values, exceeds bound text

instance (requirement : NodeRequirement) (node : LabelMap) :
    Decidable (requirement.Holds node) :=
  match requirement with
  | ⟨key, .isIn, values⟩ =>
      inferInstanceAs (Decidable (∃ value ∈ values, node.get? key = some value))
  | ⟨key, .notIn, values⟩ =>
      inferInstanceAs (Decidable (∀ value ∈ values, node.get? key ≠ some value))
  | ⟨key, .present, _⟩ => inferInstanceAs (Decidable (node.get? key ≠ none))
  | ⟨key, .absent, _⟩ => inferInstanceAs (Decidable (node.get? key = none))
  | ⟨key, .greater, values⟩ =>
      inferInstanceAs (Decidable (∃ text ∈ node.get? key, ∃ bound ∈ values, exceeds text bound))
  | ⟨key, .less, values⟩ =>
      inferInstanceAs (Decidable (∃ text ∈ node.get? key, ∃ bound ∈ values, exceeds bound text))

theorem NodeRequirement.isIn_holds_iff (key value : String) (node : LabelMap) :
    (⟨key, .isIn, [value]⟩ : NodeRequirement).Holds node ↔ (key, value) ∈ node.entries := by
  rw [← LabelMap.get?_eq_some_iff]
  simp [Holds]

theorem NodeRequirement.notIn_holds_iff (key value : String) (node : LabelMap) :
    (⟨key, .notIn, [value]⟩ : NodeRequirement).Holds node ↔ (key, value) ∉ node.entries := by
  rw [← LabelMap.get?_eq_some_iff]
  simp [Holds]

/-- A node meets all requirements of a term on its labels. -/
def NodeTerm.Holds (term : NodeTerm) (node : LabelMap) : Prop :=
  ∀ requirement ∈ term.expressions, requirement.Holds node

instance (term : NodeTerm) (node : LabelMap) : Decidable (term.Holds node) :=
  inferInstanceAs (Decidable (∀ requirement ∈ term.expressions, requirement.Holds node))

/-- A node meets one of the terms. -/
def NodeSelector.Holds (selector : NodeSelector) (node : LabelMap) : Prop :=
  ∃ term ∈ selector.terms, term.Holds node

instance (selector : NodeSelector) (node : LabelMap) : Decidable (selector.Holds node) :=
  inferInstanceAs (Decidable (∃ term ∈ selector.terms, term.Holds node))

/-! ## Alternatives and conjunctions of requirements -/

theorem NodeTerm.holds_anyOf_iff (requirements : List NodeRequirement) (node : LabelMap) :
    (⟨anyOf requirements⟩ : NodeSelector).Holds node ↔
      ∃ requirement ∈ requirements, requirement.Holds node := by
  simp [NodeSelector.Holds, anyOf, NodeTerm.Holds]

/-- A single term is made of requirements, unless there are none. -/
theorem NodeTerm.holds_allOf_iff {requirements : List NodeRequirement} (node : LabelMap)
    (notEmpty : requirements ≠ []) :
    (⟨allOf requirements⟩ : NodeSelector).Holds node ↔
      ∀ requirement ∈ requirements, requirement.Holds node := by
  simp [NodeSelector.Holds, allOf, notEmpty, NodeTerm.Holds]

/-! ## Preemptible nodes -/

namespace LabelMap

/-- Two maps have an entry in common. -/
def Meets (labels node : LabelMap) : Prop :=
  ∃ entry ∈ labels.entries, entry ∈ node.entries

instance (labels node : LabelMap) : Decidable (labels.Meets node) :=
  inferInstanceAs (Decidable (∃ entry ∈ labels.entries, entry ∈ node.entries))

theorem Meets.mono {labels node larger : LabelMap} (meets : labels.Meets node)
    (subset : node.entries ⊆ larger.entries) : labels.Meets larger := by
  obtain ⟨entry, member, shared⟩ := meets
  exact ⟨entry, member, subset shared⟩

/-- All that pruning leaves of another map are labels without a value. -/
theorem meets_prune_iff (labels pruned : LabelMap) :
    pruned.Meets (labels.prune pruned) ↔
      ∃ key, (key, "") ∈ pruned.entries ∧ (key, "") ∈ labels.entries := by
  constructor
  · rintro ⟨⟨key, value⟩, inPruned, left⟩
    have unlabelled := hasLabel_eq_false_of_mem_prune left
    rw [← Bool.not_eq_true, hasLabel_iff, get?_eq_some_iff] at unlabelled
    have noValue : value = "" := by
      by_contra hasValue
      exact unlabelled ⟨hasValue, inPruned⟩
    subst noValue
    exact ⟨key, inPruned, (List.mem_filter.mp left).1⟩
  · rintro ⟨key, inPruned, inLabels⟩
    refine ⟨(key, ""), inPruned, List.mem_filter.mpr ⟨inLabels, ?_⟩⟩
    simp [hasLabel]

end LabelMap

namespace PreemptibleNodes

variable (nodes : PreemptibleNodes) (node : LabelMap)

theorem exists_isIn_holds_iff :
    (∃ requirement ∈ nodes.requirements .isIn, requirement.Holds node) ↔
      nodes.labels.Meets node := by
  simp [requirements, NodeRequirement.isIn_holds_iff, LabelMap.Meets]

theorem forall_notIn_holds_iff :
    (∀ requirement ∈ nodes.requirements .notIn, requirement.Holds node) ↔
      ¬ nodes.labels.Meets node := by
  rw [requirements, List.forall_mem_map]
  simp [NodeRequirement.notIn_holds_iff, LabelMap.Meets]

/-- The attracting terms are true of the nodes with one of the labels. -/
theorem terms_hold_iff :
    (⟨nodes.terms⟩ : NodeSelector).Holds node ↔ nodes.labels.Meets node :=
  (NodeTerm.holds_anyOf_iff _ node).trans (nodes.exists_isIn_holds_iff node)

theorem terms_ne_nil (labelled : nodes.labels.isEmpty = false) : nodes.terms ≠ [] := by
  have someEntries : nodes.labels.entries ≠ [] := by
    simpa [LabelMap.isEmpty] using labelled
  simpa [terms, NodeTerm.anyOf, requirements] using someEntries

/-- The excluding terms are true of the nodes with none of the labels, and there
are none of them only if there are no labels. -/
theorem antiTerms_eq_nil_or_hold_iff :
    nodes.antiTerms = [] ∨ (⟨nodes.antiTerms⟩ : NodeSelector).Holds node ↔
      ¬ nodes.labels.Meets node := by
  rw [← nodes.forall_notIn_holds_iff, antiTerms]
  by_cases empty : nodes.requirements .notIn = []
  · simp [empty, NodeTerm.allOf]
  · have notEmpty : NodeTerm.allOf (nodes.requirements .notIn) ≠ [] := by
      simp [NodeTerm.allOf, empty]
    rw [or_iff_right notEmpty, NodeTerm.holds_allOf_iff node empty]

end PreemptibleNodes

end PodPlacement
