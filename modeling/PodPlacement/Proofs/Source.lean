import PodPlacement.Proofs.Affinity.Pruning
import PodPlacement.Source

/-!
# Laws of derived answers

The requirements and terms that follow from the labels of preemptible nodes fit
each other: pruning by the requirements takes the terms away whole, and a
requirement that attracts a pod is never one that keeps it off.
-/

namespace PodPlacement

namespace PreemptibleNodes

/-- Spot nodes with one label and one taint, on which statements are tried out. -/
def tainted : PreemptibleNodes :=
  { labels := .ofList [("node-type", "spot")]
    tolerations := [.anyValue "preempt" .noSchedule] }

end PreemptibleNodes

namespace Source.FollowsLabels

variable {source : Source}

theorem terms_eq (follows : source.FollowsLabels) :
    source.terms = NodeTerm.anyOf (source.requirements .isIn) := by
  rw [follows.terms, follows.requirements]
  rfl

theorem antiTerms_eq (follows : source.FollowsLabels) :
    source.antiTerms = NodeTerm.allOf (source.requirements .notIn) := by
  rw [follows.antiTerms, follows.requirements]
  rfl

/-- There is one term for each label to keep a pod on preemptible nodes. -/
theorem length_terms (follows : source.FollowsLabels) :
    source.terms.length = source.labels.entries.length := by
  rw [follows.terms, PreemptibleNodes.terms, NodeTerm.anyOf, List.length_map,
    PreemptibleNodes.requirements, List.length_map, labels]

/-- There is one term at most to keep a pod off preemptible nodes, and none
without labels. -/
theorem length_antiTerms_le (follows : source.FollowsLabels) :
    source.antiTerms.length ≤ source.labels.entries.length := by
  rw [follows.antiTerms, PreemptibleNodes.antiTerms, NodeTerm.allOf, labels,
    PreemptibleNodes.requirements]
  cases source.nodes.labels.entries <;> simp

theorem operator_eq_of_mem_requirements (follows : source.FollowsLabels)
    {operator : NodeOperator} {requirement : NodeRequirement}
    (member : requirement ∈ source.requirements operator) :
    requirement.operator = operator := by
  rw [follows.requirements] at member
  obtain ⟨_, _, rfl⟩ := List.mem_map.mp member
  rfl

/-- The terms that keep a pod on preemptible nodes are pruned away by their
requirements. -/
theorem remaining_terms (follows : source.FollowsLabels) {pruned : List NodeRequirement}
    (subset : ∀ requirement ∈ source.requirements .isIn, requirement ∈ pruned) :
    NodeTerm.remaining source.terms pruned = [] := by
  rw [follows.terms_eq]
  exact NodeTerm.remaining_anyOf subset

/-- The terms that keep a pod off preemptible nodes are pruned away by their
requirements. -/
theorem remaining_antiTerms (follows : source.FollowsLabels) {pruned : List NodeRequirement}
    (subset : ∀ requirement ∈ source.requirements .notIn, requirement ∈ pruned) :
    NodeTerm.remaining source.antiTerms pruned = [] := by
  rw [follows.antiTerms_eq]
  exact NodeTerm.remaining_allOf subset

/-- The terms that keep a pod off preemptible nodes attract it to none. -/
theorem not_mem_isIn_of_mem_antiTerms (follows : source.FollowsLabels) {term : NodeTerm}
    (member : term ∈ source.antiTerms) {requirement : NodeRequirement}
    (required : requirement ∈ term.expressions) :
    requirement ∉ source.requirements .isIn := by
  rw [follows.antiTerms_eq, NodeTerm.allOf] at member
  split at member
  · exact absurd member List.not_mem_nil
  · rw [List.mem_singleton.mp member] at required
    intro attracting
    have notIn := follows.operator_eq_of_mem_requirements required
    have isIn := follows.operator_eq_of_mem_requirements attracting
    rw [notIn] at isIn
    exact NodeOperator.noConfusion isIn

end Source.FollowsLabels

end PodPlacement
