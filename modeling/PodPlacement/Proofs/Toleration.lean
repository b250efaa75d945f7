import Mathlib.Data.List.Perm.Subperm
import PodPlacement.Proofs.FirstOccurrences
import PodPlacement.Toleration

/-!
# Laws of tolerations

Merging and pruning treat lists of tolerations as ordered sets. Pruning goes
through a merge, and a merged list takes nothing from a list that it contains.
-/

namespace PodPlacement.Toleration

theorem nodup_merge (existing incoming : List Toleration) :
    (merge existing incoming).Nodup :=
  nodup_eraseDups _

theorem firstOccurrences_merge (existing incoming : List Toleration) :
    FirstOccurrences (existing ++ incoming) (merge existing incoming) :=
  firstOccurrences_eraseDups _

/-- A merged list has no more tolerations than any list that has them all. -/
theorem length_merge_le {existing incoming others : List Toleration}
    (subset : ∀ toleration ∈ merge existing incoming, toleration ∈ others) :
    (merge existing incoming).length ≤ others.length :=
  (List.subperm_of_subset (nodup_merge existing incoming) subset).length_le

theorem prune_eq_filter (existing pruned : List Toleration) :
    prune existing pruned = existing.filter fun toleration => toleration ∉ pruned := by
  simp [prune, List.removeAll]

theorem length_prune_le (existing pruned : List Toleration) :
    (prune existing pruned).length ≤ existing.length :=
  List.length_filter_le _ _

/-- A list without repeats that has the incoming tolerations stays as it is. -/
theorem merge_eq_self {existing incoming : List Toleration} (nodup : existing.Nodup)
    (subset : ∀ toleration ∈ incoming, toleration ∈ existing) :
    merge existing incoming = existing := by
  rw [merge, eraseDups_append_of_subset subset, eraseDups_eq_self_of_nodup nodup]

@[simp]
theorem merge_merge_self (existing incoming : List Toleration) :
    merge (merge existing incoming) incoming = merge existing incoming := by
  apply merge_eq_self (nodup_merge existing incoming)
  intro toleration member
  exact (mem_merge _ _ _).mpr (.inr member)

theorem prune_eq_self {existing pruned : List Toleration}
    (disjoint : ∀ toleration ∈ existing, toleration ∉ pruned) :
    prune existing pruned = existing :=
  removeAll_eq_self disjoint

@[simp]
theorem prune_self (existing : List Toleration) : prune existing existing = [] :=
  removeAll_eq_nil fun _ member => member

@[simp]
theorem prune_prune_self (existing pruned : List Toleration) :
    prune (prune existing pruned) pruned = prune existing pruned := by
  apply prune_eq_self
  intro toleration member
  exact ((mem_prune _ _ _).mp member).2

/-- What is left of a merge is the merge of what is left. -/
theorem prune_merge (existing incoming pruned : List Toleration) :
    prune (merge existing incoming) pruned =
      merge (prune existing pruned) (prune incoming pruned) := by
  rw [merge, merge, prune, ← eraseDups_removeAll, removeAll_append, prune, prune]

/-- Merging tolerations adds no others, but it leaves each of the others once. -/
theorem prune_merge_self (existing incoming : List Toleration) :
    prune (merge existing incoming) incoming = (prune existing incoming).eraseDups := by
  rw [prune_merge, prune_self, merge, List.append_nil]

theorem nodup_prune {existing : List Toleration} (nodup : existing.Nodup)
    (pruned : List Toleration) : (prune existing pruned).Nodup :=
  nodup.filter _

/-! ## Merging again after a change -/

/-- Tolerations that were merged and pruned can be merged and pruned again
without a change. -/
theorem prune_merge_prune_merge (existing incoming pruned : List Toleration) :
    prune (merge (prune (merge existing incoming) pruned) incoming) pruned =
      prune (merge existing incoming) pruned := by
  rw [prune_merge, prune_prune_self]
  apply merge_eq_self (nodup_prune (nodup_merge existing incoming) pruned)
  intro toleration member
  have ⟨incomes, kept⟩ := (mem_prune _ _ _).mp member
  exact (mem_prune _ _ _).mpr ⟨(mem_merge _ _ _).mpr (.inr incomes), kept⟩

/-- Tolerations that were merged twice can be merged twice again without a
change. -/
theorem merge_merge_merge_merge (existing incoming added : List Toleration) :
    merge (merge (merge (merge existing incoming) added) incoming) added =
      merge (merge existing incoming) added := by
  have subset : ∀ toleration ∈ incoming,
      toleration ∈ merge (merge existing incoming) added := by
    intro toleration member
    exact (mem_merge _ _ _).mpr (.inl ((mem_merge _ _ _).mpr (.inr member)))
  rw [merge_eq_self (nodup_merge _ added) subset, merge_merge_self]

end PodPlacement.Toleration
