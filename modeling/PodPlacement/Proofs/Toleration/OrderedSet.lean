import PodPlacement.Proofs.Toleration

/-!
# Tolerations as ordered sets

Lists of tolerations stand for sets with an order. Merging is union and pruning
is difference: lists can be merged and pruned in turn or joined first, and each
of the two operations takes back what the other one does, up to repeats and
order. The laws are stated of any two operations on lists.
-/

namespace PodPlacement

/-- The laws of a union and a difference of lists that stand for sets with an
order. A union is in order of first occurrence. -/
structure OrderedSetLaws {α : Type} [DecidableEq α] (merge prune : List α → List α → List α) :
    Prop where
  nodup_merge : ∀ existing incoming, (merge existing incoming).Nodup
  mem_merge : ∀ existing incoming entry,
    entry ∈ merge existing incoming ↔ entry ∈ existing ∨ entry ∈ incoming
  ordered_merge : ∀ existing incoming,
    FirstOccurrences (existing ++ incoming) (merge existing incoming)
  merge_merge : ∀ existing incoming added,
    merge (merge existing incoming) added = merge existing (incoming ++ added)
  mem_prune : ∀ existing pruned entry,
    entry ∈ prune existing pruned ↔ entry ∈ existing ∧ entry ∉ pruned
  prune_prune : ∀ existing first second,
    prune (prune existing first) second = prune existing (first ++ second)
  prune_merge : ∀ existing incoming,
    FirstOccurrences (prune existing incoming) (prune (merge existing incoming) incoming)
  merge_prune : ∀ existing incoming entry,
    entry ∈ merge (prune existing incoming) incoming ↔ entry ∈ merge existing incoming

namespace Toleration

/-- One more toleration comes last, unless it is there already. -/
theorem merge_concat (existing incoming : List Toleration) (toleration : Toleration) :
    merge existing (incoming ++ [toleration]) =
      if toleration ∈ merge existing incoming then merge existing incoming
      else merge existing incoming ++ [toleration] := by
  rw [merge, ← List.append_assoc, eraseDups_concat]
  simp only [merge, List.mem_eraseDups]

/-- Lists can be merged one after the other or joined first, for each toleration
of the last one then meets the same merged list. -/
theorem merge_merge (existing incoming added : List Toleration) :
    merge (merge existing incoming) added = merge existing (incoming ++ added) := by
  induction added using List.reverseRecOn with
  | nil =>
      rw [List.append_nil]
      exact merge_eq_self (nodup_merge existing incoming) nofun
  | append_singleton added toleration inductionHypothesis =>
      rw [merge_concat, inductionHypothesis, ← List.append_assoc, merge_concat]

theorem prune_prune (existing first second : List Toleration) :
    prune (prune existing first) second = prune existing (first ++ second) :=
  removeAll_removeAll existing first second

/-- Pruning what was merged leaves the first occurrences of what pruning leaves. -/
theorem firstOccurrences_prune_merge (existing incoming : List Toleration) :
    FirstOccurrences (prune existing incoming)
      (prune (merge existing incoming) incoming) := by
  rw [prune_merge_self]
  exact firstOccurrences_eraseDups _

/-- Merging what was pruned brings it back, though maybe elsewhere. -/
theorem mem_merge_prune (existing incoming : List Toleration) (toleration : Toleration) :
    toleration ∈ merge (prune existing incoming) incoming ↔
      toleration ∈ merge existing incoming := by
  rw [mem_merge, mem_merge, mem_prune]
  by_cases incomes : toleration ∈ incoming <;> simp [incomes]

/-- Merging and pruning are the union and the difference of ordered sets. -/
theorem orderedSetLaws : OrderedSetLaws merge prune where
  nodup_merge := nodup_merge
  mem_merge := mem_merge
  ordered_merge := firstOccurrences_merge
  merge_merge := merge_merge
  mem_prune := mem_prune
  prune_prune := prune_prune
  prune_merge := firstOccurrences_prune_merge
  merge_prune := mem_merge_prune

end Toleration

end PodPlacement
