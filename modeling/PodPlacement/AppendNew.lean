/-!
# Appending what is new

Lists are merged by appending the entries of the second one that are not there
yet. The first list is a prefix of the result as it stands, repeats included;
what follows it has no repeats and nothing of the first list.
-/

namespace PodPlacement

variable {α : Type} [DecidableEq α]

/-- A list followed by the first occurrences of the new entries of another. -/
def appendNew (existing incoming : List α) : List α :=
  existing ++ (incoming.removeAll existing).eraseDups

@[simp]
theorem appendNew_nil (existing : List α) : appendNew existing [] = existing := by
  simp [appendNew]

theorem appendNew_cons_of_mem {existing : List α} {entry : α} (incoming : List α)
    (present : entry ∈ existing) :
    appendNew existing (entry :: incoming) = appendNew existing incoming := by
  simp [appendNew, List.cons_removeAll, present]

/-- A new entry can be appended before the others are looked at. -/
theorem appendNew_cons_of_not_mem {existing : List α} {entry : α} (incoming : List α)
    (new : entry ∉ existing) :
    appendNew existing (entry :: incoming) =
      appendNew (existing ++ [entry]) incoming := by
  have restEqual : (incoming.removeAll existing).filter (fun other => !other == entry) =
      incoming.removeAll (existing ++ [entry]) := by
    simp only [List.removeAll, List.filter_filter]
    apply List.filter_congr
    intro other _
    by_cases same : other = entry <;> simp [same]
  simp [appendNew, List.cons_removeAll, new, List.eraseDups_cons, restEqual]

@[simp]
theorem mem_appendNew (existing incoming : List α) (entry : α) :
    entry ∈ appendNew existing incoming ↔ entry ∈ existing ∨ entry ∈ incoming := by
  by_cases present : entry ∈ existing <;> simp [appendNew, List.removeAll, present]

end PodPlacement
