import Mathlib.Data.List.Basic
import Mathlib.Data.List.Induction
import PodPlacement.AppendNew

/-!
# First occurrences

Merging keeps the first occurrence of every entry and pruning removes every
occurrence of some. The laws here say that the two commute and that merging
what is there already changes nothing. They all follow from what one more entry
at the end of a list does to its first occurrences. What first occurrences are
is said by the positions of the entries, apart from how they are found.
-/

namespace PodPlacement

variable {α : Type} [DecidableEq α]

/-! ## Removing repeats -/

/-- An entry at the end counts only if it occurs for the first time. -/
theorem eraseDups_concat (entries : List α) (entry : α) :
    (entries ++ [entry]).eraseDups =
      if entry ∈ entries then entries.eraseDups else entries.eraseDups ++ [entry] := by
  rw [List.eraseDups_append]
  by_cases present : entry ∈ entries <;>
    simp [List.cons_removeAll, List.eraseDups_cons, present]

theorem nodup_eraseDups (entries : List α) : entries.eraseDups.Nodup := by
  induction entries using List.reverseRecOn with
  | nil => simp
  | append_singleton entries entry inductionHypothesis =>
      rw [eraseDups_concat]
      split
      · exact inductionHypothesis
      · next new =>
          refine List.nodup_append.mpr ⟨inductionHypothesis, by simp, ?_⟩
          intro earlier member last isLast equal
          rw [List.mem_singleton] at isLast
          rw [equal, isLast, List.mem_eraseDups] at member
          exact new member

/-- Without repeats, every occurrence is a first one. -/
theorem eraseDups_eq_self_of_nodup {entries : List α} (nodup : entries.Nodup) :
    entries.eraseDups = entries := by
  induction entries using List.reverseRecOn with
  | nil => simp
  | append_singleton entries entry inductionHypothesis =>
      have ⟨nodupEntries, _, disjoint⟩ := List.nodup_append.mp nodup
      have new : entry ∉ entries := fun present =>
        disjoint entry present entry (List.mem_singleton_self entry) rfl
      rw [eraseDups_concat, if_neg new, inductionHypothesis nodupEntries]

theorem eraseDups_eq_self_iff (entries : List α) :
    entries.eraseDups = entries ↔ entries.Nodup := by
  constructor
  · intro equal
    rw [← equal]
    exact nodup_eraseDups entries
  · exact eraseDups_eq_self_of_nodup

/-- Choosing entries and removing repeats can be done in either order. -/
theorem eraseDups_filter (keep : α → Bool) (entries : List α) :
    (entries.filter keep).eraseDups = entries.eraseDups.filter keep := by
  induction entries using List.reverseRecOn with
  | nil => simp
  | append_singleton entries entry inductionHypothesis =>
      rw [List.filter_append, eraseDups_concat]
      by_cases kept : keep entry = true
      · rw [List.filter_singleton, kept, cond_true, eraseDups_concat, inductionHypothesis]
        by_cases present : entry ∈ entries <;> simp [List.filter_append, present, kept]
      · by_cases present : entry ∈ entries <;>
          simp [List.filter_append, present, kept, inductionHypothesis]

/-- The entries of a list in the order in which they first occur in it. Their
positions increase strictly, so that none is there twice. -/
structure FirstOccurrences (entries firsts : List α) : Prop where
  mem_iff : ∀ entry, entry ∈ firsts ↔ entry ∈ entries
  ordered : firsts.Pairwise fun earlier later => entries.idxOf earlier < entries.idxOf later

theorem firstOccurrences_eraseDups (entries : List α) :
    FirstOccurrences entries entries.eraseDups where
  mem_iff _ := List.mem_eraseDups
  ordered := by
    induction entries using List.reverseRecOn with
    | nil => simp
    | append_singleton entries entry inductionHypothesis =>
        -- The position of an earlier entry does not depend on the last one.
        have ordered : entries.eraseDups.Pairwise fun earlier later =>
            (entries ++ [entry]).idxOf earlier < (entries ++ [entry]).idxOf later := by
          apply inductionHypothesis.imp_of_mem
          intro earlier later earlierMember laterMember less
          rw [List.mem_eraseDups] at earlierMember laterMember
          rwa [List.idxOf_append_of_mem earlierMember, List.idxOf_append_of_mem laterMember]
        rw [eraseDups_concat]
        split
        · exact ordered
        · next new =>
            refine List.pairwise_append.mpr ⟨ordered, List.pairwise_singleton _ _, ?_⟩
            intro earlier earlierMember last isLast
            rw [List.mem_eraseDups] at earlierMember
            rw [List.mem_singleton.mp isLast, List.idxOf_append_of_mem earlierMember,
              List.idxOf_append_of_notMem new, List.idxOf_cons_self]
            exact List.idxOf_lt_length_of_mem earlierMember

/-! ## Removing given entries -/

theorem mem_removeAll {entries removed : List α} {entry : α} :
    entry ∈ entries.removeAll removed ↔ entry ∈ entries ∧ entry ∉ removed := by
  simp [List.removeAll]

theorem removeAll_eq_self {entries removed : List α}
    (disjoint : ∀ entry ∈ entries, entry ∉ removed) :
    entries.removeAll removed = entries := by
  rw [List.removeAll, List.filter_eq_self]
  intro entry member
  simpa using disjoint entry member

theorem removeAll_eq_nil {entries removed : List α}
    (subset : ∀ entry ∈ entries, entry ∈ removed) :
    entries.removeAll removed = [] := by
  rw [List.removeAll, List.filter_eq_nil_iff]
  intro entry member
  simpa using subset entry member

/-- Removing twice is removing what either list names. -/
theorem removeAll_removeAll (entries first second : List α) :
    (entries.removeAll first).removeAll second = entries.removeAll (first ++ second) := by
  simp only [List.removeAll, List.filter_filter]
  apply List.filter_congr
  intro entry _
  simp [Bool.and_comm]

omit [DecidableEq α] in
/-- Whether anything is named depends on what is named only. -/
theorem isEmpty_congr {first second : List α}
    (same : ∀ entry, entry ∈ first ↔ entry ∈ second) : first.isEmpty = second.isEmpty := by
  rw [Bool.eq_iff_iff, List.isEmpty_iff, List.isEmpty_iff, List.eq_nil_iff_forall_not_mem,
    List.eq_nil_iff_forall_not_mem]
  exact forall_congr' fun entry => not_congr (same entry)

theorem removeAll_append (first second removed : List α) :
    (first ++ second).removeAll removed =
      first.removeAll removed ++ second.removeAll removed := by
  simp [List.removeAll]

theorem eraseDups_removeAll (entries removed : List α) :
    (entries.removeAll removed).eraseDups = entries.eraseDups.removeAll removed :=
  eraseDups_filter _ entries

/-! ## Appending -/

@[simp]
theorem nil_appendNew (incoming : List α) : appendNew [] incoming = incoming.eraseDups := by
  rw [appendNew, removeAll_eq_self (by simp), List.nil_append]

/-- What is appended has no repeats and nothing of what is there. -/
theorem nodup_appendNew {existing : List α} (nodup : existing.Nodup) (incoming : List α) :
    (appendNew existing incoming).Nodup := by
  refine List.nodup_append.mpr ⟨nodup, nodup_eraseDups _, ?_⟩
  intro entry there new added equal
  rw [← equal, List.mem_eraseDups, mem_removeAll] at added
  exact added.2 there

/-- A list with one more entry behind it, unless it has the entry already. -/
def addEntry (entries : List α) (entry : α) : List α :=
  if entry ∈ entries then entries else entries ++ [entry]

/-- The entries that come in are added one after the other. Each is looked for among
those that were there and those that were added before it. -/
theorem appendNew_eq_foldl (existing incoming : List α) :
    appendNew existing incoming = incoming.foldl addEntry existing := by
  induction incoming generalizing existing with
  | nil => exact appendNew_nil existing
  | cons entry incoming inductionHypothesis =>
      rw [List.foldl_cons, addEntry]
      split
      · next present => rw [appendNew_cons_of_mem incoming present, inductionHypothesis]
      · next new => rw [appendNew_cons_of_not_mem incoming new, inductionHypothesis]

/-- Lists can be appended one after the other or joined first. -/
theorem appendNew_append (existing first second : List α) :
    appendNew existing (first ++ second) = appendNew (appendNew existing first) second := by
  simp only [appendNew_eq_foldl, List.foldl_append]

/-- Entries that are there already add nothing. -/
theorem appendNew_eq_self {existing incoming : List α}
    (subset : ∀ entry ∈ incoming, entry ∈ existing) : appendNew existing incoming = existing := by
  rw [appendNew, removeAll_eq_nil subset, List.eraseDups_nil, List.append_nil]

/-- Entries that are there already add nothing. -/
theorem eraseDups_append_of_subset {entries added : List α}
    (subset : ∀ entry ∈ added, entry ∈ entries) :
    (entries ++ added).eraseDups = entries.eraseDups := by
  rw [List.eraseDups_append, removeAll_eq_nil subset, List.eraseDups_nil, List.append_nil]

end PodPlacement
