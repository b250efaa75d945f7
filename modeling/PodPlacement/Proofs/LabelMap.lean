import Mathlib.Data.List.Perm.Basic
import PodPlacement.LabelMap

/-!
# Laws of label maps

A map has an entry exactly when looking up the key gives the value, so maps are
determined by look-up. What merging and pruning do to a single key follows, and
from that the laws of the two together.
-/

namespace PodPlacement.LabelMap

/-! ## Entries and look-up -/

/-- In a list with increasing keys, an entry is the first one with its key. -/
theorem find?_eq_some_of_mem {entries : List (String × String)}
    (sorted : entries.Pairwise fun first second => first.1 < second.1)
    {entry : String × String} (member : entry ∈ entries) :
    entries.find? (fun other => other.1 = entry.1) = some entry := by
  induction entries with
  | nil => simp at member
  | cons first rest inductionHypothesis =>
      have ⟨below, sortedRest⟩ := List.pairwise_cons.mp sorted
      rcases List.mem_cons.mp member with rfl | member
      · simp
      · have different : first.1 ≠ entry.1 := fun equal =>
          String.lt_irrefl entry.1 (equal ▸ below entry member)
        rw [List.find?_cons_of_neg (by simpa using different)]
        exact inductionHypothesis sortedRest member

theorem get?_eq_some_iff (labels : LabelMap) (key value : String) :
    labels.get? key = some value ↔ (key, value) ∈ labels.entries := by
  constructor
  · intro found
    obtain ⟨⟨otherKey, otherValue⟩, first, rfl⟩ := Option.map_eq_some_iff.mp found
    have sameKey : otherKey = key := by simpa using List.find?_some first
    exact sameKey ▸ List.mem_of_find?_eq_some first
  · intro member
    rw [get?, find?_eq_some_of_mem labels.sorted member]
    rfl

theorem nodup_entries (labels : LabelMap) : labels.entries.Nodup := by
  apply labels.sorted.imp
  rintro entry _ less rfl
  exact String.lt_irrefl entry.1 less

/-- Maps with the same look-up are equal. -/
theorem ext_get? {first second : LabelMap}
    (equal : ∀ key, first.get? key = second.get? key) : first = second := by
  have sameEntries (entry : String × String) :
      entry ∈ first.entries ↔ entry ∈ second.entries := by
    rw [← get?_eq_some_iff first entry.1 entry.2, equal, get?_eq_some_iff]
  apply LabelMap.ext
  apply List.Perm.eq_of_pairwise ?_ first.sorted second.sorted
    ((List.perm_ext_iff_of_nodup first.nodup_entries second.nodup_entries).mpr sameEntries)
  intro one other _ _ less greater
  exact absurd greater (String.lt_asymm less)

theorem hasLabel_iff (labels : LabelMap) (key value : String) :
    labels.hasLabel (key, value) = true ↔ value ≠ "" ∧ labels.get? key = some value := by
  simp [hasLabel]

/-! ## Pruning -/

/-- Pruning takes a value away if the other map has it too and it is not
empty. -/
theorem get?_prune (labels pruned : LabelMap) (key : String) :
    (labels.prune pruned).get? key =
      (labels.get? key).filter fun value => !pruned.hasLabel (key, value) := by
  ext value
  rw [get?_eq_some_iff, Option.filter_eq_some_iff, get?_eq_some_iff, prune,
    List.mem_filter]

/-- A map stays as it is if it shares no entry with a value. -/
theorem prune_eq_self {labels pruned : LabelMap}
    (disjoint : ∀ entry ∈ labels.entries, pruned.hasLabel entry = false) :
    labels.prune pruned = labels := by
  apply LabelMap.ext
  rw [prune, List.filter_eq_self]
  intro entry member
  rw [disjoint entry member, Bool.not_false]

theorem hasLabel_eq_false_of_mem_prune {labels pruned : LabelMap} {entry : String × String}
    (member : entry ∈ (labels.prune pruned).entries) : pruned.hasLabel entry = false := by
  simpa using (List.mem_filter.mp member).2

@[simp]
theorem prune_prune_self (labels pruned : LabelMap) :
    (labels.prune pruned).prune pruned = labels.prune pruned :=
  prune_eq_self fun _ member => hasLabel_eq_false_of_mem_prune member

/-! ## Merging -/

/-- Of the values inserted for a key, the last one is found. -/
theorem get?_insertMany (labels : LabelMap) (entries : List (String × String))
    (sorted : entries.Pairwise fun first second => first.1 < second.1) (key : String) :
    (labels.insertMany entries).get? key =
      ((entries.find? fun entry => entry.1 = key).map Prod.snd <|> labels.get? key) := by
  induction entries generalizing labels with
  | nil => rfl
  | cons first rest inductionHypothesis =>
      have ⟨below, sortedRest⟩ := List.pairwise_cons.mp sorted
      have step : labels.insertMany (first :: rest) =
          (labels.insert first.1 first.2).insertMany rest := rfl
      rw [step, inductionHypothesis _ sortedRest, get?_insert]
      by_cases same : first.1 = key
      · -- The key is not inserted again: all later keys are greater.
        have absent : rest.find? (fun entry => entry.1 = key) = none := by
          rw [List.find?_eq_none]
          intro entry member again
          have equal : first.1 = entry.1 := same.trans (of_decide_eq_true again).symm
          exact String.lt_irrefl entry.1 (equal ▸ below entry member)
        simp [same, absent]
      · simp [same]

/-- Where both maps have a key, the higher one prevails. -/
theorem get?_override (low high : LabelMap) (key : String) :
    (low.override high).get? key = (high.get? key <|> low.get? key) :=
  get?_insertMany low high.entries high.sorted key

@[simp]
theorem override_override_self (low high : LabelMap) :
    low.override (low.override high) = low.override high := by
  apply ext_get?
  intro key
  rw [get?_override, get?_override]
  cases high.get? key <;> cases low.get? key <;> rfl

@[simp]
theorem empty_override (labels : LabelMap) : empty.override labels = labels := by
  apply ext_get?
  intro key
  rw [get?_override, get?_empty]
  cases labels.get? key <;> rfl

/-- Labels that were merged and pruned can be merged and pruned again without a
change, if pruning had nothing to do before. Otherwise the first pass may take
away a label that shadows one of `low`. -/
theorem prune_override_prune_override {low high pruned : LabelMap}
    (settled : high.prune pruned = high) :
    (low.override ((low.override high).prune pruned)).prune pruned =
      (low.override high).prune pruned := by
  apply ext_get?
  intro key
  have kept : (high.get? key).filter (fun value => !pruned.hasLabel (key, value)) =
      high.get? key := by
    rw [← get?_prune, settled]
  rw [get?_prune, get?_override, get?_prune, get?_override]
  cases inHigh : high.get? key with
  | some value =>
      rw [inHigh] at kept
      simp [kept]
  | none =>
      cases low.get? key with
      | none => rfl
      | some value =>
          cases labelled : pruned.hasLabel (key, value) <;> simp [Option.filter, labelled]

end PodPlacement.LabelMap
