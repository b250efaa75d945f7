import PodPlacement.Proofs.LabelMap
import PodPlacement.Proofs.Text.ByteOrder

/-!
# Label maps key by key

The entries of a label map are the lists whose keys strictly increase in the order of
their bytes. Merging and pruning give such lists again, and what they do to a key
depends on the values of that key alone. So merging is associative and idempotent,
with the empty map as identity, and prunings are idempotent and commute. Pruning can
also be done by removing labels from the map while going through the other one.
-/

namespace PodPlacement.LabelMap

/-! ## The order of the keys -/

/-- Entries whose keys strictly increase in the order of their UTF-8 bytes. -/
def InByteOrder (entries : List (String × String)) : Prop :=
  entries.Pairwise fun first second => Text.bytes first.1.toList < Text.bytes second.1.toList

/-- The entries of label maps are the lists in byte order. -/
theorem inByteOrder_iff_exists_entries_eq (entries : List (String × String)) :
    InByteOrder entries ↔ ∃ labels : LabelMap, labels.entries = entries := by
  simp only [InByteOrder, Text.bytes_toList_lt_iff]
  constructor
  · intro sorted
    exact ⟨⟨entries, sorted⟩, rfl⟩
  · rintro ⟨labels, rfl⟩
    exact labels.sorted

theorem inByteOrder_entries (labels : LabelMap) : InByteOrder labels.entries :=
  (inByteOrder_iff_exists_entries_eq labels.entries).mpr ⟨labels, rfl⟩

/-! ## Removing labels in turn -/

/-- The map without a key. -/
def erase (labels : LabelMap) (key : String) : LabelMap :=
  ⟨labels.entries.filter fun entry => entry.1 ≠ key, labels.sorted.filter _⟩

theorem get?_erase (labels : LabelMap) (key wanted : String) :
    (labels.erase key).get? wanted = if key = wanted then none else labels.get? wanted := by
  ext value
  rw [get?_eq_some_iff, erase, List.mem_filter]
  by_cases same : key = wanted
  · simp [same]
  · simp [same, Ne.symm same, get?_eq_some_iff]

/-- The map without a key, if it gives the key this value and the value is not empty. -/
def takeAway (labels : LabelMap) (entry : String × String) : LabelMap :=
  if labels.hasLabel entry then labels.erase entry.1 else labels

/-- A map from which the entries of another one are taken away one after the other. -/
def pruneInTurn (labels pruned : LabelMap) : LabelMap :=
  pruned.entries.foldl takeAway labels

/-- Taking an entry away leaves all others, and an entry with an empty value. -/
theorem get?_takeAway_eq_some_iff (labels : LabelMap) (entry : String × String)
    (key value : String) :
    (labels.takeAway entry).get? key = some value ↔
      labels.get? key = some value ∧ (value = "" ∨ entry ≠ (key, value)) := by
  obtain ⟨takenKey, taken⟩ := entry
  rw [takeAway]
  split
  · next has =>
      obtain ⟨nonempty, found⟩ := (hasLabel_iff labels takenKey taken).mp has
      rw [get?_erase]
      by_cases same : takenKey = key
      · subst same
        -- The key had no other value than the one that is taken away.
        have gone : ¬ (labels.get? takenKey = some value ∧
            (value = "" ∨ (takenKey, taken) ≠ (takenKey, value))) := by
          rintro ⟨again, stays⟩
          obtain rfl : taken = value := Option.some.inj (found.symm.trans again)
          exact stays.elim nonempty (absurd rfl)
        rw [if_pos rfl]
        exact iff_of_false nofun gone
      · simp [same]
  · next hasNot =>
      rw [Iff.comm, and_iff_left_iff_imp]
      intro found
      by_contra removed
      obtain ⟨nonempty, sameEntry⟩ := not_or.mp removed
      rw [not_not.mp sameEntry, hasLabel_iff] at hasNot
      exact hasNot ⟨nonempty, found⟩

/-- What entries leave of a map is what each of them leaves. -/
theorem get?_foldl_takeAway_eq_some_iff (labels : LabelMap) (entries : List (String × String))
    (key value : String) :
    (entries.foldl takeAway labels).get? key = some value ↔
      labels.get? key = some value ∧ (value = "" ∨ (key, value) ∉ entries) := by
  induction entries generalizing labels with
  | nil => simp
  | cons entry entries inductionHypothesis =>
      rw [List.foldl_cons, inductionHypothesis, get?_takeAway_eq_some_iff, and_assoc,
        ← or_and_left, List.mem_cons, not_or, ne_comm]

theorem get?_prune_eq_some_iff (labels pruned : LabelMap) (key value : String) :
    (labels.prune pruned).get? key = some value ↔
      labels.get? key = some value ∧ (value = "" ∨ pruned.get? key ≠ some value) := by
  rw [get?_prune, Option.filter_eq_some_iff, Bool.not_eq_true', Bool.eq_false_iff, ne_eq,
    hasLabel_iff, not_and_or, Decidable.not_not]

/-- Pruning takes away what the other map has, entry after entry. -/
theorem pruneInTurn_eq_prune (labels pruned : LabelMap) :
    labels.pruneInTurn pruned = labels.prune pruned := by
  apply ext_get?
  intro key
  ext value
  rw [pruneInTurn, get?_foldl_takeAway_eq_some_iff, get?_prune_eq_some_iff, ne_eq,
    get?_eq_some_iff pruned]

/-! ## Merging and pruning key by key -/

/-- Both maps give the key the same value, and it is not empty. -/
def Share (first second : LabelMap) (key : String) : Prop :=
  ∃ value, value ≠ "" ∧ first.get? key = some value ∧ second.get? key = some value

theorem get?_prune_of_share {labels pruned : LabelMap} {key : String}
    (share : Share labels pruned key) : (labels.prune pruned).get? key = none := by
  obtain ⟨value, nonempty, found, alike⟩ := share
  rw [Option.eq_none_iff_forall_ne_some]
  intro other kept
  obtain ⟨again, rest⟩ := (get?_prune_eq_some_iff labels pruned key other).mp kept
  obtain rfl : value = other := Option.some.inj (found.symm.trans again)
  exact rest.elim nonempty (absurd alike)

theorem get?_prune_of_not_share {labels pruned : LabelMap} {key : String}
    (apart : ¬ Share labels pruned key) : (labels.prune pruned).get? key = labels.get? key := by
  ext value
  rw [get?_prune_eq_some_iff, and_iff_left_iff_imp]
  intro found
  by_contra both
  rw [not_or, not_not] at both
  exact apart ⟨value, both.1, found, both.2⟩

theorem override_assoc (low middle high : LabelMap) :
    (low.override middle).override high = low.override (middle.override high) := by
  apply ext_get?
  intro key
  simp only [get?_override]
  cases high.get? key <;> rfl

@[simp]
theorem override_self (labels : LabelMap) : labels.override labels = labels := by
  apply ext_get?
  intro key
  rw [get?_override]
  cases labels.get? key <;> rfl

@[simp]
theorem override_empty (labels : LabelMap) : labels.override empty = labels :=
  rfl

/-- Both prunings keep the entries that neither of the maps has. -/
theorem prune_comm (labels first second : LabelMap) :
    (labels.prune first).prune second = (labels.prune second).prune first := by
  apply LabelMap.ext
  simp only [prune]
  exact List.filter_comm _ _ _

/-- The laws of a union in which the second map prevails, and of a difference that
spares empty values. -/
structure PointwiseLaws (override prune : LabelMap → LabelMap → LabelMap) : Prop where
  get?_override : ∀ low high key,
    (override low high).get? key =
      if (high.get? key).isSome then high.get? key else low.get? key
  get?_prune_of_share : ∀ labels pruned key,
    Share labels pruned key → (prune labels pruned).get? key = none
  get?_prune_of_not_share : ∀ labels pruned key,
    ¬ Share labels pruned key → (prune labels pruned).get? key = labels.get? key
  inByteOrder_override : ∀ low high, InByteOrder (override low high).entries
  inByteOrder_prune : ∀ labels pruned, InByteOrder (prune labels pruned).entries
  override_assoc : ∀ low middle high,
    override (override low middle) high = override low (override middle high)
  override_self : ∀ labels, override labels labels = labels
  empty_override : ∀ labels, override empty labels = labels
  override_empty : ∀ labels, override labels empty = labels
  prune_prune_self : ∀ labels pruned, prune (prune labels pruned) pruned = prune labels pruned
  prune_comm : ∀ labels first second,
    prune (prune labels first) second = prune (prune labels second) first

/-- Merging and pruning have their meaning key by key. With pruning it makes no
difference whether labels are taken away in turn, and the maps are all the lists in
byte order. -/
theorem pointwiseLaws :
    PointwiseLaws override prune ∧
      (∀ labels pruned, pruneInTurn labels pruned = prune labels pruned) ∧
      ∀ entries, InByteOrder entries ↔ ∃ labels : LabelMap, labels.entries = entries := by
  refine ⟨?laws, pruneInTurn_eq_prune, inByteOrder_iff_exists_entries_eq⟩
  case laws => exact {
    get?_override := by
      intro low high key
      rw [get?_override]
      cases high.get? key <;> rfl
    get?_prune_of_share := fun _ _ _ => get?_prune_of_share
    get?_prune_of_not_share := fun _ _ _ => get?_prune_of_not_share
    inByteOrder_override := fun low high => inByteOrder_entries (low.override high)
    inByteOrder_prune := fun labels pruned => inByteOrder_entries (labels.prune pruned)
    override_assoc := override_assoc
    override_self := override_self
    empty_override := empty_override
    override_empty := override_empty
    prune_prune_self := prune_prune_self
    prune_comm := prune_comm }

/-- Of the labels that both maps have, the one with an empty value stays. -/
example :
    (ofList [("spot", ""), ("zone", "a"), ("disk", "ssd")]).prune
        (ofList [("zone", "a"), ("spot", ""), ("disk", "hdd")]) =
      ofList [("disk", "ssd"), ("spot", "")] := by
  decide

end PodPlacement.LabelMap
