/-!
# Label maps

A label map gives values to label keys. It is kept as the list of its entries
in increasing order of the keys, so that maps with the same entries are equal
and are written in the same order. Keys are compared by their code points,
which is also the order of their UTF-8 bytes.

Every operation is pinned down by what it does to `get?`.
-/

namespace PodPlacement

/-- A finite map from label keys to values. -/
structure LabelMap where
  entries : List (String × String) := []
  sorted : entries.Pairwise fun first second => first.1 < second.1 := by simp
  deriving DecidableEq

namespace LabelMap

instance : Repr LabelMap := ⟨fun labels depth => reprPrec labels.entries depth⟩

/-- The map without entries. -/
def empty : LabelMap := {}

instance : Inhabited LabelMap := ⟨empty⟩

/-- Whether the map has no entries. -/
def isEmpty (labels : LabelMap) : Bool :=
  labels.entries.isEmpty

/-- The value of a key. -/
def get? (labels : LabelMap) (key : String) : Option String :=
  (labels.entries.find? fun entry => entry.1 = key).map Prod.snd

/-- A list of entries with a new one, in place of the one with its key or in
front of the first greater key. -/
def insertEntry (key value : String) : List (String × String) → List (String × String)
  | [] => [(key, value)]
  | entry :: rest =>
      if key < entry.1 then (key, value) :: entry :: rest
      else if key = entry.1 then (key, value) :: rest
      else entry :: insertEntry key value rest

theorem mem_insertEntry {key value : String} {entries : List (String × String)}
    {entry : String × String} (member : entry ∈ insertEntry key value entries) :
    entry = (key, value) ∨ entry ∈ entries := by
  induction entries with
  | nil => simpa [insertEntry] using member
  | cons first rest inductionHypothesis =>
      simp only [insertEntry] at member
      split at member
      · simpa using member
      · split at member
        · rcases List.mem_cons.mp member with equal | member
          · exact .inl equal
          · exact .inr (List.mem_cons_of_mem _ member)
        · rcases List.mem_cons.mp member with equal | member
          · exact .inr (equal ▸ List.mem_cons_self)
          · exact (inductionHypothesis member).imp id (List.mem_cons_of_mem _)

theorem sorted_insertEntry (key value : String) {entries : List (String × String)}
    (sorted : entries.Pairwise fun first second => first.1 < second.1) :
    (insertEntry key value entries).Pairwise fun first second => first.1 < second.1 := by
  induction entries with
  | nil => simp [insertEntry]
  | cons first rest inductionHypothesis =>
      have ⟨below, sortedRest⟩ := List.pairwise_cons.mp sorted
      simp only [insertEntry]
      split
      · next less =>
          refine List.pairwise_cons.mpr ⟨fun entry member => ?_, sorted⟩
          rcases List.mem_cons.mp member with rfl | member
          · exact less
          · exact String.lt_trans less (below entry member)
      · next notLess =>
          split
          · next equal =>
              exact List.pairwise_cons.mpr
                ⟨fun entry member => equal ▸ below entry member, sortedRest⟩
          · next different =>
              refine List.pairwise_cons.mpr
                ⟨fun entry member => ?_, inductionHypothesis sortedRest⟩
              rcases mem_insertEntry member with rfl | member
              · exact Decidable.byContradiction fun notGreater =>
                  different (String.le_antisymm (String.not_lt.mp notGreater)
                    (String.not_lt.mp notLess))
              · exact below entry member

/-- The map with a value for a key, which may have had another one. -/
def insert (labels : LabelMap) (key value : String) : LabelMap :=
  ⟨insertEntry key value labels.entries, sorted_insertEntry key value labels.sorted⟩

/-- A map with further entries, of which later ones prevail. -/
def insertMany (labels : LabelMap) (entries : List (String × String)) : LabelMap :=
  entries.foldl (fun labels entry => labels.insert entry.1 entry.2) labels

/-- The map of a list of entries, of which later ones prevail. -/
def ofList (entries : List (String × String)) : LabelMap :=
  empty.insertMany entries

/-- The union of two maps; where both have a key, the entry of `high` prevails. -/
def override (low high : LabelMap) : LabelMap :=
  low.insertMany high.entries

/-- Whether a map has exactly this entry, and its value is not empty. -/
def hasLabel (labels : LabelMap) (entry : String × String) : Bool :=
  entry.2 ≠ "" && labels.get? entry.1 == some entry.2

/-- The map without the entries that `pruned` has as well. An entry with an
empty value always stays. -/
def prune (labels pruned : LabelMap) : LabelMap :=
  ⟨labels.entries.filter fun entry => !pruned.hasLabel entry, labels.sorted.filter _⟩

/-! ## What the operations do to `get?` -/

@[ext]
theorem ext {first second : LabelMap} (equal : first.entries = second.entries) :
    first = second := by
  cases first
  cases second
  cases equal
  rfl

@[simp]
theorem get?_empty (key : String) : empty.get? key = none :=
  rfl

theorem find?_insertEntry (key value wanted : String) (entries : List (String × String)) :
    (insertEntry key value entries).find? (fun entry => entry.1 = wanted) =
      if key = wanted then some (key, value)
      else entries.find? fun entry => entry.1 = wanted := by
  induction entries with
  | nil => by_cases equal : key = wanted <;> simp [insertEntry, equal]
  | cons first rest inductionHypothesis =>
      simp only [insertEntry]
      split
      · by_cases equal : key = wanted <;> simp [equal]
      · split
        · next same =>
            by_cases equal : key = wanted
            · simp [equal]
            · simp [equal, ← same]
        · next different =>
            by_cases equal : key = wanted
            · have other : first.1 ≠ wanted := fun same => different (equal.trans same.symm)
              rw [List.find?_cons_of_neg (by simpa using other), inductionHypothesis]
              simp [equal]
            · simp only [List.find?_cons, inductionHypothesis, equal, if_false]

/-- Inserting sets the value of one key and no other. -/
theorem get?_insert (labels : LabelMap) (key value wanted : String) :
    (labels.insert key value).get? wanted =
      if key = wanted then some value else labels.get? wanted := by
  simp only [get?, insert, find?_insertEntry]
  split <;> rfl

end LabelMap

end PodPlacement
