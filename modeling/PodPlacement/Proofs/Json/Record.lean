import PodPlacement.Proofs.Json.Printed

/-!
# Reading what was written

A reader undoes a writer if it gets every value back from what was written of
it. Readers of lists, maps and records undo writers as soon as the readers of
their parts do.

A record need not be written in the order in which its fields are described,
and what is left out must be what the blank record has there. So the members of
a written record are followed one field after the other, with the record that
the fields so far have filled.
-/

namespace PodPlacement.Json

/-- Every value is read from what is written of it. -/
def Undoes {α : Type} (read : Reader α) (write : α → Json) : Prop :=
  ∀ value, read (write value).toDraft = .ok value

/-- Every value is read from either text of what is written of it. -/
def ReadsBack {α : Type} (read : Reader α) (write : α → Json) : Prop :=
  ∀ value, readText read (write value).compact = .ok value ∧
    readText read (write value).pretty = .ok value

theorem Undoes.readsBack {α : Type} {read : Reader α} {write : α → Json}
    (undoes : Undoes read write) : ReadsBack read write := by
  intro value
  rw [readText_compact, readText_pretty]
  exact ⟨undoes value, undoes value⟩

/-! ## Texts and numbers -/

theorem undoes_readString : Undoes readString .string :=
  fun _ => rfl

theorem undoes_readInt32 : Undoes readInt32 fun n => .int n.toInt := by
  intro n
  have value : (Numeral.ofInt n.toInt).value? = some (.integer n.toInt) := by
    apply Numeral.value?_ofInt
    · exact Int.le_trans (by decide) n.minValue_le_toInt
    · exact Int.lt_of_le_of_lt n.toInt_le (by decide)
  rw [toDraft, value, readInt32, if_pos ⟨n.minValue_le_toInt, n.toInt_le⟩, Int32.ofInt_toInt]

theorem undoes_readInt64 : Undoes readInt64 fun n => .int n.toInt := by
  intro n
  have value : (Numeral.ofInt n.toInt).value? = some (.integer n.toInt) := by
    apply Numeral.value?_ofInt n.minValue_le_toInt
    exact Int.lt_of_le_of_lt n.toInt_le (by decide)
  rw [toDraft, value, readInt64, if_pos ⟨n.minValue_le_toInt, n.toInt_le⟩, Int64.ofInt_toInt]

/-! ## Lists, maps and optional values -/

section Parts

variable {α : Type} {read : Reader α} {write : α → Json}

theorem Undoes.readList (undoes : Undoes read write) :
    Undoes (readList read) fun items => .array (items.map write) := by
  intro items
  rw [toDraft, Json.readList]
  induction items with
  | nil => rfl
  | cons item items inductionHypothesis =>
      rw [List.map_cons, toItems, readItems, undoes item, inductionHypothesis]
      rfl

theorem Undoes.readMap (undoes : Undoes read write) :
    Undoes (readMap read) fun entries =>
      .object (entries.map fun entry => (entry.1, write entry.2)) := by
  intro entries
  rw [toDraft, Json.readMap]
  induction entries with
  | nil => rfl
  | cons entry entries inductionHypothesis =>
      rw [List.map_cons, toMembers, readPairs, undoes entry.2, inductionHypothesis]
      rfl

/-- A value that is not written as null is not read as an absent one. -/
theorem Undoes.readOption_some (undoes : Undoes read write) {value : α}
    (notNull : write value ≠ .null) :
    readOption read (write value).toDraft = .ok (some value) := by
  have isRead := undoes value
  revert notNull isRead
  cases write value with
  | null => exact fun notNull => absurd rfl notNull
  | bool | int | string | array | object =>
      intro _ isRead
      rw [toDraft] at isRead ⊢
      rw [readOption, isRead]
      · rfl
      · exact nofun

theorem Undoes.readOption (undoes : Undoes read write) (notNull : ∀ value, write value ≠ .null) :
    Undoes (readOption read) (ofOption write) := by
  intro value
  cases value with
  | none => rfl
  | some value => exact undoes.readOption_some (notNull value)

end Parts

/-! ## Records -/

namespace Record

variable {ρ : Type}

/-- The field with the given name. -/
def field? (description : Record ρ) (name : String) : Option (Field ρ) :=
  description.fields.find? fun field => field.name = name

theorem field?_eq_some_of_mem {description : Record ρ}
    (distinct : (description.fields.map Field.name).Nodup) {field : Field ρ}
    (member : field ∈ description.fields) : description.field? field.name = some field := by
  rw [field?]
  generalize description.fields = fields at distinct member ⊢
  induction fields with
  | nil => exact absurd member List.not_mem_nil
  | cons first rest inductionHypothesis =>
      have ⟨new, distinctRest⟩ := List.nodup_cons.mp distinct
      rcases List.mem_cons.mp member with rfl | member
      · simp
      · have different : first.name ≠ field.name := by
          intro same
          rw [same] at new
          exact new (List.mem_map_of_mem member)
        rw [List.find?_cons_of_neg (by simpa using different)]
        exact inductionHypothesis distinctRest member

/-- The names are those of the fields, in any order and each once. -/
def Lists (description : Record ρ) (names : List String) : Prop :=
  names.Nodup ∧ names.Perm (description.fields.map Field.name)

instance (description : Record ρ) (names : List String) : Decidable (description.Lists names) :=
  inferInstanceAs (Decidable (_ ∧ _))

/-- Members that say some fields of a record, in the order of their names, and
so turn one record into another. A field that is not needed may be left out. -/
inductive Fills (description : Record ρ) :
    List String → List (String × Json) → ρ → ρ → Prop where
  | done (record : ρ) : Fills description [] [] record record
  | omitted {name : String} {names : List String} {field : Field ρ}
      {members : List (String × Json)} {before after : ρ}
      (found : description.field? name = some field) (notNeeded : field.isNeeded = false)
      (rest : Fills description names members before after) :
      Fills description (name :: names) members before after
  | written {name : String} {names : List String} {field : Field ρ} {value : Json}
      {members : List (String × Json)} {before between after : ρ}
      (found : description.field? name = some field)
      (isRead : field.read value.toDraft before = .ok between)
      (rest : Fills description names members between after) :
      Fills description (name :: names) ((name, value) :: members) before after

namespace Fills

variable {description : Record ρ} {names : List String} {members : List (String × Json)}
  {before after : ρ}

theorem append {moreNames : List String} {moreMembers : List (String × Json)} {last : ρ}
    (fills : description.Fills names members before after)
    (more : description.Fills moreNames moreMembers after last) :
    description.Fills (names ++ moreNames) (members ++ moreMembers) before last := by
  induction fills with
  | done record => exact more
  | omitted found notNeeded _ inductionHypothesis =>
      exact .omitted found notNeeded (inductionHypothesis more)
  | written found isRead _ inductionHypothesis =>
      exact .written found isRead (inductionHypothesis more)

/-- A field that is needed is written. -/
theorem mem_keys_of_needed (fills : description.Fills names members before after)
    {field : Field ρ} (found : description.field? field.name = some field)
    (needed : field.isNeeded = true) (member : field.name ∈ names) :
    field.name ∈ members.map Prod.fst := by
  induction fills with
  | done => exact absurd member List.not_mem_nil
  | omitted otherFound notNeeded _ inductionHypothesis =>
      rcases List.mem_cons.mp member with same | member
      · rw [← same, found] at otherFound
        cases otherFound
        rw [needed] at notNeeded
        cases notNeeded
      · exact inductionHypothesis member
  | written _ _ _ inductionHypothesis =>
      rcases List.mem_cons.mp member with same | member
      · exact same ▸ List.mem_cons_self
      · exact List.mem_cons_of_mem _ (inductionHypothesis member)

/-- Members that fill a record with fields that it does not have yet are put
into it. -/
theorem readMembers_eq (fills : description.Fills names members before after)
    (distinct : names.Nodup) {seen : List String} (new : ∀ name ∈ names, name ∉ seen) :
    description.readMembers (toMembers members) before seen =
      .ok (after, (members.map Prod.fst).reverse ++ seen) := by
  induction fills generalizing seen with
  | done => rfl
  | omitted _ _ _ inductionHypothesis =>
      apply inductionHypothesis (List.nodup_cons.mp distinct).2
      exact fun name member => new name (List.mem_cons_of_mem _ member)
  | @written name names field value members before between after found isRead _
      inductionHypothesis =>
      have ⟨onlyOnce, distinctRest⟩ := List.nodup_cons.mp distinct
      have newRest : ∀ other ∈ names, other ∉ name :: seen := by
        intro other member
        rw [List.mem_cons, not_or]
        constructor
        · rintro rfl
          exact onlyOnce member
        · exact new other (List.mem_cons_of_mem _ member)
      rw [field?] at found
      rw [toMembers, readMembers, found]
      dsimp only
      rw [if_neg (new name List.mem_cons_self), isRead]
      refine (inductionHypothesis distinctRest newRest).trans ?_
      simp

/-- Members that say all the fields of a record are read as the record. -/
theorem read_eq (fills : description.Fills names members description.blank after)
    (complete : description.Lists names) :
    description.read (Json.object members).toDraft = .ok after := by
  have ⟨distinct, same⟩ := complete
  have nothingMissing : description.fields.find? (fun field =>
      field.isNeeded && field.name ∉ (members.map Prod.fst).reverse ++ []) = none := by
    rw [List.find?_eq_none]
    intro field member
    cases needed : field.isNeeded with
    | false => simp
    | true =>
        have found := field?_eq_some_of_mem (same.nodup distinct) member
        have named : field.name ∈ names :=
          same.mem_iff.mpr (List.mem_map_of_mem member)
        have present := fills.mem_keys_of_needed found needed named
        simpa using present
  rw [toDraft, Record.read, fills.readMembers_eq distinct fun _ _ => List.not_mem_nil]
  simp only [bind, Except.bind, nothingMissing]
  rfl

end Fills

/-! ## The fields of a written record

For a description that is given, the equations below that say what it knows of
a field hold by computation.
-/

theorem started (description : Record ρ) :
    description.Fills [] [] description.blank description.blank :=
  .done description.blank

namespace Fills

variable {description : Record ρ} {names : List String} {members : List (String × Json)}
  {before after : ρ} {α : Type}

/-- A field that is left out says what the record has there already. -/
theorem leaveOut (fills : description.Fills names members before after) (name : String)
    {field : Field ρ} (found : description.field? name = some field)
    (notNeeded : field.isNeeded = false) :
    description.Fills (names ++ [name]) (members ++ []) before after :=
  fills.append (.omitted found notNeeded (.done after))

/-- A field that is always written. -/
theorem field (fills : description.Fills names members before after) (name : String)
    {read : Reader α} {put : α → ρ → ρ} {isNeeded : Bool} {written : Json} {value : α}
    (isRead : read written.toDraft = .ok value)
    (found : description.field? name =
      some ⟨name, isNeeded, fun draft record => (read draft).map (put · record)⟩) :
    description.Fills (names ++ [name]) (members ++ Json.field name written) before
      (put value after) := by
  have filled : (read written.toDraft).map (put · after) = .ok (put value after) := by
    rw [isRead]
    rfl
  exact fills.append (.written found filled (.done _))

/-- A field that is left out when its value is absent. -/
theorem optionalField (fills : description.Fills names members before after) (name : String)
    {read : Reader α} {write : α → Json} {put : Option α → ρ → ρ} (undoes : Undoes read write)
    (value : Option α)
    (found : description.field? name = some (.optional name (readOption read) put))
    (notNull : ∀ value, write value ≠ .null) (absent : put none after = after) :
    description.Fills (names ++ [name])
      (members ++ Json.optionalField name (value.map write)) before (put value after) := by
  cases value with
  | none =>
      rw [absent]
      exact fills.leaveOut name found rfl
  | some value => exact fills.field name (undoes.readOption_some (notNull value)) found

/-- A field that is left out when its list is empty. -/
theorem listField (fills : description.Fills names members before after) (name : String)
    {read : Reader α} {write : α → Json} {put : List α → ρ → ρ} (undoes : Undoes read write)
    (items : List α)
    (found : description.field? name = some (.optional name (readList read) put))
    (absent : put [] after = after) :
    description.Fills (names ++ [name]) (members ++ Json.listField name write items) before
      (put items after) := by
  cases items with
  | nil =>
      rw [absent]
      exact fills.leaveOut name found rfl
  | cons item items => exact fills.field name (undoes.readList (item :: items)) found

end Fills

end Record

end PodPlacement.Json
