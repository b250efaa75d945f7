/-!
# JSON values

The values that the library writes. Numbers are integers, an object keeps its
members in the order in which they are written, and a record is an object whose
optional fields may be left out.
-/

namespace PodPlacement

/-- A JSON value whose numbers are integers. -/
inductive Json where
  | null
  | bool (value : Bool)
  | int (value : Int)
  | string (value : String)
  | array (items : List Json)
  | object (members : List (String × Json))

namespace Json

instance : Inhabited Json := ⟨null⟩

/-- A list of texts. -/
def strings (items : List String) : Json :=
  array (items.map string)

/-- A field that is always written. -/
def field (name : String) (value : Json) : List (String × Json) :=
  [(name, value)]

/-- A field that is left out when there is nothing to write. -/
def optionalField (name : String) (value : Option Json) : List (String × Json) :=
  (value.map fun value => (name, value)).toList

/-- A field that is left out when its list is empty. -/
def listField {α : Type} (name : String) (write : α → Json) (items : List α) :
    List (String × Json) :=
  if items.isEmpty then [] else [(name, array (items.map write))]

/-- An optional value that is written even when it is absent. -/
def ofOption {α : Type} (write : α → Json) : Option α → Json
  | none => null
  | some value => write value

@[simp]
theorem optionalField_none (name : String) : optionalField name none = [] :=
  rfl

@[simp]
theorem optionalField_some (name : String) (value : Json) :
    optionalField name (some value) = [(name, value)] :=
  rfl

@[simp]
theorem listField_nil {α : Type} (name : String) (write : α → Json) :
    listField name write [] = [] :=
  rfl

@[simp]
theorem listField_cons {α : Type} (name : String) (write : α → Json) (item : α)
    (items : List α) :
    listField name write (item :: items) =
      [(name, array (write item :: items.map write))] :=
  rfl

end Json

end PodPlacement
