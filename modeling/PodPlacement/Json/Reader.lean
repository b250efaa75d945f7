import PodPlacement.Json.Error

/-!
# Reading values from drafts

A reader turns a draft into a value of a type, walking through it in the order
of the text, so that the first problem it meets is the first one there. The
readers of composite types are built from those of their parts; a record is
described by its fields.

A record is written as an object or as the list of its fields in order. In an
object, fields that the record does not know are skipped, a known one may not
be repeated, and fields that are not needed may be left out. In a list, only
fields at the end may be left out.
-/

namespace PodPlacement.Json

open Text (Symbol)

/-- A reader of values of a type. -/
abbrev Reader (α : Type) := Draft → Except ReadError α

/-- A text. -/
def readString : Reader String
  | .string (some text) => .ok text
  | draft => .error (draft.mismatch .text)

/-- An integer of thirty-two bits. -/
def readInt32 : Reader Int32
  | .number (some (.integer n)) =>
      if Int32.minValue.toInt ≤ n ∧ n ≤ Int32.maxValue.toInt then .ok (.ofInt n)
      else .error (.outOfRange n .int32)
  | draft => .error (draft.mismatch .int32)

/-- An integer of sixty-four bits. -/
def readInt64 : Reader Int64
  | .number (some (.integer n)) =>
      if Int64.minValue.toInt ≤ n ∧ n ≤ Int64.maxValue.toInt then .ok (.ofInt n)
      else .error (.outOfRange n .int64)
  | draft => .error (draft.mismatch .int64)

/-- A value that may be null instead. -/
def readOption {α : Type} (read : Reader α) : Reader (Option α)
  | .null => .ok none
  | draft => (read draft).map some

/-- The values of a list of items. -/
def readItems {α : Type} (read : Reader α) : Items → Except ReadError (List α)
  | .close => .ok []
  | .breakOff => .error .damaged
  | .item first rest => do
      let first ← read first
      let rest ← readItems read rest
      return first :: rest

/-- A list. -/
def readList {α : Type} (read : Reader α) : Reader (List α)
  | .array items => readItems read items
  | draft => .error (draft.mismatch .list)

/-- The keys and values of a list of members, in the order of the text. -/
def readPairs {α : Type} (read : Reader α) :
    Members → Except ReadError (List (String × α))
  | .close => .ok []
  | .breakOff => .error .damaged
  | .member none _ _ => .error .damaged
  | .member (some key) value rest => do
      let value ← read value
      let rest ← readPairs read rest
      return (key, value) :: rest

/-- An object whose keys are free, as the list of its members. -/
def readMap {α : Type} (read : Reader α) : Reader (List (String × α))
  | .object members => readPairs read members
  | draft => .error (draft.mismatch .map)

/-- The payload of a name that carries none. -/
def readNothing : Reader Unit
  | .null => .ok ()
  | draft => .error (draft.mismatch .nothing)

/-- The alternative with the given name. -/
def findNamed {α : Type} (alternatives : List α) (name : α → String) (text : String) :
    Except ReadError α :=
  match alternatives.find? fun value => name value = text with
  | some value => .ok value
  | none => .error (.unknownName text (alternatives.map name))

/-- One of several alternatives, written by its name or as an object whose only
member has the name as its key and null as its value. -/
def readNamed {α : Type} (alternatives : List α) (name : α → String) : Reader α
  | .string (some text) => findNamed alternatives name text
  | .object (.member (some text) payload rest) => do
      let value ← findNamed alternatives name text
      readNothing payload
      match rest with
      | .close => return value
      | _ => throw .damaged
  | _ => .error .damaged

mutual

/-- Whether a draft is whole: nothing in it is damaged or breaks off. -/
def Draft.isWhole : Draft → Bool
  | .damage => false
  | .array items => items.isWhole
  | .object members => members.isWhole
  | .null | .bool _ | .number _ | .string _ => true

/-- Whether a list of items is whole. -/
def Items.isWhole : Items → Bool
  | .close => true
  | .breakOff => false
  | .item first rest => first.isWhole && rest.isWhole

/-- Whether a list of members is whole. -/
def Members.isWhole : Members → Bool
  | .close => true
  | .breakOff => false
  | .member _ value rest => value.isWhole && rest.isWhole

end

/-- A field of records: its name, whether a record needs it, and how a draft of
its value is put into a record. -/
structure Field (ρ : Type) where
  name : String
  isNeeded : Bool
  read : Draft → ρ → Except ReadError ρ

/-- A field that a record needs. -/
def Field.needed {ρ α : Type} (name : String) (read : Reader α) (put : α → ρ → ρ) :
    Field ρ :=
  ⟨name, true, fun draft record => (read draft).map (put · record)⟩

/-- A field that may be left out. -/
def Field.optional {ρ α : Type} (name : String) (read : Reader α) (put : α → ρ → ρ) :
    Field ρ :=
  ⟨name, false, fun draft record => (read draft).map (put · record)⟩

/-- The description of a type of records: its name in messages, its fields in
order, and the record whose fields have the values of fields left out. -/
structure Record (ρ : Type) where
  type : String
  fields : List (Field ρ)
  blank : ρ

namespace Record

variable {ρ : Type}

/-- The members of an object put into a record, which has the fields `seen`
already. The answer also has the fields seen at the end. -/
def readMembers (description : Record ρ) :
    Members → ρ → List String → Except ReadError (ρ × List String)
  | .close, record, seen => .ok (record, seen)
  | .breakOff, _, _ => .error .damaged
  | .member none _ _, _, _ => .error .damaged
  | .member (some key) value rest, record, seen =>
    match description.fields.find? fun field => field.name = key with
    | none =>
        if value.isWhole then description.readMembers rest record seen
        else .error .damaged
    | some field =>
        if key ∈ seen then .error (.duplicateField key)
        else do
          let record ← field.read value record
          description.readMembers rest record (key :: seen)

/-- The items of a list put into the given fields of a record, the first of
which has position `position`. -/
def readFields (description : Record ρ) :
    List (Field ρ) → Nat → Items → ρ → Except ReadError ρ
  | [], _, .close, record => .ok record
  | [], _, _, _ => .error .damaged
  | field :: fields, position, .close, record =>
      if field.isNeeded then
        .error (.tooShort position description.type description.fields.length)
      else description.readFields fields (position + 1) .close record
  | _ :: _, _, .breakOff, _ => .error .damaged
  | field :: fields, position, .item first rest, record => do
      let record ← field.read first record
      description.readFields fields (position + 1) rest record

/-- A record. -/
def read (description : Record ρ) : Reader ρ
  | .object members => do
      let (record, seen) ← description.readMembers members description.blank []
      match description.fields.find? fun field => field.isNeeded && field.name ∉ seen with
      | some field => throw (.missingField field.name)
      | none => return record
  | .array items => description.readFields description.fields 0 items description.blank
  | draft => .error (draft.mismatch (.record description.type))

end Record

/-- The value of a whole text. What follows the value is looked at last. -/
def Reading.value {α : Type} (reading : Reading) (read : Reader α) :
    Except ReadError α := do
  let value ← read reading.draft
  if reading.ends then return value else throw .damaged

/-- The value that a list of symbols says. -/
def readSymbols {α : Type} (read : Reader α) (input : List Symbol) : Except ReadError α :=
  (Reading.ofSymbols input).value read

/-- The value that a text says. -/
def readText {α : Type} (read : Reader α) (text : String) : Except ReadError α :=
  readSymbols read (Text.symbols text.toList)

/-- The value that a list of bytes says. -/
def readBytes {α : Type} (read : Reader α) (input : List UInt8) : Except ReadError α :=
  readSymbols read (Text.symbolsOfBytes input)

end PodPlacement.Json
