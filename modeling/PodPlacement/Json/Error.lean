import PodPlacement.Json.Draft
import PodPlacement.Text.Quoted

/-!
# Why a text is no value of a type

A text either is not JSON, or it is JSON that does not have the shape of the
type. Damage of the text has one message wherever it lies; an error of shape
says what was found, and what was wanted.
-/

namespace PodPlacement.Json

/-- What a reader wants. -/
inductive Expectation where
  | text
  | list
  | map
  | int32
  | int64
  /-- The payload of a name that carries none. -/
  | nothing
  /-- A record of the given type. -/
  | record (type : String)
  deriving DecidableEq, Repr

/-- What a message calls an expectation. -/
def Expectation.phrase : Expectation → String
  | text => "a string"
  | list => "a sequence"
  | map => "a map"
  | int32 => "i32"
  | int64 => "i64"
  | nothing => "unit"
  | record type => "struct " ++ type

/-- The kind of a value that is not what a reader wants. -/
inductive Found where
  | null
  | bool (value : Bool)
  | number (value : Number)
  | string (text : String)
  | list
  | map
  deriving DecidableEq, Repr

/-- What a message calls the kind of a value. -/
def Found.phrase : Found → String
  | null => "null"
  | bool value => "boolean `" ++ (if value then "true" else "false") ++ "`"
  | number (.integer n) => "integer `" ++ String.ofList (Number.integer n).text ++ "`"
  | number (.floating negative magnitude) =>
      "floating point `" ++ String.ofList (Number.floating negative magnitude).text ++ "`"
  | string text => "string " ++ Text.quoted text
  | list => "sequence"
  | map => "map"

/-- Why a text is no value of a type. -/
inductive ReadError where
  /-- The text is not JSON. -/
  | damaged
  /-- A field that a record needs is not there. -/
  | missingField (name : String)
  /-- A field of a record is there twice. -/
  | duplicateField (name : String)
  /-- A name is none of the alternatives. -/
  | unknownName (name : String) (alternatives : List String)
  /-- A value is of another kind than wanted. -/
  | wrongKind (found : Found) (wanted : Expectation)
  /-- An integer is out of the range wanted. -/
  | outOfRange (value : Int) (wanted : Expectation)
  /-- A record written as a list ends before the field at position `position`,
  which it needs. -/
  | tooShort (position : Nat) (type : String) (fields : Nat)
  deriving DecidableEq, Repr

/-- A list of names as a message gives it: two are joined by "or". -/
def alternativesPhrase : List String → String
  | [first, second] => "expected `" ++ first ++ "` or `" ++ second ++ "`"
  | names => "expected one of " ++ ", ".intercalate (names.map fun name => "`" ++ name ++ "`")

/-- The message of an error. -/
def ReadError.message : ReadError → String
  | damaged => "syntax error"
  | missingField name => "missing field `" ++ name ++ "`"
  | duplicateField name => "duplicate field `" ++ name ++ "`"
  | unknownName name alternatives =>
      "unknown variant `" ++ name ++ "`, " ++ alternativesPhrase alternatives
  | wrongKind found wanted =>
      "invalid type: " ++ found.phrase ++ ", expected " ++ wanted.phrase
  | outOfRange value wanted =>
      "invalid value: integer `" ++ toString value ++ "`, expected " ++ wanted.phrase
  | tooShort position type fields =>
      "invalid length " ++ toString position ++ ", expected struct " ++ type ++ " with " ++
        toString fields ++ " elements"

/-- The error of a value that is not of the kind wanted. A value that is not
there, or that has no use, is damage. -/
def Draft.mismatch (wanted : Expectation) : Draft → ReadError
  | .null => .wrongKind .null wanted
  | .bool value => .wrongKind (.bool value) wanted
  | .number (some value) => .wrongKind (.number value) wanted
  | .string (some text) => .wrongKind (.string text) wanted
  | .array _ => .wrongKind .list wanted
  | .object _ => .wrongKind .map wanted
  | .number none => .damaged
  | .string none => .damaged
  | .damage => .damaged

end PodPlacement.Json
