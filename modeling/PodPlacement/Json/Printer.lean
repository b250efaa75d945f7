import PodPlacement.Json.Value

/-!
# Writing JSON

One printer writes every value. It is told by a layout what white space to put
between the parts; without any the text is compact, and with a line for every
item and two blanks for every level it is what the command line prints. Strings
escape the quotation mark, the backslash and the control characters below the
blank, and nothing else.
-/

namespace PodPlacement.Json

/-- A control character by its code in four hexadecimal digits. -/
def controlEscape (c : Char) : List Char :=
  ['\\', 'u', '0', '0', Nat.digitChar (c.toNat / 16), Nat.digitChar (c.toNat % 16)]

/-- A character inside a string. -/
def escape (c : Char) : List Char :=
  if c = '"' then ['\\', '"']
  else if c = '\\' then ['\\', '\\']
  else if c = '\x08' then ['\\', 'b']
  else if c = '\t' then ['\\', 't']
  else if c = '\n' then ['\\', 'n']
  else if c = '\x0c' then ['\\', 'f']
  else if c = '\r' then ['\\', 'r']
  else if c.toNat < 0x20 then controlEscape c
  else [c]

/-- A string between quotation marks. -/
def writeString (text : String) : List Char :=
  '"' :: (text.toList.flatMap escape ++ ['"'])

/-- An integer in decimal digits. -/
def writeInt (n : Int) : List Char :=
  if n < 0 then '-' :: Nat.toDigits 10 n.natAbs else Nat.toDigits 10 n.natAbs

/-- The white space of a printed value: what precedes each item of a container
and, one level up, its closing bracket, and what follows a colon. -/
structure Layout where
  lineBreak : Nat → List Char
  gap : List Char

/-- No white space at all. -/
def Layout.compact : Layout := ⟨fun _ => [], []⟩

/-- A line for every item, two blanks for every level, a blank after a colon. -/
def Layout.indented : Layout :=
  ⟨fun depth => '\n' :: List.replicate (2 * depth) ' ', [' ']⟩

mutual

/-- The text of a value that stands `depth` levels deep. -/
def write (layout : Layout) (depth : Nat) : Json → List Char
  | .null => ['n', 'u', 'l', 'l']
  | .bool true => ['t', 'r', 'u', 'e']
  | .bool false => ['f', 'a', 'l', 's', 'e']
  | .int n => writeInt n
  | .string text => writeString text
  | .array [] => ['[', ']']
  | .array (item :: items) =>
      '[' :: (layout.lineBreak (depth + 1) ++ write layout (depth + 1) item ++
        writeItems layout (depth + 1) items ++ layout.lineBreak depth ++ [']'])
  | .object [] => ['\x7b', '\x7d']
  | .object ((key, value) :: members) =>
      '\x7b' :: (layout.lineBreak (depth + 1) ++ writeString key ++
        ':' :: (layout.gap ++ write layout (depth + 1) value) ++
        writeMembers layout (depth + 1) members ++ layout.lineBreak depth ++ ['\x7d'])

/-- The items after the first one. -/
def writeItems (layout : Layout) (depth : Nat) : List Json → List Char
  | [] => []
  | item :: items =>
      ',' :: (layout.lineBreak depth ++ write layout depth item) ++
        writeItems layout depth items

/-- The members after the first one. -/
def writeMembers (layout : Layout) (depth : Nat) : List (String × Json) → List Char
  | [] => []
  | (key, value) :: members =>
      ',' :: (layout.lineBreak depth ++ writeString key ++
        ':' :: (layout.gap ++ write layout depth value)) ++
        writeMembers layout depth members

end

/-- The text of a value without white space. -/
def compact (value : Json) : String :=
  String.ofList (write .compact 0 value)

/-- The text of a value with a line for every item, without a final line break. -/
def pretty (value : Json) : String :=
  String.ofList (write .indented 0 value)

end PodPlacement.Json
