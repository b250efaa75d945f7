import PodPlacement.Text.Printable

/-!
# Quoted texts

A message that repeats a text it was given shows it between quotation marks,
with the quotation mark, the backslash and every character that would not show
as itself escaped. The apostrophe needs no escape.
-/

namespace PodPlacement.Text

/-- A character by its code point in lower-case hexadecimal digits. -/
def codePointEscape (c : Char) : List Char :=
  ['\\', 'u', '\x7b'] ++ Nat.toDigits 16 c.toNat ++ ['\x7d']

/-- A character inside quotation marks. -/
def quotedChar (c : Char) : List Char :=
  if c = '\x00' then ['\\', '0']
  else if c = '\t' then ['\\', 't']
  else if c = '\r' then ['\\', 'r']
  else if c = '\n' then ['\\', 'n']
  else if c = '\\' ∨ c = '"' then ['\\', c]
  else if isPlain c then [c]
  else codePointEscape c

/-- A text between quotation marks. -/
def quoted (text : String) : String :=
  String.ofList ('"' :: text.toList.flatMap quotedChar ++ ['"'])

example : quoted "a\"b\\\n\u00e9\u200b" = "\"a\\\"b\\\\\\n\u00e9\\u\x7b200b\x7d\"" := by
  decide +kernel

end PodPlacement.Text
