/-!
# White space around a text

Settings are read without the white space around them. White space is the
Unicode property of that name: twenty-five characters, of which core's
`Char.isWhitespace` knows four.
-/

namespace PodPlacement.Text

/-- The characters with the Unicode property `White_Space`. -/
def isBlank (c : Char) : Bool :=
  let n := c.toNat
  (0x09 ≤ n && n ≤ 0x0D) || n == 0x20 || n == 0x85 || n == 0xA0 || n == 0x1680 ||
    (0x2000 ≤ n && n ≤ 0x200A) || n == 0x2028 || n == 0x2029 || n == 0x202F ||
    n == 0x205F || n == 0x3000

/-- A list of characters without the white space at its two ends. -/
def trimmed (text : List Char) : List Char :=
  ((text.dropWhile isBlank).reverse.dropWhile isBlank).reverse

/-- A text without the white space at its two ends. -/
def trim (text : String) : String :=
  String.ofList (trimmed text.toList)

@[simp]
theorem toList_trim (text : String) : (trim text).toList = trimmed text.toList := by
  simp [trim]

end PodPlacement.Text
