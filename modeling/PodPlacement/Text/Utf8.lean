/-!
# Texts as bytes

A text is stored as the UTF-8 bytes of its characters. Bytes from elsewhere
need not be the bytes of any text, so they are read as *symbols*: a character,
or a stray byte that belongs to none. Reading back the bytes of a text gives
its characters and no stray byte.
-/

namespace PodPlacement.Text

/-- A character, or a stray byte: one that is no part of a UTF-8 character. -/
abbrev Symbol := Option Char

/-- The symbols of a text are its characters. -/
def symbols (text : List Char) : List Symbol :=
  text.map some

/-- The UTF-8 bytes of a list of characters. -/
def bytes (text : List Char) : List UInt8 :=
  text.flatMap String.utf8EncodeChar

/-- The character that begins a list of bytes, if a whole one does. -/
def firstChar? (input : List UInt8) : Option Char :=
  (input.take 4).toByteArray.utf8DecodeChar? 0

/-- The symbols of a list of bytes, of which the first `owed` belong to a
character already read. -/
def symbolsAfter (owed : Nat) : List UInt8 → List Symbol
  | [] => []
  | byte :: rest =>
    match owed with
    | owed + 1 => symbolsAfter owed rest
    | 0 =>
      match firstChar? (byte :: rest) with
      | some c => some c :: symbolsAfter (c.utf8Size - 1) rest
      | none => none :: symbolsAfter 0 rest

/-- The symbols of a list of bytes. -/
def symbolsOfBytes (input : List UInt8) : List Symbol :=
  symbolsAfter 0 input

@[simp]
theorem bytes_nil : bytes [] = [] :=
  rfl

@[simp]
theorem bytes_cons (c : Char) (text : List Char) :
    bytes (c :: text) = String.utf8EncodeChar c ++ bytes text :=
  rfl

theorem symbolsAfter_length (skipped rest : List UInt8) :
    symbolsAfter skipped.length (skipped ++ rest) = symbolsAfter 0 rest := by
  induction skipped with
  | nil => rfl
  | cons byte skipped inductionHypothesis =>
      simpa [symbolsAfter] using inductionHypothesis

/-- The bytes of a character read back as that character, whatever follows. -/
theorem firstChar?_utf8EncodeChar_append (c : Char) (rest : List UInt8) :
    firstChar? (String.utf8EncodeChar c ++ rest) = some c := by
  have fits : (String.utf8EncodeChar c).length ≤ 4 := by
    simpa using c.utf8Size_le_four
  have taken : (String.utf8EncodeChar c ++ rest).take 4 =
      String.utf8EncodeChar c ++ rest.take (4 - (String.utf8EncodeChar c).length) := by
    rw [List.take_append, List.take_of_length_le fits]
  rw [firstChar?, taken, List.toByteArray_append]
  exact ByteArray.utf8DecodeChar?_utf8EncodeChar_append

theorem symbolsOfBytes_utf8EncodeChar_append (c : Char) (rest : List UInt8) :
    symbolsOfBytes (String.utf8EncodeChar c ++ rest) = some c :: symbolsOfBytes rest := by
  have decoded := firstChar?_utf8EncodeChar_append c rest
  have size : (String.utf8EncodeChar c).length = c.utf8Size := by simp
  cases encoded : String.utf8EncodeChar c with
  | nil => exact absurd encoded String.utf8EncodeChar_ne_nil
  | cons byte tail =>
      rw [encoded] at decoded size
      have tailSize : c.utf8Size - 1 = tail.length := by simp [← size]
      simp only [List.cons_append] at decoded
      simp only [symbolsOfBytes, List.cons_append, symbolsAfter, decoded, tailSize,
        symbolsAfter_length]

/-- The bytes of a text read back as its characters. -/
@[simp]
theorem symbolsOfBytes_bytes (text : List Char) :
    symbolsOfBytes (bytes text) = symbols text := by
  induction text with
  | nil => rfl
  | cons c text inductionHypothesis =>
      rw [bytes_cons, symbolsOfBytes_utf8EncodeChar_append, inductionHypothesis]
      rfl

/-- Texts with the same bytes are the same. -/
theorem bytes_injective {first second : List Char} (equal : bytes first = bytes second) :
    first = second := by
  have same : symbols first = symbols second := by
    rw [← symbolsOfBytes_bytes, equal, symbolsOfBytes_bytes]
  exact (List.map_inj_right fun _ _ => Option.some.inj).mp same

end PodPlacement.Text
