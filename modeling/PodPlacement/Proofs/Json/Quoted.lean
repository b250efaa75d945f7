import Mathlib.Data.List.Basic
import PodPlacement.Json.Printer
import PodPlacement.Json.Quoted

/-!
# Reading written strings

A character is written as itself, by a letter after a backslash, or by the four
hexadecimal digits of its code. However it is written, it is scanned as one
piece that joins with the pieces after it to the character and their text, since
the codes that are written are too small to be halves of a surrogate pair.
-/

namespace PodPlacement.Json

open Text (Symbol symbols)

/-! ## Control characters -/

theorem hexDigit?_digitChar :
    ∀ digit < 16, hexDigit? (some (Nat.digitChar digit)) = some digit := by
  decide

/-- The four digits of a control character give its code. -/
theorem codeUnit?_control {code : Nat} (small : code < 0x20) :
    codeUnit? (some '0') (some '0') (some (Nat.digitChar (code / 16)))
      (some (Nat.digitChar (code % 16))) = some code := by
  have high := hexDigit?_digitChar (code / 16) (by omega)
  have low := hexDigit?_digitChar (code % 16) (by omega)
  have zero : hexDigit? (some '0') = some 0 := rfl
  simp only [codeUnit?, zero, high, low, Option.some.injEq]
  omega

/-- A small code unit is a character by itself, whatever follows it. -/
theorem joinPieces_unit_of_small {code : Nat} (small : code < 0x20) (pieces : List Piece) :
    joinPieces (.unit code :: pieces) = (joinPieces pieces).map (Char.ofNat code :: ·) := by
  have notHigh : isHighSurrogate code = false := by
    simp only [isHighSurrogate, Bool.and_eq_false_iff, decide_eq_false_iff_not]
    omega
  have notLow : isLowSurrogate code = false := by
    simp only [isLowSurrogate, Bool.and_eq_false_iff, decide_eq_false_iff_not]
    omega
  rcases pieces with _ | ⟨_ | _ | _, pieces⟩ <;> simp [joinPieces, notHigh, notLow]

/-! ## Characters and texts -/

/-- A character is written by a letter after a backslash, by its code, or as
itself. -/
theorem escape_cases (c : Char) :
    (∃ letter, escape c = ['\\', letter] ∧ letter ≠ 'u' ∧ unescape? letter = some c) ∨
    (escape c = controlEscape c ∧ c.toNat < 0x20) ∨
    (escape c = [c] ∧ c ≠ '"' ∧ c ≠ '\\' ∧ ¬ c.toNat < 0x20) := by
  unfold escape
  split
  · next equal => exact .inl ⟨'"', rfl, by decide, by rw [equal]; rfl⟩
  split
  · next equal => exact .inl ⟨'\\', rfl, by decide, by rw [equal]; rfl⟩
  split
  · next equal => exact .inl ⟨'b', rfl, by decide, by rw [equal]; rfl⟩
  split
  · next equal => exact .inl ⟨'t', rfl, by decide, by rw [equal]; rfl⟩
  split
  · next equal => exact .inl ⟨'n', rfl, by decide, by rw [equal]; rfl⟩
  split
  · next equal => exact .inl ⟨'f', rfl, by decide, by rw [equal]; rfl⟩
  split
  · next equal => exact .inl ⟨'r', rfl, by decide, by rw [equal]; rfl⟩
  split
  · next small => exact .inr (.inl ⟨rfl, small⟩)
  · next noQuote noBackslash _ _ _ _ _ printable =>
      exact .inr (.inr ⟨rfl, noQuote, noBackslash, printable⟩)

/-- A letter after a backslash is scanned as the character that it names. -/
theorem scanPieces_letter {letter c : Char} (notCode : letter ≠ 'u')
    (names : unescape? letter = some c) (rest : List Symbol) :
    scanPieces (some '\\' :: some letter :: rest) =
      (scanPieces rest).map fun (pieces, after) => (.char c :: pieces, after) := by
  rw [scanPieces]
  · rw [names]
  · intro _ _ _ _ _ _ isCode
    exact notCode isCode

/-- A character that needs no escape is scanned as itself. -/
theorem scanPieces_plain {c : Char} (noQuote : c ≠ '"') (noBackslash : c ≠ '\\')
    (printable : ¬ c.toNat < 0x20) (rest : List Symbol) :
    scanPieces (some c :: rest) =
      (scanPieces rest).map fun (pieces, after) => (.char c :: pieces, after) := by
  rw [scanPieces]
  · rw [if_neg printable]
  · exact noQuote
  · intro _ _ _ _ _ _ isBackslash
    exact noBackslash isBackslash
  · intro _ _ _ isBackslash
    exact noBackslash isBackslash
  · exact noBackslash

/-- A written character is scanned as one piece, which joins with the pieces after
it to the character and their text. -/
theorem scanPieces_escape (c : Char) (rest : List Symbol) :
    ∃ piece : Piece,
      (∀ pieces, joinPieces (piece :: pieces) = (joinPieces pieces).map (c :: ·)) ∧
      scanPieces (symbols (escape c) ++ rest) =
        (scanPieces rest).map fun (pieces, after) => (piece :: pieces, after) := by
  rcases escape_cases c with
    ⟨letter, written, notCode, names⟩ | ⟨written, small⟩ |
    ⟨written, noQuote, noBackslash, printable⟩
  · rw [written]
    exact ⟨.char c, fun _ => rfl, scanPieces_letter notCode names rest⟩
  · refine ⟨.unit c.toNat, ?_, ?_⟩
    · intro pieces
      rw [joinPieces_unit_of_small small, Char.ofNat_toNat]
    · simp [written, controlEscape, symbols, scanPieces, codeUnit?_control small]
  · rw [written]
    exact ⟨.char c, fun _ => rfl, scanPieces_plain noQuote noBackslash printable rest⟩

/-- The pieces of a written text join to it. -/
theorem scanPieces_flatMap_escape (text : List Char) (rest : List Symbol) :
    ∃ pieces, joinPieces pieces = some text ∧
      scanPieces (symbols (text.flatMap escape) ++ some '"' :: rest) =
        some (pieces, rest) := by
  induction text with
  | nil => exact ⟨[], rfl, rfl⟩
  | cons c text inductionHypothesis =>
      obtain ⟨pieces, joined, scanned⟩ := inductionHypothesis
      obtain ⟨piece, writes, scannedFirst⟩ :=
        scanPieces_escape c (symbols (text.flatMap escape) ++ some '"' :: rest)
      refine ⟨piece :: pieces, ?_, ?_⟩
      · rw [writes, joined]
        rfl
      · rw [List.flatMap_cons, symbols, List.map_append, List.append_assoc]
        exact scannedFirst.trans (by rw [scanned]; rfl)

/-- After the opening quotation mark, a written string is read back and what
follows it is left. -/
theorem scanString_flatMap_escape (text : String) (rest : List Symbol) :
    scanString (symbols (text.toList.flatMap escape) ++ some '"' :: rest) =
      some (some text, rest) := by
  obtain ⟨pieces, joined, scanned⟩ := scanPieces_flatMap_escape text.toList rest
  simp [scanString, scanned, joined]

end PodPlacement.Json
