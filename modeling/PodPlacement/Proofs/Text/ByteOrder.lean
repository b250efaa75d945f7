import Mathlib.Order.Monotone.Basic
import PodPlacement.Text.Utf8

/-!
# The order of texts is the order of their bytes

Texts are compared character by character, and their bytes byte by byte. Both give the
same order, since the bytes of the smaller of two characters are smaller whatever
follows them. The bytes of a character are its code in base 64, with a mark in the
first byte that tells how many bytes follow it. An encoding with more bytes has the
greater mark, and between two encodings of one length the first digits that differ
decide.
-/

namespace PodPlacement.Text

/-! ## Bytes that decide a comparison -/

/-- Bytes that are smaller than others, whatever follows the ones and the others. -/
def Precede (first second : List UInt8) : Prop :=
  ∀ left right, first ++ left < second ++ right

namespace Precede

/-- Bytes that are equal up to a first smaller one precede, whatever comes after that. -/
theorem of_lt (shared : List UInt8) {byte greater : UInt8} (less : byte < greater)
    (first second : List UInt8) :
    Precede (shared ++ byte :: first) (shared ++ greater :: second) := by
  intro left right
  rw [List.append_assoc, List.append_assoc]
  exact List.append_left_lt (List.cons_lt_cons_iff.mpr (.inl less))

theorem append {first second : List UInt8} (precede : Precede first second)
    (left right : List UInt8) : Precede (first ++ left) (second ++ right) := by
  intro further others
  rw [List.append_assoc, List.append_assoc]
  exact precede (left ++ further) (right ++ others)

end Precede

/-! ## Marked numbers -/

/-- The leading digit of a number in base 64, when `count` digits follow it. -/
def leadingDigit : Nat → Nat → Nat
  | 0, code => code
  | count + 1, code => leadingDigit count (code / 64)

/-- A number in base 64, with `count` digits after the leading one, which stands in one
byte with the mark. -/
def markedDigits (mark : Nat) : Nat → Nat → List UInt8
  | 0, code => [UInt8.ofNat (mark + code)]
  | count + 1, code =>
      markedDigits mark count (code / 64) ++ [UInt8.ofNat (code % 64 + 128)]

theorem ofNat_lt_ofNat {less greater : Nat} (lt : less < greater) (small : greater < 256) :
    UInt8.ofNat less < UInt8.ofNat greater :=
  (UInt8.ofNat_lt_iff_lt (Nat.lt_trans lt small) small).mpr lt

theorem exists_markedDigits_eq_cons (mark count code : Nat) :
    ∃ digits, markedDigits mark count code =
      UInt8.ofNat (mark + leadingDigit count code) :: digits := by
  induction count generalizing code with
  | zero => exact ⟨[], rfl⟩
  | succ count inductionHypothesis =>
      obtain ⟨digits, equal⟩ := inductionHypothesis (code / 64)
      exact ⟨digits ++ [UInt8.ofNat (code % 64 + 128)], by rw [markedDigits, equal]; rfl⟩

/-- Under one mark and with equally many digits, a smaller number precedes a greater
one: the last digits decide if all the others are the same. -/
theorem precede_markedDigits {mark count code greater : Nat} (less : code < greater)
    (small : mark + leadingDigit count greater < 256) :
    Precede (markedDigits mark count code) (markedDigits mark count greater) := by
  induction count generalizing code greater with
  | zero =>
      have leading : mark + code < mark + greater := by omega
      exact Precede.of_lt [] (ofNat_lt_ofNat leading small) [] []
  | succ count inductionHypothesis =>
      have higherDigits : code / 64 ≤ greater / 64 := Nat.div_le_div_right (Nat.le_of_lt less)
      rcases Nat.lt_or_eq_of_le higherDigits with higherLess | higherEqual
      · exact (inductionHypothesis higherLess small).append _ _
      · have lastDigit : code % 64 + 128 < greater % 64 + 128 := by omega
        rw [markedDigits, markedDigits, higherEqual]
        exact Precede.of_lt _ (ofNat_lt_ofNat lastDigit (by omega)) [] []

/-- A smaller first byte decides, whatever the marks and the numbers of digits are. -/
theorem precede_markedDigits_of_lt {mark count code otherMark otherCount other : Nat}
    (less : mark + leadingDigit count code < otherMark + leadingDigit otherCount other)
    (small : otherMark + leadingDigit otherCount other < 256) :
    Precede (markedDigits mark count code) (markedDigits otherMark otherCount other) := by
  obtain ⟨digits, equal⟩ := exists_markedDigits_eq_cons mark count code
  obtain ⟨otherDigits, otherEqual⟩ := exists_markedDigits_eq_cons otherMark otherCount other
  rw [equal, otherEqual]
  exact Precede.of_lt [] (ofNat_lt_ofNat less small) digits otherDigits

/-! ## Characters -/

/-- The mark of a first byte that `count` bytes follow. -/
def mark : Nat → Nat
  | 0 => 0
  | 1 => 0xC0
  | 2 => 0xE0
  | 3 => 0xF0
  | _ => 0xF8

/-- The first code whose first byte is followed by `count` bytes. -/
def firstCode : Nat → Nat
  | 0 => 0
  | 1 => 0x80
  | 2 => 0x800
  | 3 => 0x10000
  | _ => 0x200000

theorem monotone_mark : Monotone mark :=
  monotone_nat_of_le_succ fun
    | 0 | 1 | 2 | 3 => by decide
    | _ + 4 => Nat.le_refl _

theorem mark_lt (count : Nat) : mark count < 256 := by
  unfold mark
  split <;> decide

theorem monotone_firstCode : Monotone firstCode :=
  monotone_nat_of_le_succ fun
    | 0 | 1 | 2 | 3 => by decide
    | _ + 4 => Nat.le_refl _

/-- The leading digit of a code leaves the next mark out of reach. -/
theorem mark_add_leadingDigit_lt {count code : Nat} (following : count ≤ 3)
    (low : code < firstCode (count + 1)) :
    mark count + leadingDigit count code < mark (count + 1) := by
  match count with
  | 0 | 1 | 2 | 3 =>
    simp only [mark, firstCode, leadingDigit] at low ⊢
    omega

/-- The bytes of a character are the digits of its code, marked with their number. -/
theorem exists_utf8EncodeChar_eq_markedDigits (c : Char) :
    ∃ count ≤ 3, firstCode count ≤ c.toNat ∧ c.toNat < firstCode (count + 1) ∧
      String.utf8EncodeChar c = markedDigits (mark count) count c.toNat := by
  change ∃ count ≤ 3, firstCode count ≤ c.val.toNat ∧ c.val.toNat < firstCode (count + 1) ∧
    String.utf8EncodeChar c = markedDigits (mark count) count c.val.toNat
  have valid : c.val.toNat < 0x110000 := c.valid.elim (fun low => by omega) fun high => high.2
  rw [String.utf8EncodeChar]
  generalize c.val.toNat = code at valid ⊢
  split
  · next low =>
      refine ⟨0, by decide, Nat.zero_le code, Nat.lt_succ_of_le low, ?_⟩
      rw [markedDigits, mark, Nat.zero_add]
  split
  · next high low =>
      have leading : code / 64 % 32 + 192 = 192 + code / 64 := by omega
      refine ⟨1, by decide, Nat.lt_of_not_le high, Nat.lt_succ_of_le low, ?_⟩
      rw [leading]
      rfl
  split
  · next high low =>
      have leading : code / 4096 % 16 + 224 = 224 + code / 64 / 64 := by omega
      refine ⟨2, by decide, Nat.lt_of_not_le high, Nat.lt_succ_of_le low, ?_⟩
      rw [leading]
      rfl
  · next high =>
      have leading : code / 262144 % 8 + 240 = 240 + code / 64 / 64 / 64 := by omega
      have second : code / 4096 % 64 = code / 64 / 64 % 64 := by omega
      refine ⟨3, by decide, Nat.lt_of_not_le high, Nat.lt_trans valid (by decide), ?_⟩
      rw [leading, second]
      rfl

/-- The bytes of the smaller of two characters are smaller, whatever follows. -/
theorem precede_utf8EncodeChar {c greater : Char} (less : c < greater) :
    Precede (String.utf8EncodeChar c) (String.utf8EncodeChar greater) := by
  have lessCode : c.toNat < greater.toNat := less
  obtain ⟨count, few, above, below, encoded⟩ := exists_utf8EncodeChar_eq_markedDigits c
  obtain ⟨greaterCount, greaterFew, _, greaterBelow, greaterEncoded⟩ :=
    exists_utf8EncodeChar_eq_markedDigits greater
  have small : mark greaterCount + leadingDigit greaterCount greater.toNat < 256 :=
    Nat.lt_trans (mark_add_leadingDigit_lt greaterFew greaterBelow) (mark_lt _)
  rw [encoded, greaterEncoded]
  rcases Nat.lt_trichotomy count greaterCount with fewer | same | more
  · apply precede_markedDigits_of_lt _ small
    calc mark count + leadingDigit count c.toNat
        < mark (count + 1) := mark_add_leadingDigit_lt few below
      _ ≤ mark greaterCount := monotone_mark fewer
      _ ≤ mark greaterCount + leadingDigit greaterCount greater.toNat := Nat.le_add_right _ _
  · subst same
    exact precede_markedDigits lessCode small
  · -- Codes with fewer bytes are smaller, so the greater character cannot have fewer.
    have reversed : greater.toNat < c.toNat :=
      calc greater.toNat < firstCode (greaterCount + 1) := greaterBelow
        _ ≤ firstCode count := monotone_firstCode more
        _ ≤ c.toNat := above
    exact absurd lessCode (Nat.lt_asymm reversed)

/-! ## Texts -/

theorem bytes_lt_bytes {first second : List Char} (less : first < second) :
    bytes first < bytes second := by
  induction less with
  | nil =>
      rw [bytes_nil, bytes_cons]
      obtain ⟨byte, rest, equal⟩ := List.exists_cons_of_ne_nil
        (List.append_ne_nil_of_left_ne_nil String.utf8EncodeChar_ne_nil _)
      rw [equal]
      exact List.nil_lt_cons byte rest
  | rel less => exact precede_utf8EncodeChar less _ _
  | cons _ inductionHypothesis =>
      rw [bytes_cons, bytes_cons]
      exact List.append_left_lt inductionHypothesis

/-- Texts compare as their bytes do. -/
theorem bytes_toList_lt_iff (first second : String) :
    bytes first.toList < bytes second.toList ↔ first < second := by
  refine ⟨fun lessBytes => ?_, bytes_lt_bytes⟩
  by_contra notLess
  by_cases greater : second < first
  · exact List.lt_asymm lessBytes (bytes_lt_bytes greater)
  · have equal : first = second :=
      String.le_antisymm (String.not_lt.mp greater) (String.not_lt.mp notLess)
    rw [equal] at lessBytes
    exact List.lt_irrefl _ lessBytes

end PodPlacement.Text
