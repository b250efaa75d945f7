import PodPlacement.Base64
import PodPlacement.Text.Blank
import PodPlacement.Text.Utf8

/-!
# Decoding what was encoded

Every list of bytes is decoded from the text that it is encoded as. A symbol has
the value that it was written for, four values make the three bytes that they
were cut from, and a group is decoded the same way whether it is the last one or
not; so the whole follows by induction on the groups.
-/

namespace PodPlacement.Base64

/-! ## Symbols -/

/-- The byte of a symbol. -/
def symbolByte (value : Nat) : UInt8 :=
  (symbol value).toUInt8

theorem value?_symbolByte : ∀ value < 64, value? (symbolByte value) = some value := by
  decide

theorem valueAt_symbolByte {value : Nat} (small : value < 64) (offset : Nat) :
    valueAt (symbolByte value) offset = .ok value := by
  rw [valueAt, value?_symbolByte value small]

theorem symbolByte_ne_padding {value : Nat} (small : value < 64) :
    symbolByte value ≠ padding := by
  intro equal
  have found := value?_symbolByte value small
  rw [equal] at found
  cases found

/-! ## Groups -/

/-- Four values give back the three bytes that they were cut from. -/
theorem threeBytes_cut (a b c : UInt8) :
    threeBytes (a.toNat / 4) (a.toNat % 4 * 16 + b.toNat / 16)
      (b.toNat % 16 * 4 + c.toNat / 64) (c.toNat % 64) = [a, b, c] := by
  have smallB := b.toNat_lt
  have smallC := c.toNat_lt
  have first : a.toNat / 4 * 4 + (a.toNat % 4 * 16 + b.toNat / 16) / 16 = a.toNat := by omega
  have second : (a.toNat % 4 * 16 + b.toNat / 16) % 16 * 16 +
      (b.toNat % 16 * 4 + c.toNat / 64) / 4 = b.toNat := by omega
  have third : (b.toNat % 16 * 4 + c.toNat / 64) % 4 * 64 + c.toNat % 64 = c.toNat := by omega
  rw [threeBytes, first, second, third]
  simp

/-- A symbol of the last group is taken with its value, before any padding. -/
theorem scanLast_symbolByte {value : Nat} (small : value < 64) (offset position : Nat)
    (rest : List UInt8) :
    scanLast offset position 0 (symbolByte value :: rest) =
      (scanLast offset (position + 1) 0 rest).map fun (symbols, padded) =>
        ((symbolByte value, value) :: symbols, padded) := by
  rw [scanLast, if_neg (symbolByte_ne_padding small), if_neg (not_not_intro rfl),
    valueAt_symbolByte small]
  cases scanLast offset (position + 1) 0 rest <;> rfl

/-- From its third place on, the last group may be padded. -/
theorem scanLast_padding (offset padded : Nat) {position : Nat} (allowed : 2 ≤ position)
    (rest : List UInt8) :
    scanLast offset position padded (padding :: rest) =
      scanLast offset (position + 1) (padded + 1) rest := by
  rw [scanLast, if_pos rfl, if_neg (Nat.not_lt.mpr allowed)]

/-- Four symbols in the last group. -/
theorem decodeLast_four {a b c d : Nat} (smallA : a < 64) (smallB : b < 64) (smallC : c < 64)
    (smallD : d < 64) (offset : Nat) :
    decodeLast offset [symbolByte a, symbolByte b, symbolByte c, symbolByte d] =
      .ok (threeBytes a b c d) := by
  rw [decodeLast, scanLast_symbolByte smallA, scanLast_symbolByte smallB,
    scanLast_symbolByte smallC, scanLast_symbolByte smallD]
  rfl

/-- Three symbols in the last group, the last of which has no bits to spare. -/
theorem decodeLast_three {a b c : Nat} (smallA : a < 64) (smallB : b < 64) (smallC : c < 64)
    (noRest : c % 4 = 0) (offset : Nat) :
    decodeLast offset [symbolByte a, symbolByte b, symbolByte c, padding] =
      .ok ((threeBytes a b c 0).take 2) := by
  rw [decodeLast, scanLast_symbolByte smallA, scanLast_symbolByte smallB,
    scanLast_symbolByte smallC, scanLast_padding _ _ (by decide)]
  simp only [scanLast, Except.map, bind, Except.bind]
  exact if_pos noRest

/-- Two symbols in the last group, the last of which has no bits to spare. -/
theorem decodeLast_two {a b : Nat} (smallA : a < 64) (smallB : b < 64)
    (noRest : b % 16 = 0) (offset : Nat) :
    decodeLast offset [symbolByte a, symbolByte b, padding, padding] =
      .ok ((threeBytes a b 0 0).take 1) := by
  rw [decodeLast, scanLast_symbolByte smallA, scanLast_symbolByte smallB,
    scanLast_padding _ _ (by decide), scanLast_padding _ _ (by decide)]
  simp only [scanLast, Except.map, bind, Except.bind]
  exact if_pos noRest

/-- Four symbols are three bytes, in the last group or before it. -/
theorem decodeFrom_four {a b c d : Nat} (smallA : a < 64) (smallB : b < 64) (smallC : c < 64)
    (smallD : d < 64) (offset : Nat) (rest : List UInt8) :
    decodeFrom offset
        (symbolByte a :: symbolByte b :: symbolByte c :: symbolByte d :: rest) =
      (decodeFrom (offset + 4) rest).map fun others => threeBytes a b c d ++ others := by
  cases rest with
  | nil =>
      have last : decodeFrom offset [symbolByte a, symbolByte b, symbolByte c, symbolByte d] =
          decodeLast offset [symbolByte a, symbolByte b, symbolByte c, symbolByte d] := rfl
      rw [last, decodeLast_four smallA smallB smallC smallD]
      rfl
  | cons e rest =>
      rw [decodeFrom, decodeGroup, valueAt_symbolByte smallA, valueAt_symbolByte smallB,
        valueAt_symbolByte smallC, valueAt_symbolByte smallD]
      simp only [bind, Except.bind]
      cases decodeFrom (offset + 4) (e :: rest) <;> rfl

/-! ## Whole encodings -/

/-- The bytes of an encoding. -/
def encodedBytes (input : List UInt8) : List UInt8 :=
  (encode input).map Char.toUInt8

theorem encodedBytes_cons_cons_cons (a b c : UInt8) (rest : List UInt8) :
    encodedBytes (a :: b :: c :: rest) =
      symbolByte (a.toNat / 4) :: symbolByte (a.toNat % 4 * 16 + b.toNat / 16) ::
        symbolByte (b.toNat % 16 * 4 + c.toNat / 64) :: symbolByte (c.toNat % 64) ::
        encodedBytes rest :=
  rfl

theorem decodeFrom_encodedBytes (offset : Nat) (input : List UInt8) :
    decodeFrom offset (encodedBytes input) = .ok input := by
  induction input using encode.induct generalizing offset with
  | case1 a b c rest inductionHypothesis =>
      have smallA := a.toNat_lt
      have smallB := b.toNat_lt
      have smallC := c.toNat_lt
      rw [encodedBytes_cons_cons_cons, decodeFrom_four (by omega) (by omega) (by omega)
        (by omega), inductionHypothesis, threeBytes_cut]
      rfl
  | case2 a b =>
      have smallA := a.toNat_lt
      have smallB := b.toNat_lt
      have bytes : threeBytes (a.toNat / 4) (a.toNat % 4 * 16 + b.toNat / 16)
          (b.toNat % 16 * 4) 0 = [a, b, 0] := threeBytes_cut a b 0
      calc
        decodeFrom offset (encodedBytes [a, b]) =
            decodeLast offset [symbolByte (a.toNat / 4),
              symbolByte (a.toNat % 4 * 16 + b.toNat / 16), symbolByte (b.toNat % 16 * 4),
              padding] := rfl
        _ = .ok ([a, b, 0].take 2) := by
          rw [decodeLast_three (by omega) (by omega) (by omega) (by omega), bytes]
        _ = .ok [a, b] := rfl
  | case3 a =>
      have smallA := a.toNat_lt
      have bytes : threeBytes (a.toNat / 4) (a.toNat % 4 * 16) 0 0 = [a, 0, 0] :=
        threeBytes_cut a 0 0
      calc
        decodeFrom offset (encodedBytes [a]) =
            decodeLast offset [symbolByte (a.toNat / 4), symbolByte (a.toNat % 4 * 16),
              padding, padding] := rfl
        _ = .ok ([a, 0, 0].take 1) := by
          rw [decodeLast_two (by omega) (by omega) (by omega), bytes]
        _ = .ok [a] := rfl
  | case4 => rfl

/-- An encoding is made of whole groups. -/
theorem length_encodedBytes (input : List UInt8) : (encodedBytes input).length % 4 = 0 := by
  induction input using encode.induct with
  | case1 a b c rest inductionHypothesis =>
      rw [encodedBytes_cons_cons_cons]
      simp only [List.length_cons]
      omega
  | case2 | case3 | case4 => simp [encodedBytes, encode]

/-- Bytes that were encoded are decoded. -/
theorem decode_encodedBytes (input : List UInt8) : decode (encodedBytes input) = .ok input := by
  have noTrailing : trailing? (encodedBytes input) = none := by
    rw [trailing?, length_encodedBytes, if_neg (by decide)]
  rw [decode, noTrailing]
  exact decodeFrom_encodedBytes 0 input

/-! ## Encodings as texts -/

/-- An encoding has symbols and padding marks only. -/
theorem mem_encode {input : List UInt8} {c : Char} (member : c ∈ encode input) :
    (∃ value < 64, c = symbol value) ∨ c = '=' := by
  induction input using encode.induct with
  | case1 a b c rest inductionHypothesis =>
      have smallA := a.toNat_lt
      have smallB := b.toNat_lt
      have smallC := c.toNat_lt
      simp only [encode, List.mem_cons] at member
      rcases member with first | second | third | fourth | later
      · exact Or.inl ⟨_, by omega, first⟩
      · exact Or.inl ⟨_, by omega, second⟩
      · exact Or.inl ⟨_, by omega, third⟩
      · exact Or.inl ⟨_, by omega, fourth⟩
      · exact inductionHypothesis later
  | case2 a b =>
      have smallA := a.toNat_lt
      have smallB := b.toNat_lt
      simp only [encode, List.mem_cons, List.not_mem_nil, or_false] at member
      rcases member with first | second | third | mark
      · exact Or.inl ⟨_, by omega, first⟩
      · exact Or.inl ⟨_, by omega, second⟩
      · exact Or.inl ⟨_, by omega, third⟩
      · exact Or.inr mark
  | case3 a =>
      have smallA := a.toNat_lt
      simp only [encode, List.mem_cons, List.not_mem_nil, or_false] at member
      rcases member with first | second | mark | mark
      · exact Or.inl ⟨_, by omega, first⟩
      · exact Or.inl ⟨_, by omega, second⟩
      · exact Or.inr mark
      · exact Or.inr mark
  | case4 => exact absurd member List.not_mem_nil

/-- What holds of every symbol and of the padding mark holds throughout an encoding. -/
theorem forall_mem_encode {property : Char → Prop}
    (symbols : ∀ value < 64, property (symbol value)) (mark : property '=')
    (input : List UInt8) : ∀ c ∈ encode input, property c := by
  intro c member
  rcases mem_encode member with ⟨value, small, rfl⟩ | rfl
  · exact symbols value small
  · exact mark

theorem isBlank_of_mem_encode (input : List UInt8) :
    ∀ c ∈ encode input, Text.isBlank c = false :=
  forall_mem_encode (by decide) (by decide) input

/-- Each character of an encoding is one byte of its text. -/
theorem bytes_encode (input : List UInt8) : Text.bytes (encode input) = encodedBytes input := by
  have single : ∀ c ∈ encode input, String.utf8EncodeChar c = [c.toUInt8] :=
    forall_mem_encode (by decide) (by decide) input
  rw [Text.bytes, encodedBytes]
  generalize encode input = text at single
  induction text with
  | nil => rfl
  | cons c rest inductionHypothesis =>
      rw [List.flatMap_cons, List.map_cons, single c List.mem_cons_self,
        inductionHypothesis fun d member => single d (List.mem_cons_of_mem c member)]
      rfl

/-- Bytes are decoded from the text of their encoding. -/
theorem decode_bytes_encode (input : List UInt8) :
    decode (Text.bytes (encode input)) = .ok input := by
  rw [bytes_encode, decode_encodedBytes]

theorem encode_ne_nil {input : List UInt8} (nonempty : input ≠ []) : encode input ≠ [] := by
  intro equal
  have decoded := decode_bytes_encode input
  rw [equal] at decoded
  exact nonempty (Except.ok.inj decoded).symm

end PodPlacement.Base64
