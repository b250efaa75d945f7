import PodPlacement.Proofs.Base64
import PodPlacement.Proofs.Results

/-!
# Only encodings are decoded

Bytes are decoded only if they are what their decoding is encoded as. A byte that has
a value is the symbol of the value, and the values of a group are cut from the bytes
that they make; in the last group, padding and the bits that belong to no byte are
as encoding leaves them. So a text either is the encoding of certain bytes, or is
refused.
-/

namespace PodPlacement.Base64

/-! ## Symbols -/

/-- A byte that has a value is the symbol of the value. -/
theorem eq_symbolByte_of_value? {byte : UInt8} {value : Nat} (found : value? byte = some value) :
    value < 64 ∧ byte = symbolByte value := by
  have everyByte : ∀ n < 256, (value? (UInt8.ofNat n)).all
      (fun value => value < 64 ∧ UInt8.ofNat n = symbolByte value) = true := by
    decide +kernel
  have thisByte := everyByte byte.toNat byte.toNat_lt
  rw [UInt8.ofNat_toNat, found] at thisByte
  simpa using thisByte

theorem eq_symbolByte_of_valueAt {byte : UInt8} {offset value : Nat}
    (found : valueAt byte offset = .ok value) : value < 64 ∧ byte = symbolByte value := by
  rw [valueAt] at found
  split at found
  · next isValue =>
      rw [← Except.ok.inj found]
      exact eq_symbolByte_of_value? isValue
  · cases found

/-! ## Groups -/

/-- Four values are cut from the three bytes that they make. -/
theorem encodedBytes_threeBytes_append {a b c d : Nat} (smallA : a < 64) (smallB : b < 64)
    (smallC : c < 64) (smallD : d < 64) (rest : List UInt8) :
    encodedBytes (threeBytes a b c d ++ rest) =
      symbolByte a :: symbolByte b :: symbolByte c :: symbolByte d :: encodedBytes rest := by
  have toNat_ofNat {n : Nat} (small : n < 256) : (UInt8.ofNat n).toNat = n :=
    UInt8.toNat_ofNat_of_lt' small
  have cutA : (a * 4 + b / 16) / 4 = a := by omega
  have cutB : (a * 4 + b / 16) % 4 * 16 + (b % 16 * 16 + c / 4) / 16 = b := by omega
  have cutC : (b % 16 * 16 + c / 4) % 16 * 4 + (c % 4 * 64 + d) / 64 = c := by omega
  have cutD : (c % 4 * 64 + d) % 64 = d := by omega
  rw [threeBytes, List.cons_append, List.cons_append, List.cons_append, List.nil_append,
    encodedBytes_cons_cons_cons, toNat_ofNat (by omega), toNat_ofNat (by omega),
    toNat_ofNat (by omega), cutA, cutB, cutC, cutD]

/-- Three values of which the last has no bits to spare are cut from the two bytes that
they make. -/
theorem encodedBytes_take_two {a b c : Nat} (smallA : a < 64) (smallB : b < 64)
    (smallC : c < 64) (noRest : c % 4 = 0) :
    encodedBytes ((threeBytes a b c 0).take 2) =
      [symbolByte a, symbolByte b, symbolByte c, padding] := by
  have toNat_ofNat {n : Nat} (small : n < 256) : (UInt8.ofNat n).toNat = n :=
    UInt8.toNat_ofNat_of_lt' small
  have cutA : (a * 4 + b / 16) / 4 = a := by omega
  have cutB : (a * 4 + b / 16) % 4 * 16 + (b % 16 * 16 + c / 4) / 16 = b := by omega
  have cutC : (b % 16 * 16 + c / 4) % 16 * 4 = c := by omega
  simp only [threeBytes, List.take_succ_cons, List.take_zero, encodedBytes, encode]
  rw [toNat_ofNat (by omega), toNat_ofNat (by omega), cutA, cutB, cutC]
  rfl

/-- Two values of which the last has no bits to spare are cut from the byte that they
make. -/
theorem encodedBytes_take_one {a b : Nat} (smallA : a < 64) (smallB : b < 64)
    (noRest : b % 16 = 0) :
    encodedBytes ((threeBytes a b 0 0).take 1) =
      [symbolByte a, symbolByte b, padding, padding] := by
  have toNat_ofNat {n : Nat} (small : n < 256) : (UInt8.ofNat n).toNat = n :=
    UInt8.toNat_ofNat_of_lt' small
  have cutA : (a * 4 + b / 16) / 4 = a := by omega
  have cutB : (a * 4 + b / 16) % 4 * 16 = b := by omega
  simp only [threeBytes, List.take_succ_cons, List.take_zero, encodedBytes, encode]
  rw [toNat_ofNat (by omega), cutA, cutB]
  rfl

/-! ## The last group -/

/-- What is scanned in the last group is symbols with their values and then padding. -/
theorem scanLast_eq_ok {offset position padded total : Nat} {group : List UInt8}
    {symbols : List (UInt8 × Nat)}
    (scanned : scanLast offset position padded group = .ok (symbols, total)) :
    ∃ marks, total = padded + marks ∧
      group = symbols.map Prod.fst ++ List.replicate marks padding ∧
      (padded ≠ 0 → symbols = []) ∧
      ∀ pair ∈ symbols, pair.2 < 64 ∧ pair.1 = symbolByte pair.2 := by
  induction group generalizing position padded symbols with
  | nil =>
      cases scanned
      exact ⟨0, rfl, rfl, fun _ => rfl, nofun⟩
  | cons byte rest inductionHypothesis =>
      rw [scanLast] at scanned
      split at scanned
      · next isPadding =>
          split at scanned
          · cases scanned
          · obtain ⟨marks, sum, equal, nothing, _⟩ := inductionHypothesis scanned
            have noSymbols := nothing (Nat.succ_ne_zero padded)
            subst noSymbols
            refine ⟨marks + 1, by omega, ?_, fun _ => rfl, nofun⟩
            rw [equal, isPadding, List.replicate_succ]
            rfl
      · split at scanned
        · cases scanned
        · next notPadded =>
            obtain ⟨value, found, scanned⟩ := bind_eq_ok_iff.mp scanned
            obtain ⟨⟨later, padding⟩, scannedRest, equal⟩ := bind_eq_ok_iff.mp scanned
            cases equal
            obtain ⟨marks, sum, equal, _, areSymbols⟩ := inductionHypothesis scannedRest
            refine ⟨marks, sum, by rw [equal]; rfl, fun isPadded => absurd isPadded notPadded, ?_⟩
            intro pair member
            rcases List.mem_cons.mp member with rfl | member
            · exact eq_symbolByte_of_valueAt found
            · exact areSymbols pair member

/-- The last group is the encoding of what it is decoded to. -/
theorem eq_encodedBytes_of_decodeLast {offset : Nat} {group data : List UInt8}
    (decoded : decodeLast offset group = .ok data) : group = encodedBytes data := by
  rw [decodeLast] at decoded
  obtain ⟨⟨symbols, padded⟩, scanned, decodedSymbols⟩ := bind_eq_ok_iff.mp decoded
  obtain ⟨marks, sum, equal, _, areSymbols⟩ := scanLast_eq_ok scanned
  rw [Nat.zero_add] at sum
  subst sum
  rw [equal]
  simp only at decodedSymbols
  split at decodedSymbols
  · cases decodedSymbols
  split at decodedSymbols
  · cases decodedSymbols
  next whole =>
  rw [Decidable.not_not] at whole
  -- There is one symbol more than there are bytes.
  split at decodedSymbols
  case h_1 first a last b =>
    split at decodedSymbols
    case isFalse => cases decodedSymbols
    case isTrue noRest =>
      cases decodedSymbols
      have two : padded = 2 := by
        simp only [List.length_cons, List.length_nil] at whole
        omega
      simp only [List.forall_mem_cons] at areSymbols
      obtain ⟨⟨smallA, rfl⟩, ⟨smallB, rfl⟩, _⟩ := areSymbols
      rw [two, encodedBytes_take_one smallA smallB noRest]
      rfl
  case h_2 first a second b last c =>
    split at decodedSymbols
    case isFalse => cases decodedSymbols
    case isTrue noRest =>
      cases decodedSymbols
      have one : padded = 1 := by
        simp only [List.length_cons, List.length_nil] at whole
        omega
      simp only [List.forall_mem_cons] at areSymbols
      obtain ⟨⟨smallA, rfl⟩, ⟨smallB, rfl⟩, ⟨smallC, rfl⟩, _⟩ := areSymbols
      rw [one, encodedBytes_take_two smallA smallB smallC noRest]
      rfl
  case h_3 first a second b third c last d =>
    cases decodedSymbols
    have zero : padded = 0 := by simpa using whole
    simp only [List.forall_mem_cons] at areSymbols
    obtain ⟨⟨smallA, rfl⟩, ⟨smallB, rfl⟩, ⟨smallC, rfl⟩, ⟨smallD, rfl⟩, _⟩ := areSymbols
    have encoded := encodedBytes_threeBytes_append smallA smallB smallC smallD []
    rw [List.append_nil] at encoded
    rw [zero, encoded]
    rfl
  case h_4 => cases decodedSymbols

/-- A group before the last one is four symbols, of which it makes three bytes. -/
theorem encodedBytes_of_decodeGroup {offset : Nat} {a b c d : UInt8} {data : List UInt8}
    (decoded : decodeGroup offset a b c d = .ok data) (rest : List UInt8) :
    a :: b :: c :: d :: encodedBytes rest = encodedBytes (data ++ rest) := by
  rw [decodeGroup] at decoded
  obtain ⟨valueA, foundA, decoded⟩ := bind_eq_ok_iff.mp decoded
  obtain ⟨valueB, foundB, decoded⟩ := bind_eq_ok_iff.mp decoded
  obtain ⟨valueC, foundC, decoded⟩ := bind_eq_ok_iff.mp decoded
  obtain ⟨valueD, foundD, decoded⟩ := bind_eq_ok_iff.mp decoded
  cases decoded
  obtain ⟨smallA, rfl⟩ := eq_symbolByte_of_valueAt foundA
  obtain ⟨smallB, rfl⟩ := eq_symbolByte_of_valueAt foundB
  obtain ⟨smallC, rfl⟩ := eq_symbolByte_of_valueAt foundC
  obtain ⟨smallD, rfl⟩ := eq_symbolByte_of_valueAt foundD
  exact (encodedBytes_threeBytes_append smallA smallB smallC smallD rest).symm

/-! ## Whole encodings -/

theorem eq_encodedBytes_of_decodeFrom {offset : Nat} {input data : List UInt8}
    (decoded : decodeFrom offset input = .ok data) : input = encodedBytes data := by
  induction offset, input using decodeFrom.induct generalizing data with
  | case1 offset a b c d e rest inductionHypothesis =>
      rw [decodeFrom] at decoded
      obtain ⟨group, decodedGroup, decodedRest⟩ := bind_eq_ok_iff.mp decoded
      obtain ⟨others, decodedOthers, equal⟩ := bind_eq_ok_iff.mp decodedRest
      cases equal
      rw [inductionHypothesis decodedOthers]
      exact encodedBytes_of_decodeGroup decodedGroup others
  | case2 offset =>
      cases decoded
      rfl
  | case3 offset group short nonempty =>
      rw [decodeFrom.eq_3 offset group short nonempty] at decoded
      exact eq_encodedBytes_of_decodeLast decoded

/-- Bytes are decoded exactly if they are an encoding. -/
theorem decode_eq_ok_iff {input data : List UInt8} :
    decode input = .ok data ↔ input = encodedBytes data := by
  constructor
  · intro decoded
    rw [decode] at decoded
    split at decoded
    · cases decoded
    · exact eq_encodedBytes_of_decodeFrom decoded
  · rintro rfl
    exact decode_encodedBytes data

/-- A text is decoded exactly if it is an encoding. -/
theorem decode_bytes_eq_ok_iff {text : List Char} {data : List UInt8} :
    decode (Text.bytes text) = .ok data ↔ text = encode data := by
  rw [decode_eq_ok_iff, ← bytes_encode]
  exact ⟨Text.bytes_injective, congrArg Text.bytes⟩

end PodPlacement.Base64
