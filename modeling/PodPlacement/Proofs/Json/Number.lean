import Mathlib.Data.List.Basic
import PodPlacement.Json.Number
import PodPlacement.Json.Printer

/-!
# Reading written integers

An integer is written as a numeral without fraction and exponent and without a
needless zero in front. The numeral is read back if what follows it cannot be
taken for a part of it, and its value is the integer if sixty-four bits hold it.
-/

namespace PodPlacement.Json

open Text (Symbol symbols)

/-! ## Digits -/

/-- A positive number is written without a zero in front. -/
theorem head?_toDigits_ne_zero {n : Nat} (positive : 0 < n) :
    (Nat.toDigits 10 n).head? ≠ some '0' := by
  induction n using Nat.strongRecOn with
  | ind n inductionHypothesis =>
      rw [Nat.toDigits_eq_if (by decide)]
      split
      · next small =>
          have nonzero : ∀ digit < 10, 0 < digit → Nat.digitChar digit ≠ '0' := by decide
          simpa using nonzero n small positive
      · next large =>
          rw [List.head?_append_of_ne_nil _ Nat.toDigits_ne_nil]
          exact inductionHypothesis (n / 10) (by omega) (by omega)

theorem exists_toDigits_eq_cons (n : Nat) :
    ∃ first digits, Nat.toDigits 10 n = first :: digits ∧ first.isDigit = true := by
  obtain ⟨first, digits, equal⟩ :=
    List.exists_cons_of_ne_nil (Nat.toDigits_ne_nil : Nat.toDigits 10 n ≠ [])
  have member : first ∈ Nat.toDigits 10 n := by
    rw [equal]
    exact List.mem_cons_self
  exact ⟨first, digits, equal, Nat.isDigit_of_mem_toDigits (by decide) (by decide) member⟩

/-- Nothing in a list of symbols can be taken for the rest of a numeral. -/
def EndsNumeral (rest : List Symbol) : Prop :=
  ∀ c, rest.head? = some (some c) → c.isDigit = false ∧ c ≠ '.' ∧ c ≠ 'e' ∧ c ≠ 'E'

theorem endsNumeral_nil : EndsNumeral [] := by
  intro c first
  cases first

theorem endsNumeral_cons {c : Char} (rest : List Symbol)
    (other : c.isDigit = false ∧ c ≠ '.' ∧ c ≠ 'e' ∧ c ≠ 'E') : EndsNumeral (some c :: rest) := by
  intro first equal
  cases equal
  exact other

theorem digitRun_of_endsNumeral {rest : List Symbol} (ends : EndsNumeral rest) :
    digitRun rest = ([], rest) := by
  rcases rest with _ | ⟨_ | c, rest⟩
  · rfl
  · rfl
  · rw [digitRun, (ends c rfl).1]
    rfl

theorem digitRun_append {digits : List Char} (allDigits : ∀ c ∈ digits, c.isDigit = true)
    {rest : List Symbol} (ends : EndsNumeral rest) :
    digitRun (symbols digits ++ rest) = (digits, rest) := by
  induction digits with
  | nil => exact digitRun_of_endsNumeral ends
  | cons c digits inductionHypothesis =>
      have run := inductionHypothesis fun other member =>
        allDigits other (List.mem_cons_of_mem c member)
      have isDigit := allDigits c List.mem_cons_self
      simp only [symbols, List.map_cons, List.cons_append] at run ⊢
      rw [digitRun, if_pos isDigit, run]

/-! ## Numerals -/

section Scan

variable {rest : List Symbol} (ends : EndsNumeral rest)

include ends

theorem scanWhole_toDigits (n : Nat) :
    scanWhole (symbols (Nat.toDigits 10 n) ++ rest) = some (Nat.toDigits 10 n, rest) := by
  have allDigits : ∀ c ∈ Nat.toDigits 10 n, c.isDigit = true := fun c =>
    Nat.isDigit_of_mem_toDigits (by decide) (by decide)
  have run := digitRun_append allDigits ends
  rw [scanWhole, run]
  split
  · next nothing => exact absurd (congrArg Prod.fst nothing) Nat.toDigits_ne_nil
  · next second digits _ leading =>
      -- Zero is written by a single digit, and no other number begins with one.
      have written : Nat.toDigits 10 n = '0' :: second :: digits := congrArg Prod.fst leading
      rcases Nat.eq_zero_or_pos n with rfl | positive
      · simp [Nat.toDigits_zero] at written
      · exact absurd (by rw [written]; rfl) (head?_toDigits_ne_zero positive)
  · next equal => rw [← equal]

theorem scanFraction_of_endsNumeral : scanFraction rest = some ([], rest) := by
  rw [scanFraction]
  rintro tail rfl
  exact (ends '.' rfl).2.1 rfl

theorem scanExponent_of_endsNumeral : scanExponent rest = some ((false, []), rest) := by
  rw [scanExponent]
  · rintro tail rfl
    exact (ends 'e' rfl).2.2.1 rfl
  · rintro tail rfl
    exact (ends 'E' rfl).2.2.2 rfl

theorem scanUnsigned_toDigits (negative : Bool) (n : Nat) :
    scanUnsigned negative (symbols (Nat.toDigits 10 n) ++ rest) =
      some (⟨negative, Nat.toDigits 10 n, [], false, []⟩, rest) := by
  simp only [scanUnsigned, scanWhole_toDigits ends, scanFraction_of_endsNumeral ends,
    scanExponent_of_endsNumeral ends]

end Scan

theorem exists_writeInt_eq_cons (n : Int) :
    ∃ first tail, writeInt n = first :: tail ∧ (first = '-' ∨ first.isDigit = true) := by
  rw [writeInt]
  split
  · exact ⟨'-', _, rfl, .inl rfl⟩
  · obtain ⟨first, digits, equal, isDigit⟩ := exists_toDigits_eq_cons n.natAbs
    exact ⟨first, digits, equal, .inr isDigit⟩

/-- The numeral that an integer is written as. -/
def Numeral.ofInt (n : Int) : Numeral :=
  ⟨decide (n < 0), Nat.toDigits 10 n.natAbs, [], false, []⟩

/-- A written integer is scanned as its numeral, and what follows it is left. -/
theorem scanNumeral_writeInt (n : Int) {rest : List Symbol} (ends : EndsNumeral rest) :
    scanNumeral (symbols (writeInt n) ++ rest) = some (Numeral.ofInt n, rest) := by
  rw [writeInt, Numeral.ofInt]
  split
  · next negative =>
      rw [decide_eq_true negative]
      exact scanUnsigned_toDigits ends true n.natAbs
  · next notNegative =>
      rw [decide_eq_false notNegative, scanNumeral]
      · exact scanUnsigned_toDigits ends false n.natAbs
      · intro tail signed
        obtain ⟨first, digits, equal, isDigit⟩ := exists_toDigits_eq_cons n.natAbs
        rw [equal] at signed
        cases signed
        exact absurd isDigit (by decide)

/-- Sixty-four bits, with a sign or without one, are enough for the numeral to
have the integer as its value. -/
theorem Numeral.value?_ofInt {n : Int} (lower : Int64.minValue.toInt ≤ n)
    (upper : n < UInt64.size) : (ofInt n).value? = some (.integer n) := by
  have whole : Nat.ofDigitChars 10 (Nat.toDigits 10 n.natAbs) 0 = n.natAbs :=
    Nat.ofDigitChars_ten_toDigits
  have plain (negative : Bool) (digits : List Char) :
      isPlain ⟨negative, digits, [], false, []⟩ = true := rfl
  simp only [value?, ofInt, plain, whole, true_and, decide_eq_true_eq, decide_eq_false_iff_not]
  by_cases negative : n < 0
  · have magnitude : -(n.natAbs : Int) = n := by omega
    rw [if_neg (by omega), if_pos (by omega), magnitude]
  · have magnitude : (n.natAbs : Int) = n := by omega
    rw [if_pos (by omega), magnitude]

end PodPlacement.Json
