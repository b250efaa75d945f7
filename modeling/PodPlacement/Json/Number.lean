import PodPlacement.Decimal.Shortest
import PodPlacement.Text.Utf8

/-!
# Numerals

A numeral is an optional minus sign, digits without a needless leading zero, an
optional fraction and an optional exponent. One without fraction and exponent
that fits sixty-four bits is an integer. Every other numeral, and `-0`, is a
floating-point number: as many of its digits as fit sixty-four bits make the
significand, the rest only shift the exponent. A numeral may be beyond every
floating-point number; it then has a place in the grammar but no value.
-/

namespace PodPlacement.Json

open Text (Symbol)
open Decimal (Binary64)

/-- The value of a numeral. -/
inductive Number where
  | integer (value : Int)
  | floating (negative : Bool) (magnitude : Binary64)
  deriving DecidableEq, Repr

/-- The text of a number in a message. -/
def Number.text : Number → List Char
  | .integer n => (toString n).toList
  | .floating negative magnitude =>
      (if negative then ['-'] else []) ++ Decimal.Layout.message.writeMagnitude magnitude

/-- The parts of a numeral. The fraction has no digits when there is no point,
and the exponent none when there is no exponent. -/
structure Numeral where
  negative : Bool
  whole : List Char
  fraction : List Char
  exponentNegative : Bool
  exponent : List Char
  deriving DecidableEq, Repr

namespace Numeral

/-- Whether the numeral has neither fraction nor exponent. -/
def isPlain (numeral : Numeral) : Bool :=
  numeral.fraction.isEmpty && numeral.exponent.isEmpty

/-- One more digit after a significand, if sixty-four bits hold the result. -/
def push? (significand : Nat) (digit : Char) : Option Nat :=
  let next := significand * 10 + (digit.toNat - '0'.toNat)
  if next < UInt64.size then some next else none

/-- The significand made of the first whole digits that fit, and the number of
digits left out. -/
def significandOfWhole (significand : Nat) : List Char → Nat × Nat
  | [] => (significand, 0)
  | digit :: digits =>
    match push? significand digit with
    | some next => significandOfWhole next digits
    | none => (significand, digits.length + 1)

/-- The significand continued with the first fraction digits that fit, and the
number of digits taken. -/
def significandOfFraction (significand : Nat) : List Char → Nat × Nat
  | [] => (significand, 0)
  | digit :: digits =>
    match push? significand digit with
    | some next =>
        let (last, taken) := significandOfFraction next digits
        (last, taken + 1)
    | none => (significand, 0)

/-- The numeral as a floating-point magnitude, unless that is out of range. -/
def magnitude? (numeral : Numeral) : Option Binary64 :=
  let (whole, dropped) := significandOfWhole 0 numeral.whole
  let (significand, taken) := significandOfFraction whole numeral.fraction
  let written : Int := Nat.ofDigitChars 10 numeral.exponent 0
  let exponent := if numeral.exponentNegative then -written else written
  Binary64.ofDecimal significand ((dropped : Int) - taken + exponent)

/-- The value of the numeral, if it has one. -/
def value? (numeral : Numeral) : Option Number :=
  let whole := Nat.ofDigitChars 10 numeral.whole 0
  if numeral.isPlain ∧ numeral.negative = false ∧ whole < UInt64.size then
    some (.integer whole)
  else if numeral.isPlain ∧ numeral.negative = true ∧ whole ≠ 0 ∧
      Int64.minValue.toInt ≤ -whole then
    some (.integer (-whole))
  else
    numeral.magnitude?.map (.floating numeral.negative)

end Numeral

/-- The digits at the beginning of a text, and what follows them. -/
def digitRun : List Symbol → List Char × List Symbol
  | some c :: rest =>
      if c.isDigit then
        let (digits, after) := digitRun rest
        (c :: digits, after)
      else ([], some c :: rest)
  | rest => ([], rest)

/-- The whole part of a numeral: at least one digit, and no zero before
another digit. -/
def scanWhole (input : List Symbol) : Option (List Char × List Symbol) :=
  match digitRun input with
  | ([], _) => none
  | ('0' :: _ :: _, _) => none
  | (digits, rest) => some (digits, rest)

/-- At least one digit. -/
def scanDigits (input : List Symbol) : Option (List Char × List Symbol) :=
  match digitRun input with
  | ([], _) => none
  | (digits, rest) => some (digits, rest)

/-- The fraction of a numeral, which a point announces. -/
def scanFraction : List Symbol → Option (List Char × List Symbol)
  | some '.' :: rest => scanDigits rest
  | rest => some ([], rest)

/-- The digits of an exponent after its mark, with an optional sign before
them. -/
def scanSignedDigits : List Symbol → Option ((Bool × List Char) × List Symbol)
  | some '-' :: rest => (scanDigits rest).map fun (digits, rest) => ((true, digits), rest)
  | some '+' :: rest => (scanDigits rest).map fun (digits, rest) => ((false, digits), rest)
  | rest => (scanDigits rest).map fun (digits, rest) => ((false, digits), rest)

/-- The exponent of a numeral, which the letter E in either case announces. -/
def scanExponent : List Symbol → Option ((Bool × List Char) × List Symbol)
  | some 'e' :: rest => scanSignedDigits rest
  | some 'E' :: rest => scanSignedDigits rest
  | rest => some ((false, []), rest)

/-- The numeral at the beginning of a text after its sign. -/
def scanUnsigned (negative : Bool) (input : List Symbol) :
    Option (Numeral × List Symbol) :=
  match scanWhole input with
  | none => none
  | some (whole, rest) =>
    match scanFraction rest with
    | none => none
    | some (fraction, rest) =>
      match scanExponent rest with
      | none => none
      | some ((exponentNegative, exponent), rest) =>
          some (⟨negative, whole, fraction, exponentNegative, exponent⟩, rest)

/-- The numeral at the beginning of a text, and what follows it. -/
def scanNumeral : List Symbol → Option (Numeral × List Symbol)
  | some '-' :: rest => scanUnsigned true rest
  | input => scanUnsigned false input

/-! ## What a scan leaves over -/

theorem digitRun_length (input : List Symbol) :
    (digitRun input).1.length + (digitRun input).2.length = input.length := by
  fun_induction digitRun input with
  | case1 c rest digit digits after run inductionHypothesis =>
      simp only [run] at inductionHypothesis
      simp only [List.length_cons]
      omega
  | case2 => simp
  | case3 => simp

theorem scanDigits_length {input rest : List Symbol} {digits : List Char}
    (scanned : scanDigits input = some (digits, rest)) :
    rest.length < input.length := by
  have total := digitRun_length input
  unfold scanDigits at scanned
  split at scanned
  · simp at scanned
  · next first after nonempty run =>
      rw [run] at total
      simp only [Option.some.injEq, Prod.mk.injEq] at scanned
      obtain ⟨rfl, rfl⟩ := scanned
      have := List.length_pos_iff.mpr nonempty
      simp only at total
      omega

theorem scanWhole_length {input rest : List Symbol} {digits : List Char}
    (scanned : scanWhole input = some (digits, rest)) :
    rest.length < input.length := by
  have total := digitRun_length input
  unfold scanWhole at scanned
  split at scanned
  · simp at scanned
  · simp at scanned
  · next first after nonempty _ run =>
      rw [run] at total
      simp only [Option.some.injEq, Prod.mk.injEq] at scanned
      obtain ⟨rfl, rfl⟩ := scanned
      have := List.length_pos_iff.mpr nonempty
      simp only at total
      omega

theorem scanFraction_length {input rest : List Symbol} {digits : List Char}
    (scanned : scanFraction input = some (digits, rest)) :
    rest.length ≤ input.length := by
  unfold scanFraction at scanned
  split at scanned
  · have := scanDigits_length scanned
    simp only [List.length_cons]
    omega
  · simp only [Option.some.injEq, Prod.mk.injEq] at scanned
    exact Nat.le_of_eq (congrArg List.length scanned.2.symm)

theorem scanSignedDigits_length {input rest : List Symbol} {exponent : Bool × List Char}
    (scanned : scanSignedDigits input = some (exponent, rest)) :
    rest.length < input.length := by
  unfold scanSignedDigits at scanned
  split at scanned <;>
  · simp only [Option.map_eq_some_iff, Prod.exists, Prod.mk.injEq] at scanned
    obtain ⟨digits, after, run, rfl, rfl⟩ := scanned
    have := scanDigits_length run
    grind

theorem scanExponent_length {input rest : List Symbol} {exponent : Bool × List Char}
    (scanned : scanExponent input = some (exponent, rest)) :
    rest.length ≤ input.length := by
  unfold scanExponent at scanned
  split at scanned
  · have := scanSignedDigits_length scanned
    simp only [List.length_cons]
    omega
  · have := scanSignedDigits_length scanned
    simp only [List.length_cons]
    omega
  · simp only [Option.some.injEq, Prod.mk.injEq] at scanned
    exact Nat.le_of_eq (congrArg List.length scanned.2.symm)

theorem scanUnsigned_length {negative : Bool} {input rest : List Symbol}
    {numeral : Numeral} (scanned : scanUnsigned negative input = some (numeral, rest)) :
    rest.length < input.length := by
  unfold scanUnsigned at scanned
  split at scanned
  · simp at scanned
  · next whole =>
    split at scanned
    · simp at scanned
    · next fraction =>
      split at scanned
      · simp at scanned
      · next exponent =>
          simp only [Option.some.injEq, Prod.mk.injEq] at scanned
          rw [← scanned.2]
          have := scanWhole_length whole
          have := scanFraction_length fraction
          have := scanExponent_length exponent
          omega

/-- A numeral takes at least one symbol. -/
theorem scanNumeral_length {input rest : List Symbol} {numeral : Numeral}
    (scanned : scanNumeral input = some (numeral, rest)) :
    rest.length < input.length := by
  unfold scanNumeral at scanned
  split at scanned
  · have := scanUnsigned_length scanned
    simp only [List.length_cons]
    omega
  · exact scanUnsigned_length scanned

end PodPlacement.Json
