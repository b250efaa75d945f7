import PodPlacement.Decimal.Binary64

/-!
# The shortest decimal of a floating-point number

A floating-point number is shown with the fewest digits that still single it
out: among the decimals that round to it, those with the fewest digits, and of
them the nearest. A decimal with `n` digits that rounds to the number exists
exactly when one of the number's two neighbours on the grid of `n`-digit
decimals does, so only these two are tried.
-/

namespace PodPlacement.Decimal

/-- The decimal `digits * 10 ^ exponent`. -/
structure Scaled where
  digits : Nat
  exponent : Int
  deriving DecidableEq, Repr

/-- The reals that round to a number: they lie between `low / den` and
`high / den`, around `value / den`, the ends included when `closed`. -/
structure Interval where
  low : Nat
  value : Nat
  high : Nat
  den : Nat
  closed : Bool

namespace Interval

/-- The reals that round to `x`. Below a power of two the spacing is half of
what it is above. -/
def around (x : Binary64) : Interval :=
  let m := 4 * x.significand
  let below := if x.significand = 1 <<< 52 ∧ Binary64.minExponent < x.exponent then 1 else 2
  let up := (x.exponent - 2).toNat
  { low := (m - below) <<< up
    value := m <<< up
    high := (m + 2) <<< up
    den := 1 <<< (2 - x.exponent).toNat
    closed := x.significand % 2 = 0 }

/-- The decimal exponent of the leading digit of the interval's value. -/
def leadingExponent (i : Interval) : Int :=
  if i.den ≤ i.value then
    ((Nat.toDigits 10 (i.value / i.den)).length : Int) - 1
  else
    let length := (Nat.toDigits 10 (i.den / i.value)).length
    if i.den ≤ i.value * Nat.pow 10 (length - 1) then 1 - (length : Int) else -(length : Int)

/-- Whether a decimal lies in the interval. -/
def contains (i : Interval) (d : Scaled) : Bool :=
  let place := d.digits * Nat.pow 10 d.exponent.toNat * i.den
  let unit := Nat.pow 10 (-d.exponent).toNat
  if i.closed then i.low * unit ≤ place && place ≤ i.high * unit
  else i.low * unit < place && place < i.high * unit

/-- The decimal with the given exponent nearest to the interval's value, of
those that lie in the interval; of two at one distance the even one. -/
def nearest? (i : Interval) (exponent : Int) : Option Scaled :=
  let num := i.value * Nat.pow 10 (-exponent).toNat
  let den := i.den * Nat.pow 10 exponent.toNat
  let lower : Scaled := ⟨num / den, exponent⟩
  let upper : Scaled := ⟨num / den + 1, exponent⟩
  let rest := 2 * (num % den)
  let lowerNearer := rest < den || (rest == den && lower.digits % 2 == 0)
  match i.contains lower, i.contains upper with
  | true, true => some (if lowerNearer then lower else upper)
  | true, false => some lower
  | false, true => some upper
  | false, false => none

end Interval

/-- The shortest decimal that rounds to a number; seventeen digits always
suffice. -/
def shortest (x : Binary64) : Scaled :=
  let i := Interval.around x
  let leading := i.leadingExponent
  ((List.range 17).findSome? fun (n : Nat) => i.nearest? (leading - n)).getD ⟨0, 0⟩

/-- The digits of a number without the zeros at its end. -/
def significantDigits (digits : Nat) : List Char :=
  ((Nat.toDigits 10 digits).reverse.dropWhile (· = '0')).reverse

/-- How numbers are laid out: the leading digit's exponents that are written
positionally. Outside of them a number is written with an exponent, which has
a sign and no leading zeros. -/
structure Layout where
  least : Int
  greatest : Int

/-- Messages write numbers positionally from `0.00001` to below `10 ^ 16`. -/
def Layout.message : Layout := ⟨-5, 15⟩

/-- Digits with a point after the first `whole`, at least one digit on each
side of it. -/
def pointed (digits : List Char) (whole : Nat) : List Char :=
  let padded := digits ++ List.replicate (whole + 1 - digits.length) '0'
  padded.take whole ++ '.' :: padded.drop whole

/-- A decimal's significant digits laid out around the exponent of the first
one. -/
def Layout.write (layout : Layout) (digits : List Char) (leading : Int) : List Char :=
  if layout.least ≤ leading ∧ leading ≤ layout.greatest then
    if 0 ≤ leading then pointed digits (leading.toNat + 1)
    else '0' :: '.' :: (List.replicate (-leading - 1).toNat '0' ++ digits)
  else
    let mantissa := if digits.length ≤ 1 then digits else pointed digits 1
    let sign := if leading < 0 then '-' else '+'
    mantissa ++ 'e' :: sign :: Nat.toDigits 10 leading.natAbs

/-- The text of a magnitude: its shortest decimal, laid out. -/
def Layout.writeMagnitude (layout : Layout) (x : Binary64) : List Char :=
  if x.significand = 0 then ['0', '.', '0']
  else
    let decimal := shortest x
    let all := Nat.toDigits 10 decimal.digits
    layout.write (significantDigits decimal.digits)
      (decimal.exponent + (all.length : Int) - 1)

end PodPlacement.Decimal
