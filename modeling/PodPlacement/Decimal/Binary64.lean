/-!
# Rounding to 64-bit floating point

Numbers of a text that are not plain integers are read as 64-bit floating
point. The arithmetic here is exact: a magnitude is a natural significand times
a power of two, and one function rounds a quotient of naturals to the nearest
such number, a tie going to the even significand.

A decimal is not rounded once. Its significand is rounded, and then scaled by a
rounded power of ten with one more rounding; below `10 ^ -308` it is scaled
down in several such steps.
-/

namespace PodPlacement.Decimal

/-- The magnitude `significand * 2 ^ exponent` of a 64-bit floating-point
number. The significand has at most fifty-three bits. -/
structure Binary64 where
  significand : Nat
  exponent : Int
  deriving DecidableEq, Repr

namespace Binary64

/-- The least exponent: the spacing of the smallest numbers. -/
def minExponent : Int := -1074

/-- The greatest exponent of a finite number. -/
def maxExponent : Int := 971

/-- Whether the number is finite, that is not beyond the greatest exponent. -/
def isFinite (x : Binary64) : Bool :=
  x.exponent ≤ maxExponent

/-- The quotient of two naturals rounded to the nearest natural, a tie to the
even one. -/
def roundQuotient (num den : Nat) : Nat :=
  let quotient := num / den
  let rest := 2 * (num % den)
  if rest < den ∨ (rest = den ∧ quotient % 2 = 0) then quotient else quotient + 1

/-- The quotient `num / (den * 2 ^ exponent)` rounded to a natural. -/
def roundAt (num den : Nat) (exponent : Int) : Nat :=
  roundQuotient (num <<< (-exponent).toNat) (den <<< exponent.toNat)

/-- The exponent at which the quotient of two positive naturals has a
significand of fifty-three bits. -/
def exponentOf (num den : Nat) : Int :=
  let bits : Int := (num.log2 : Int) - den.log2
  if num <<< (-bits).toNat < den <<< bits.toNat then bits - 53 else bits - 52

/-- The number nearest to a quotient of naturals. Only the result's exponent
says whether it is in range. -/
def ofRatio (num den : Nat) : Binary64 :=
  if num = 0 then ⟨0, minExponent⟩
  else
    let exponent := max (exponentOf num den) minExponent
    let significand := roundAt num den exponent
    if significand = 1 <<< 53 then ⟨1 <<< 52, exponent + 1⟩ else ⟨significand, exponent⟩

/-- The number nearest to a power of ten. -/
def powerOfTen (n : Nat) : Binary64 :=
  ofRatio (Nat.pow 10 n) 1

/-- The product of two numbers, rounded. -/
def mul (x y : Binary64) : Binary64 :=
  let exponent := x.exponent + y.exponent
  ofRatio ((x.significand * y.significand) <<< exponent.toNat) (1 <<< (-exponent).toNat)

/-- The quotient of two numbers, rounded. -/
def div (x y : Binary64) : Binary64 :=
  let exponent := x.exponent - y.exponent
  ofRatio (x.significand <<< exponent.toNat) (y.significand <<< (-exponent).toNat)

/-- The number times a power of ten, with one rounding for each scaling by at
most `10 ^ 308`; none when the result is out of range. -/
def scale (x : Binary64) (exponent : Int) : Option Binary64 :=
  if exponent.natAbs ≤ 308 then
    if 0 ≤ exponent then
      let product := x.mul (powerOfTen exponent.natAbs)
      if product.isFinite then some product else none
    else some (x.div (powerOfTen exponent.natAbs))
  else if x.significand = 0 then some x
  else if 0 ≤ exponent then none
  else scale (x.div (powerOfTen 308)) (exponent + 308)
termination_by exponent.natAbs

/-- The number written `significand * 10 ^ exponent`; none when it is out of
range. -/
def ofDecimal (significand : Nat) (exponent : Int) : Option Binary64 :=
  (ofRatio significand 1).scale exponent

end Binary64

end PodPlacement.Decimal
