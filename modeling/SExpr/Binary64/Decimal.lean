import SExpr.Binary64.Basic

/-!
# From decimals to binary64 numbers

A decimal is a whole number times a power of ten. `Decimal.nearest?` is the
binary64 magnitude nearest to it, a value halfway between two neighbours going
to the one with an even significand. The computation is exact on natural
numbers; decimals far outside the range of the format are answered before any
large power is formed.
-/

namespace SExpr

/-- The value `digits * 10 ^ exponent`. -/
structure Decimal where
  digits : Nat
  exponent : Int
  deriving DecidableEq

/-- The whole number nearest to a quotient, halves going to the even one. -/
def nearestQuotient
    (numerator denominator : Nat) : Nat :=
  let quotient := numerator / denominator
  let rest := numerator % denominator
  if 2 * rest < denominator ∨ (2 * rest = denominator ∧ quotient % 2 = 0) then
    quotient
  else
    quotient + 1

/-- A quotient that comes out even is not changed by rounding. -/
@[simp] theorem nearestQuotient_mul
    (quotient : Nat)
    {denominator : Nat}
    (positive : 0 < denominator) :
    nearestQuotient (quotient * denominator) denominator = quotient := by
  simp [nearestQuotient, Nat.mul_div_cancel quotient positive, positive]

namespace Magnitude

/-- The magnitude nearest to `numerator / denominator`, if it is not past the
largest one. The shift is the least one for which the quotient in shifted units
has at most 53 binary digits. -/
def nearest?
    (numerator denominator : Nat) : Option Magnitude :=
  let units := numerator * unitsInOne
  let shift := (units / denominator).log2 + 1 - 53
  let significand := nearestQuotient units (denominator * Nat.pow 2 shift)
  if significand = Nat.pow 2 53 then
    ofParts? (Nat.pow 2 52) (shift + 1)
  else
    ofParts? significand shift

end Magnitude

namespace Decimal

/-- The numerator of a decimal written as a quotient of whole numbers. -/
def numerator (decimal : Decimal) : Nat :=
  decimal.digits * Nat.pow 10 decimal.exponent.toNat

/-- The denominator of a decimal written as a quotient of whole numbers. -/
def denominator (decimal : Decimal) : Nat :=
  Nat.pow 10 (-decimal.exponent).toNat

/-- The binary64 magnitude nearest to a decimal, none when it is past the
largest one. The first three cases are the values that no power need be formed
for: zero, those above `10 ^ 400`, and those below half a unit. -/
def nearest? (decimal : Decimal) : Option Magnitude :=
  if decimal.digits = 0 then
    some .zero
  else if 400 ≤ decimal.exponent then
    none
  else if 1076 + decimal.digits.log2 ≤ 3 * (-decimal.exponent).toNat then
    some .zero
  else
    Magnitude.nearest? decimal.numerator decimal.denominator

end Decimal
end SExpr
