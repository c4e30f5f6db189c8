import SExpr.Binary64.Decimal

/-!
# Shortest decimals

The shortest decimal of a magnitude is the one with the fewest digits among
those whose nearest binary64 magnitude it is, and of two such decimals the
nearer, the larger when both are equally near.

Decimals with a common exponent form a grid. The search goes from a coarse grid
to finer ones and tests the two points next to the value by reading them back.
The finest grid it can reach, of exponent `-1074`, holds every magnitude
exactly, so the search always ends with an answer.
-/

namespace SExpr
namespace Magnitude

/-- The decimal on the grid of the given exponent that is next to the magnitude
and reads back as it, the nearer of two, the larger of two equally near. -/
def onGrid?
    (magnitude : Magnitude)
    (exponent : Int) : Option Decimal :=
  let numerator := magnitude.units * Nat.pow 10 (-exponent).toNat
  let denominator := unitsInOne * Nat.pow 10 exponent.toNat
  let below : Decimal := ⟨numerator / denominator, exponent⟩
  let above : Decimal := ⟨numerator / denominator + 1, exponent⟩
  if above.nearest? = some magnitude then
    if 2 * (numerator % denominator) < denominator ∧
        below.nearest? = some magnitude then
      some below
    else
      some above
  else if below.nearest? = some magnitude then
    some below
  else
    none

/-- Every decimal found on a grid reads back as the magnitude. -/
theorem nearest?_of_onGrid?
    {magnitude : Magnitude}
    {exponent : Int}
    {decimal : Decimal}
    (found : magnitude.onGrid? exponent = some decimal) :
    decimal.nearest? = some magnitude := by
  unfold onGrid? at found
  dsimp only at found
  split at found
  next aboveReads =>
    split at found
    next belowReads =>
      cases found
      exact belowReads.2
    next =>
      cases found
      exact aboveReads
  next =>
    split at found
    next belowReads =>
      cases found
      exact belowReads
    next => cases found

/-- The magnitude as a decimal of exponent `-1074`, without rounding. -/
def exactDecimal (magnitude : Magnitude) : Decimal :=
  ⟨magnitude.units * Nat.pow 5 1074, -1074⟩

/-- The first decimal found on the grids of exponents `steps - 1074` downwards. -/
def firstOnGrids
    (magnitude : Magnitude) : (steps : Nat) -> Decimal
  | 0 => magnitude.exactDecimal
  | steps + 1 =>
      match magnitude.onGrid? ((steps : Int) - 1073) with
      | some decimal => decimal
      | none => magnitude.firstOnGrids steps

/-- A number of steps whose grid has no point between zero and the magnitude:
with `length` the least exponent for which the magnitude is below `2 ^ length`
units, `10 ^ (coarsestGrid - 1074)` is at least `2 ^ (length - 1074)`, as the
common logarithm of two lies between 0.30 and 0.31. -/
def coarsestGrid (magnitude : Magnitude) : Nat :=
  let length := magnitude.significand.log2 + 1 + magnitude.shift
  if 1074 ≤ length then
    1074 + (length - 1074) * 31 / 100 + 1
  else
    1074 - (1074 - length) * 3 / 10

/-- The shortest decimal that reads back as the magnitude. -/
def shortest (magnitude : Magnitude) : Decimal :=
  magnitude.firstOnGrids magnitude.coarsestGrid

end Magnitude
end SExpr
