import SExpr.Binary64.Shortest
import Mathlib.Tactic.Ring

/-!
# Decimals that read back

The binary64 magnitude nearest to a quotient does not depend on how the quotient
is written, and a quotient that is a magnitude is rounded to that magnitude. So
the decimal that writes out a magnitude in full reads back as it, and with it the
shortest decimal, whatever grid it is found on.
-/

namespace SExpr

/-- Rounding a quotient does not depend on a common factor. -/
theorem nearestQuotient_mul_mul
    {factor : Nat}
    (positive : 0 < factor)
    (numerator denominator : Nat) :
    nearestQuotient (factor * numerator) (factor * denominator) =
      nearestQuotient numerator denominator := by
  have doubled : 2 * (factor * (numerator % denominator)) =
      factor * (2 * (numerator % denominator)) := by
    ring
  unfold nearestQuotient
  simp only [Nat.mul_div_mul_left _ _ positive, Nat.mul_mod_mul_left, doubled,
    Nat.mul_lt_mul_left positive, Nat.mul_right_inj (Nat.ne_of_gt positive)]

namespace Magnitude

/-- The nearest magnitude does not depend on a common factor. -/
theorem nearest?_mul_mul
    {factor : Nat}
    (positive : 0 < factor)
    (numerator denominator : Nat) :
    nearest? (factor * numerator) (factor * denominator) =
      nearest? numerator denominator := by
  unfold nearest?
  simp only [Nat.mul_assoc, Nat.mul_div_mul_left _ _ positive,
    nearestQuotient_mul_mul positive]

/-- The shift of a magnitude is the least one for which its units have at most 53
binary digits after it. -/
theorem log2_units_sub_eq_shift (magnitude : Magnitude) :
    magnitude.units.log2 + 1 - 53 = magnitude.shift := by
  have below := magnitude.significand_lt
  simp only [Nat.pow_eq] at below
  rw [units, Nat.pow_eq]
  obtain noShift | large := magnitude.normal
  · rw [noShift, Nat.pow_zero, Nat.mul_one]
    by_cases zero : magnitude.significand = 0
    · simp [zero]
    · have := (Nat.log2_lt zero).mpr below
      omega
  · rw [Nat.pow_eq] at large
    have positive : magnitude.significand * 2 ^ magnitude.shift ≠ 0 := by
      have := Nat.two_pow_pos magnitude.shift
      have := Nat.two_pow_pos 52
      apply Nat.mul_ne_zero <;> omega
    have length :
        (magnitude.significand * 2 ^ magnitude.shift).log2 =
          52 + magnitude.shift := by
      rw [Nat.log2_eq_iff positive]
      constructor
      · rw [Nat.pow_add]
        exact Nat.mul_le_mul_right _ large
      · rw [show 52 + magnitude.shift + 1 = 53 + magnitude.shift by omega,
          Nat.pow_add]
        exact Nat.mul_lt_mul_of_pos_right below
          (Nat.two_pow_pos magnitude.shift)
    omega

/-- A quotient that is a magnitude is rounded to it. -/
theorem nearest?_of_exact
    {magnitude : Magnitude}
    {numerator denominator : Nat}
    (positive : 0 < denominator)
    (exact : numerator * unitsInOne = magnitude.units * denominator) :
    nearest? numerator denominator = some magnitude := by
  have scaled :
      magnitude.units * denominator =
        magnitude.significand *
          (denominator * Nat.pow 2 magnitude.shift) := by
    rw [units]
    ring
  have grid : 0 < denominator * Nat.pow 2 magnitude.shift :=
    Nat.mul_pos positive (Nat.two_pow_pos magnitude.shift)
  have below : magnitude.significand ≠ Nat.pow 2 53 :=
    Nat.ne_of_lt magnitude.significand_lt
  unfold nearest?
  simp only [exact, Nat.mul_div_cancel _ positive, log2_units_sub_eq_shift]
  rw [scaled, nearestQuotient_mul _ grid, if_neg below, ofParts?_parts]

/-- Only zero has no units. -/
theorem eq_zero_of_units_eq_zero
    {magnitude : Magnitude}
    (noUnits : magnitude.units = 0) :
    magnitude = zero := by
  obtain ⟨significand, shift, below, normal, bound⟩ := magnitude
  have nothing : significand = 0 := by
    rw [units, Nat.pow_eq] at noUnits
    exact (Nat.mul_eq_zero.mp noUnits).resolve_right
      (Nat.ne_of_gt (Nat.two_pow_pos shift))
  obtain rfl | large := normal
  · subst nothing
    rfl
  · subst nothing
    exact absurd large (by decide)

/-- A factor of five for every two binary digits makes a number that is not zero
at least that long. -/
theorem two_mul_le_log2_mul_pow_five
    {factor : Nat}
    (positive : 0 < factor)
    (count : Nat) :
    factor * Nat.pow 5 count ≠ 0 ∧
      2 * count ≤ (factor * Nat.pow 5 count).log2 := by
  have large : 2 ^ (2 * count) ≤ factor * 5 ^ count := by
    calc 2 ^ (2 * count) = (2 ^ 2) ^ count := Nat.pow_mul 2 2 count
      _ ≤ 5 ^ count := Nat.pow_le_pow_left (by decide) count
      _ ≤ factor * 5 ^ count := Nat.le_mul_of_pos_left _ positive
  have some : factor * 5 ^ count ≠ 0 := by
    have := Nat.two_pow_pos (2 * count)
    omega
  exact ⟨some, (Nat.le_log2 some).mpr large⟩

/-- Twos and fives in equal number make tens. -/
theorem mul_pow_five_mul_pow_two
    (factor count : Nat) :
    factor * Nat.pow 5 count * Nat.pow 10 0 * Nat.pow 2 count =
      factor * Nat.pow 10 count := by
  simp only [Nat.pow_eq, Nat.pow_zero, Nat.mul_one]
  rw [Nat.mul_assoc, ← Nat.mul_pow]

/-- The decimal that writes out a magnitude in full reads back as it. -/
theorem nearest?_exactDecimal (magnitude : Magnitude) :
    magnitude.exactDecimal.nearest? = some magnitude := by
  obtain nothing | positive := Nat.eq_zero_or_pos magnitude.units
  -- Zero has no digits in any form; of other magnitudes the exact form is so
  -- long that no early answer applies.
  · have noDigits : magnitude.exactDecimal.digits = 0 := by
      simp only [exactDecimal, nothing, Nat.zero_mul]
    rw [Decimal.nearest?, if_pos noDigits, eq_zero_of_units_eq_zero nothing]
  · obtain ⟨digits, long⟩ := two_mul_le_log2_mul_pow_five positive 1074
    rw [Decimal.nearest?, exactDecimal]
    dsimp only
    rw [if_neg digits, if_neg (by omega), if_neg (by omega)]
    refine nearest?_of_exact ?_ ?_
    · exact Nat.pow_pos (by decide)
    · exact mul_pow_five_mul_pow_two magnitude.units 1074

/-- The decimal found on the grids reads back as the magnitude. -/
theorem nearest?_firstOnGrids
    (magnitude : Magnitude)
    (steps : Nat) :
    (magnitude.firstOnGrids steps).nearest? = some magnitude := by
  induction steps with
  | zero => exact nearest?_exactDecimal magnitude
  | succ steps inductionHypothesis =>
      rw [firstOnGrids]
      split
      · next found => exact nearest?_of_onGrid? found
      · exact inductionHypothesis

/-- The shortest decimal reads back as the magnitude. -/
theorem nearest?_shortest (magnitude : Magnitude) :
    magnitude.shortest.nearest? = some magnitude :=
  nearest?_firstOnGrids magnitude _

end Magnitude

namespace Decimal

/-- A decimal that is no fraction reads like the one with a fraction digit more,
the digit being zero. -/
theorem nearest?_mul_ten_pow
    {digits exponent : Nat}
    (small : exponent < 400) :
    (Decimal.mk (digits * Nat.pow 10 (exponent + 1)) (-1)).nearest? =
      (Decimal.mk digits exponent).nearest? := by
  unfold nearest?
  by_cases nothing : digits = 0
  · simp [nothing]
  · have some : digits * Nat.pow 10 (exponent + 1) ≠ 0 :=
      Nat.mul_ne_zero nothing (Nat.pos_iff_ne_zero.mp (Nat.pow_pos (by decide)))
    simp only [if_neg nothing, if_neg some]
    rw [if_neg (by omega), if_neg (by omega), if_neg (by omega),
      if_neg (by omega)]
    have numerators :
        (Decimal.mk (digits * Nat.pow 10 (exponent + 1)) (-1)).numerator =
          10 * (Decimal.mk digits exponent).numerator := by
      simp [numerator, Nat.pow_succ]
      ring
    have denominators :
        (Decimal.mk (digits * Nat.pow 10 (exponent + 1)) (-1)).denominator =
          10 * (Decimal.mk digits exponent).denominator := by
      simp [denominator]
    rw [numerators, denominators, Magnitude.nearest?_mul_mul (by decide)]

end Decimal
end SExpr
