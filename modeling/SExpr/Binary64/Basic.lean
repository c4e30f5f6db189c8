/-!
# Binary64 numbers

Floating-point numbers of sixty-four bits as exact data. A finite number is a
sign and a magnitude, and a magnitude is a whole number of units, one unit
being `2 ^ -1074`, the smallest positive number of the format. All
not-a-number values are one value.

Equality of the data tells `0.0` from `-0.0`; the comparison `sameNumber` is
the arithmetic one, which does not, and by which not-a-number differs from
itself.
-/

namespace SExpr

/-- The absolute value of a finite binary64 number: `significand * 2 ^ shift`
units. The bounds leave one way to write each value. -/
structure Magnitude where
  significand : Nat
  shift : Nat
  significand_lt : significand < Nat.pow 2 53
  normal : shift = 0 ∨ Nat.pow 2 52 ≤ significand
  shift_le : shift ≤ 2045
  deriving DecidableEq

namespace Magnitude

/-- The magnitude as a number of units of `2 ^ -1074`. -/
def units (magnitude : Magnitude) : Nat :=
  magnitude.significand * Nat.pow 2 magnitude.shift

/-- The number of units in one. -/
def unitsInOne : Nat :=
  Nat.pow 2 1074

/-- The magnitude of both zeros. -/
def zero : Magnitude :=
  ⟨0, 0, by decide, Or.inl rfl, by decide⟩

@[simp] theorem units_zero : zero.units = 0 := rfl

/-- The magnitude with the given significand and shift, if the format has it. -/
def ofParts?
    (significand shift : Nat) : Option Magnitude :=
  if bounds : significand < Nat.pow 2 53 ∧
      (shift = 0 ∨ Nat.pow 2 52 ≤ significand) ∧ shift ≤ 2045 then
    some ⟨significand, shift, bounds.1, bounds.2.1, bounds.2.2⟩
  else
    none

/-- The parts of a magnitude give that magnitude back. -/
@[simp] theorem ofParts?_parts (magnitude : Magnitude) :
    ofParts? magnitude.significand magnitude.shift = some magnitude := by
  exact dif_pos
    ⟨magnitude.significand_lt, magnitude.normal, magnitude.shift_le⟩

end Magnitude

/-- A binary64 number. -/
inductive Binary64
  | nan
  | infinite (negative : Bool)
  | finite (negative : Bool) (magnitude : Magnitude)
  deriving DecidableEq

namespace Binary64

/-- The number with the given sign and magnitude, infinite when the magnitude
is past the largest finite one. -/
def ofMagnitude?
    (negative : Bool) : Option Magnitude -> Binary64
  | some magnitude => .finite negative magnitude
  | none => .infinite negative

/-- Arithmetic equality: not-a-number equals nothing, and the sign of zero is
not looked at. -/
def sameNumber : Binary64 -> Binary64 -> Bool
  | .infinite left, .infinite right => left == right
  | .finite left leftMagnitude, .finite right rightMagnitude =>
      leftMagnitude == rightMagnitude &&
        (left == right || leftMagnitude == .zero)
  | _, _ => false

/-- A number that is neither infinite nor not-a-number. -/
def IsFinite : Binary64 -> Prop
  | .finite _ _ => True
  | _ => False

instance : DecidablePred IsFinite
  | .finite _ _ => isTrue trivial
  | .nan => isFalse id
  | .infinite _ => isFalse id

@[simp] theorem nan_not_sameNumber (number : Binary64) :
    Binary64.nan.sameNumber number = false := by
  cases number <;> rfl

/-- Every number but not-a-number equals itself. -/
theorem sameNumber_self_iff (number : Binary64) :
    number.sameNumber number = true ↔ number ≠ .nan := by
  cases number <;> simp [sameNumber]

end Binary64
end SExpr
