import SExpr.Proofs.Binary64.Nearest
import SExpr.Proofs.Numeral.Scanning

/-!
# Reading written numbers

The text of a finite number is scanned as a numeral of that number. Its digits
are followed by a point or an exponent mark, so no integer ends where they do.

The parts of a written decimal denote that decimal itself, whether the point
stands before, among or after the first of its digits. Only a whole number in
positional form is another decimal, with the zero after its point as one more
digit.
-/

namespace SExpr
namespace Decimal

/-- A text that with either sign is a numeral of the value of a decimal, and not
an integer to its end. -/
structure Spells
    (decimal : Decimal)
    (text : List Char) : Prop where
  scanned : ∀ negative, ∃ numeral,
    Numeral.scan (Numeral.sign negative ++ text) = .numeral numeral [] ∧
      numeral.binary64 = .ofMagnitude? negative decimal.nearest?
  noInteger : ∀ negative, ∃ value mark rest,
    Numeral.integer? (Numeral.sign negative ++ text) =
        some (value, mark :: rest) ∧
      (mark = '.' ∨ mark = 'e')

/-- Digits with a mark after them spell a decimal if the numeral that is scanned
from them has its value. -/
theorem spells_of_parts
    {decimal : Decimal}
    {whole fraction tail after : List Char}
    {mark : Char}
    {exponent : Int}
    (run : Numeral.DigitRun whole)
    (marked : mark = '.' ∨ mark = 'e')
    (mantissa : Numeral.splitMantissa? (whole ++ mark :: tail) =
      some (whole, fraction, after))
    (scanned : ∀ negative,
      Numeral.scanExponent negative whole fraction after =
        .numeral ⟨negative, whole, fraction, exponent⟩ [])
    (same :
      (Decimal.mk (Numeral.digitsValue (whole ++ fraction))
        (exponent - fraction.length)).nearest? = decimal.nearest?) :
    decimal.Spells (whole ++ mark :: tail) where
  scanned := by
    intro negative
    refine ⟨⟨negative, whole, fraction, exponent⟩, ?_, ?_⟩
    · rw [Numeral.scan, Numeral.splitSign_sign_append negative run, mantissa]
      exact scanned negative
    · rw [Numeral.binary64, Numeral.decimal, same]
  noInteger := by
    intro negative
    have noDigit : Numeral.leadingDigits (mark :: tail) = [] := by
      obtain rfl | rfl := marked <;> rfl
    exact ⟨_, mark, tail,
      Numeral.integer?_sign_append negative run noDigit, marked⟩

/-- Digits on both sides of a point spell the decimal that they are the digits
of. -/
theorem spells_of_point
    {decimal : Decimal}
    (whole fraction : List Char)
    (run : Numeral.DigitRun whole)
    (isDigit : ∀ character ∈ fraction, character.isDigit = true)
    (same :
      (Decimal.mk (Numeral.digitsValue (whole ++ fraction))
        (-fraction.length)).nearest? = decimal.nearest?) :
    decimal.Spells (whole ++ '.' :: fraction) := by
  have mantissa :
      Numeral.splitMantissa? (whole ++ '.' :: (fraction ++ [])) =
        some (whole, fraction, []) :=
    Numeral.splitMantissa?_point run isDigit rfl
  have scanned (negative : Bool) :
      Numeral.scanExponent negative whole fraction [] =
        .numeral ⟨negative, whole, fraction, 0⟩ [] := rfl
  rw [List.append_nil] at mantissa
  refine spells_of_parts run (.inl rfl) mantissa scanned ?_
  rw [Int.zero_sub]
  exact same

/-! ## The forms of a decimal -/

variable (decimal : Decimal)

theorem digitRun_digitChars : Numeral.DigitRun decimal.digitChars :=
  Numeral.digitRun_toDigits decimal.digits

theorem digitsValue_digitChars :
    Numeral.digitsValue decimal.digitChars = decimal.digits :=
  Numeral.digitsValue_toDigits decimal.digits

theorem length_digitChars_pos : 0 < decimal.digitChars.length :=
  List.length_pos_iff.mpr decimal.digitRun_digitChars.nonempty

theorem pointPlace_eq :
    decimal.pointPlace = decimal.digitChars.length + decimal.exponent := rfl

/-- The point stands before all digits, with zeros between. -/
theorem spells_point_before
    (before : decimal.pointPlace ≤ 0) :
    decimal.Spells
      ('0' :: '.' :: (List.replicate (-decimal.pointPlace).toNat '0' ++
        decimal.digitChars)) := by
  have place := decimal.pointPlace_eq
  apply spells_of_point ['0'] _ Numeral.digitRun_zero
    (decimal.digitRun_digitChars.zeros_append _).isDigit
  have zeros := Numeral.digitsValue_zeros_append
    ((-decimal.pointPlace).toNat + 1) decimal.digitChars
  have exponent :
      (-((List.replicate (-decimal.pointPlace).toNat '0' ++
        decimal.digitChars).length : Int)) = decimal.exponent := by
    rw [List.length_append, List.length_replicate]
    omega
  rw [List.replicate_succ, List.cons_append,
    decimal.digitsValue_digitChars] at zeros
  rw [List.singleton_append, zeros, exponent]

/-- The point stands among the digits and splits them. -/
theorem spells_point_among
    (notBefore : 0 < decimal.pointPlace)
    (among : decimal.pointPlace < decimal.digitChars.length) :
    decimal.Spells
      (decimal.digitChars.take decimal.pointPlace.toNat ++
        '.' :: decimal.digitChars.drop decimal.pointPlace.toNat) := by
  have run := decimal.digitRun_digitChars
  have place := decimal.pointPlace_eq
  have whole : Numeral.DigitRun (decimal.digitChars.take decimal.pointPlace.toNat) :=
    run.take (by omega)
  have fraction : Numeral.DigitRun (decimal.digitChars.drop decimal.pointPlace.toNat) :=
    run.drop (by omega)
  have exponent :
      (-((decimal.digitChars.drop decimal.pointPlace.toNat).length : Int)) =
        decimal.exponent := by
    rw [List.length_drop]
    omega
  apply spells_of_point _ _ whole fraction.isDigit
  rw [List.take_append_drop, decimal.digitsValue_digitChars, exponent]

/-- The point stands after all digits and zeros, and a zero follows it. -/
theorem spells_point_after
    (after : decimal.digitChars.length ≤ decimal.pointPlace)
    (near : decimal.pointPlace ≤ 16) :
    decimal.Spells
      (decimal.digitChars ++
        List.replicate
          (decimal.pointPlace - decimal.digitChars.length).toNat '0' ++
        ['.', '0']) := by
  have run := decimal.digitRun_digitChars
  have place := decimal.pointPlace_eq
  have digits := decimal.length_digitChars_pos
  have zeros :
      (decimal.pointPlace - decimal.digitChars.length).toNat =
        decimal.exponent.toNat := by
    omega
  rw [zeros]
  apply spells_of_point _ ['0'] (run.append_zeros _) (by simp)
  have tens := Numeral.digitsValue_append_zeros decimal.digitChars
    (decimal.exponent.toNat + 1)
  have exponent : (decimal.exponent.toNat : Int) = decimal.exponent :=
    Int.toNat_of_nonneg (by omega)
  have small : decimal.exponent.toNat < 400 := by omega
  have wider :
      (Decimal.mk
        (decimal.digits * Nat.pow 10 (decimal.exponent.toNat + 1))
        (-1)).nearest? =
      (Decimal.mk decimal.digits decimal.exponent.toNat).nearest? :=
    nearest?_mul_ten_pow small
  rw [List.replicate_succ', ← List.append_assoc,
    decimal.digitsValue_digitChars] at tens
  rw [exponent] at wider
  rw [tens]
  exact wider

/-- The positional form spells the decimal when the point is not too far behind
the digits. -/
theorem spells_positional
    (near : decimal.pointPlace ≤ 16) :
    decimal.Spells decimal.positional := by
  unfold positional
  dsimp only
  split_ifs with before among
  · exact decimal.spells_point_before before
  · exact decimal.spells_point_among (Int.not_le.mp before) among
  · exact decimal.spells_point_after (Int.not_lt.mp among) near

/-- The parts of the form with an exponent are the decimal's own. -/
theorem spells_scientific : decimal.Spells decimal.scientific := by
  have run := decimal.digitRun_digitChars
  have value := decimal.digitsValue_digitChars
  have place := decimal.pointPlace_eq
  have written (negative : Bool) (whole fraction : List Char) :
      Numeral.scanExponent negative whole fraction
          ('e' :: wholeNumber (decimal.pointPlace - 1)) =
        .numeral ⟨negative, whole, fraction, decimal.pointPlace - 1⟩ [] :=
    Numeral.scanExponent_mark (Numeral.integer?_wholeNumber _)
  unfold scientific
  generalize decimal.digitChars = digits at run value place
  match digits, run with
  | [], run => exact absurd rfl run.nonempty
  | [digit], run =>
      have mantissa :
          Numeral.splitMantissa?
              ([digit] ++ 'e' :: wholeNumber (decimal.pointPlace - 1)) =
            some ([digit], [], 'e' :: wholeNumber (decimal.pointPlace - 1)) :=
        Numeral.splitMantissa?_digits run rfl (by simp)
      refine spells_of_parts run (.inr rfl) mantissa
        (fun negative => written negative [digit] []) ?_
      have exponent : decimal.pointPlace - 1 - (0 : Nat) = decimal.exponent := by
        rw [List.length_singleton] at place
        omega
      rw [List.append_nil, value, List.length_nil, exponent]
  | first :: second :: others, run =>
      have head : Numeral.DigitRun [first] := run.take Nat.one_pos
      have fraction : Numeral.DigitRun (second :: others) := run.drop (Nat.one_lt_succ_succ _)
      have mantissa :
          Numeral.splitMantissa? ([first] ++ '.' :: (second :: others ++
              'e' :: wholeNumber (decimal.pointPlace - 1))) =
            some ([first], second :: others,
              'e' :: wholeNumber (decimal.pointPlace - 1)) :=
        Numeral.splitMantissa?_point head fraction.isDigit rfl
      change decimal.Spells ([first] ++ '.' :: (second :: others ++
        'e' :: wholeNumber (decimal.pointPlace - 1)))
      refine spells_of_parts head (.inl rfl) mantissa
        (fun negative => written negative [first] (second :: others)) ?_
      have exponent :
          decimal.pointPlace - 1 - ((second :: others).length : Int) =
            decimal.exponent := by
        simp only [List.length_cons] at place ⊢
        omega
      rw [List.singleton_append, value, exponent]

/-- A written decimal spells it. -/
theorem spells_written : decimal.Spells decimal.written := by
  unfold written
  split
  · next zero =>
      refine spells_of_point ['0'] ['0'] Numeral.digitRun_zero (by simp) ?_
      rw [nearest?, if_pos (by rfl), nearest?, if_pos zero]
  · split
    · next near => exact decimal.spells_positional near.2
    · exact decimal.spells_scientific

end Decimal

namespace Binary64

/-- The text of a finite number is a numeral of it, and not an integer to its
end. -/
theorem scan_written
    {number : Binary64}
    (finite : number.IsFinite) :
    (∃ numeral, Numeral.scan number.written = .numeral numeral [] ∧
      numeral.binary64 = number) ∧
    ∃ value mark rest,
      Numeral.integer? number.written = some (value, mark :: rest) ∧
        (mark = '.' ∨ mark = 'e') := by
  match number, finite with
  | .finite negative magnitude, _ =>
      have spells := magnitude.shortest.spells_written
      refine ⟨?_, spells.noInteger negative⟩
      obtain ⟨numeral, scanned, value⟩ := spells.scanned negative
      rw [magnitude.nearest?_shortest] at value
      exact ⟨numeral, scanned, value⟩

end Binary64
end SExpr
