import SExpr.Binary64.Decimal

/-!
# Decimal numerals

The spelling of numbers in text: an optional sign, digits with an optional
point, and an optional exponent. A numeral has a digit before or after its
point. `Numeral.scan` takes the longest numeral at the start of a text; an `e`
or `E` after the digits always belongs to the numeral, so one that no exponent
follows is a fault of the numeral and not its end.
-/

namespace SExpr

/-- The parts of a decimal numeral. -/
structure Numeral where
  negative : Bool
  whole : List Char
  fraction : List Char
  exponent : Int

/-- What stands at the start of a text: a numeral and the text after it, no
numeral, or a numeral whose exponent has no digits, with the text at the place
where they are missing. -/
inductive NumeralScan
  | numeral (value : Numeral) (rest : List Char)
  | noNumeral
  | noExponent (rest : List Char)

namespace Numeral

/-- Whether a text starts with a minus sign, and the text after its sign. -/
def splitSign : List Char -> Bool × List Char
  | '-' :: rest => (true, rest)
  | '+' :: rest => (false, rest)
  | text => (false, text)

/-- The longest run of decimal digits at the start of a text. -/
def leadingDigits (text : List Char) : List Char :=
  text.takeWhile Char.isDigit

/-- The text after the longest run of decimal digits at its start. -/
def afterDigits (text : List Char) : List Char :=
  text.dropWhile Char.isDigit

@[simp] theorem leadingDigits_append_afterDigits (text : List Char) :
    leadingDigits text ++ afterDigits text = text :=
  List.takeWhile_append_dropWhile

/-- A text without its sign is no longer. -/
theorem length_splitSign_le (text : List Char) :
    (splitSign text).2.length ≤ text.length := by
  unfold splitSign
  split <;> simp

/-- A text without its leading digits is no longer. -/
theorem length_afterDigits_le (text : List Char) :
    (afterDigits text).length ≤ text.length :=
  (List.dropWhile_sublist Char.isDigit).length_le

/-- A text without its leading digits is shorter if there are any. -/
theorem length_afterDigits_lt
    (text : List Char)
    (digits : leadingDigits text ≠ []) :
    (afterDigits text).length < text.length := by
  have whole := congrArg List.length (leadingDigits_append_afterDigits text)
  have := List.length_pos_iff.mpr digits
  rw [List.length_append] at whole
  omega

/-- The number that a run of decimal digits denotes. -/
def digitsValue (digits : List Char) : Nat :=
  Nat.ofDigitChars 10 digits 0

/-- The decimal integer at the start of a text, with an optional sign, and the
text after its digits. -/
def integer? (text : List Char) : Option (Int × List Char) :=
  let digits := leadingDigits (splitSign text).2
  let size : Int := digitsValue digits
  if digits = [] then
    none
  else
    some
      (if (splitSign text).1 then -size else size,
        afterDigits (splitSign text).2)

/-- An integer uses up its digits. -/
theorem length_lt_of_integer?
    {text rest : List Char}
    {value : Int}
    (found : integer? text = some (value, rest)) :
    rest.length < text.length := by
  have unsigned := length_splitSign_le text
  have digits := length_afterDigits_lt (splitSign text).2
  unfold integer? at found
  grind

/-- The digits before the point, the digits after it, and the text that
follows, if the text starts with a digit or with a point and a digit. -/
def splitMantissa?
    (text : List Char) : Option (List Char × List Char × List Char) :=
  match leadingDigits text, afterDigits text with
  | [], '.' :: more =>
      if leadingDigits more = [] then none
      else some ([], leadingDigits more, afterDigits more)
  | [], _ => none
  | whole, '.' :: more => some (whole, leadingDigits more, afterDigits more)
  | whole, rest => some (whole, [], rest)

/-- The mantissa of a numeral uses up some of the text. -/
theorem length_lt_of_splitMantissa?
    {text whole fraction rest : List Char}
    (found : splitMantissa? text = some (whole, fraction, rest)) :
    rest.length < text.length := by
  have atMost := length_afterDigits_le text
  have fewer := length_afterDigits_lt text
  unfold splitMantissa? at found
  split at found
  · next more digits after =>
      have := length_afterDigits_le more
      grind
  · simp at found
  · next more digits after =>
      have := length_afterDigits_le more
      grind
  · grind

/-- Read the exponent of a numeral whose other parts are known. -/
def scanExponent
    (negative : Bool)
    (whole fraction : List Char)
    (text : List Char) : NumeralScan :=
  match text with
  | [] => .numeral ⟨negative, whole, fraction, 0⟩ []
  | mark :: more =>
      if mark = 'e' ∨ mark = 'E' then
        let digits := (splitSign more).2
        let size : Int := digitsValue (leadingDigits digits)
        if leadingDigits digits = [] then
          .noExponent digits
        else
          .numeral
            ⟨negative, whole, fraction,
              if (splitSign more).1 then -size else size⟩
            (afterDigits digits)
      else
        .numeral ⟨negative, whole, fraction, 0⟩ (mark :: more)

/-- The text after a numeral is no longer than the text after its mantissa. -/
theorem length_le_of_scanExponent
    {negative : Bool}
    {whole fraction text rest : List Char}
    {numeral : Numeral}
    (scanned : scanExponent negative whole fraction text = .numeral numeral rest) :
    rest.length ≤ text.length := by
  unfold scanExponent at scanned
  split at scanned
  · simp_all
  · next mark more =>
      have unsigned := length_splitSign_le more
      have bound := length_afterDigits_le (splitSign more).2
      split at scanned
      · dsimp only at scanned
        split at scanned
        · simp at scanned
        · simp at scanned
          grind
      · simp at scanned
        grind

/-- Take the longest numeral at the start of a text. -/
def scan (text : List Char) : NumeralScan :=
  match splitMantissa? (splitSign text).2 with
  | none => .noNumeral
  | some (whole, fraction, rest) =>
      scanExponent (splitSign text).1 whole fraction rest

/-- A numeral uses up some of the text. -/
theorem length_lt_of_scan
    {text rest : List Char}
    {numeral : Numeral}
    (scanned : scan text = .numeral numeral rest) :
    rest.length < text.length := by
  have unsigned := length_splitSign_le text
  unfold scan at scanned
  split at scanned
  · simp at scanned
  · next found =>
      have := length_lt_of_splitMantissa? found
      have := length_le_of_scanExponent scanned
      omega

/-- The absolute value of a numeral. -/
def decimal (numeral : Numeral) : Decimal :=
  ⟨digitsValue (numeral.whole ++ numeral.fraction),
    numeral.exponent - numeral.fraction.length⟩

/-- The binary64 number nearest to a numeral. -/
def binary64 (numeral : Numeral) : Binary64 :=
  .ofMagnitude? numeral.negative numeral.decimal.nearest?

end Numeral

/-- An integer as a number of 64 bits, if it is in their range. -/
def int64? (value : Int) : Option Int64 :=
  if Int64.minValue.toInt ≤ value ∧ value ≤ Int64.maxValue.toInt then
    some (Int64.ofInt value)
  else
    none

/-- An integer is found as a number exactly when it is that number. -/
theorem int64?_eq_some_iff
    (value : Int)
    (number : Int64) :
    int64? value = some number ↔ number.toInt = value := by
  have lower := number.minValue_le_toInt
  have upper := number.toInt_le
  constructor
  · intro found
    unfold int64? at found
    split at found
    · next inside =>
        obtain rfl := Option.some.inj found
        exact Int64.toInt_ofInt_of_le inside.1 (Int.lt_add_one_of_le inside.2)
    · simp at found
  · rintro rfl
    rw [int64?, if_pos ⟨lower, upper⟩, Int64.ofInt_toInt]

/-- An integer is not found as a number exactly outside the range of 64 bits. -/
theorem int64?_eq_none_iff (value : Int) :
    int64? value = none ↔
      ¬ (Int64.minValue.toInt ≤ value ∧ value ≤ Int64.maxValue.toInt) := by
  unfold int64?
  split
  · next inRange => simp only [reduceCtorEq, inRange, and_self, not_true_eq_false]
  · next outside => simp only [outside, not_false_eq_true]

end SExpr
