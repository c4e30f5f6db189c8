import SExpr.Binary64.Text

/-!
# Scanning digits

What the numeral scanner finds in a text that is put together from a sign, runs
of digits, a point and an exponent, and the numbers that the runs denote. A
whole number in its written form is found again as that number.
-/

namespace SExpr
namespace Numeral

/-- A text of one or more decimal digits. -/
structure DigitRun (digits : List Char) : Prop where
  nonempty : digits ≠ []
  isDigit : ∀ character ∈ digits, character.isDigit = true

/-- The digits of a number are a run of digits. -/
theorem digitRun_toDigits (number : Nat) :
    DigitRun (Nat.toDigits 10 number) where
  nonempty := Nat.toDigits_ne_nil
  isDigit _ member := Nat.isDigit_of_mem_toDigits (by decide) (by decide) member

theorem digitRun_zero : DigitRun ['0'] := ⟨by simp, by simp⟩

/-- Zeros are digits. -/
theorem isDigit_of_mem_replicate_zero
    {count : Nat}
    {character : Char}
    (member : character ∈ List.replicate count '0') :
    character.isDigit = true := by
  rw [List.eq_of_mem_replicate member]
  rfl

namespace DigitRun

variable {digits : List Char}

theorem take
    (run : DigitRun digits)
    {count : Nat}
    (some : 0 < count) :
    DigitRun (digits.take count) where
  nonempty noDigits := by
    obtain none | noDigits := List.take_eq_nil_iff.mp noDigits
    · omega
    · exact run.nonempty noDigits
  isDigit character member := run.isDigit character (List.mem_of_mem_take member)

theorem drop
    (run : DigitRun digits)
    {count : Nat}
    (fewer : count < digits.length) :
    DigitRun (digits.drop count) where
  nonempty noDigits := by
    have := List.drop_eq_nil_iff.mp noDigits
    omega
  isDigit character member := run.isDigit character (List.mem_of_mem_drop member)

theorem zeros_append
    (run : DigitRun digits)
    (count : Nat) :
    DigitRun (List.replicate count '0' ++ digits) where
  nonempty := List.append_ne_nil_of_right_ne_nil _ run.nonempty
  isDigit character member := by
    obtain zero | digit := List.mem_append.mp member
    · exact isDigit_of_mem_replicate_zero zero
    · exact run.isDigit character digit

theorem append_zeros
    (run : DigitRun digits)
    (count : Nat) :
    DigitRun (digits ++ List.replicate count '0') where
  nonempty := List.append_ne_nil_of_left_ne_nil run.nonempty _
  isDigit character member := by
    obtain digit | zero := List.mem_append.mp member
    · exact run.isDigit character digit
    · exact isDigit_of_mem_replicate_zero zero

end DigitRun

/-! ## Digits in front of a text -/

variable {digits rest : List Char}

theorem leadingDigits_append
    (isDigit : ∀ character ∈ digits, character.isDigit = true)
    (noDigit : leadingDigits rest = []) :
    leadingDigits (digits ++ rest) = digits := by
  unfold leadingDigits at noDigit ⊢
  rw [List.takeWhile_append_of_pos isDigit, noDigit, List.append_nil]

theorem afterDigits_append
    (isDigit : ∀ character ∈ digits, character.isDigit = true)
    (noDigit : leadingDigits rest = []) :
    afterDigits (digits ++ rest) = rest := by
  have whole := leadingDigits_append_afterDigits rest
  rw [noDigit, List.nil_append] at whole
  unfold afterDigits at whole ⊢
  rw [List.dropWhile_append_of_pos isDigit, whole]

/-- A digit is no sign, so that a run of digits has none. -/
theorem splitSign_digits
    (run : DigitRun digits) :
    splitSign (digits ++ rest) = (false, digits ++ rest) := by
  match digits, run with
  | [], run => exact absurd rfl run.nonempty
  | first :: others, run =>
      have isDigit := run.isDigit first List.mem_cons_self
      rw [List.cons_append, splitSign.eq_def]
      split
      · next equal =>
          obtain ⟨rfl, _⟩ := List.cons.inj equal
          exact absurd isDigit (by decide)
      · next equal =>
          obtain ⟨rfl, _⟩ := List.cons.inj equal
          exact absurd isDigit (by decide)
      · rfl

/-- The spellings of an optional sign. -/
inductive SignSpelling : (negative : Bool) -> List Char -> Prop
  | absent : SignSpelling false []
  | plus : SignSpelling false ['+']
  | minus : SignSpelling true ['-']

/-- A sign is found in front of a text that has none. -/
theorem splitSign_append
    {negative : Bool}
    {sign text : List Char}
    (spelled : SignSpelling negative sign)
    (noSign : splitSign text = (false, text)) :
    splitSign (sign ++ text) = (negative, text) := by
  cases spelled with
  | absent => exact noSign
  | plus => rfl
  | minus => rfl

/-- The sign of a number as it is written. -/
def sign (negative : Bool) : List Char :=
  if negative then ['-'] else []

theorem signSpelling_sign (negative : Bool) :
    SignSpelling negative (sign negative) := by
  cases negative with
  | true => exact .minus
  | false => exact .absent

/-- The written sign is found again in front of digits. -/
theorem splitSign_sign_append
    (negative : Bool)
    (run : DigitRun digits) :
    splitSign (sign negative ++ (digits ++ rest)) =
      (negative, digits ++ rest) :=
  splitSign_append (signSpelling_sign negative) (splitSign_digits run)

/-! ## Numbers from digits -/

theorem digitsValue_toDigits (number : Nat) :
    digitsValue (Nat.toDigits 10 number) = number :=
  Nat.ofDigitChars_ten_toDigits

/-- Zeros before digits do not count. -/
theorem digitsValue_zeros_append
    (count : Nat)
    (digits : List Char) :
    digitsValue (List.replicate count '0' ++ digits) = digitsValue digits := by
  rw [digitsValue, Nat.ofDigitChars_append, Nat.ofDigitChars_replicate_zero,
    Nat.mul_zero, digitsValue]

/-- Each zero after digits is a factor of ten. -/
theorem digitsValue_append_zeros
    (digits : List Char)
    (count : Nat) :
    digitsValue (digits ++ List.replicate count '0') =
      digitsValue digits * Nat.pow 10 count := by
  rw [digitsValue, Nat.ofDigitChars_append, Nat.ofDigitChars_replicate_zero,
    Nat.mul_comm, Nat.pow_eq, digitsValue]

/-! ## The parts of a numeral -/

/-- The spellings of whole numbers: an optional sign and digits. -/
inductive IntegerSpelling : (value : Int) -> List Char -> Prop
  | signed
      {negative : Bool}
      {sign digits : List Char}
      (spelled : SignSpelling negative sign)
      (run : DigitRun digits) :
      IntegerSpelling
        (if negative then -(digitsValue digits : Int) else digitsValue digits)
        (sign ++ digits)

/-- A whole number is found in front of a text that starts with no digit. -/
theorem integer?_append
    {value : Int}
    {spelling : List Char}
    (spelled : IntegerSpelling value spelling)
    (noDigit : leadingDigits rest = []) :
    integer? (spelling ++ rest) = some (value, rest) := by
  obtain ⟨signed, run⟩ := spelled
  unfold integer?
  rw [List.append_assoc, splitSign_append signed (splitSign_digits run)]
  dsimp only
  rw [leadingDigits_append run.isDigit noDigit,
    afterDigits_append run.isDigit noDigit, if_neg run.nonempty]

/-- An integer is found in its digits and written sign. -/
theorem integer?_sign_append
    (negative : Bool)
    (run : DigitRun digits)
    (noDigit : leadingDigits rest = []) :
    integer? (sign negative ++ (digits ++ rest)) =
      some
        (if negative then -(digitsValue digits : Int) else digitsValue digits,
          rest) := by
  rw [← List.append_assoc]
  exact integer?_append (.signed (signSpelling_sign negative) run) noDigit

/-- A whole number is written in one of its spellings. -/
theorem integerSpelling_wholeNumber (number : Int) :
    IntegerSpelling number (Decimal.wholeNumber number) := by
  have spelled (negative : Bool) (size : Nat) :
      IntegerSpelling (if negative then -(size : Int) else size)
        (sign negative ++ Nat.toDigits 10 size) := by
    have signed :=
      IntegerSpelling.signed (signSpelling_sign negative) (digitRun_toDigits size)
    rwa [digitsValue_toDigits] at signed
  cases number with
  | ofNat size => exact spelled false size
  | negSucc below => exact spelled true (below + 1)

/-- A whole number is found in its written form. -/
theorem integer?_wholeNumber (number : Int) :
    integer? (Decimal.wholeNumber number) = some (number, []) := by
  have found : integer? (Decimal.wholeNumber number ++ []) = some (number, []) :=
    integer?_append (integerSpelling_wholeNumber number) rfl
  rwa [List.append_nil] at found

/-- Digits that no point follows are the whole mantissa. -/
theorem splitMantissa?_digits
    (run : DigitRun digits)
    (noDigit : leadingDigits rest = [])
    (noPoint : rest.head? ≠ some '.') :
    splitMantissa? (digits ++ rest) = some (digits, [], rest) := by
  unfold splitMantissa?
  rw [leadingDigits_append run.isDigit noDigit,
    afterDigits_append run.isDigit noDigit]
  split
  · exact absurd rfl run.nonempty
  · exact absurd rfl run.nonempty
  · exact absurd rfl noPoint
  · rfl

/-- Digits on both sides of a point are the mantissa. -/
theorem splitMantissa?_point
    {fraction : List Char}
    (run : DigitRun digits)
    (isDigit : ∀ character ∈ fraction, character.isDigit = true)
    (noDigit : leadingDigits rest = []) :
    splitMantissa? (digits ++ '.' :: (fraction ++ rest)) =
      some (digits, fraction, rest) := by
  have point : leadingDigits ('.' :: (fraction ++ rest)) = [] := rfl
  unfold splitMantissa?
  rw [leadingDigits_append run.isDigit point,
    afterDigits_append run.isDigit point]
  split
  · exact absurd rfl run.nonempty
  · exact absurd rfl run.nonempty
  · next equal =>
      obtain rfl := (List.cons.inj equal).2
      rw [leadingDigits_append isDigit noDigit,
        afterDigits_append isDigit noDigit]
  · next noPoint _ => exact (noPoint _ rfl).elim

/-- The letters that stand before an exponent. -/
def IsExponentMark (mark : Char) : Prop :=
  mark = 'e' ∨ mark = 'E'

/-- After a mark comes the exponent, as far as its digits go. -/
theorem scanExponent_of_isExponentMark
    {negative : Bool}
    {whole fraction : List Char}
    {mark : Char}
    (isMark : IsExponentMark mark)
    (more : List Char) :
    scanExponent negative whole fraction (mark :: more) =
      match integer? more with
      | none => .noExponent (splitSign more).2
      | some (exponent, rest) =>
          .numeral ⟨negative, whole, fraction, exponent⟩ rest := by
  unfold IsExponentMark at isMark
  unfold scanExponent integer?
  dsimp only
  rw [if_pos isMark]
  split <;> rfl

/-- An exponent is the integer after its mark. -/
theorem scanExponent_mark
    {negative : Bool}
    {whole fraction text : List Char}
    {exponent : Int}
    (found : integer? text = some (exponent, rest)) :
    scanExponent negative whole fraction ('e' :: text) =
      .numeral ⟨negative, whole, fraction, exponent⟩ rest := by
  rw [scanExponent_of_isExponentMark (.inl rfl), found]

end Numeral
end SExpr
