import SExpr.Datum.Printer
import SExpr.Proofs.Binary64.RoundTrip
import SExpr.Proofs.Highlight.Pieces
import SExpr.Proofs.Numeral.Spelling

/-!
# Printed numbers

A number is printed as digits with an optional sign, with an optional fraction and with an
optional exponent. The pattern for numbers tries to go on at each of these points before it
gives one up, so on such a text its first way is the whole of it, and that ends at the end of a
word. A printed number is therefore one piece.
-/

namespace SExpr

open Numeral (DigitRun ExponentSpelling IntegerSpelling SignSpelling)

/-- The spellings of an optional fraction. -/
inductive FractionSpelling : List Char -> Prop
  | absent : FractionSpelling []
  | digits
      {fraction : List Char}
      (run : DigitRun fraction) :
      FractionSpelling ('.' :: fraction)

/-- Digits with an optional fraction and an optional exponent. -/
inductive MagnitudeText : List Char -> Prop
  | parts
      {whole fraction power : List Char}
      {exponent : Int}
      (run : DigitRun whole)
      (spelled : FractionSpelling fraction)
      (scaled : ExponentSpelling exponent power) :
      MagnitudeText (whole ++ (fraction ++ power))

/-- Digits on both sides of a point. -/
theorem magnitudeText_of_point
    {whole fraction : List Char}
    (wholeRun : DigitRun whole)
    (fractionRun : DigitRun fraction) :
    MagnitudeText (whole ++ '.' :: fraction) := by
  have text := MagnitudeText.parts wholeRun (.digits fractionRun) .absent
  rwa [List.append_nil] at text

theorem magnitudeText_toDigits (size : Nat) :
    MagnitudeText (Nat.toDigits 10 size) := by
  have text :=
    MagnitudeText.parts (Numeral.digitRun_toDigits size) .absent .absent
  rwa [List.append_nil, List.append_nil] at text

/-! ## The numbers that are printed -/

namespace Decimal

variable (decimal : Decimal)

theorem magnitudeText_positional : MagnitudeText decimal.positional := by
  have run := decimal.digitRun_digitChars
  unfold positional
  dsimp only
  split_ifs with before among
  · apply magnitudeText_of_point Numeral.digitRun_zero
    exact run.zeros_append _
  · apply magnitudeText_of_point
    · exact run.take (by omega)
    · exact run.drop (by omega)
  · exact magnitudeText_of_point (run.append_zeros _) Numeral.digitRun_zero

theorem magnitudeText_scientific : MagnitudeText decimal.scientific := by
  have run := decimal.digitRun_digitChars
  have power :
      ExponentSpelling (decimal.pointPlace - 1)
        ('e' :: wholeNumber (decimal.pointPlace - 1)) :=
    .marked (.inl rfl) (Numeral.integerSpelling_wholeNumber _)
  unfold scientific
  generalize decimal.digitChars = digits at run
  match digits, run with
  | [], run => exact absurd rfl run.nonempty
  | [digit], run => exact .parts run .absent power
  | first :: second :: others, run =>
      have whole : DigitRun [first] := run.take Nat.one_pos
      have fraction : DigitRun (second :: others) := run.drop (Nat.one_lt_succ_succ _)
      exact .parts whole (.digits fraction) power

/-- A written decimal has digits on both sides of its point, if it has one. -/
theorem magnitudeText_written : MagnitudeText decimal.written := by
  unfold written
  split_ifs
  · exact magnitudeText_of_point Numeral.digitRun_zero Numeral.digitRun_zero
  · exact decimal.magnitudeText_positional
  · exact decimal.magnitudeText_scientific

end Decimal

/-- The numbers that have digits: integers and finite floats. -/
inductive Datum.IsNumber : Datum -> Prop
  | integer (value : Int64) : IsNumber (.integer value)
  | float
      {value : Binary64}
      (finite : value.IsFinite) :
      IsNumber (.float value)

/-- A printed number is a sign, if there is one, and its magnitude. -/
theorem Datum.IsNumber.exists_parts
    {datum : Datum}
    (number : datum.IsNumber) :
    ∃ negative sign magnitude, SignSpelling negative sign ∧ MagnitudeText magnitude ∧
      datum.written = sign ++ magnitude := by
  cases number with
  | integer value =>
      rw [written, writtenBefore, List.append_nil]
      cases value.toInt with
      | ofNat size => exact ⟨_, _, _, .absent, magnitudeText_toDigits size, rfl⟩
      | negSucc below =>
          exact ⟨_, _, _, .minus, magnitudeText_toDigits (below + 1), rfl⟩
  | @float value finite =>
      rw [written, writtenBefore, List.append_nil]
      cases value with
      | nan => cases finite
      | infinite negative => cases finite
      | finite negative magnitude =>
          exact ⟨_, _, _, Numeral.signSpelling_sign negative,
            magnitude.shortest.magnitudeText_written, rfl⟩

/-! ## The match of a number -/

namespace Unicode

theorem isDecimalDigit_of_isDigit
    {character : Char}
    (isDigit : character.isDigit = true) :
    isDecimalDigit character = true := by
  have ascii : character.toNat < 128 := by
    simp only [Char.isDigit, Bool.and_eq_true, decide_eq_true_eq, ge_iff_le] at isDigit
    exact Nat.lt_of_le_of_lt isDigit.2 (by decide)
  rw [isDecimalDigit, if_pos ascii, isDigit]

theorem isWordCharacter_of_isDecimalDigit
    {character : Char}
    (isDigit : isDecimalDigit character = true) :
    isWordCharacter character = true := by
  simp [isWordCharacter, isDigit]

end Unicode

namespace Highlight

open Pattern (InWord IsWord lastCharacter)

namespace Style

/-- A point with or without digits after it. -/
def fraction : Pattern :=
  .both (.character '.') (.many Unicode.isDecimalDigit)

/-- An exponent mark, an optional sign and digits. -/
def exponent : Pattern :=
  .inOrder [.oneOf ['e', 'E'], sign, digits]

theorem numberPattern_eq_inOrder :
    numberPattern =
      .inOrder
        [sign, .boundary, digits, .optional fraction, .optional exponent, .boundary] := rfl

end Style

/-- One or more decimal digits of any script. -/
structure DecimalRun (digits : List Char) : Prop where
  nonempty : digits ≠ []
  isDecimalDigit : ∀ character ∈ digits, Unicode.isDecimalDigit character = true

section

variable {previous : Option Char} {digits fraction power after : List Char}

theorem DecimalRun.isWord (run : DecimalRun digits) : IsWord digits where
  nonempty := run.nonempty
  isWordCharacter character member :=
    Unicode.isWordCharacter_of_isDecimalDigit (run.isDecimalDigit character member)

theorem decimalRun_of_digitRun (run : DigitRun digits) : DecimalRun digits where
  nonempty := run.nonempty
  isDecimalDigit character member :=
    Unicode.isDecimalDigit_of_isDigit (run.isDigit character member)

theorem isWord_of_digitRun (run : DigitRun digits) : IsWord digits :=
  (decimalRun_of_digitRun run).isWord

theorem inWord_lastCharacter_fraction
    (inWord : InWord previous)
    (spelled : FractionSpelling fraction) :
    InWord (lastCharacter previous fraction) := by
  cases spelled with
  | absent => exact inWord
  | digits run =>
      rw [Pattern.lastCharacter_cons]
      exact (isWord_of_digitRun run).inWord_lastCharacter _

theorem inWord_lastCharacter_exponent
    {exponent : Int}
    (inWord : InWord previous)
    (scaled : ExponentSpelling exponent power) :
    InWord (lastCharacter previous power) := by
  cases scaled with
  | absent => exact inWord
  | marked _ spelled =>
      obtain ⟨_, run⟩ := spelled
      rw [Pattern.lastCharacter_cons, Pattern.lastCharacter_append]
      exact (isWord_of_digitRun run).inWord_lastCharacter _

theorem prefers_digits
    (run : DecimalRun digits)
    (ends : after.head?.any Unicode.isDecimalDigit = false) :
    Style.digits.Prefers previous digits after := by
  obtain ⟨nonempty, accepted⟩ := run
  obtain ⟨first, others, rfl⟩ := List.exists_cons_of_ne_nil nonempty
  rw [List.forall_mem_cons] at accepted
  apply Pattern.prefers_both (Pattern.prefers_one accepted.1)
  exact Pattern.prefers_many accepted.2 ends

theorem head?_digits_append
    (run : DigitRun digits)
    (after : List Char) :
    ∃ digit, digit.isDigit = true ∧ (digits ++ after).head? = some digit := by
  match digits, run with
  | [], run => exact absurd rfl run.nonempty
  | first :: others, run => exact ⟨first, run.isDigit first List.mem_cons_self, rfl⟩

theorem prefers_sign
    {negative : Bool}
    {sign : List Char}
    {digit : Char}
    (signed : SignSpelling negative sign)
    (isDigit : digit.isDigit = true)
    (starts : after.head? = some digit) :
    Style.sign.Prefers previous sign after := by
  cases signed with
  | plus => exact Pattern.prefers_either (Pattern.prefers_one rfl) _
  | minus => exact Pattern.prefers_either (Pattern.prefers_one rfl) _
  | absent =>
      -- A digit is no sign, so that only the empty alternative is left.
      have noSign : after.head?.any ['+', '-'].contains = false := by
        rw [starts, Option.any_some, List.contains_eq_mem, decide_eq_false_iff_not]
        intro member
        simp only [List.mem_cons, List.not_mem_nil, or_false] at member
        obtain rfl | rfl := member <;> exact absurd isDigit (by decide)
      apply Pattern.prefers_other _ Pattern.prefers_empty
      rw [List.nil_append, Pattern.oneOf, Pattern.ways]
      exact Pattern.oneWays_eq_nil noSign

/-- What follows a fraction starts with no digit and no point. -/
theorem head?_exponent
    {exponent : Int}
    (scaled : ExponentSpelling exponent power) :
    power.head?.any Unicode.isDecimalDigit = false ∧
      power.head?.any (· == '.') = false := by
  cases scaled with
  | absent => exact ⟨rfl, rfl⟩
  | marked isMark _ => obtain rfl | rfl := isMark <;> exact ⟨rfl, rfl⟩

theorem prefers_fraction
    {exponent : Int}
    (spelled : FractionSpelling fraction)
    (scaled : ExponentSpelling exponent power) :
    Style.fraction.optional.Prefers previous fraction power := by
  obtain ⟨noDigit, noPoint⟩ := head?_exponent scaled
  cases spelled with
  | absent =>
      apply Pattern.prefers_other _ Pattern.prefers_empty
      rw [List.nil_append, Style.fraction, Pattern.ways, Pattern.character, Pattern.ways,
        Pattern.oneWays_eq_nil noPoint, List.flatMap_nil]
  | @digits fraction run =>
      apply Pattern.prefers_either
      rw [← List.singleton_append]
      apply Pattern.prefers_both (Pattern.prefers_one rfl)
      apply Pattern.prefers_many _ noDigit
      intro character member
      exact Unicode.isDecimalDigit_of_isDigit (run.isDigit character member)

theorem prefers_exponent
    {exponent : Int}
    (scaled : ExponentSpelling exponent power) :
    Style.exponent.optional.Prefers previous power [] := by
  cases scaled with
  | absent => exact Pattern.prefers_other rfl Pattern.prefers_empty
  | @marked mark _ _ isMark spelled =>
      obtain @⟨_, sign, digits, signed, run⟩ := spelled
      have accepted : ['e', 'E'].contains mark = true := by
        obtain rfl | rfl := isMark <;> rfl
      have whole :
          Style.exponent.Prefers previous ([mark] ++ (sign ++ (digits ++ []))) [] := by
        obtain ⟨digit, isDigit, starts⟩ := head?_digits_append run []
        apply Pattern.prefers_both (Pattern.prefers_one accepted)
        rw [List.append_nil] at starts
        apply Pattern.prefers_both
        · rw [List.append_nil, List.append_nil]
          exact prefers_sign signed isDigit starts
        apply Pattern.prefers_both (prefers_digits (decimalRun_of_digitRun run) rfl)
        exact Pattern.prefers_empty
      rw [List.append_nil] at whole
      exact Pattern.prefers_either whole _

/-- The punctuation within numbers and before booleans is in no word. -/
theorem not_inWord_mark :
    ∀ mark ∈ ['+', '-', '.', '#'], ¬ InWord (some mark) := by
  have noWord : ['+', '-', '.', '#'].any Unicode.isWordCharacter = false := by
    decide +kernel
  exact List.any_eq_false.mp noWord

theorem not_inWord_lastCharacter_sign
    {negative : Bool}
    {sign : List Char}
    (outside : ¬ InWord previous)
    (signed : SignSpelling negative sign) :
    ¬ InWord (lastCharacter previous sign) := by
  cases signed with
  | absent => exact outside
  | plus => exact not_inWord_mark '+' (by simp)
  | minus => exact not_inWord_mark '-' (by simp)

/-- The pattern for numbers takes the whole of a number that has digits on both sides of its
point, if it has one. -/
theorem prefers_number
    {negative : Bool}
    {sign magnitude : List Char}
    (outside : ¬ InWord previous)
    (signed : SignSpelling negative sign)
    (digits : MagnitudeText magnitude) :
    Style.numberPattern.Prefers previous (sign ++ magnitude) [] := by
  obtain @⟨whole, fraction, power, _, run, spelled, scaled⟩ := digits
  obtain ⟨digit, isDigit, starts⟩ := head?_digits_append run (fraction ++ power)
  have startsWord :
      Pattern.isBoundary (lastCharacter previous sign)
        (whole ++ (fraction ++ power)).head? = true :=
    ((isWord_of_digitRun run).isBoundary_head?_iff _ _).mpr
      (not_inWord_lastCharacter_sign outside signed)
  have noDigit : (fraction ++ power).head?.any Unicode.isDecimalDigit = false := by
    cases spelled with
    | absent => exact (head?_exponent scaled).1
    | digits _ => rfl
  have endsWord (before : Option Char) :
      Pattern.isBoundary
        (lastCharacter (lastCharacter (lastCharacter before whole) fraction) power)
        none = true := by
    have whole := (isWord_of_digitRun run).inWord_lastCharacter before
    have inWord :=
      inWord_lastCharacter_exponent (inWord_lastCharacter_fraction whole spelled) scaled
    simp only [Pattern.isBoundary_iff, inWord, true_iff]
    exact Bool.false_ne_true
  -- The two empty parts are where the boundaries stand.
  have parts :
      Style.numberPattern.Prefers previous
        (sign ++ ([] ++ (whole ++ (fraction ++ (power ++ ([] ++ [])))))) [] := by
    rw [Style.numberPattern_eq_inOrder]
    apply Pattern.prefers_both
    · simpa using prefers_sign signed isDigit starts
    apply Pattern.prefers_both
    · apply Pattern.prefers_boundary
      simpa using startsWord
    apply Pattern.prefers_both
    · apply prefers_digits (decimalRun_of_digitRun run)
      simpa using noDigit
    apply Pattern.prefers_both
    · simpa using prefers_fraction spelled scaled
    apply Pattern.prefers_both (prefers_exponent scaled)
    apply Pattern.prefers_both _ Pattern.prefers_empty
    apply Pattern.prefers_boundary
    exact endsWord _
  simpa using parts

end

/-- A number does not start like a comment. -/
theorem ways_comment_number
    {negative : Bool}
    {sign magnitude : List Char}
    (previous : Option Char)
    (signed : SignSpelling negative sign)
    (digits : MagnitudeText magnitude) :
    Style.comment.pattern.ways previous (sign ++ magnitude) = [] := by
  cases signed with
  | plus => exact ways_comment (by decide) previous magnitude
  | minus => exact ways_comment (by decide) previous magnitude
  | absent =>
      obtain ⟨run, _, _⟩ := digits
      obtain ⟨digit, isDigit, starts⟩ := head?_digits_append run _
      obtain ⟨rest, text⟩ := List.head?_eq_some_iff.mp starts
      rw [List.nil_append, text]
      apply ways_comment
      rintro rfl
      exact absurd isDigit (by decide)

/-- A printed number is one piece of its line. -/
theorem pieces_written
    {datum : Datum}
    (number : datum.IsNumber) :
    pieces datum.written = [.styled .number datum.written] := by
  obtain ⟨negative, sign, magnitude, signed, digits, together⟩ := number.exists_parts
  have order :
      Style.all = [.comment] ++ .number :: [.keyword, .literal, .paren] := rfl
  have first : StyleFirst none .number datum.written [] := by
    rw [together]
    apply styleFirst_of_prefers order
    · intro other listed
      rw [List.mem_singleton.mp listed, List.append_nil]
      exact ways_comment_number none signed digits
    · exact prefers_number Bool.false_ne_true signed digits
  have cut := piecesAfter_of_styleFirst first
  rwa [List.append_nil, piecesAfter_nil] at cut

/-- Every number that can be printed is painted as one number. -/
theorem line_written
    {datum : Datum}
    (number : datum.IsNumber) :
    pieces datum.written = [.styled .number datum.written] ∧
      line datum.written =
        Style.escape "35" ++ datum.written ++ Style.escape "39" := by
  have cut := pieces_written number
  refine ⟨cut, ?_⟩
  rw [line, cut, List.flatMap_cons, List.flatMap_nil, List.append_nil, Piece.painted]
  rfl

/-- The magnitude of three times `2 ^ -32`. -/
def smallMagnitude : Magnitude :=
  ⟨3 * Nat.pow 2 51, 991, by decide, .inr (by decide), by decide⟩

/-- The smallest integer, and a small number with a sign, a fraction and an exponent. -/
theorem line_written_smallest :
    (Datum.integer Int64.minValue).IsNumber ∧
      line "-9223372036854775808".toList =
        Style.escape "35" ++ "-9223372036854775808".toList ++ Style.escape "39" ∧
      (Datum.float (.finite true smallMagnitude)).IsNumber ∧
      line "-6.984919309616089e-10".toList =
        Style.escape "35" ++ "-6.984919309616089e-10".toList ++ Style.escape "39" := by
  have smallest :
      (Datum.integer Int64.minValue).written = "-9223372036854775808".toList := by
    decide +kernel
  have small :
      (Datum.float (.finite true smallMagnitude)).written = "-6.984919309616089e-10".toList := by
    decide +kernel
  have isInteger := Datum.IsNumber.integer Int64.minValue
  have isFloat : (Datum.float (.finite true smallMagnitude)).IsNumber := .float trivial
  refine ⟨isInteger, ?_, isFloat, ?_⟩
  · rw [← smallest]
    exact (line_written isInteger).2
  · rw [← small]
    exact (line_written isFloat).2

end Highlight

end SExpr
