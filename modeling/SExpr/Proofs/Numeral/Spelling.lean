import SExpr.Proofs.Numeral.Scanning

/-!
# The spellings of numbers

What a number looks like, said by the parts that it is put together from and
without a scanner: an optional sign, a mantissa, which is digits with at most one
point among them, and an optional exponent. A text that is one of these from its
start to its end is what the scanner finds, and the scanner finds nothing else.
-/

namespace SExpr

/-- The place at which a scan stops, if it finds a numeral or the start of one. -/
def NumeralScan.place? : NumeralScan -> Option (List Char)
  | .numeral _ rest => some rest
  | .noNumeral => none
  | .noExponent rest => some rest

namespace Numeral

/-- The spellings of mantissas: digits, digits and a point with or without digits
after it, or a point and digits. -/
inductive MantissaSpelling : (whole fraction : List Char) -> List Char -> Prop
  | digits
      {whole : List Char}
      (run : DigitRun whole) :
      MantissaSpelling whole [] whole
  | point
      {whole fraction : List Char}
      (run : DigitRun whole)
      (isDigit : ∀ character ∈ fraction, character.isDigit = true) :
      MantissaSpelling whole fraction (whole ++ '.' :: fraction)
  | leadingPoint
      {fraction : List Char}
      (run : DigitRun fraction) :
      MantissaSpelling [] fraction ('.' :: fraction)

/-- The spellings of an optional exponent. -/
inductive ExponentSpelling : (exponent : Int) -> List Char -> Prop
  | absent : ExponentSpelling 0 []
  | marked
      {mark : Char}
      {exponent : Int}
      {text : List Char}
      (isMark : IsExponentMark mark)
      (spelled : IntegerSpelling exponent text) :
      ExponentSpelling exponent (mark :: text)

/-- The spellings of numerals. -/
inductive NumeralSpelling : Numeral -> List Char -> Prop
  | parts
      {negative : Bool}
      {whole fraction : List Char}
      {exponent : Int}
      {sign mantissa power : List Char}
      (signed : SignSpelling negative sign)
      (digits : MantissaSpelling whole fraction mantissa)
      (scaled : ExponentSpelling exponent power) :
      NumeralSpelling ⟨negative, whole, fraction, exponent⟩
        (sign ++ (mantissa ++ power))

/-- A text has no digit at its start, and none after a sign at its start. -/
def NoDigitAfterSign (text : List Char) : Prop :=
  ∀ negative sign digit rest,
    SignSpelling negative sign -> text = sign ++ digit :: rest ->
      digit.isDigit = false

/-- A text begins with an optional sign, a mantissa and an exponent mark that has
no exponent. -/
def LacksExponent (text : List Char) : Prop :=
  ∃ negative sign whole fraction mantissa mark more,
    SignSpelling negative sign ∧ MantissaSpelling whole fraction mantissa ∧
      IsExponentMark mark ∧ NoDigitAfterSign more ∧
      text = sign ++ (mantissa ++ mark :: more)

/-! ## Digits and signs -/

theorem leadingDigits_eq_nil_iff (text : List Char) :
    leadingDigits text = [] ↔
      ∀ digit rest, text = digit :: rest -> digit.isDigit = false := by
  cases text with
  | nil => simp [leadingDigits]
  | cons character others =>
      rw [leadingDigits, List.takeWhile_cons]
      cases isDigit : character.isDigit <;> simp_all

theorem isDigit_of_mem_leadingDigits
    {text : List Char}
    {character : Char}
    (member : character ∈ leadingDigits text) :
    character.isDigit = true :=
  List.all_eq_true.mp List.all_takeWhile character member

/-- The leading digits of a text are a run of digits if there are any. -/
theorem digitRun_leadingDigits
    {text : List Char}
    (some : leadingDigits text ≠ []) :
    DigitRun (leadingDigits text) where
  nonempty := some
  isDigit _ member := isDigit_of_mem_leadingDigits member

/-- What is found as the sign of a text is one. -/
theorem exists_signSpelling (text : List Char) :
    ∃ sign, SignSpelling (splitSign text).1 sign ∧
      sign ++ (splitSign text).2 = text := by
  unfold splitSign
  split
  · exact ⟨_, .minus, rfl⟩
  · exact ⟨_, .plus, rfl⟩
  · exact ⟨_, .absent, rfl⟩

theorem noDigitAfterSign_iff (text : List Char) :
    NoDigitAfterSign text ↔ leadingDigits (splitSign text).2 = [] := by
  rw [leadingDigits_eq_nil_iff]
  constructor
  · intro noDigit digit rest after
    obtain ⟨sign, spelled, whole⟩ := exists_signSpelling text
    rw [after] at whole
    exact noDigit _ _ _ _ spelled whole.symm
  · rintro noDigit negative sign digit rest spelled rfl
    -- A digit is no sign, so it would be what comes after the sign.
    cases isDigit : digit.isDigit with
    | false => rfl
    | true =>
        have run : DigitRun [digit] := ⟨by simp, by simp [isDigit]⟩
        have found : splitSign (sign ++ digit :: rest) =
            (negative, digit :: rest) :=
          splitSign_append spelled (splitSign_digits run)
        rw [← isDigit]
        exact noDigit digit rest (congrArg Prod.snd found)

/-! ## Whole numbers -/

section Parts

variable {text rest spelling : List Char}

/-- What is found as a whole number is spelled as one. -/
theorem exists_integerSpelling
    {value : Int}
    (found : integer? text = some (value, rest)) :
    ∃ spelling, IntegerSpelling value spelling ∧ spelling ++ rest = text := by
  obtain ⟨sign, spelled, whole⟩ := exists_signSpelling text
  unfold integer? at found
  dsimp only at found
  split at found
  · cases found
  · next digits =>
      obtain ⟨rfl, rfl⟩ := Prod.mk.inj (Option.some.inj found)
      refine ⟨_, .signed spelled (digitRun_leadingDigits digits), ?_⟩
      rw [List.append_assoc, leadingDigits_append_afterDigits, whole]

/-- A text is a whole number when one is found that goes to its end. -/
theorem integer?_eq_some_nil_iff
    (text : List Char)
    (value : Int) :
    integer? text = some (value, []) ↔ IntegerSpelling value text := by
  constructor
  · intro found
    obtain ⟨spelling, spelled, rfl⟩ := exists_integerSpelling found
    rwa [List.append_nil]
  · intro spelled
    have found : integer? (text ++ []) = some (value, []) :=
      integer?_append spelled rfl
    rwa [List.append_nil] at found

/-- No whole number is found exactly when there is no digit. -/
theorem integer?_eq_none_iff (text : List Char) :
    integer? text = none ↔ NoDigitAfterSign text := by
  rw [noDigitAfterSign_iff]
  unfold integer?
  simp

/-! ## Mantissas -/

/-- A mantissa starts with no sign. -/
theorem splitSign_mantissa
    {whole fraction : List Char}
    (spelled : MantissaSpelling whole fraction spelling)
    (rest : List Char) :
    splitSign (spelling ++ rest) = (false, spelling ++ rest) := by
  cases spelled with
  | digits run => exact splitSign_digits run
  | point run isDigit =>
      rw [List.append_assoc]
      exact splitSign_digits run
  | leadingPoint run => rfl

/-- A mantissa is found in front of a text that starts with no digit and no
point. -/
theorem splitMantissa?_append
    {whole fraction : List Char}
    (spelled : MantissaSpelling whole fraction spelling)
    (noDigit : leadingDigits rest = [])
    (noPoint : rest.head? ≠ some '.') :
    splitMantissa? (spelling ++ rest) = some (whole, fraction, rest) := by
  cases spelled with
  | digits run => exact splitMantissa?_digits run noDigit noPoint
  | point run isDigit =>
      rw [List.append_assoc, List.cons_append]
      exact splitMantissa?_point run isDigit noDigit
  | leadingPoint run =>
      have point (text : List Char) : leadingDigits ('.' :: text) = [] := rfl
      have after (text : List Char) : afterDigits ('.' :: text) = '.' :: text :=
        rfl
      rw [List.cons_append]
      unfold splitMantissa?
      simp only [point, after]
      rw [leadingDigits_append run.isDigit noDigit,
        afterDigits_append run.isDigit noDigit, if_neg run.nonempty]

/-- What is found as a mantissa is spelled as one. -/
theorem exists_mantissaSpelling
    {whole fraction : List Char}
    (found : splitMantissa? text = some (whole, fraction, rest)) :
    ∃ spelling, MantissaSpelling whole fraction spelling ∧
      spelling ++ rest = text := by
  have together := leadingDigits_append_afterDigits text
  have run := @digitRun_leadingDigits text
  unfold splitMantissa? at found
  split at found
  · next more noDigits after =>
      split at found
      · cases found
      · next digits =>
          cases found
          refine ⟨_, .leadingPoint (digitRun_leadingDigits digits), ?_⟩
          rw [List.cons_append, leadingDigits_append_afterDigits, ← together,
            noDigits, after, List.nil_append]
  · cases found
  · next more after nonempty =>
      cases found
      refine ⟨_, .point (run nonempty) ?_, ?_⟩
      · intro character member
        exact isDigit_of_mem_leadingDigits member
      · rw [List.append_assoc, List.cons_append,
          leadingDigits_append_afterDigits, ← after, together]
  · next nonempty _ _ =>
      cases found
      exact ⟨_, .digits (run nonempty), together⟩

end Parts

/-! ## Exponents -/

section Exponents

variable {negative : Bool} {whole fraction : List Char}

/-- Without a mark there is no exponent. -/
theorem scanExponent_of_not_isExponentMark
    {mark : Char}
    (noMark : ¬ IsExponentMark mark)
    (more : List Char) :
    scanExponent negative whole fraction (mark :: more) =
      .numeral ⟨negative, whole, fraction, 0⟩ (mark :: more) := by
  unfold scanExponent
  exact if_neg noMark

/-- The text after a mantissa is an exponent when a scan takes all of it. -/
theorem scanExponent_eq_numeral_iff
    (text : List Char)
    (numeral : Numeral) :
    scanExponent negative whole fraction text = .numeral numeral [] ↔
      ∃ exponent, ExponentSpelling exponent text ∧
        numeral = ⟨negative, whole, fraction, exponent⟩ := by
  constructor
  · intro scanned
    match text with
    | [] =>
        cases scanned
        exact ⟨0, .absent, rfl⟩
    | mark :: more =>
        by_cases isMark : IsExponentMark mark
        · rw [scanExponent_of_isExponentMark isMark] at scanned
          split at scanned
          · cases scanned
          · next exponent rest found =>
              cases scanned
              have spelled := (integer?_eq_some_nil_iff more exponent).mp found
              exact ⟨exponent, .marked isMark spelled, rfl⟩
        · rw [scanExponent_of_not_isExponentMark isMark] at scanned
          cases scanned
  · rintro ⟨exponent, spelled, rfl⟩
    cases spelled with
    | absent => rfl
    | marked isMark spelled =>
        rw [scanExponent_of_isExponentMark isMark,
          (integer?_eq_some_nil_iff ..).mpr spelled]

/-- The text after a mantissa is no exponent when a mark without one starts it. -/
theorem scanExponent_eq_noExponent_iff
    (text : List Char) :
    (∃ place, scanExponent negative whole fraction text = .noExponent place) ↔
      ∃ mark more, IsExponentMark mark ∧ NoDigitAfterSign more ∧
        text = mark :: more := by
  constructor
  · rintro ⟨place, scanned⟩
    match text with
    | [] => cases scanned
    | mark :: more =>
        by_cases isMark : IsExponentMark mark
        · rw [scanExponent_of_isExponentMark isMark] at scanned
          split at scanned
          · next missing =>
              have noDigit := (integer?_eq_none_iff more).mp missing
              exact ⟨mark, more, isMark, noDigit, rfl⟩
          · cases scanned
        · rw [scanExponent_of_not_isExponentMark isMark] at scanned
          cases scanned
  · rintro ⟨mark, more, isMark, noDigit, rfl⟩
    rw [scanExponent_of_isExponentMark isMark,
      (integer?_eq_none_iff more).mpr noDigit]
    exact ⟨_, rfl⟩

/-- Where the scanner of exponents stops is an end of the text. -/
theorem isSuffix_of_scanExponent
    {text place : List Char}
    (stopped :
      (scanExponent negative whole fraction text).place? = some place) :
    place <:+ text := by
  match text with
  | [] =>
      cases stopped
      exact List.suffix_rfl
  | mark :: more =>
      by_cases isMark : IsExponentMark mark
      · rw [scanExponent_of_isExponentMark isMark] at stopped
        refine List.IsSuffix.trans ?_ (List.suffix_cons mark more)
        split at stopped
        · cases stopped
          obtain ⟨sign, _, together⟩ := exists_signSpelling more
          exact ⟨sign, together⟩
        · next integer =>
            cases stopped
            obtain ⟨spelling, _, together⟩ := exists_integerSpelling integer
            exact ⟨spelling, together⟩
      · rw [scanExponent_of_not_isExponentMark isMark] at stopped
        cases stopped
        exact List.suffix_rfl

end Exponents

/-! ## Numerals -/

section Scan

variable {negative : Bool} {whole fraction sign mantissa : List Char}

/-- After a sign and a mantissa, the scanner goes on with the exponent. -/
theorem scan_append
    (signed : SignSpelling negative sign)
    (digits : MantissaSpelling whole fraction mantissa)
    {rest : List Char}
    (noDigit : leadingDigits rest = [])
    (noPoint : rest.head? ≠ some '.') :
    scan (sign ++ (mantissa ++ rest)) =
      scanExponent negative whole fraction rest := by
  unfold scan
  rw [splitSign_append signed (splitSign_mantissa digits rest)]
  dsimp only
  rw [splitMantissa?_append digits noDigit noPoint]

/-- What the scanner goes on from is the text after a sign and a mantissa. -/
theorem exists_of_scan_ne
    {text : List Char}
    (found : scan text ≠ .noNumeral) :
    ∃ negative sign whole fraction mantissa rest,
      SignSpelling negative sign ∧ MantissaSpelling whole fraction mantissa ∧
        sign ++ (mantissa ++ rest) = text ∧
        scan text = scanExponent negative whole fraction rest := by
  obtain ⟨sign, signed, together⟩ := exists_signSpelling text
  unfold scan at found ⊢
  split at found
  · exact absurd rfl found
  · next whole fraction rest split =>
      obtain ⟨mantissa, digits, unsigned⟩ := exists_mantissaSpelling split
      rw [← unsigned] at together
      exact ⟨_, sign, whole, fraction, mantissa, rest, signed, digits, together,
        rfl⟩

/-- An exponent mark is no digit and no point. -/
theorem IsExponentMark.ends_mantissa
    {mark : Char}
    (isMark : IsExponentMark mark)
    (more : List Char) :
    leadingDigits (mark :: more) = [] ∧ (mark :: more).head? ≠ some '.' := by
  obtain rfl | rfl := isMark <;> exact ⟨rfl, by simp⟩

/-- An optional exponent starts with no digit and no point. -/
theorem ExponentSpelling.ends_mantissa
    {exponent : Int}
    {power : List Char}
    (scaled : ExponentSpelling exponent power) :
    leadingDigits power = [] ∧ power.head? ≠ some '.' := by
  cases scaled with
  | absent => exact ⟨rfl, by simp⟩
  | marked isMark _ => exact isMark.ends_mantissa _

/-- A text is a numeral when the scanner takes all of it as that numeral. -/
theorem scan_eq_numeral_iff
    (text : List Char)
    (numeral : Numeral) :
    scan text = .numeral numeral [] ↔ NumeralSpelling numeral text := by
  constructor
  · intro scanned
    have found : scan text ≠ .noNumeral := by simp [scanned]
    obtain ⟨_, sign, _, _, mantissa, rest, signed, digits, rfl, exponent⟩ :=
      exists_of_scan_ne found
    rw [scanned, eq_comm, scanExponent_eq_numeral_iff] at exponent
    obtain ⟨_, scaled, rfl⟩ := exponent
    exact .parts signed digits scaled
  · rintro ⟨signed, digits, scaled⟩
    obtain ⟨digit, point⟩ := scaled.ends_mantissa
    rw [scan_append signed digits digit point, scanExponent_eq_numeral_iff]
    exact ⟨_, scaled, rfl⟩

/-- A text lacks an exponent when the scanner finds that it does. -/
theorem scan_eq_noExponent_iff (text : List Char) :
    (∃ place, scan text = .noExponent place) ↔ LacksExponent text := by
  constructor
  · rintro ⟨place, scanned⟩
    have found : scan text ≠ .noNumeral := by simp [scanned]
    obtain ⟨_, sign, _, _, mantissa, rest, signed, digits, rfl, exponent⟩ :=
      exists_of_scan_ne found
    obtain ⟨mark, more, isMark, noDigit, rfl⟩ :=
      (scanExponent_eq_noExponent_iff rest).mp
        ⟨place, exponent.symm.trans scanned⟩
    exact ⟨_, sign, _, _, mantissa, mark, more, signed, digits, isMark, noDigit,
      rfl⟩
  · rintro ⟨_, sign, _, _, mantissa, mark, more, signed, digits, isMark, noDigit,
      rfl⟩
    obtain ⟨digit, point⟩ := isMark.ends_mantissa more
    rw [scan_append signed digits digit point, scanExponent_eq_noExponent_iff]
    exact ⟨mark, more, isMark, noDigit, rfl⟩

/-- Where the scanner stops is an end of the text, be it after a numeral or where
digits are missing. -/
theorem isSuffix_of_place?
    {text place : List Char}
    (stopped : (scan text).place? = some place) :
    place <:+ text := by
  have found : scan text ≠ .noNumeral := by
    intro none
    rw [none] at stopped
    cases stopped
  obtain ⟨_, sign, _, _, mantissa, rest, _, _, rfl, exponent⟩ :=
    exists_of_scan_ne found
  rw [exponent] at stopped
  exact (isSuffix_of_scanExponent stopped).trans
    ((List.suffix_append mantissa rest).trans (List.suffix_append sign _))

/-- What the scanner leaves is the end of the text. -/
theorem isSuffix_of_scan
    {text rest : List Char}
    {numeral : Numeral}
    (scanned : scan text = .numeral numeral rest) :
    rest <:+ text :=
  isSuffix_of_place? (by rw [scanned, NumeralScan.place?])

end Scan
end Numeral
end SExpr
