import SExpr.Proofs.Reader.Replacement

/-!
# Integers wherever they stand

Digits between blanks, with or without a sign, are an integer or nothing at all. Where a
datum is read, they are read as the number that they denote if it has 64 bits. Otherwise
they end all reading: they are no float and no symbol then, and no list or quotation
around them hides the failure.
-/

namespace SExpr
namespace Reader

open Numeral (IntegerSpelling)

/-! ## Integers as runs -/

theorem not_mem_delimiters_of_isDigit
    {character : Char}
    (isDigit : character.isDigit = true) :
    character ∉ delimiters := by
  intro member
  have isAll : delimiters.all (fun character => !character.isDigit) = true := by decide
  have notDigit := List.all_eq_true.mp isAll character member
  rw [isDigit] at notDigit
  cases notDigit

section Integer

variable {value : Int} {text : List Char} (spelled : IntegerSpelling value text)

include spelled

/-- An integer is one token. -/
theorem isRun_of_integerSpelling : IsRun text := by
  cases spelled with
  | signed signed run =>
      refine ⟨by simp [run.nonempty], ?_⟩
      intro character member
      rcases List.mem_append.mp member with inSign | inDigits
      · cases signed with
        | absent => cases inSign
        | plus =>
            obtain rfl := List.mem_singleton.mp inSign
            decide
        | minus =>
            obtain rfl := List.mem_singleton.mp inSign
            decide
      · exact not_mem_delimiters_of_isDigit (run.isDigit character inDigits)

/-- An integer of 64 bits is read as that number. -/
theorem readAtom_of_integerSpelling
    {number : Int64}
    (exact : number.toInt = value) :
    readAtom text = .taken (.integer number) [] := by
  subst exact
  have undelimited := (isRun_of_integerSpelling spelled).undelimited
  exact (readAtom_eq_taken_nil_iff undelimited _).mpr (.integer spelled)

/-- Any other integer is a failure at its first character. -/
theorem readAtom_of_integerSpelling_of_outside
    (outside : int64? value = none) :
    readAtom text = .failed ⟨.integerOutOfRange, text⟩ := by
  have undelimited := (isRun_of_integerSpelling spelled).undelimited
  have token := (integerToken?_eq_some_iff undelimited value []).mpr ⟨spelled, rfl⟩
  unfold readAtom
  rw [token]
  dsimp only
  rw [outside]

end Integer

end Reader

open Numeral (IntegerSpelling)
open Reader (between isRun_of_integerSpelling)

/-- A gap in a list under a quote mark, behind a symbol of two bytes. -/
def quotedGap : Gap where
  before := [.symbol "é"]
  hole :=
    .inside [Form.quote.head] (.inside [.symbol "a"] .whole [(Datum.symbol "b").quoted]) []
  after := [.boolean true]

/-- An integer between blanks is exact or fatal wherever a datum is read. If two symbols
in its place lead to different data, those are some data with exactly one gap for the
symbols. With an integer of 64 bits there, the data are the same with that number in the
gap, and with any other integer there is an error at its first character, whatever lists
and quotations it stands in. -/
theorem readProgram_integer_between
    {before after text : List Char}
    {withX withY : List Datum}
    {value : Int}
    (readX : readProgram (between before ['x'] after) = .ok withX)
    (readY : readProgram (between before ['y'] after) = .ok withY)
    (differ : withX ≠ withY)
    (spelled : IntegerSpelling value text) :
    ∃ gap : Gap,
      (∀ place : Gap,
        withX = place.fill (.symbol "x") ∧ withY = place.fill (.symbol "y") ↔
          place = gap) ∧
      (Int64.minValue.toInt ≤ value ∧ value ≤ Int64.maxValue.toInt ->
        ∃ number : Int64, number.toInt = value ∧
          readProgram (between before text after) = .ok (gap.fill (.integer number))) ∧
      (¬ (Int64.minValue.toInt ≤ value ∧ value ≤ Int64.maxValue.toInt) ->
        ∃ error : Error,
          readProgram (between before text after) = .error error ∧
          error.report = .unreadable
            s!"integer literal out of range at offset {Utf8.byteLength before + 1}") := by
  have atomX : Reader.readAtom ['x'] = .taken (.symbol "x") [] := rfl
  have atomY : Reader.readAtom ['y'] = .taken (.symbol "y") [] := rfl
  obtain ⟨gap, unique, filled⟩ :=
    exists_gap_of_readProgram_ne atomX atomY readX readY differ
  have outcome := filled text (isRun_of_integerSpelling spelled)
  refine ⟨gap, unique, ?_, ?_⟩
  · intro inRange
    cases found : int64? value with
    | none => exact absurd inRange ((int64?_eq_none_iff value).mp found)
    | some number =>
        have exact := (int64?_eq_some_iff value number).mp found
        exact ⟨number, exact,
          outcome.ofTaken _ (Reader.readAtom_of_integerSpelling spelled exact)⟩
  · intro outOfRange
    have outside := (int64?_eq_none_iff value).mpr outOfRange
    refine ⟨_, outcome.ofFailed _
      (Reader.readAtom_of_integerSpelling_of_outside spelled outside), ?_⟩
    rw [← Reader.offset_between before text after]
    rfl

/-- The least integer of 64 bits, with zeros in front, and the least one above them, in a
list under a quote mark and behind a comment. -/
theorem readProgram_integer_between_extremes :
    readProgram (between "é '(a ;x\n".toList ['x'] "'b) #t".toList) =
        .ok (quotedGap.fill (.symbol "x")) ∧
      readProgram (between "é '(a ;x\n".toList "-009223372036854775808".toList
          "'b) #t".toList) =
        .ok (quotedGap.fill (.integer Int64.minValue)) ∧
      ∃ error : Error,
        readProgram (between "é '(a ;x\n".toList "+9223372036854775808".toList
            "'b) #t".toList) = .error error ∧
        error.report = .unreadable "integer literal out of range at offset 11" := by
  have readX : readProgram (between "é '(a ;x\n".toList ['x'] "'b) #t".toList) =
      .ok (quotedGap.fill (.symbol "x")) := by
    decide +kernel
  have readY : readProgram (between "é '(a ;x\n".toList ['y'] "'b) #t".toList) =
      .ok (quotedGap.fill (.symbol "y")) := by
    decide +kernel
  have differ : quotedGap.fill (.symbol "x") ≠ quotedGap.fill (.symbol "y") := by
    decide +kernel
  have least : IntegerSpelling Int64.minValue.toInt "-009223372036854775808".toList :=
    (Numeral.integer?_eq_some_nil_iff ..).mp (by decide +kernel)
  have tooLarge : IntegerSpelling 9223372036854775808 "+9223372036854775808".toList :=
    (Numeral.integer?_eq_some_nil_iff ..).mp (by decide +kernel)
  refine ⟨readX, ?_, ?_⟩
  · obtain ⟨gap, unique, exact, _⟩ :=
      readProgram_integer_between readX readY differ least
    obtain rfl := (unique quotedGap).mp ⟨rfl, rfl⟩
    obtain ⟨number, same, read⟩ := exact (by decide)
    rw [read, Int64.toInt_inj.mp same]
  · obtain ⟨_, _, _, fatal⟩ := readProgram_integer_between readX readY differ tooLarge
    exact fatal (by decide)

end SExpr
