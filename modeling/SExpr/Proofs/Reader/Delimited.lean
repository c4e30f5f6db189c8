import SExpr.Reader.Atom
import Mathlib.Tactic.FinCases

/-!
# Atoms before a delimiter

A text that starts with a delimiter, or is empty, has no part in what is read
before it: the reader of atoms does with any text what it does with the text
alone, and only the places it names have more text after them.
-/

namespace SExpr
namespace Reader

/-- The characters that end an atom. -/
def delimiters : List Char :=
  [' ', '\t', '\r', '\n', '(', ')', ';', '\'']

theorem startsDelimiter_cons_iff
    (character : Char)
    (rest : List Char) :
    startsDelimiter (character :: rest) = true ↔ character ∈ delimiters := by
  simp [startsDelimiter, delimiters, isBlank, or_assoc]

/-- A text that starts with a delimiter has a delimiter or is empty. -/
theorem eq_nil_or_eq_cons_of_startsDelimiter
    {text : List Char}
    (delimited : startsDelimiter text = true) :
    text = [] ∨ ∃ character ∈ delimiters, ∃ rest, text = character :: rest := by
  cases text with
  | nil => exact .inl rfl
  | cons character rest =>
      have member := (startsDelimiter_cons_iff character rest).mp delimited
      exact .inr ⟨character, member, rest, rfl⟩

/-- A delimiter after a text decides whether one starts it only when the text is
empty. -/
theorem startsDelimiter_append
    (text : List Char)
    {after : List Char}
    (delimited : startsDelimiter after = true) :
    startsDelimiter (text ++ after) = startsDelimiter text := by
  cases text with
  | nil => exact delimited
  | cons character rest => rfl

/-! ## Runs of characters -/

section Runs

variable {member : Char -> Bool} {after : List Char}

/-- A run of characters that has no delimiters does not go on past one. -/
theorem takeWhile_append
    (apart : delimiters.any member = false)
    (delimited : startsDelimiter after = true)
    (text : List Char) :
    (text ++ after).takeWhile member = text.takeWhile member := by
  induction text with
  | nil =>
      obtain rfl | ⟨character, delimiter, rest, rfl⟩ :=
        eq_nil_or_eq_cons_of_startsDelimiter delimited
      · rfl
      · have outside := List.any_eq_false.mp apart character delimiter
        simp [outside]
  | cons character rest inductionHypothesis =>
      rw [List.cons_append, List.takeWhile_cons, List.takeWhile_cons,
        inductionHypothesis]

theorem dropWhile_append
    (apart : delimiters.any member = false)
    (delimited : startsDelimiter after = true)
    (text : List Char) :
    (text ++ after).dropWhile member = text.dropWhile member ++ after := by
  induction text with
  | nil =>
      obtain rfl | ⟨character, delimiter, rest, rfl⟩ :=
        eq_nil_or_eq_cons_of_startsDelimiter delimited
      · rfl
      · have outside := List.any_eq_false.mp apart character delimiter
        simp [outside]
  | cons character rest inductionHypothesis =>
      rw [List.cons_append, List.dropWhile_cons, List.dropWhile_cons,
        inductionHypothesis]
      split <;> rfl

end Runs
end Reader

/-! ## Numerals -/

/-- What a scan finds when a text follows the one it was made on. -/
def NumeralScan.before
    (after : List Char) : NumeralScan -> NumeralScan
  | .numeral value rest => .numeral value (rest ++ after)
  | .noNumeral => .noNumeral
  | .noExponent rest => .noExponent (rest ++ after)

namespace Numeral

open Reader (startsDelimiter eq_nil_or_eq_cons_of_startsDelimiter)

variable {after : List Char} (delimited : startsDelimiter after = true)

include delimited

theorem leadingDigits_append_delimited (text : List Char) :
    leadingDigits (text ++ after) = leadingDigits text :=
  Reader.takeWhile_append (by decide) delimited text

theorem afterDigits_append_delimited (text : List Char) :
    afterDigits (text ++ after) = afterDigits text ++ after :=
  Reader.dropWhile_append (by decide) delimited text

/-- No delimiter is a sign. -/
theorem splitSign_append_delimited (text : List Char) :
    splitSign (text ++ after) =
      ((splitSign text).1, (splitSign text).2 ++ after) := by
  cases text with
  | nil =>
      obtain rfl | ⟨character, delimiter, rest, rfl⟩ :=
        eq_nil_or_eq_cons_of_startsDelimiter delimited
      · rfl
      · fin_cases delimiter <;> rfl
  | cons first others =>
      by_cases minus : first = '-'
      · subst minus
        rfl
      · by_cases plus : first = '+'
        · subst plus
          rfl
        · simp [splitSign, minus, plus]

theorem integer?_append_delimited (text : List Char) :
    integer? (text ++ after) =
      (integer? text).map fun (value, rest) => (value, rest ++ after) := by
  unfold integer?
  rw [splitSign_append_delimited delimited]
  dsimp only
  rw [leadingDigits_append_delimited delimited,
    afterDigits_append_delimited delimited]
  split <;> rfl

/-- No delimiter is a point. -/
theorem splitMantissa?_append_delimited (text : List Char) :
    splitMantissa? (text ++ after) =
      (splitMantissa? text).map fun (whole, fraction, rest) =>
        (whole, fraction, rest ++ after) := by
  have noPoint : ∀ rest, after ≠ '.' :: rest := by
    intro rest equal
    rw [equal] at delimited
    cases delimited
  unfold splitMantissa?
  rw [leadingDigits_append_delimited delimited,
    afterDigits_append_delimited delimited]
  cases rest : afterDigits text with
  | nil =>
      rw [List.nil_append]
      grind
  | cons mark more =>
      rw [List.cons_append]
      have := leadingDigits_append_delimited delimited more
      have := afterDigits_append_delimited delimited more
      grind

/-- No delimiter is an exponent mark. -/
theorem scanExponent_append_delimited
    (negative : Bool)
    (whole fraction text : List Char) :
    scanExponent negative whole fraction (text ++ after) =
      (scanExponent negative whole fraction text).before after := by
  cases text with
  | nil =>
      obtain rfl | ⟨character, delimiter, rest, rfl⟩ :=
        eq_nil_or_eq_cons_of_startsDelimiter delimited
      · rfl
      · fin_cases delimiter <;> rfl
  | cons mark more =>
      rw [List.cons_append]
      unfold scanExponent
      dsimp only
      rw [splitSign_append_delimited delimited]
      dsimp only
      rw [leadingDigits_append_delimited delimited,
        afterDigits_append_delimited delimited]
      split
      · split <;> rfl
      · rfl

theorem scan_append_delimited (text : List Char) :
    scan (text ++ after) = (scan text).before after := by
  unfold scan
  rw [splitSign_append_delimited delimited]
  dsimp only
  rw [splitMantissa?_append_delimited delimited]
  cases splitMantissa? (splitSign text).2 with
  | none => rfl
  | some mantissa => exact scanExponent_append_delimited delimited _ _ _ _

end Numeral

/-! ## Atoms -/

/-- What reading leads to when a text follows the one that was read. -/
def Reading.before
    (after : List Char) : Reading α -> Reading α
  | .taken value rest => .taken value (rest ++ after)
  | .refused place => .refused (place ++ after)
  | .failed failure => .failed ⟨failure.cause, failure.place ++ after⟩

namespace Reader

/-- What is taken with a text behind is taken without it. -/
theorem taken_of_before
    {behind rest : List Char}
    {reading : Reading α}
    {value : α}
    (taken : reading.before behind = .taken value rest) :
    ∃ left, reading = .taken value left ∧ left ++ behind = rest := by
  cases reading with
  | taken first left =>
      cases taken
      exact ⟨left, rfl, rfl⟩
  | refused place => cases taken
  | failed failure => cases taken

/-- A word that starts with no number sign goes as far as symbols do. -/
theorem readWord_of_ne
    {initial : Char}
    (notSign : initial ≠ '#')
    (text : List Char) :
    readWord (initial :: text) =
      if isSymbolInitial initial then
        if startsDelimiter (text.dropWhile isSymbolSubsequent) then
          .taken (ofWord (initial :: text.takeWhile isSymbolSubsequent))
            (text.dropWhile isSymbolSubsequent)
        else
          .refused (text.dropWhile isSymbolSubsequent)
      else
        .refused (initial :: text) := by
  simp [readWord, notSign]

/-- A number sign before another character than the letter of a boolean starts
nothing. -/
theorem readWord_sign_of_ne
    {letter : Char}
    (notTrue : letter ≠ 't')
    (notFalse : letter ≠ 'f')
    (text : List Char) :
    readWord ('#' :: letter :: text) = .refused ('#' :: letter :: text) := by
  have notInitial : isSymbolInitial '#' = false := by decide
  simp [readWord, notTrue, notFalse, notInitial]

section Atoms

variable {after : List Char} (delimited : startsDelimiter after = true)

include delimited

theorem integerToken?_append_delimited (text : List Char) :
    integerToken? (text ++ after) =
      (integerToken? text).map fun (value, rest) => (value, rest ++ after) := by
  unfold integerToken?
  rw [Numeral.integer?_append_delimited delimited]
  cases Numeral.integer? text with
  | none => rfl
  | some found =>
      have same := startsDelimiter_append found.2 delimited
      simp only [Option.map_some, Option.filter_some, same]
      split <;> rfl

/-- No delimiter is a letter of a boolean. -/
theorem readWord_sign_append_delimited (text : List Char) :
    readWord ('#' :: text ++ after) = (readWord ('#' :: text)).before after := by
  cases text with
  | nil =>
      obtain rfl | ⟨character, delimiter, rest, rfl⟩ :=
        eq_nil_or_eq_cons_of_startsDelimiter delimited
      · rfl
      · fin_cases delimiter <;> rfl
  | cons letter rest =>
      have same := startsDelimiter_append rest delimited
      by_cases isTrue : letter = 't'
      · subst isTrue
        simp only [List.cons_append, readWord, same]
        split <;> rfl
      · by_cases isFalse : letter = 'f'
        · subst isFalse
          simp only [List.cons_append, readWord, same]
          split <;> rfl
        · rw [List.cons_append, List.cons_append,
            readWord_sign_of_ne isTrue isFalse,
            readWord_sign_of_ne isTrue isFalse]
          rfl

/-- No delimiter is a character of a symbol. -/
theorem readWord_append_delimited (text : List Char) :
    readWord (text ++ after) = (readWord text).before after := by
  cases text with
  | nil =>
      obtain rfl | ⟨character, delimiter, rest, rfl⟩ :=
        eq_nil_or_eq_cons_of_startsDelimiter delimited
      · rfl
      · fin_cases delimiter <;> rfl
  | cons initial text =>
      by_cases isSign : initial = '#'
      · subst isSign
        exact readWord_sign_append_delimited delimited text
      · rw [List.cons_append, readWord_of_ne isSign, readWord_of_ne isSign,
          takeWhile_append (by decide) delimited,
          dropWhile_append (by decide) delimited,
          startsDelimiter_append _ delimited]
        split
        · split <;> rfl
        · rfl

/-- A delimiter after a text changes nothing in how an atom is read from it. -/
theorem readAtom_append_delimited (text : List Char) :
    readAtom (text ++ after) = (readAtom text).before after := by
  unfold readAtom
  rw [integerToken?_append_delimited delimited]
  cases integerToken? text with
  | some found =>
      dsimp only [Option.map_some]
      cases int64? found.1 <;> rfl
  | none =>
      dsimp only [Option.map_none]
      rw [Numeral.scan_append_delimited delimited]
      cases Numeral.scan text with
      | noExponent place => rfl
      | noNumeral => exact readWord_append_delimited delimited text
      | numeral numeral rest =>
          dsimp only [NumeralScan.before]
          rw [startsDelimiter_append rest delimited]
          split
          · rfl
          · exact readWord_append_delimited delimited text

end Atoms

/-! ## Where atoms start and end -/

/-- No atom is read from a text that starts with a delimiter. -/
theorem readAtom_of_startsDelimiter
    {text : List Char}
    (delimited : startsDelimiter text = true) :
    readAtom text = .refused text :=
  readAtom_append_delimited delimited []

theorem startsDelimiter_eq_false_of_readAtom
    {text rest : List Char}
    {value : Datum}
    (taken : readAtom text = .taken value rest) :
    startsDelimiter text = false := by
  by_contra delimited
  rw [Bool.not_eq_false] at delimited
  rw [readAtom_of_startsDelimiter delimited] at taken
  cases taken

end Reader
end SExpr
