import SExpr.Proofs.Highlight.Colours
import SExpr.Proofs.Highlight.Numbers
import SExpr.Proofs.Reader.RoundTrip
import SExpr.Proofs.Reader.Run

/-!
# Words that are painted

Keywords, numbers and literals are looked for between the ends of words, and a word ends where
letters, marks and digits do. Symbols may go on with punctuation there, so a keyword or digits
inside a symbol are painted where punctuation stands around them.

`IsPainted` says which words are painted where they are whole. Each match of the patterns for
numbers, keywords and literals has such a word in it, and each such word is in a match, although
a number may start before the word or go on behind it. A text without parentheses, quote marks and
comments is therefore left as it is exactly when it has no such word (`line_eq_self_iff_of_noMark`).
-/

namespace SExpr
namespace Pattern

section

variable {previous : Option Char} {matched after : List Char}

theorem matches_word (characters : List Char) :
    (word characters).Matches previous matched after ↔ matched = characters := by
  unfold word
  induction characters generalizing previous matched with
  | nil => simp [inOrder]
  | cons first others inductionHypothesis =>
      simp only [List.map_cons, inOrder, character, matches_both, matches_one,
        inductionHypothesis, beq_iff_eq]
      grind

theorem matches_oneWord (words : List (List Char)) :
    (oneWord words).Matches previous matched after ↔ matched ∈ words := by
  induction words with
  | nil => simp [oneWord]
  | cons first others inductionHypothesis =>
      cases others with
      | nil => rw [oneWord, matches_word, List.mem_singleton]
      | cons second others =>
          change (either (word first) (oneWord (second :: others))).Matches previous
            matched after ↔ _
          rw [matches_either, matches_word, inductionHypothesis]
          exact List.mem_cons.symm

/-- A pattern with a boundary on each side. -/
theorem matches_between (pattern : Pattern) :
    (inOrder [.boundary, pattern, .boundary]).Matches previous matched after ↔
      isBoundary previous (matched ++ after).head? = true ∧
        pattern.Matches previous matched after ∧
        isBoundary (lastCharacter previous matched) after.head? = true := by
  simp only [inOrder, matches_both, matches_boundary, matches_empty]
  constructor
  · rintro ⟨_, _, rfl, ⟨rfl, starts⟩, matched, _, rfl, isMatch, _, _, rfl, ⟨rfl, ends⟩, rfl⟩
    simp only [List.nil_append, List.append_nil, lastCharacter_nil] at starts isMatch ends ⊢
    exact ⟨starts, isMatch, ends⟩
  · rintro ⟨starts, isMatch, ends⟩
    refine ⟨[], matched, rfl, ⟨rfl, starts⟩, matched, [], ?_, isMatch, [], [], rfl,
      ⟨rfl, ends⟩, rfl⟩
    rw [List.append_nil]

end
end Pattern

namespace Highlight

open Numeral (IsExponentMark)
open Pattern (InWord IsWord lastCharacter)

theorem lastCharacter_none (text : List Char) :
    lastCharacter none text = text.getLast? := by
  rw [lastCharacter, Option.or_none]

/-- A word with no other character of a word next to it. -/
structure IsWholeWord (before word after : List Char) : Prop where
  isWord : IsWord word
  starts : ¬ InWord before.getLast?
  ends : ¬ InWord after.head?

/-- The words that are painted, given what stands before them: keywords and literals, digits with
or without an exponent, and the letters of booleans after a number sign. -/
inductive IsPainted : (before word : List Char) -> Prop
  | keyword
      {before : List Char}
      {name : String}
      (listed : name ∈ Style.keywords) :
      IsPainted before name.toList
  | literal
      {before : List Char}
      {name : String}
      (listed : name ∈ ["true", "false", "nil"]) :
      IsPainted before name.toList
  | digits
      {before digits : List Char}
      (run : DecimalRun digits) :
      IsPainted before digits
  | scaled
      {before whole power : List Char}
      {mark : Char}
      (run : DecimalRun whole)
      (isMark : IsExponentMark mark)
      (powerRun : DecimalRun power) :
      IsPainted before (whole ++ mark :: power)
  | boolean
      {before : List Char}
      {letter : Char}
      (isLetter : letter ∈ ['t', 'f']) :
      IsPainted (before ++ ['#']) [letter]

/-- There is a whole word in a text that is painted. -/
def HasPaintedWord (text : List Char) : Prop :=
  ∃ before word after, before ++ (word ++ after) = text ∧
    IsWholeWord before word after ∧ IsPainted before word

/-! ## What the parts of patterns match -/

section

variable {previous : Option Char} {before matched after : List Char}

theorem matches_digits :
    Style.digits.Matches previous matched after ↔ DecimalRun matched := by
  constructor
  · rintro ⟨left, right, rfl, ⟨first, isFirst, rfl⟩, areDigits⟩
    refine ⟨List.cons_ne_nil first right, ?_⟩
    rw [List.singleton_append, List.forall_mem_cons]
    exact ⟨isFirst, areDigits⟩
  · rintro ⟨nonempty, areDigits⟩
    obtain ⟨first, others, rfl⟩ := List.exists_cons_of_ne_nil nonempty
    rw [List.forall_mem_cons] at areDigits
    exact ⟨[first], others, rfl, ⟨first, areDigits.1, rfl⟩, areDigits.2⟩

theorem matches_sign :
    Style.sign.Matches previous matched after ↔
      matched = [] ∨ ∃ mark ∈ ['+', '-'], matched = [mark] := by
  simp only [Style.sign, Pattern.optional, Pattern.oneOf, Pattern.matches_either,
    Pattern.matches_one, Pattern.matches_empty, List.contains_iff_mem]
  exact or_comm

/-! ## Keywords and literals -/

/-- A listed word matches where it is a whole word. -/
theorem matches_listed_iff
    {words : List (List Char)}
    (areWords : ∀ word ∈ words, IsWord word) :
    (Pattern.inOrder [.boundary, .oneWord words, .boundary]).Matches
        (lastCharacter none before) matched after ↔
      matched ∈ words ∧ IsWholeWord before matched after := by
  rw [Pattern.matches_between, Pattern.matches_oneWord, lastCharacter_none]
  constructor
  · rintro ⟨starts, listed, ends⟩
    have isWord := areWords matched listed
    exact ⟨listed, isWord, (isWord.isBoundary_head?_iff _ _).mp starts,
      (isWord.isBoundary_lastCharacter_iff _ _).mp ends⟩
  · rintro ⟨listed, isWord, starts, ends⟩
    exact ⟨(isWord.isBoundary_head?_iff _ _).mpr starts, listed,
      (isWord.isBoundary_lastCharacter_iff _ _).mpr ends⟩

theorem isWord_keyword :
    ∀ word ∈ Style.keywords.map String.toList, IsWord word := by
  decide +kernel

theorem isWord_literal :
    ∀ word ∈ ["true", "false", "nil"].map String.toList, IsWord word := by
  decide +kernel

theorem isWord_letter
    {letter : Char}
    (isLetter : letter ∈ ['t', 'f']) :
    IsWord [letter] := by
  simp only [List.mem_cons, List.not_mem_nil, or_false] at isLetter
  obtain rfl | rfl := isLetter <;> decide +kernel

/-- A letter after a number sign matches where it ends a word. -/
theorem matches_boolean_iff :
    (Pattern.inOrder [.character '#', .oneOf ['t', 'f'], .boundary]).Matches
        previous matched after ↔
      ∃ letter ∈ ['t', 'f'], matched = ['#', letter] ∧ ¬ InWord after.head? := by
  constructor
  · rintro ⟨_, _, rfl, ⟨sign, isSign, rfl⟩, _, _, rfl, ⟨letter, isLetter, rfl⟩, _, _, rfl,
      ⟨rfl, ends⟩, rfl⟩
    obtain rfl : sign = '#' := beq_iff_eq.mp isSign
    rw [List.contains_iff_mem] at isLetter
    exact ⟨letter, isLetter, rfl,
      ((isWord_letter isLetter).isBoundary_lastCharacter_iff _ _).mp ends⟩
  · rintro ⟨letter, isLetter, rfl, ends⟩
    have endsWord :=
      ((isWord_letter isLetter).isBoundary_lastCharacter_iff (some '#') after.head?).mpr ends
    exact ⟨['#'], [letter], rfl, ⟨'#', rfl, rfl⟩, [letter], [], rfl,
      ⟨letter, List.contains_iff_mem.mpr isLetter, rfl⟩, [], [], rfl, ⟨rfl, endsWord⟩, rfl⟩

/-! ## Numbers -/

theorem isExponentMark_iff (mark : Char) :
    ['e', 'E'].contains mark = true ↔ IsExponentMark mark := by
  simp [IsExponentMark]

/-- The characters that the pattern for exponents matches. -/
theorem matches_exponent :
    Style.exponent.Matches previous matched after ↔
      ∃ mark sign digits, matched = mark :: (sign ++ digits) ∧ IsExponentMark mark ∧
        (sign = [] ∨ ∃ mark ∈ ['+', '-'], sign = [mark]) ∧ DecimalRun digits := by
  simp only [Style.exponent, Pattern.inOrder, Pattern.oneOf, Pattern.matches_both,
    Pattern.matches_one, Pattern.matches_empty, matches_sign, matches_digits, isExponentMark_iff]
  constructor
  · rintro ⟨_, _, rfl, ⟨mark, isMark, rfl⟩, sign, _, rfl, isSign, digits, _, rfl, run, rfl⟩
    refine ⟨mark, sign, digits, ?_, isMark, isSign, run⟩
    rw [List.append_nil, List.singleton_append]
  · rintro ⟨mark, sign, digits, rfl, isMark, isSign, run⟩
    refine ⟨[mark], sign ++ digits, rfl, ⟨mark, isMark, rfl⟩, sign, digits, rfl, isSign,
      digits, [], ?_, run, rfl⟩
    rw [List.append_nil]

/-- What is matched as a number has digits that start a word, goes on with a point or an
exponent if at all, and ends where a word does. -/
theorem exists_parts_of_number
    (isMatch : Style.number.pattern.Matches previous matched after) :
    ∃ sign digits fraction power, matched = sign ++ (digits ++ (fraction ++ power)) ∧
      ¬ InWord (lastCharacter previous sign) ∧ DecimalRun digits ∧
      (fraction = [] ∨ ∃ more, fraction = '.' :: more) ∧
      (power = [] ∨
        ∃ mark sign digits, power = mark :: (sign ++ digits) ∧ IsExponentMark mark ∧
          (sign = [] ∨ ∃ mark ∈ ['+', '-'], sign = [mark]) ∧ DecimalRun digits) ∧
      Pattern.isBoundary (lastCharacter previous matched) after.head? = true := by
  obtain ⟨sign, _, rfl, isSign, _, _, rfl, ⟨rfl, starts⟩, digits, _, rfl, areDigits, fraction,
    _, rfl, isFraction, power, _, rfl, isPower, _, _, rfl, ⟨rfl, ends⟩, rfl⟩ := isMatch
  change Style.exponent.optional.Matches _ power _ at isPower
  rw [matches_digits] at areDigits
  simp only [Pattern.optional, Pattern.matches_either, Pattern.matches_empty,
    matches_exponent] at isFraction isPower
  simp only [List.nil_append, List.append_nil, List.append_assoc,
    areDigits.isWord.isBoundary_head?_iff] at starts ⊢
  refine ⟨sign, digits, fraction, power, rfl, starts, areDigits, ?_, isPower.symm, ?_⟩
  · obtain ⟨_, more, rfl, ⟨_, isPoint, rfl⟩, _⟩ | rfl := isFraction
    · rw [beq_iff_eq] at isPoint
      exact .inr ⟨more, congrArg (· :: more) isPoint⟩
    · exact .inl rfl
  · simpa using ends

theorem isWord_scaled
    {whole power : List Char}
    {mark : Char}
    (run : DecimalRun whole)
    (isMark : IsExponentMark mark)
    (powerRun : DecimalRun power) :
    IsWord (whole ++ mark :: power) where
  nonempty := List.append_ne_nil_of_left_ne_nil run.nonempty _
  isWordCharacter character member := by
    obtain inWhole | rfl | inPower := by simpa using member
    · exact run.isWord.isWordCharacter character inWhole
    · obtain rfl | rfl := isMark <;> decide +kernel
    · exact powerRun.isWord.isWordCharacter character inPower

/-- Digits with no sign and no fraction match where they are a whole word, together with their
exponent if they have one. -/
theorem matches_number_of_isWholeWord
    {digits power : List Char}
    (whole : IsWholeWord before (digits ++ power) after)
    (run : DecimalRun digits)
    (isPower : power = [] ∨
      Style.exponent.Matches (lastCharacter (lastCharacter none before) digits) power after) :
    Style.number.pattern.Matches (lastCharacter none before) (digits ++ power) after := by
  obtain ⟨isWord, starts, ends⟩ := whole
  rw [← lastCharacter_none] at starts
  have startsWord := (isWord.isBoundary_head?_iff (lastCharacter none before) after).mpr starts
  have endsWord :=
    (isWord.isBoundary_lastCharacter_iff (lastCharacter none before) after.head?).mpr ends
  rw [Pattern.lastCharacter_append] at endsWord
  have isOptional :
      Style.exponent.optional.Matches (lastCharacter (lastCharacter none before) digits)
        power after :=
    isPower.symm
  refine ⟨[], digits ++ power, rfl, .inr rfl, [], digits ++ power, rfl, ⟨rfl, startsWord⟩,
    digits, power, rfl, matches_digits.mpr run, [], power, rfl, .inr rfl, power, [], ?_,
    isOptional, [], [], rfl, ⟨rfl, endsWord⟩, rfl⟩
  rw [List.append_nil]

/-! ## From a match to a word -/

theorem hasPaintedWord_of_keyword
    (isMatch : Style.keyword.pattern.Matches (lastCharacter none before) matched after) :
    HasPaintedWord (before ++ (matched ++ after)) := by
  obtain ⟨listed, isWhole⟩ := (matches_listed_iff isWord_keyword).mp isMatch
  obtain ⟨name, isKeyword, rfl⟩ := List.mem_map.mp listed
  exact ⟨before, name.toList, after, rfl, isWhole, .keyword isKeyword⟩

theorem hasPaintedWord_of_literal
    (isMatch : Style.literal.pattern.Matches (lastCharacter none before) matched after) :
    HasPaintedWord (before ++ (matched ++ after)) := by
  obtain isBoolean | isName := Pattern.matches_either.mp isMatch
  · obtain ⟨letter, isLetter, rfl, ends⟩ := matches_boolean_iff.mp isBoolean
    refine ⟨before ++ ['#'], [letter], after, by simp, ⟨isWord_letter isLetter, ?_, ends⟩,
      .boolean isLetter⟩
    rw [List.getLast?_concat]
    exact not_inWord_mark '#' (by simp)
  · obtain ⟨listed, isWhole⟩ := (matches_listed_iff isWord_literal).mp isName
    obtain ⟨name, isLiteral, rfl⟩ := List.mem_map.mp listed
    exact ⟨before, name.toList, after, rfl, isWhole, .literal isLiteral⟩

/-- The digits that a number starts with are a whole word, or go on with an exponent to one, or
the digits of a signed exponent are. -/
theorem hasPaintedWord_of_number
    (isMatch : Style.number.pattern.Matches (lastCharacter none before) matched after) :
    HasPaintedWord (before ++ (matched ++ after)) := by
  obtain ⟨sign, digits, fraction, power, rfl, starts, run, isFraction, isPower, ends⟩ :=
    exists_parts_of_number isMatch
  rw [← Pattern.lastCharacter_append, lastCharacter_none] at starts
  obtain ⟨more, rfl⟩ | rfl := isFraction.symm
  · refine ⟨before ++ sign, digits, '.' :: (more ++ (power ++ after)), by simp, ?_,
      .digits run⟩
    exact ⟨run.isWord, starts, not_inWord_mark '.' (by simp)⟩
  obtain rfl | ⟨mark, powerSign, powerDigits, rfl, isMark, isSign, powerRun⟩ := isPower
  · refine ⟨before ++ sign, digits, after, by simp, ⟨run.isWord, starts, ?_⟩, .digits run⟩
    simpa [run.isWord.isBoundary_lastCharacter_iff] using ends
  have endsWord : ¬ InWord after.head? := by
    simpa [powerRun.isWord.isBoundary_lastCharacter_iff] using ends
  obtain rfl | ⟨minus, listed, rfl⟩ := isSign
  · have isWord := isWord_scaled run isMark powerRun
    exact ⟨before ++ sign, digits ++ mark :: powerDigits, after, by simp,
      ⟨isWord, starts, endsWord⟩, .scaled run isMark powerRun⟩
  · refine ⟨before ++ (sign ++ (digits ++ [mark])) ++ [minus], powerDigits, after, by simp,
      ⟨powerRun.isWord, ?_, endsWord⟩, .digits powerRun⟩
    rw [List.getLast?_concat]
    exact not_inWord_mark minus (List.mem_append_left ['.', '#'] listed)

/-! ## From a word to a match -/

theorem exists_match_of_isPainted
    {word : List Char}
    (whole : IsWholeWord before word after)
    (painted : IsPainted before word) :
    ∃ (style : Style) (start matched : List Char), start ++ matched = before ++ word ∧
      style.pattern.Matches (lastCharacter none start) matched after := by
  cases painted with
  | keyword listed =>
      refine ⟨.keyword, before, _, rfl, (matches_listed_iff isWord_keyword).mpr ⟨?_, whole⟩⟩
      exact List.mem_map_of_mem listed
  | literal listed =>
      refine ⟨.literal, before, _, rfl,
        .inr ((matches_listed_iff isWord_literal).mpr ⟨?_, whole⟩)⟩
      exact List.mem_map_of_mem listed
  | digits run =>
      have whole : IsWholeWord before (word ++ []) after := by rwa [List.append_nil]
      have isMatch := matches_number_of_isWholeWord whole run (.inl rfl)
      rw [List.append_nil] at isMatch
      exact ⟨.number, before, word, rfl, isMatch⟩
  | scaled run isMark powerRun =>
      refine ⟨.number, before, _, rfl, matches_number_of_isWholeWord whole run (.inr ?_)⟩
      exact matches_exponent.mpr ⟨_, [], _, rfl, isMark, .inl rfl, powerRun⟩
  | @boolean before letter isLetter =>
      refine ⟨.literal, before, ['#', letter], by simp, .inl ?_⟩
      exact matches_boolean_iff.mpr ⟨letter, isLetter, rfl, whole.ends⟩

end

/-! ## Texts that are left as they are -/

/-- The characters that are painted by themselves or start a comment. -/
def marks : List Char :=
  [';', '(', ')', '\'']

/-- A text without marks is left as it is exactly when no whole word in it is painted. -/
theorem line_eq_self_iff_of_noMark
    {text : List Char}
    (noMark : ∀ character ∈ text, character ∉ marks) :
    line text = text ↔ ¬ HasPaintedWord text := by
  rw [line_eq_self_iff]
  constructor
  · rintro noMatch ⟨before, word, after, rfl, whole, painted⟩
    obtain ⟨style, start, matched, together, isMatch⟩ :=
      exists_match_of_isPainted whole painted
    apply noMatch style start matched after _ isMatch
    rw [← List.append_assoc, together, List.append_assoc]
  · rintro noWord style before matched after rfl isMatch
    have noMark {character : Char} (member : character ∈ matched) : character ∉ marks := by
      apply noMark
      simp [member]
    cases style with
    | comment =>
        obtain ⟨_, rest, rfl, ⟨mark, isMark, rfl⟩, _⟩ := isMatch
        obtain rfl : mark = ';' := beq_iff_eq.mp isMark
        exact noMark List.mem_cons_self (by decide)
    | number => exact noWord (hasPaintedWord_of_number isMatch)
    | keyword => exact noWord (hasPaintedWord_of_keyword isMatch)
    | literal => exact noWord (hasPaintedWord_of_literal isMatch)
    | paren =>
        obtain ⟨mark, isMark, rfl⟩ := isMatch
        have listed := List.contains_iff_mem.mp isMark
        exact noMark List.mem_cons_self (List.mem_cons_of_mem ';' listed)

/-- The text of a symbol is left as it is exactly when no whole word in it is painted. -/
theorem line_symbol_iff
    {text : List Char}
    (read : readSingle text = .ok (.symbol (String.ofList text))) :
    line text = text ↔
      ∀ before word after, before ++ (word ++ after) = text ->
        IsWholeWord before word after -> ¬ IsPainted before word := by
  have isName : Reader.IsName (String.ofList text) := by
    rw [← readSingle_name_iff, String.toList_ofList]
    exact read
  rw [Reader.IsName, String.toList_ofList] at isName
  have undelimited := Reader.isUndelimited_of_readAtom isName
  have noMark : ∀ character ∈ text, character ∉ marks := by
    intro character member mark
    apply undelimited character member
    have delimited : marks ⊆ Reader.delimiters := by decide
    exact delimited mark
  rw [line_eq_self_iff_of_noMark noMark]
  constructor
  · intro noWord before word after together whole painted
    exact noWord ⟨before, word, after, together, whole, painted⟩
  · rintro noneAt ⟨before, word, after, together, whole, painted⟩
    exact noneAt before word after together whole painted

/-- A symbol without painted words is left as it is, and one with a whole number in it is not. -/
theorem line_symbol_iff_minusOne :
    readSingle "foo-bar".toList = .ok (.symbol "foo-bar") ∧
      (∀ before word after, before ++ (word ++ after) = "foo-bar".toList ->
        IsWholeWord before word after -> ¬ IsPainted before word) ∧
      readSingle "x-1".toList = .ok (.symbol "x-1") ∧
      line "x-1".toList ≠ "x-1".toList := by
  have fooBar : readSingle "foo-bar".toList = .ok (.symbol "foo-bar") := by
    decide +kernel
  have minusOne : readSingle "x-1".toList = .ok (.symbol "x-1") := by
    decide +kernel
  have left : line "foo-bar".toList = "foo-bar".toList := by
    apply line_of_rounds?
    decide +kernel
  refine ⟨fooBar, (line_symbol_iff fooBar).mp left, minusOne, ?_⟩
  intro left
  apply (line_symbol_iff minusOne).mp left ['x', '-'] ['1'] [] rfl
  · exact ⟨by decide +kernel, not_inWord_mark '-' (by simp), Bool.false_ne_true⟩
  · exact .digits (decimalRun_of_digitRun ⟨by simp, by simp⟩)

/-- A symbol that is no keyword but begins with one and punctuation is painted in part. -/
theorem line_symbol_letValues :
    readSingle "let-values".toList = .ok (.symbol "let-values") ∧
      "let-values" ∉ Style.keywords ∧
      line "let-values".toList =
        Style.escape "1" ++ Style.escape "36" ++ "let".toList ++ Style.escape "39" ++
          Style.escape "0" ++ "-values".toList ∧
      line "let-values".toList ≠ "let-values".toList := by
  have painted :
      line "let-values".toList =
        Style.escape "1" ++ Style.escape "36" ++ "let".toList ++ Style.escape "39" ++
          Style.escape "0" ++ "-values".toList := by
    apply line_of_rounds?
    decide +kernel
  refine ⟨by decide +kernel, by decide, painted, ?_⟩
  rw [painted]
  decide

end Highlight
end SExpr
