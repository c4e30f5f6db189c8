import SExpr.Datum.Equality
import SExpr.Proofs.Reader.Place
import SExpr.Proofs.Reader.Spelling
import Mathlib.Data.List.TakeWhile

/-!
# What a run of characters denotes

A run is a text without delimiters, looked at as a whole. It is an integer or a
float by the spelling of numbers, one of five keywords, or a symbol, in this
order: a whole number outside the range of 64 bits and a number that lacks its
exponent denote nothing, even where the characters are those of a symbol. The
reader of atoms takes a run to its end exactly for what it denotes.
-/

namespace SExpr
namespace Reader

open Numeral (IntegerSpelling LacksExponent NumeralSpelling)

/-- The words that denote booleans and the empty list. -/
def keywords : List (List Char × Datum) :=
  [(['#', 't'], .boolean true), (['#', 'f'], .boolean false),
    (['t', 'r', 'u', 'e'], .boolean true),
    (['f', 'a', 'l', 's', 'e'], .boolean false), (['n', 'i', 'l'], .list [])]

/-- Characters of a symbol: one that may start it, and others that it may go on
with. -/
def IsSymbolText (run : List Char) : Prop :=
  ∃ initial others, run = initial :: others ∧ isSymbolInitial initial = true ∧
    ∀ character ∈ others, isSymbolSubsequent character = true

/-- A run that the first two rules leave to those after them: it is no whole
number, in the range of 64 bits or not, and does not begin like a number without
its exponent. -/
structure PastIntegers (run : List Char) : Prop where
  noWhole : ∀ value, ¬ IntegerSpelling value run
  complete : ¬ LacksExponent run

/-- The datum that a run of characters denotes as a whole. -/
inductive Denotes (run : List Char) : Datum -> Prop
  | integer
      {number : Int64}
      (spelled : IntegerSpelling number.toInt run) :
      Denotes run (.integer number)
  | float
      {numeral : Numeral}
      (past : PastIntegers run)
      (spelled : NumeralSpelling numeral run) :
      Denotes run (.float numeral.binary64)
  | keyword
      {value : Datum}
      (listed : (run, value) ∈ keywords) :
      Denotes run value
  | symbol
      (past : PastIntegers run)
      (noNumeral : ∀ numeral, ¬ NumeralSpelling numeral run)
      (noKeyword : ∀ value, (run, value) ∉ keywords)
      (isText : IsSymbolText run) :
      Denotes run (.symbol (String.ofList run))

/-! ## Words -/

/-- A keyword is read to its end as what it denotes, and is no number. -/
theorem readAtom_of_keyword
    {run : List Char}
    {value : Datum}
    (listed : (run, value) ∈ keywords) :
    readAtom run = .taken value [] ∧ readWord run = .taken value [] := by
  simp only [keywords, List.mem_cons, Prod.mk.injEq, List.not_mem_nil, or_false]
    at listed
  obtain ⟨rfl, rfl⟩ | ⟨rfl, rfl⟩ | ⟨rfl, rfl⟩ | ⟨rfl, rfl⟩ | ⟨rfl, rfl⟩ := listed
  all_goals decide

/-- A word that is no keyword stands for the symbol of that name. -/
theorem ofWord_of_noKeyword
    {word : List Char}
    (noKeyword : ∀ value, (word, value) ∉ keywords) :
    ofWord word = .symbol (String.ofList word) := by
  have noTrue := noKeyword (.boolean true)
  have noFalse := noKeyword (.boolean false)
  have noNil := noKeyword (.list [])
  simp only [keywords, List.mem_cons, Prod.mk.injEq, List.not_mem_nil, or_false,
    not_or] at noTrue noFalse noNil
  unfold ofWord
  rw [if_neg, if_neg, if_neg]
  · simp_all
  · simp_all
  · simp_all

/-- The characters of a symbol are read to their end, as a symbol if they are no
keyword. -/
theorem readWord_of_isSymbolText
    {run : List Char}
    (isText : IsSymbolText run) :
    readWord run = .taken (ofWord run) [] := by
  obtain ⟨initial, others, rfl, isInitial, isSubsequent⟩ := isText
  have notSign : initial ≠ '#' := by
    rintro rfl
    exact absurd isInitial (by decide)
  have dropped : others.dropWhile isSymbolSubsequent = [] :=
    List.dropWhile_eq_nil_iff.mpr isSubsequent
  have taken : others.takeWhile isSymbolSubsequent = others :=
    List.takeWhile_eq_self_iff.mpr isSubsequent
  rw [readWord_of_ne notSign, if_pos isInitial, dropped, taken]
  rfl

/-- What is read as a word to its end is a keyword or has the characters of a
symbol. -/
theorem mem_keywords_or_isSymbolText
    {run : List Char}
    {value : Datum}
    (taken : readWord run = .taken value []) :
    (run, value) ∈ keywords ∨ IsSymbolText run := by
  unfold readWord at taken
  split at taken
  · cases taken
  · split at taken
    · cases taken
      exact .inl (by simp [keywords])
    · cases taken
  · split at taken
    · cases taken
      exact .inl (by simp [keywords])
    · cases taken
  · next initial text _ _ =>
      split at taken
      · next isInitial =>
          dsimp only at taken
          split at taken
          · have dropped := (Reading.taken.inj taken).2
            exact .inr ⟨initial, text, rfl, isInitial,
              List.dropWhile_eq_nil_iff.mp dropped⟩
          · cases taken
      · cases taken

/-- What is read as a word to its end and is no number denotes what is read. -/
theorem denotes_of_readWord
    {run : List Char}
    {value : Datum}
    (past : PastIntegers run)
    (noNumeral : ∀ numeral, ¬ NumeralSpelling numeral run)
    (taken : readWord run = .taken value []) :
    Denotes run value := by
  by_cases keyword : ∃ other, (run, other) ∈ keywords
  · obtain ⟨other, listed⟩ := keyword
    have same := (readAtom_of_keyword listed).2.symm.trans taken
    obtain rfl := (Reading.taken.inj same).1
    exact .keyword listed
  · rw [not_exists] at keyword
    obtain listed | isText := mem_keywords_or_isSymbolText taken
    · exact absurd listed (keyword value)
    · have same := (readWord_of_isSymbolText isText).symm.trans taken
      obtain rfl := (Reading.taken.inj same).1
      rw [ofWord_of_noKeyword keyword]
      exact .symbol past noNumeral keyword isText

/-! ## Runs -/

/-- A text without delimiters. -/
def IsUndelimited (run : List Char) : Prop :=
  ∀ character ∈ run, character ∉ delimiters

theorem startsDelimiter_eq_false_of_isUndelimited
    {run : List Char}
    (nonempty : run ≠ [])
    (undelimited : IsUndelimited run) :
    startsDelimiter run = false := by
  match run, nonempty with
  | character :: others, _ =>
      have apart := undelimited character List.mem_cons_self
      rw [← startsDelimiter_cons_iff character others, Bool.not_eq_true] at apart
      exact apart

/-- A text is a run and what a delimiter starts. -/
theorem exists_run_append (text : List Char) :
    ∃ run after, run ++ after = text ∧ IsUndelimited run ∧
      startsDelimiter after = true := by
  refine ⟨text.takeWhile (· ∉ delimiters), text.dropWhile (· ∉ delimiters),
    List.takeWhile_append_dropWhile, ?_, ?_⟩
  · intro character member
    simpa using List.mem_takeWhile_imp member
  · induction text with
    | nil => rfl
    | cons character others inductionHypothesis =>
        by_cases delimiter : character ∈ delimiters
        · rw [List.dropWhile_cons_of_neg (by simp [delimiter])]
          exact (startsDelimiter_cons_iff character others).mpr delimiter
        · rw [List.dropWhile_cons_of_pos (by simp [delimiter])]
          exact inductionHypothesis

/-- A delimiter can only follow the end of a run. -/
theorem eq_nil_of_isSuffix
    {run rest : List Char}
    (undelimited : IsUndelimited run)
    (isSuffix : rest <:+ run)
    (delimited : startsDelimiter rest = true) :
    rest = [] := by
  obtain rfl | ⟨character, delimiter, others, rfl⟩ :=
    eq_nil_or_eq_cons_of_startsDelimiter delimited
  · rfl
  · have inRun := isSuffix.mem List.mem_cons_self
    exact absurd delimiter (undelimited character inRun)

/-- An atom is a run from which it is read to the end, and what follows is left. -/
theorem exists_run_of_readAtom
    {text rest : List Char}
    {value : Datum}
    (taken : readAtom text = .taken value rest) :
    ∃ run, run ++ rest = text ∧ IsUndelimited run ∧
      readAtom run = .taken value [] := by
  obtain ⟨run, after, rfl, undelimited, delimited⟩ := exists_run_append text
  rw [readAtom_append_delimited delimited] at taken
  obtain ⟨left, alone, rfl⟩ := taken_of_before taken
  -- The atom ends at a delimiter, which the run has none of.
  obtain rfl := eq_nil_of_isSuffix undelimited (isSuffix_of_readAtom alone)
    (startsDelimiter_of_readAtom alone)
  exact ⟨run, rfl, undelimited, alone⟩

/-- A text that is read to its end as an atom is a run. -/
theorem isUndelimited_of_readAtom
    {text : List Char}
    {value : Datum}
    (taken : readAtom text = .taken value []) :
    IsUndelimited text := by
  obtain ⟨run, rfl, undelimited, -⟩ := exists_run_of_readAtom taken
  rwa [List.append_nil]

section Runs

variable {run : List Char} (undelimited : IsUndelimited run)

include undelimited

/-- A whole number at the start of a run is the run. -/
theorem integerToken?_eq_some_iff
    (value : Int)
    (rest : List Char) :
    integerToken? run = some (value, rest) ↔
      IntegerSpelling value run ∧ rest = [] := by
  rw [integerToken?, Option.filter_eq_some_iff]
  constructor
  · rintro ⟨found, delimited⟩
    obtain ⟨spelling, _, rfl⟩ := Numeral.exists_integerSpelling found
    obtain rfl := eq_nil_of_isSuffix undelimited
      (List.suffix_append spelling rest) delimited
    exact ⟨(Numeral.integer?_eq_some_nil_iff ..).mp found, rfl⟩
  · rintro ⟨spelled, rfl⟩
    exact ⟨(Numeral.integer?_eq_some_nil_iff ..).mpr spelled, rfl⟩

/-- A run is no whole number when none is found at its start. -/
theorem integerToken?_eq_none_iff :
    integerToken? run = none ↔ ∀ value, ¬ IntegerSpelling value run := by
  rw [Option.eq_none_iff_forall_ne_some]
  constructor
  · intro none value spelled
    exact none (value, [])
      ((integerToken?_eq_some_iff undelimited ..).mpr ⟨spelled, rfl⟩)
  · rintro noWhole ⟨value, rest⟩ found
    exact noWhole value
      ((integerToken?_eq_some_iff undelimited ..).mp found).1

/-- A numeral at the start of a run that a delimiter follows is the run. -/
theorem numeralSpelling_of_scan
    {numeral : Numeral}
    {rest : List Char}
    (scanned : Numeral.scan run = .numeral numeral rest)
    (delimited : startsDelimiter rest = true) :
    NumeralSpelling numeral run := by
  obtain rfl := eq_nil_of_isSuffix undelimited
    (Numeral.isSuffix_of_scan scanned) delimited
  exact (Numeral.scan_eq_numeral_iff ..).mp scanned

/-- A run that is no number is read as a word. -/
theorem readAtom_of_noNumeral
    (past : PastIntegers run)
    (noNumeral : ∀ numeral, ¬ NumeralSpelling numeral run) :
    readAtom run = readWord run := by
  have noToken := (integerToken?_eq_none_iff undelimited).mpr past.noWhole
  unfold readAtom
  simp only [noToken]
  split
  · next place scanned =>
      have lacks := (Numeral.scan_eq_noExponent_iff run).mp ⟨place, scanned⟩
      exact absurd lacks past.complete
  · rfl
  · next numeral rest scanned =>
      split
      · next delimited =>
          have spelled := numeralSpelling_of_scan undelimited scanned delimited
          exact absurd spelled (noNumeral numeral)
      · rfl

/-- A run denotes what is read from it to its end. -/
theorem denotes_of_readAtom
    {value : Datum}
    (taken : readAtom run = .taken value []) :
    Denotes run value := by
  unfold readAtom at taken
  split at taken
  · next integer rest token =>
      split at taken
      · next number inRange =>
          cases taken
          rw [← (int64?_eq_some_iff integer number).mp inRange] at token
          exact .integer ((integerToken?_eq_some_iff undelimited ..).mp token).1
      · cases taken
  · next noToken =>
      have noWhole := (integerToken?_eq_none_iff undelimited).mp noToken
      have complete (notLacking : ∀ place, Numeral.scan run ≠ .noExponent place) :
          PastIntegers run := by
        refine ⟨noWhole, fun lacks => ?_⟩
        obtain ⟨place, scanned⟩ := (Numeral.scan_eq_noExponent_iff run).mpr lacks
        exact notLacking place scanned
      split at taken
      · cases taken
      · next scanned =>
          refine denotes_of_readWord (complete (by simp [scanned])) ?_ taken
          intro numeral spelled
          rw [(Numeral.scan_eq_numeral_iff ..).mpr spelled] at scanned
          cases scanned
      · next numeral rest scanned =>
          have past := complete (by simp [scanned])
          split at taken
          · next delimited =>
              cases taken
              exact .float past
                ((Numeral.scan_eq_numeral_iff ..).mp scanned)
          · next notDelimited =>
              refine denotes_of_readWord past ?_ taken
              intro other spelled
              rw [(Numeral.scan_eq_numeral_iff ..).mpr spelled] at scanned
              cases scanned
              exact notDelimited rfl

/-- A run is read to its end as a datum exactly when it denotes that datum. -/
theorem readAtom_eq_taken_nil_iff
    (value : Datum) :
    readAtom run = .taken value [] ↔ Denotes run value := by
  constructor
  · exact denotes_of_readAtom undelimited
  · intro denotes
    cases denotes with
    | integer spelled =>
        have token := (integerToken?_eq_some_iff undelimited ..).mpr ⟨spelled, rfl⟩
        have inRange (number : Int64) : int64? number.toInt = some number :=
          (int64?_eq_some_iff number.toInt number).mpr rfl
        unfold readAtom
        simp only [token, inRange]
    | float past spelled =>
        have noToken :=
          (integerToken?_eq_none_iff undelimited).mpr past.noWhole
        have scanned := (Numeral.scan_eq_numeral_iff ..).mpr spelled
        unfold readAtom
        simp only [noToken, scanned]
        rfl
    | keyword listed => exact (readAtom_of_keyword listed).1
    | symbol past noNumeral noKeyword isText =>
        rw [readAtom_of_noNumeral undelimited past noNumeral,
          readWord_of_isSymbolText isText, ofWord_of_noKeyword noKeyword]

end Runs
end Reader
end SExpr
