import SExpr.Proofs.Reader.Delimited
import SExpr.Reader.Program

/-!
# Reading data piece by piece

What the readers of data do at a text whose first piece is known: nothing is
skipped before what starts no trivia, what starts with no delimiter is an atom,
a list is its elements up to a closing parenthesis, a quotation is the datum
after its quote mark, and a source is one datum when that is read to its end.
`TakenFrom` says the same from the datum that is read.
-/

namespace SExpr
namespace Reader

/-! ## Texts that start with no delimiter -/

/-- There is nothing to skip before a character that starts no trivia. -/
theorem skip_cons
    {character : Char}
    (notBlank : isBlank character = false)
    (notComment : character ≠ ';')
    (rest : List Char) :
    skip (character :: rest) = character :: rest := by
  rw [skip, if_neg (by simp [notBlank]), if_neg notComment]

theorem skip_of_not_delimited
    {text : List Char}
    (undelimited : startsDelimiter text = false) :
    skip text = text := by
  cases text with
  | nil => cases undelimited
  | cons character rest =>
      simp only [startsDelimiter, Bool.or_eq_false_iff, beq_eq_false_iff_ne]
        at undelimited
      exact skip_cons undelimited.1.1.1.1 undelimited.1.2 rest

theorem startsDelimiter_append_of_not
    {text : List Char}
    (undelimited : startsDelimiter text = false)
    (rest : List Char) :
    startsDelimiter (text ++ rest) = false := by
  cases text with
  | nil => cases undelimited
  | cons character others => exact undelimited

/-- What starts with no delimiter can only be an atom. -/
theorem readNode_of_not_delimited
    {text : List Char}
    (undelimited : startsDelimiter text = false)
    (inner : Option (Reader Datum)) :
    readNode inner text = readAtom text := by
  unfold readNode
  split
  · cases undelimited
  · cases undelimited
  · cases undelimited
  · cases undelimited
  · rfl

/-- A level or more does not change how atoms are read. -/
theorem datum_run_of_not_delimited
    {text : List Char}
    (undelimited : startsDelimiter text = false)
    (levels : Nat) :
    (datum levels).run text = readAtom text := by
  cases levels with
  | zero => exact readNode_of_not_delimited undelimited _
  | succ levels => exact readNode_of_not_delimited undelimited _

/-- There is no datum at the end of a text. -/
theorem datum_run_nil (levels : Nat) : (datum levels).run [] = .refused [] := by
  cases levels with
  | zero => rfl
  | succ levels => rfl

/-- There is no datum at a closing parenthesis. -/
theorem datum_run_closing
    (levels : Nat)
    (rest : List Char) :
    (datum levels).run (')' :: rest) = .refused (')' :: rest) := by
  have refused : readAtom (')' :: rest) = .refused (')' :: rest) :=
    readAtom_of_startsDelimiter rfl
  cases levels with
  | zero => exact refused
  | succ levels => exact refused

/-! ## Repetition -/

/-- What holds where no value is read, and with one value more in front when it
holds after that value, holds of all values that repetition reads. -/
theorem many_induction
    {reader : Reader α}
    {motive : List Char -> List α -> List Char -> Prop}
    (none : ∀ text, motive text [] text)
    (more : ∀ {text value after values rest},
      reader.run (skip text) = .taken value after ->
        motive after values rest -> motive text (value :: values) rest)
    {text : List Char}
    {values : List α}
    {rest : List Char}
    (read : reader.many text = .ok (values, rest)) :
    motive text values rest := by
  fun_induction Reader.many reader text generalizing values rest with
  | case1 text value after taken inductionHypothesis =>
      match others : reader.many after with
      | .error failure =>
          rw [others] at read
          cases read
      | .ok (values', rest') =>
          rw [others] at read
          obtain ⟨rfl, rfl⟩ := Prod.mk.inj (Except.ok.inj read)
          exact more taken (inductionHypothesis others)
  | case2 text place refused =>
      cases read
      exact none text
  | case3 text failure failed => cases read

/-! ## Lists -/

/-- There are no more data at a closing parenthesis. -/
theorem many_closing
    (levels : Nat)
    (rest : List Char) :
    (datum levels).many (')' :: rest) = .ok ([], ')' :: rest) := by
  have refused := datum_run_closing levels rest
  rw [← skip_cons (by decide) (by decide) rest] at refused
  exact many_of_refused refused

/-- The elements up to a closing parenthesis are those of a list. -/
theorem datum_run_list_of_skip
    {levels : Nat}
    {items : List Datum}
    {text after rest : List Char}
    (elements : (datum levels).many text = .ok (items, after))
    (closed : skip after = ')' :: rest) :
    (datum (levels + 1)).run ('(' :: text) = .taken (.list items) rest := by
  rw [datum_succ, node]
  unfold readNode readElements
  simp only [elements, closed]
  rfl

/-- A closing parenthesis right after the elements ends a list. -/
theorem datum_run_list
    {levels : Nat}
    {items : List Datum}
    {text rest : List Char}
    (elements : (datum levels).many text = .ok (items, ')' :: rest)) :
    (datum (levels + 1)).run ('(' :: text) = .taken (.list items) rest :=
  datum_run_list_of_skip elements (skip_cons (by decide) (by decide) rest)

/-- A failure among the elements is one of the list. -/
theorem datum_run_list_of_failed
    {levels : Nat}
    {text : List Char}
    {failure : Failure}
    (elements : (datum levels).many text = .error failure) :
    (datum (levels + 1)).run ('(' :: text) = .failed failure := by
  rw [datum_succ, node]
  unfold readNode readElements
  simp only [elements]
  rfl

/-! ## Quote marks -/

/-- The datum after a quote mark is quoted. -/
theorem datum_run_quoted
    {levels : Nat}
    {value : Datum}
    {text rest : List Char}
    (quoted : (datum levels).run (skip text) = .taken value rest) :
    (datum (levels + 1)).run ('\'' :: text) = .taken value.quoted rest := by
  rw [datum_succ, node]
  unfold readNode readQuoted
  simp only [quoted]
  rfl

/-- A failure at the datum after a quote mark is one of the quotation. -/
theorem datum_run_quoted_of_failed
    {levels : Nat}
    {text : List Char}
    {failure : Failure}
    (quoted : (datum levels).run (skip text) = .failed failure) :
    (datum (levels + 1)).run ('\'' :: text) = .failed failure := by
  rw [datum_succ, node]
  unfold readNode readQuoted
  simp only [quoted]
  rfl

/-! ## All data -/

/-- What a datum is read from: a list in parentheses, a quote mark before a
datum, or an atom. -/
inductive TakenFrom
    (text rest : List Char) : (levels : Nat) -> Datum -> Prop
  | list
      {levels : Nat}
      {items : List Datum}
      {inside after : List Char}
      (opened : text = '(' :: inside)
      (elements : (datum levels).many inside = .ok (items, after))
      (closed : skip after = ')' :: rest) :
      TakenFrom text rest (levels + 1) (.list items)
  | quoted
      {levels : Nat}
      {value : Datum}
      {inside : List Char}
      (marked : text = '\'' :: inside)
      (taken : (datum levels).run (skip inside) = .taken value rest) :
      TakenFrom text rest (levels + 1) value.quoted
  | atom
      {levels : Nat}
      {value : Datum}
      (taken : readAtom text = .taken value rest) :
      TakenFrom text rest levels value

/-- A list is taken from what is inside its parentheses. -/
theorem takenFrom_of_readElements
    {levels : Nat}
    {value : Datum}
    {inside rest : List Char}
    (taken : readElements (datum levels) inside = .taken value rest) :
    TakenFrom ('(' :: inside) rest (levels + 1) value := by
  unfold readElements at taken
  split at taken
  · cases taken
  · next items after elements =>
      split at taken
      · next closed =>
          cases taken
          exact .list rfl elements closed
      · cases taken

/-- A quotation is taken from what follows its quote mark. -/
theorem takenFrom_of_readQuoted
    {levels : Nat}
    {value : Datum}
    {inside rest : List Char}
    (taken : readQuoted (datum levels) (skip inside) = .taken value rest) :
    TakenFrom ('\'' :: inside) rest (levels + 1) value := by
  unfold readQuoted at taken
  split at taken
  · next quoted =>
      cases taken
      exact .quoted rfl quoted
  · next notTaken => exact (notTaken _ _ taken).elim

theorem takenFrom_of_datum_run
    {levels : Nat}
    {value : Datum}
    {text rest : List Char}
    (taken : (datum levels).run text = .taken value rest) :
    TakenFrom text rest levels value := by
  cases levels with
  | zero =>
      change readNode none text = .taken value rest at taken
      unfold readNode at taken
      split at taken
      · cases taken
      · next none => cases none
      · cases taken
      · next none => cases none
      · exact .atom taken
  | succ levels =>
      change readNode (some (datum levels)) text = .taken value rest at taken
      unfold readNode at taken
      split at taken
      · cases taken
      · next element inner =>
          cases inner
          exact takenFrom_of_readElements ((refuseAt_eq_taken_iff ..).mp taken)
      · cases taken
      · next element inner =>
          cases inner
          exact takenFrom_of_readQuoted ((refuseAt_eq_taken_iff ..).mp taken)
      · exact .atom taken

/-- What holds of a datum that is an atom, of a list when it holds of all data that are
read with a level less, and of a quotation when it holds of the datum after the quote
mark, holds of every datum that is read. -/
theorem datum_run_induction
    {motive : Nat -> List Char -> Datum -> List Char -> Prop}
    (atom : ∀ {levels text value rest},
      readAtom text = .taken value rest -> motive levels text value rest)
    (list : ∀ {levels items inside after rest},
      (∀ {text value rest}, (datum levels).run text = .taken value rest ->
        motive levels text value rest) ->
      (datum levels).many inside = .ok (items, after) ->
      skip after = ')' :: rest ->
      motive (levels + 1) ('(' :: inside) (.list items) rest)
    (quoted : ∀ {levels value inside rest},
      (datum levels).run (skip inside) = .taken value rest ->
      motive levels (skip inside) value rest ->
      motive (levels + 1) ('\'' :: inside) value.quoted rest)
    {levels : Nat}
    {value : Datum}
    {text rest : List Char}
    (taken : (datum levels).run text = .taken value rest) :
    motive levels text value rest := by
  induction levels generalizing text value rest with
  | zero =>
      cases takenFrom_of_datum_run taken with
      | atom taken => exact atom taken
  | succ levels inductionHypothesis =>
      cases takenFrom_of_datum_run taken with
      | list opened elements closed =>
          rw [opened]
          exact list inductionHypothesis elements closed
      | quoted marked takenInside =>
          rw [marked]
          exact quoted takenInside (inductionHypothesis takenInside)
      | atom taken => exact atom taken

/-- What a level more keeps, whatever the levels inside it are, is so with any number
of levels. -/
theorem datum_induction
    {motive : Reader Datum -> Prop}
    (step : ∀ {inner : Option (Reader Datum)},
      (∀ element ∈ inner, motive element) -> motive (node inner))
    (levels : Nat) : motive (datum levels) := by
  induction levels with
  | zero =>
      refine step ?_
      intro element member
      cases member
  | succ levels inductionHypothesis =>
      refine step ?_
      intro element member
      obtain rfl := Option.some.inj member
      exact inductionHypothesis

/-- There is no datum in an empty text. -/
theorem many_nil (levels : Nat) : (datum levels).many [] = .ok ([], []) := by
  have refused : (datum levels).run (skip []) = .refused [] := by
    rw [skip]
    exact datum_run_nil levels
  exact many_of_refused refused

end Reader

/-! ## Sources -/

/-- A source is one datum if that is read from it to its end. -/
theorem readSingle_of_taken
    {source : List Char}
    {value : Datum}
    (taken : Reader.topLevel.run (Reader.skip source) = .taken value []) :
    readSingle source = .ok value := by
  have many : Reader.topLevel.many source = .ok ([value], []) := by
    rw [Reader.many_of_taken taken, Reader.topLevel, Reader.many_nil]
    rfl
  have noMore : Reader.skip [] = [] := by rw [Reader.skip]
  unfold readSingle readProgram
  simp only [many, noMore]

/-- A failure to read the first datum of a source is one to read the source. -/
theorem readSingle_of_failed
    {source : List Char}
    {failure : Failure}
    (failed : Reader.topLevel.run (Reader.skip source) = .failed failure) :
    readSingle source = .error (failure.error source) := by
  unfold readSingle readProgram
  simp only [Reader.many_of_failed failed]

/-- A text that is an atom to its end is read as that atom. -/
theorem readSingle_of_readAtom
    {text : List Char}
    {value : Datum}
    (taken : Reader.readAtom text = .taken value []) :
    readSingle text = .ok value := by
  have undelimited := Reader.startsDelimiter_eq_false_of_readAtom taken
  apply readSingle_of_taken
  rw [Reader.skip_of_not_delimited undelimited, Reader.topLevel,
    Reader.datum_run_of_not_delimited undelimited]
  exact taken

/-- A text at whose start reading an atom fails is not read. -/
theorem readSingle_of_readAtom_failed
    {text : List Char}
    {failure : Failure}
    (failed : Reader.readAtom text = .failed failure) :
    readSingle text = .error (failure.error text) := by
  have undelimited : Reader.startsDelimiter text = false := by
    by_contra delimited
    rw [Bool.not_eq_false] at delimited
    rw [Reader.readAtom_of_startsDelimiter delimited] at failed
    cases failed
  apply readSingle_of_failed
  rw [Reader.skip_of_not_delimited undelimited, Reader.topLevel,
    Reader.datum_run_of_not_delimited undelimited]
  exact failed

/-- A source is read as data when they are read up to what is skipped at its
end. -/
theorem readProgram_eq_ok_iff
    (source : List Char)
    (data : List Datum) :
    readProgram source = .ok data ↔
      ∃ after, Reader.topLevel.many source = .ok (data, after) ∧
        Reader.skip after = [] := by
  unfold readProgram
  constructor
  · intro read
    split at read
    · cases read
    · next values after all =>
        split at read
        · next nothing =>
            cases read
            exact ⟨after, all, nothing⟩
        · cases read
  · rintro ⟨after, all, nothing⟩
    simp only [all, nothing]

/-- Read as many data as there are, and skip what follows the last one. -/
def Reader.all
    (reader : Reader α)
    (text : List Char) : Except Failure (List α × List Char) :=
  (reader.many text).map fun (values, after) => (values, skip after)

theorem Reader.all_eq_ok_iff
    {reader : Reader α}
    {text place : List Char}
    {values : List α} :
    reader.all text = .ok (values, place) ↔
      ∃ after, reader.many text = .ok (values, after) ∧ skip after = place := by
  rw [Reader.all]
  match reader.many text with
  | .error failure => simp [Except.map]
  | .ok (values', after) => simp [Except.map]

theorem Reader.all_eq_error_iff
    {reader : Reader α}
    {text : List Char}
    {failure : Failure} :
    reader.all text = .error failure ↔ reader.many text = .error failure := by
  rw [Reader.all]
  cases reader.many text <;> simp [Except.map]

/-- A source is read as data when nothing is left after them. -/
theorem readProgram_eq_ok_iff_all
    {source : List Char}
    {data : List Datum} :
    readProgram source = .ok data ↔
      Reader.topLevel.all source = .ok (data, []) := by
  rw [readProgram_eq_ok_iff, Reader.all_eq_ok_iff]

/-- Reading a source ends with an error when reading its data fails or when
something is left after them. -/
theorem readProgram_eq_error_iff
    {source : List Char}
    {error : Error} :
    readProgram source = .error error ↔
      (∃ failure, Reader.topLevel.all source = .error failure ∧
        error = failure.error source) ∨
      ∃ data place, Reader.topLevel.all source = .ok (data, place) ∧
        place ≠ [] ∧ error = unexpectedAt source place := by
  unfold readProgram Reader.all
  cases Reader.topLevel.many source with
  | error failure => simp [Except.map, eq_comm]
  | ok read =>
      obtain ⟨values, after⟩ := read
      cases left : Reader.skip after with
      | nil => simp [Except.map, left]
      | cons character more => simp [Except.map, left, eq_comm]

/-- A source with exactly one datum has that datum. -/
theorem readProgram_of_readSingle
    {source : List Char}
    {value : Datum}
    (read : readSingle source = .ok value) :
    readProgram source = .ok [value] := by
  unfold readSingle at read
  split at read
  · cases read
  · next program =>
      cases read
      exact program
  · cases read

end SExpr
