import SExpr.Proofs.Reader.RoundTrip

/-!
# Printing what was read

A datum that was read and is printed reads back as itself unless the text it was
read from spells a value that the printed form cannot: a float too large to be
finite, which is printed as a word, and the word `nil` inside as many lists as
may be nested, which is printed as one list more.
-/

namespace SExpr

/-- For a datum without not-a-number, its floats are finite when none is
infinite. -/
theorem Datum.floatsFinite_iff
    {value : Datum}
    (numbers : .float .nan ∉ value.leaves) :
    value.FloatsFinite ↔
      ∀ negative, .float (.infinite negative) ∉ value.leaves := by
  constructor
  · intro finite negative member
    exact finite _ member
  · intro noInfinite number member
    match number with
    | .nan => exact absurd member numbers
    | .infinite negative => exact absurd member (noInfinite negative)
    | .finite _ _ => exact trivial

/-! ## Values without a printed form -/

namespace Reader

/-- The text of the word for the empty list inside a number of lists, in front of
another text. -/
def nilInLists : (count : Nat) -> (rest : List Char) -> List Char
  | 0, rest => 'n' :: 'i' :: 'l' :: rest
  | count + 1, rest => '(' :: nilInLists count (')' :: rest)

theorem skip_nilInLists
    (count : Nat)
    (rest : List Char) :
    skip (nilInLists count rest) = nilInLists count rest := by
  cases count with
  | zero => exact skip_cons (by decide) (by decide) _
  | succ count => exact skip_cons (by decide) (by decide) _

/-- The word for the empty list needs no level of its own. -/
theorem datum_run_nilInLists
    {count levels : Nat}
    (enough : count ≤ levels)
    {rest : List Char}
    (delimited : startsDelimiter rest = true) :
    (datum levels).run (nilInLists count rest) =
      .taken ((Datum.list []).inLists count) rest := by
  induction count generalizing levels rest with
  | zero =>
      have word : readAtom ['n', 'i', 'l'] = .taken (.list []) [] := by
        decide
      have before := readAtom_append_delimited delimited ['n', 'i', 'l']
      rw [word] at before
      rw [nilInLists, datum_run_of_not_delimited rfl]
      exact before
  | succ count inductionHypothesis =>
      obtain ⟨levels, rfl⟩ : ∃ fewer, levels = fewer + 1 :=
        Nat.exists_eq_add_one_of_ne_zero (by omega)
      have inside :
          (datum levels).run (nilInLists count (')' :: rest)) =
            .taken ((Datum.list []).inLists count) (')' :: rest) :=
        inductionHypothesis (Nat.le_of_succ_le_succ enough) rfl
      rw [← skip_nilInLists] at inside
      refine datum_run_list ?_
      rw [many_of_taken inside, many_closing]
      rfl

end Reader

/-- The positive infinity. -/
def Datum.infinity : Datum :=
  .float (.infinite false)

/-- A numeral past the largest number is read as infinity. -/
theorem readProgram_overflow :
    readProgram "1e999".toList = .ok [.infinity] := by
  apply readProgram_of_readSingle
  apply readSingle_of_readAtom
  decide

theorem readProgram_nilInLists :
    readProgram (Reader.nilInLists maxNesting []) =
      .ok [(Datum.list []).inLists maxNesting] := by
  apply readProgram_of_readSingle
  apply readSingle_of_taken
  rw [Reader.skip_nilInLists]
  exact Reader.datum_run_nilInLists (Nat.le_refl maxNesting) rfl

/-! ## All other values -/

/-- A datum that was read reads back from its printed form exactly when none of
its floats is infinite and its printed form is not nested too deeply. -/
theorem readSingle_written_iff
    {source : List Char}
    {data : List Datum}
    {value : Datum}
    (read : readProgram source = .ok data)
    (member : value ∈ data) :
    readSingle value.written = .ok value ↔
      (∀ negative, .float (.infinite negative) ∉ value.leaves) ∧
        value.nesting ≤ maxNesting := by
  have readable := namesReadable_of_readProgram read value member
  have numbers := nan_not_mem_leaves_of_readProgram read value member
  rw [readSingle_eq_reread readable, ← Datum.floatsFinite_iff numbers,
    ← Datum.reread_eq_iff]
  split_ifs with shallow
  · simp [shallow]
  · simp [shallow]

/-- A numeral with a sign and an exponent is read back without them. -/
theorem readSingle_written_half :
    readProgram "+5e-1".toList = .ok [.float (.finite false .half)] ∧
      (Datum.float (.finite false .half)).written = "0.5".toList ∧
      readSingle (Datum.float (.finite false .half)).written =
        .ok (.float (.finite false .half)) := by
  have read : readProgram "+5e-1".toList =
      .ok [.float (.finite false .half)] := by
    apply readProgram_of_readSingle
    apply readSingle_of_readAtom
    decide +kernel
  refine ⟨read, by decide +kernel, ?_⟩
  refine (readSingle_written_iff read List.mem_cons_self).mpr ⟨?_, ?_⟩
  · simp
  · decide

/-- Two data that were read and are not read back: an infinite float is printed
as a symbol, and the word `nil` in as many lists as may be nested is printed as
one list more. -/
theorem readSingle_written_ne :
    (readProgram "1e999".toList = .ok [.infinity] ∧
      readSingle Datum.infinity.written = .ok (.symbol "inf")) ∧
    readProgram (Reader.nilInLists maxNesting []) =
        .ok [(Datum.list []).inLists maxNesting] ∧
      readSingle ((Datum.list []).inLists maxNesting).written =
        .error .nestingTooDeep := by
  refine ⟨⟨readProgram_overflow, ?_⟩, readProgram_nilInLists, ?_⟩
  · apply readSingle_of_readAtom
    decide
  · have readable := namesReadable_of_readProgram readProgram_nilInLists _
      List.mem_cons_self
    rw [readSingle_eq_reread readable, if_neg]
    rw [Datum.nesting_inLists]
    decide

end SExpr
