import SExpr.Proofs.Reader.Lines

/-!
# One datum after another

Reading a source is reading its first datum, and then reading what that leaves as a
source of its own. The blanks and comments between the two are skipped after the first
datum here and before the second one there, and skipping twice does no more than skipping
once. Where no first datum is read, the source is empty but for blanks and comments, or
it ends in the fault that was met.
-/

namespace SExpr
namespace Reader

variable {reader : Reader α} {text rest : List Char}

/-- After a first value come those of the text that is left, blanks and comments skipped. -/
theorem all_of_taken
    {value : α}
    (taken : reader.run (skip text) = .taken value rest) :
    reader.all text =
      (reader.all (skip rest)).map fun (others, place) => ([value] ++ others, place) := by
  rw [all_congr_skip reader (skip_skip rest), Reader.all, many_of_taken taken, Reader.all]
  cases reader.many rest <;> rfl

/-- Where no first value is taken there are none. -/
theorem all_of_refused
    {place : List Char}
    (refused : reader.run (skip text) = .refused place) :
    reader.all text = .ok ([], skip text) := by
  rw [Reader.all, many_of_refused refused]
  rfl

theorem all_of_failed
    {failure : Failure}
    (failed : reader.run (skip text) = .failed failure) :
    reader.all text = .error failure := by
  rw [Reader.all, many_of_failed failed]
  rfl

end Reader

/-! ## The first datum -/

section First

variable {source : List Char}

/-- The first datum of a source is what is read after blanks and comments, and those after
it are skipped. -/
theorem readFirst_eq_ok_iff
    {first : FirstDatum} :
    readFirst source = .ok first ↔
      ∃ after, Reader.topLevel.run (Reader.skip source) = .taken first.datum after ∧
        first.rest = Reader.skip after := by
  unfold readFirst
  split
  · next datum after taken =>
      constructor
      · rintro ⟨⟩
        exact ⟨after, taken, rfl⟩
      · rintro ⟨other, takenOther, rest⟩
        obtain ⟨rfl, rfl⟩ := Reading.taken.inj (taken.symm.trans takenOther)
        rw [← rest]
  · next refused => simp [refused]
  · next failed => simp [failed]

theorem readFirst_eq_refused_iff
    {place : List Char} :
    readFirst source = .error (.refused place) ↔
      Reader.topLevel.run (Reader.skip source) = .refused place := by
  unfold readFirst
  split <;> simp_all

theorem readFirst_eq_failed_iff
    {failure : Failure} :
    readFirst source = .error (.failed failure) ↔
      Reader.topLevel.run (Reader.skip source) = .failed failure := by
  unfold readFirst
  split <;> simp_all

end First

/-! ## The whole source -/

section Source

variable {source : List Char}

/-- There are no data in blanks and comments. -/
theorem readProgram_of_skips_nil
    (skips : Reader.Skips source []) :
    readProgram source = .ok [] := by
  have nothing := Reader.skips_nil_iff.mp skips
  have refused : Reader.topLevel.run (Reader.skip source) = .refused [] := by
    rw [nothing]
    exact Reader.datum_run_nil maxNesting
  rw [readProgram_eq_ok_iff_all, Reader.all_of_refused refused, nothing]

/-- What the first datum leaves is a proper end of the source. -/
theorem isSuffix_and_ne_of_readFirst
    {first : FirstDatum}
    (read : readFirst source = .ok first) :
    first.rest <:+ source ∧ first.rest ≠ source := by
  obtain ⟨after, taken, rest⟩ := readFirst_eq_ok_iff.mp read
  have shorter := Reader.topLevel.shortens taken
  have bound := Reader.length_skip_le source
  have left := Reader.length_skip_le after
  constructor
  · rw [rest]
    exact (Reader.isSuffix_skip after).trans
      (Reader.keepsPlace_topLevel.of_run_skip taken)
  · intro same
    rw [← rest, same] at left
    omega

/-- The data of a source are the first one and those of what it leaves, and a fault in
what it leaves is the same one, further on by the bytes before that. -/
theorem readProgram_of_readFirst_eq_ok
    {first : FirstDatum}
    (read : readFirst source = .ok first) :
    readProgram source =
      match readProgram first.rest with
      | .ok data => .ok (first.datum :: data)
      | .error error => .error (error.movedBy (Reader.offset source first.rest)) := by
  obtain ⟨after, taken, rest⟩ := readFirst_eq_ok_iff.mp read
  have all := Reader.all_of_taken taken
  rw [← rest] at all
  exact readProgram_of_all_eq (isSuffix_and_ne_of_readFirst read).1 all

/-- Where no first datum is read without a failure, the fault is at the first character
that is not skipped. -/
theorem readProgram_of_readFirst_eq_refused
    {place : List Char}
    (refused : readFirst source = .error (.refused place))
    (more : Reader.skip source ≠ []) :
    readProgram source = .error (unexpectedAt source (Reader.skip source)) := by
  have all := Reader.all_of_refused (readFirst_eq_refused_iff.mp refused)
  exact readProgram_eq_error_iff.mpr (.inr ⟨[], _, all, more, rfl⟩)

/-- A failure at the first datum is the fault of the source. -/
theorem readProgram_of_readFirst_eq_failed
    {failure : Failure}
    (failed : readFirst source = .error (.failed failure)) :
    readProgram source = .error (failure.error source) := by
  have all := Reader.all_of_failed (readFirst_eq_failed_iff.mp failed)
  exact readProgram_eq_error_iff.mpr (.inl ⟨failure, all, rfl⟩)

end Source

/-- Reading a source repeats reading a first datum. Blanks and comments alone have no
data. After a first datum the source is read as what that leaves, the offset of a fault
grown by the bytes that it stands further on. Where a first datum is refused, the source
is unreadable at the first character after the blanks and comments at its start, and a
failure at the first datum is the fault of the source, at the same place. -/
theorem readProgram_of_readFirst (source : List Char) :
    (Reader.Skips source [] -> readProgram source = .ok []) ∧
    (∀ first, readFirst source = .ok first ->
      (first.rest <:+ source ∧ first.rest ≠ source) ∧
      readProgram source =
        match readProgram first.rest with
        | .ok data => .ok (first.datum :: data)
        | .error error =>
            .error (error.movedBy
              (Utf8.byteLength source - Utf8.byteLength first.rest))) ∧
    (∀ place, readFirst source = .error (.refused place) -> ¬ Reader.Skips source [] ->
      ∃ trivia rest, trivia ++ rest = source ∧
        Reader.Skips source rest ∧ Reader.NothingToSkip rest ∧
        readProgram source =
          .error (.unreadable
            (.unexpected (Utf8.byteLength trivia) (rest.take snippetLength)))) ∧
    ∀ failure, readFirst source = .error (.failed failure) ->
      failure.place <:+ source ∧
      readProgram source =
        .error
          (match failure.cause with
          | .nestingTooDeep => .nestingTooDeep
          | .integerOutOfRange =>
              .unreadable (.integerOutOfRange (Reader.offset source failure.place))
          | .exponentWithoutDigits =>
              .unreadable
                (.unexpected (Reader.offset source failure.place)
                  (failure.place.take snippetLength))) := by
  refine ⟨readProgram_of_skips_nil, ?_, ?_, ?_⟩
  · intro first read
    exact ⟨isSuffix_and_ne_of_readFirst read, readProgram_of_readFirst_eq_ok read⟩
  · intro place refused notOnlyTrivia
    obtain ⟨trivia, together⟩ := Reader.isSuffix_skip source
    have fault := readProgram_of_readFirst_eq_refused refused
      (mt Reader.skips_nil_iff.mpr notOnlyTrivia)
    have bytes := Reader.offset_append_self trivia (Reader.skip source)
    rw [together] at bytes
    rw [unexpectedAt, bytes] at fault
    exact ⟨trivia, _, together, Reader.skips_skip source,
      Reader.nothingToSkip_skip source, fault⟩
  · intro failure failed
    have isSuffix := Reader.keepsPlace_topLevel.of_run_skip
      (readFirst_eq_failed_iff.mp failed)
    exact ⟨isSuffix, readProgram_of_readFirst_eq_failed failed⟩

/-- A comment alone, a symbol of two bytes before a list that is not closed, a closing
parenthesis after a comment, and an exponent without digits in a quoted list. -/
theorem readProgram_of_readFirst_fourSources :
    (Reader.Skips "\t;é".toList [] ∧ readProgram "\t;é".toList = .ok []) ∧
    (readFirst "é ;\r\n(".toList = .ok ⟨.symbol "é", ['(']⟩ ∧
      readProgram ['('] = .error (.unreadable (.unexpected 0 ['('])) ∧
      readProgram "é ;\r\n(".toList = .error (.unreadable (.unexpected 6 ['(']))) ∧
    (readFirst " ;é\n)x".toList = .error (.refused ")x".toList) ∧
      readProgram " ;é\n)x".toList =
        .error (.unreadable (.unexpected 5 ")x".toList))) ∧
    (readFirst "'(1e".toList = .error (.failed ⟨.exponentWithoutDigits, []⟩) ∧
      readProgram "'(1e".toList = .error (.unreadable (.unexpected 4 []))) := by
  have comment : Reader.Skips "\t;é".toList [] :=
    Reader.skips_nil_iff.mpr (by decide +kernel)
  have symbol : readFirst "é ;\r\n(".toList = .ok ⟨.symbol "é", ['(']⟩ :=
    readFirst_eq_ok_iff.mpr ⟨" ;\r\n(".toList, by decide +kernel, by decide +kernel⟩
  have opening : readProgram ['('] = .error (.unreadable (.unexpected 0 ['('])) := by
    decide +kernel
  have closing : readFirst " ;é\n)x".toList = .error (.refused ")x".toList) :=
    readFirst_eq_refused_iff.mpr (by decide +kernel)
  have number : readFirst "'(1e".toList = .error (.failed ⟨.exponentWithoutDigits, []⟩) :=
    readFirst_eq_failed_iff.mpr (by decide +kernel)
  have left : Reader.skip " ;é\n)x".toList = ")x".toList := by decide +kernel
  refine ⟨⟨comment, (readProgram_of_readFirst _).1 comment⟩, ⟨symbol, opening, ?_⟩,
    ⟨closing, ?_⟩, number, ((readProgram_of_readFirst _).2.2.2 _ number).2⟩
  · have further := ((readProgram_of_readFirst _).2.1 _ symbol).2
    dsimp only at further
    rw [opening] at further
    exact further
  · have notOnlyTrivia : ¬ Reader.Skips " ;é\n)x".toList [] := by
      rw [Reader.skips_nil_iff, left]
      decide
    obtain ⟨trivia, rest, together, skips, nothing, fault⟩ :=
      (readProgram_of_readFirst _).2.2.1 _ closing notOnlyTrivia
    obtain rfl := (Reader.skip_eq_iff.mpr ⟨skips, nothing⟩).symm.trans left
    obtain rfl : trivia = " ;é\n".toList := List.append_cancel_right together
    exact fault

end SExpr
