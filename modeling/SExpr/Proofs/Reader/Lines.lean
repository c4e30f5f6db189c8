import SExpr.Proofs.Reader.Place
import SExpr.Proofs.Reader.Skipping

/-!
# Texts one line after another

A line feed after a text ends whatever the text may end in, an atom or a comment,
and is skipped itself. So a text that can be read to its end is read in the same way
in front of a line feed and any other text, and what is read after it is what is
read from the other text alone. A fault in the other text stays the same fault, with
the bytes of the first text and of the line feed added to its offset.
-/

namespace SExpr

/-- The fault of a text that stands a number of bytes further on in a source. -/
def ReadFault.movedBy
    (bytes : Nat) : ReadFault -> ReadFault
  | .integerOutOfRange offset => .integerOutOfRange (offset + bytes)
  | .unexpected offset snippet => .unexpected (offset + bytes) snippet
  | .notOneDatum count => .notOneDatum count

/-- The error of a text that stands a number of bytes further on in a source. -/
def Error.movedBy
    (bytes : Nat) : Error -> Error
  | .unreadable fault => .unreadable (fault.movedBy bytes)
  | other => other

namespace Reader

variable {text rest : List Char}

/-! ## Trivia -/

/-- A line feed ends a comment that nothing ends before it. -/
theorem EndsComment.append_line
    (ends : EndsComment text)
    (next : List Char) :
    EndsComment (text ++ '\n' :: next) := by
  obtain rfl | ⟨after, rfl⟩ | ⟨after, rfl⟩ := ends
  · exact .inr (.inl ⟨next, rfl⟩)
  · exact .inr (.inl ⟨_, rfl⟩)
  · exact .inr (.inr ⟨_, rfl⟩)

theorem afterComment?_append_line
    (found : afterComment? text = some rest)
    (next : List Char) :
    afterComment? (text ++ '\n' :: next) = some (rest ++ '\n' :: next) := by
  obtain ⟨line, rfl, inside, ended⟩ := exists_line_of_afterComment? found
  rw [List.append_assoc]
  exact afterComment?_append inside (ended.append_line next)

/-- What is skipped at the start of a text is skipped before a line feed as well,
unless it ends at a semicolon that starts no comment: its line might end there. -/
theorem skip_append_line
    (noComment : (skip text).head? ≠ some ';')
    (next : List Char) :
    skip (text ++ '\n' :: next) = skip (skip text ++ '\n' :: next) := by
  fun_induction skip text with
  | case1 => rfl
  | case2 character rest blank inductionHypothesis =>
      rw [List.cons_append, skip_blank blank]
      exact inductionHypothesis noComment
  | case3 rest after found notBlank inductionHypothesis =>
      have foundBefore := afterComment?_append_line found next
      rw [List.cons_append, skip_of_afterComment? foundBefore]
      exact inductionHypothesis noComment
  | case4 => exact absurd rfl noComment
  | case5 => rfl

/-- After a text in which everything is skipped, the next line is what is left. -/
theorem skip_append_line_of_nil
    (nothing : skip text = [])
    (next : List Char) :
    skip (text ++ '\n' :: next) = skip next := by
  have noComment : (skip text).head? ≠ some ';' := by
    simp [nothing]
  rw [skip_append_line noComment, nothing, List.nil_append,
    skip_blank (by decide)]

/-- What is not skipped starts with no blank. -/
theorem isBlank_eq_false_of_skip
    {character : Char}
    (start : skip text = character :: rest) :
    isBlank character = false := by
  have nothing := nothingToSkip_skip text
  rw [start] at nothing
  by_contra blank
  rw [Bool.not_eq_false] at blank
  exact nothing rest (.blank blank rest)

/-- Where something other than a semicolon is not skipped, all of the text after it
and the next line stand there. -/
theorem skip_append_line_of_cons
    {character : Char}
    (start : skip text = character :: rest)
    (noComment : character ≠ ';')
    (next : List Char) :
    skip (text ++ '\n' :: next) = character :: (rest ++ '\n' :: next) := by
  have notBlank := isBlank_eq_false_of_skip start
  have noCommentHead : (skip text).head? ≠ some ';' := by
    rw [start]
    simpa using noComment
  rw [skip_append_line noCommentHead, start]
  exact skip_cons notBlank noComment _

/-! ## Data -/

section Data

variable {levels : Nat} {value : Datum}

/-- A datum starts with no semicolon. -/
theorem exists_cons_of_datum_run
    (taken : (datum levels).run text = .taken value rest) :
    ∃ character more, text = character :: more ∧ character ≠ ';' := by
  cases takenFrom_of_datum_run taken with
  | list opened _ _ => exact ⟨_, _, opened, by decide⟩
  | quoted marked _ => exact ⟨_, _, marked, by decide⟩
  | atom taken =>
      have undelimited := startsDelimiter_eq_false_of_readAtom taken
      match text with
      | [] => cases undelimited
      | character :: more =>
          refine ⟨character, more, rfl, ?_⟩
          rintro rfl
          cases undelimited

/-- What is skipped before a datum is skipped in front of the next line too. -/
theorem skip_append_line_of_taken
    (taken : (datum levels).run (skip text) = .taken value rest)
    (next : List Char) :
    skip (text ++ '\n' :: next) = skip text ++ '\n' :: next := by
  obtain ⟨character, more, start, noComment⟩ := exists_cons_of_datum_run taken
  rw [skip_append_line_of_cons start noComment, start, List.cons_append]

/-- Data that are read are read in front of the next line as well, and reading goes
on with what is left of their own line. -/
theorem many_append_line
    {next : List Char}
    (each : ∀ {text value rest},
      (datum levels).run text = .taken value rest ->
        (datum levels).run (text ++ '\n' :: next) =
          .taken value (rest ++ '\n' :: next))
    {values : List Datum}
    (read : (datum levels).many text = .ok (values, rest)) :
    (datum levels).many (text ++ '\n' :: next) =
      ((datum levels).many (rest ++ '\n' :: next)).map fun (others, after) =>
        (values ++ others, after) := by
  refine many_induction
    (motive := fun text values rest =>
      (datum levels).many (text ++ '\n' :: next) =
        ((datum levels).many (rest ++ '\n' :: next)).map
          fun (others, after) => (values ++ others, after)) ?_ ?_ read
  · intro text
    cases (datum levels).many (text ++ '\n' :: next) <;> rfl
  · intro text value after values rest taken others
    have here := each taken
    rw [← skip_append_line_of_taken taken] at here
    rw [many_of_taken here, others]
    cases (datum levels).many (rest ++ '\n' :: next) <;> rfl

/-- A datum that is read is read in front of the next line as well. -/
theorem datum_run_append_line
    (taken : (datum levels).run text = .taken value rest)
    (next : List Char) :
    (datum levels).run (text ++ '\n' :: next) =
      .taken value (rest ++ '\n' :: next) := by
  refine datum_run_induction
    (motive := fun levels text value rest =>
      (datum levels).run (text ++ '\n' :: next) =
        .taken value (rest ++ '\n' :: next)) ?_ ?_ ?_ taken
  · intro levels text value rest taken
    have undelimited := startsDelimiter_eq_false_of_readAtom taken
    have delimited : startsDelimiter ('\n' :: next) = true := rfl
    rw [datum_run_of_not_delimited
      (startsDelimiter_append_of_not undelimited _),
      readAtom_append_delimited delimited, taken, Reading.before]
  · intro levels items inside after rest each elements closed
    have ended := skip_append_line_of_cons closed (by decide) next
    have refused := datum_run_closing levels (rest ++ '\n' :: next)
    rw [← ended] at refused
    have all := many_append_line each elements
    rw [many_of_refused refused] at all
    simp only [Except.map, List.append_nil] at all
    exact datum_run_list_of_skip all ended
  · intro levels value inside rest quoted here
    rw [← skip_append_line_of_taken quoted] at here
    exact datum_run_quoted here

end Data

/-- What is read from a text and left after it is told by what is not skipped. -/
theorem all_congr_skip
    (reader : Reader α)
    {other : List Char}
    (same : skip text = skip other) :
    reader.all text = reader.all other := by
  unfold Reader.all
  match outcome : reader.run (skip text) with
  | .taken value rest =>
      have here := outcome
      rw [same] at here
      rw [many_of_taken outcome, many_of_taken here]
  | .refused place =>
      have here := outcome
      rw [same] at here
      rw [many_of_refused outcome, many_of_refused here]
      simp only [Except.map, same]
  | .failed failure =>
      have here := outcome
      rw [same] at here
      rw [many_of_failed outcome, many_of_failed here]

/-- After data that are read to the end of their text, those of the next line are
read. -/
theorem all_append_line
    {levels : Nat}
    {values : List Datum}
    (read : (datum levels).all text = .ok (values, []))
    (next : List Char) :
    (datum levels).all (text ++ '\n' :: next) =
      ((datum levels).all next).map fun (others, place) =>
        (values ++ others, place) := by
  obtain ⟨after, many, nothing⟩ := all_eq_ok_iff.mp read
  have line :=
    many_append_line (fun taken => datum_run_append_line taken next) many
  have nextLine := all_congr_skip (datum levels)
    (skip_append_line_of_nil nothing next)
  rw [← nextLine, Reader.all, line, Reader.all]
  cases (datum levels).many (after ++ '\n' :: next) <;> rfl

end Reader

/-! ## Sources -/

section Sources

variable {first second : List Char} {data : List Datum}

/-- Data of two texts are read from the lines of both. -/
theorem readProgram_append_line_of_ok
    {others : List Datum}
    (read : readProgram first = .ok data)
    (readNext : readProgram second = .ok others) :
    readProgram (first ++ '\n' :: second) = .ok (data ++ others) := by
  rw [readProgram_eq_ok_iff_all] at *
  rw [Reader.topLevel] at read readNext ⊢
  rw [Reader.all_append_line read second, readNext]
  rfl

/-- Bytes that stand before the place of a fault are counted in its offset. -/
theorem unexpectedAt_append
    {source place : List Char}
    (isSuffix : place <:+ source)
    (before : List Char) :
    unexpectedAt (before ++ source) place =
      (unexpectedAt source place).movedBy (Utf8.byteLength before) := by
  unfold unexpectedAt
  rw [Reader.offset_append isSuffix before]
  rfl

theorem Failure.error_append
    {source : List Char}
    {failure : Failure}
    (isSuffix : failure.place <:+ source)
    (before : List Char) :
    failure.error (before ++ source) =
      (failure.error source).movedBy (Utf8.byteLength before) := by
  unfold Failure.error
  split
  · rfl
  · rw [Reader.offset_append isSuffix before]
    rfl
  · exact unexpectedAt_append isSuffix before

/-- A source whose data are some data and those of an end of it is read as that end is,
after those data: a fault is the same one, further on by what stands before the end. -/
theorem readProgram_of_all_eq
    {source rest : List Char}
    (isSuffix : rest <:+ source)
    (all : Reader.topLevel.all source =
      (Reader.topLevel.all rest).map fun (others, place) => (data ++ others, place)) :
    readProgram source =
      match readProgram rest with
      | .ok others => .ok (data ++ others)
      | .error error => .error (error.movedBy (Reader.offset source rest)) := by
  have keeps := Reader.keepsPlace_topLevel
  obtain ⟨before, rfl⟩ := isSuffix
  rw [Reader.offset_append_self]
  match read : readProgram rest with
  | .ok others =>
      rw [readProgram_eq_ok_iff_all] at read
      rw [readProgram_eq_ok_iff_all, all, read]
      rfl
  | .error error =>
      rw [readProgram_eq_error_iff, all]
      obtain ⟨failure, failed, rfl⟩ | ⟨others, place, allRest, left, rfl⟩ :=
        readProgram_eq_error_iff.mp read
      · refine .inl ⟨failure, by rw [failed]; rfl, ?_⟩
        exact (Failure.error_append (keeps.all_failed failed) before).symm
      · refine .inr ⟨data ++ others, place, by rw [allRest]; rfl, left, ?_⟩
        exact (unexpectedAt_append (keeps.all allRest) before).symm

/-- A fault in a text is the same one in a line after another text, further on by
that line. -/
theorem readProgram_append_line_of_error
    {error : Error}
    (read : readProgram first = .ok data)
    (failed : readProgram second = .error error) :
    readProgram (first ++ '\n' :: second) =
      .error (error.movedBy (Utf8.byteLength first + 1)) := by
  have bytes : Utf8.byteLength (first ++ ['\n']) = Utf8.byteLength first + 1 := by
    rw [Utf8.byteLength_append]
    rfl
  have line : first ++ '\n' :: second = (first ++ ['\n']) ++ second := by simp
  have joined :=
    Reader.all_append_line (readProgram_eq_ok_iff_all.mp read) second
  rw [line] at joined ⊢
  rw [readProgram_of_all_eq (List.suffix_append _ second) joined, failed,
    Reader.offset_append_self, bytes]

/-- After a text that can be read, a line feed and a second text are read as the
second text is: its data follow those of the first, and its error is the same with
the bytes of the first text and of the line feed added to the offset. -/
theorem readProgram_append_line
    (read : readProgram first = .ok data)
    (second : List Char) :
    readProgram (first ++ '\n' :: second) =
      match readProgram second with
      | .ok others => .ok (data ++ others)
      | .error error => .error (error.movedBy (Utf8.byteLength first + 1)) := by
  match next : readProgram second with
  | .ok others => exact readProgram_append_line_of_ok read next
  | .error error => exact readProgram_append_line_of_error read next

end Sources

/-- A quotation before a comment that no line end ends, and a list on the next line
with an integer that does not fit: the offset counts the two bytes of the accented
letter. -/
theorem readProgram_noted_quotation :
    readProgram "'a;é".toList = .ok [(Datum.symbol "a").quoted] ∧
      readProgram "(b 9223372036854775808)".toList =
        .error (.unreadable (.integerOutOfRange 3)) ∧
      readProgram ("'a;é".toList ++
          '\n' :: "(b 9223372036854775808)".toList) =
        .error (.unreadable (.integerOutOfRange 9)) := by
  have first : readProgram "'a;é".toList =
      .ok [(Datum.symbol "a").quoted] := by
    decide +kernel
  have second : readProgram "(b 9223372036854775808)".toList =
      .error (.unreadable (.integerOutOfRange 3)) := by
    decide +kernel
  have lines :=
    readProgram_append_line first "(b 9223372036854775808)".toList
  rw [second] at lines
  exact ⟨first, second, lines⟩

end SExpr
