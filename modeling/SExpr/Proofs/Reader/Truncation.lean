import SExpr.Proofs.Reader.Iteration

/-!
# Sources cut off

What is read from a text does not depend on what reading leaves of it: cut off where a
datum ends, the text is read as the same datum to its end. So the place that an error
names divides a source in two. What stands before it is a source that can be read, and
where it is no datum starts, nor anything that is skipped.
-/

namespace SExpr
namespace Reader

variable {text rest behind : List Char}

/-! ## Blanks and comments -/

/-- A comment that ends at some place ends there with what follows cut off, unless the cut
is between two line end characters. -/
theorem EndsComment.of_append
    (ended : EndsComment (text ++ behind)) :
    EndsComment text ∨ text = ['\r'] ∧ ∃ next, behind = '\n' :: next := by
  match text with
  | [] => exact .inl (.inl rfl)
  | [character] => simpa [EndsComment, and_comm] using ended
  | character :: following :: more =>
      left
      simpa [EndsComment] using ended

/-- A text is skipped up to some place with what follows cut off, unless a semicolon
stands there: it might start a comment now. -/
theorem skip_of_skip_append
    (skipped : skip (text ++ behind) = rest ++ behind)
    (noComment : rest.head? ≠ some ';') :
    skip text = rest := by
  have ends {whole : List Char} (left : skip whole = rest ++ behind) :
      behind <:+ whole := by
    have isSuffix := isSuffix_skip whole
    rw [left] at isSuffix
    exact (List.suffix_append rest behind).trans isSuffix
  generalize together : text ++ behind = whole at skipped
  fun_induction skip whole generalizing text with
  | case1 =>
      obtain ⟨rfl, -⟩ := List.append_eq_nil_iff.mp together
      obtain ⟨rfl, -⟩ := List.append_eq_nil_iff.mp skipped.symm
      rw [skip]
  | case2 character more blank inductionHypothesis =>
      obtain ⟨rfl, rfl⟩ | ⟨others, rfl, rfl⟩ := List.append_eq_cons_iff.mp together
      · exact absurd (ends skipped).length_le (by simp)
      · rw [skip_blank blank]
        exact inductionHypothesis rfl skipped
  | case3 more after found notBlank inductionHypothesis =>
      obtain ⟨line, rfl, inside, ended⟩ := exists_line_of_afterComment? found
      obtain ⟨inner, rfl⟩ := ends skipped
      rw [← List.append_assoc, ← List.cons_append] at together
      obtain rfl := List.append_cancel_right together
      obtain innerEnded | ⟨rfl, next, rfl⟩ := ended.of_append
      · rw [skip_comment inside innerEnded]
        exact inductionHypothesis rfl skipped
      -- Both line end characters are skipped, so the second is not among what is left.
      · rw [List.singleton_append, skip_blank rfl, skip_blank rfl] at skipped
        have bound := length_skip_le next
        rw [skipped] at bound
        simp at bound
        omega
  | case4 more notFound notBlank =>
      obtain rfl := List.append_cancel_right (together.trans skipped)
      obtain ⟨rfl, -⟩ | ⟨others, rfl, -⟩ := List.append_eq_cons_iff.mp together
      · rw [skip]
      · exact absurd rfl noComment
  | case5 character more notBlank notComment =>
      obtain rfl := List.append_cancel_right (together.trans skipped)
      obtain ⟨rfl, -⟩ | ⟨others, rfl, -⟩ := List.append_eq_cons_iff.mp together
      · rw [skip]
      · exact skip_cons (by simpa using notBlank) notComment others

/-! ## Data -/

section Data

variable {levels : Nat} {value : Datum}

/-- An atom is read without what it leaves of a text. -/
theorem readAtom_of_readAtom_append
    (taken : readAtom (text ++ behind) = .taken value (rest ++ behind)) :
    readAtom text = .taken value rest := by
  obtain ⟨run, together, -, alone⟩ := exists_run_of_readAtom taken
  rw [← List.append_assoc] at together
  obtain rfl := List.append_cancel_right together
  have delimited : startsDelimiter rest = true := by
    by_contra undelimited
    rw [Bool.not_eq_true] at undelimited
    have before := startsDelimiter_append_of_not undelimited behind
    rw [startsDelimiter_of_readAtom taken] at before
    cases before
  rw [readAtom_append_delimited delimited, alone]
  rfl

/-- What is skipped before a datum is skipped without what the datum leaves. -/
theorem skip_append_of_taken
    (taken : (datum levels).run (skip (text ++ behind)) = .taken value (rest ++ behind)) :
    skip (text ++ behind) = skip text ++ behind := by
  have left := keepsPlace_datum levels (skip (text ++ behind))
  rw [taken] at left
  obtain ⟨start, together⟩ := (List.suffix_append rest behind).trans left
  obtain ⟨character, more, first, notSemicolon⟩ := exists_cons_of_datum_run taken
  have noComment : start.head? ≠ some ';' := by
    match start with
    | [] => simp
    | head :: _ =>
        obtain ⟨rfl, -⟩ := List.cons.inj (together.trans first)
        simpa using notSemicolon
  rw [skip_of_skip_append together.symm noComment, together]

/-- Data that are read from a text are read without what they leave, and reading goes on
with what they leave of the text that is cut off. -/
theorem many_of_many_append
    (each : ∀ {text value rest},
      (datum levels).run (text ++ behind) = .taken value (rest ++ behind) ->
        (datum levels).run text = .taken value rest)
    {values : List Datum}
    (read : (datum levels).many (text ++ behind) = .ok (values, rest ++ behind)) :
    (datum levels).many text =
      ((datum levels).many rest).map fun (others, after) => (values ++ others, after) := by
  refine (many_induction
    (motive := fun whole values left => left <:+ whole ∧
      ∀ text rest, text ++ behind = whole -> rest ++ behind = left ->
        (datum levels).many text =
          ((datum levels).many rest).map fun (others, after) =>
            (values ++ others, after))
    ?_ ?_ read).2 text rest rfl rfl
  · intro whole
    refine ⟨List.suffix_rfl, ?_⟩
    rintro text rest rfl same
    obtain rfl := List.append_cancel_right same
    cases (datum levels).many rest <;> rfl
  · rintro whole value after values left taken ⟨isSuffix, inductionHypothesis⟩
    refine ⟨isSuffix.trans ((keepsPlace_datum levels).of_run_skip taken), ?_⟩
    rintro text rest rfl rfl
    obtain ⟨inner, rfl⟩ := (List.suffix_append rest behind).trans isSuffix
    rw [skip_append_of_taken taken] at taken
    rw [many_of_taken (each taken), inductionHypothesis inner rest rfl rfl]
    cases (datum levels).many rest <;> rfl

/-- A datum that is read from a text is read without what it leaves. -/
theorem datum_run_of_run_append
    (taken : (datum levels).run (text ++ behind) = .taken value (rest ++ behind)) :
    (datum levels).run text = .taken value rest := by
  refine datum_run_induction
    (motive := fun levels whole value left => ∀ text rest,
      text ++ behind = whole -> rest ++ behind = left ->
        (datum levels).run text = .taken value rest)
    ?_ ?_ ?_ taken text rest rfl rfl
  · rintro levels whole value left taken text rest rfl rfl
    have alone := readAtom_of_readAtom_append taken
    rw [datum_run_of_not_delimited (startsDelimiter_eq_false_of_readAtom alone)]
    exact alone
  · rintro levels items inside after left each elements closed text rest together rfl
    have closing := isSuffix_skip after
    rw [closed] at closing
    obtain ⟨inner, rfl⟩ := ((List.suffix_append rest behind).trans
      (List.suffix_cons ')' _)).trans closing
    obtain ⟨start, rfl⟩ := (List.suffix_append inner behind).trans
      ((keepsPlace_datum levels).many elements)
    obtain rfl : text = '(' :: start := List.append_cancel_right together
    have innerClosed : skip inner = ')' :: rest :=
      skip_of_skip_append closed (by simp)
    have refused := datum_run_closing levels rest
    rw [← innerClosed] at refused
    have all := many_of_many_append (fun taken => each taken _ _ rfl rfl) elements
    rw [many_of_refused refused] at all
    simp only [Except.map, List.append_nil] at all
    exact datum_run_list_of_skip all innerClosed
  · rintro levels value inside left taken inductionHypothesis text rest together rfl
    obtain ⟨start, rfl⟩ := (List.suffix_append rest behind).trans
      ((keepsPlace_datum levels).of_run_skip taken)
    obtain rfl : text = '\'' :: start := List.append_cancel_right together
    exact datum_run_quoted
      (inductionHypothesis _ rest (skip_append_of_taken taken).symm rfl)

end Data

/-- Repetition ends where no value is taken. -/
theorem exists_refused_of_many
    {reader : Reader α}
    {values : List α}
    (read : reader.many text = .ok (values, rest)) :
    ∃ place, reader.run (skip rest) = .refused place := by
  fun_induction Reader.many reader text generalizing values with
  | case1 text value after taken inductionHypothesis =>
      cases others : reader.many after with
      | error failure =>
          rw [others] at read
          cases read
      | ok more =>
          rw [others] at read
          cases read
          exact inductionHypothesis others
  | case2 text place refused =>
      cases read
      exact ⟨place, refused⟩
  | case3 text failure failed => cases read

end Reader

/-! ## Sources -/

section Source

variable {before place : List Char} {data : List Datum}

/-- Before the place where its data end, a source is read as those data. -/
theorem readProgram_of_all_append
    (read : Reader.topLevel.all (before ++ place) = .ok (data, place)) :
    readProgram before = .ok data := by
  obtain ⟨after, many, left⟩ := Reader.all_eq_ok_iff.mp read
  obtain ⟨trivia, rfl⟩ : place <:+ after := left ▸ Reader.isSuffix_skip after
  -- What stands between the last datum and the place is skipped.
  have nothing : Reader.skip trivia = [] :=
    Reader.skip_of_skip_append left (by simp)
  have refused := Reader.datum_run_nil maxNesting
  rw [← nothing] at refused
  have cutOff := Reader.many_of_many_append Reader.datum_run_of_run_append many
  rw [Reader.many_of_refused refused] at cutOff
  simp only [Except.map, List.append_nil] at cutOff
  exact (readProgram_eq_ok_iff ..).mpr ⟨trivia, cutOff, nothing⟩

/-- At the place where its data end, no datum of a source starts. -/
theorem exists_refused_of_all
    (read : Reader.topLevel.all before = .ok (data, place)) :
    Reader.NothingToSkip place ∧ ∃ fault, readFirst place = .error (.refused fault) := by
  obtain ⟨after, many, rfl⟩ := Reader.all_eq_ok_iff.mp read
  obtain ⟨fault, refused⟩ := Reader.exists_refused_of_many many
  refine ⟨Reader.nothingToSkip_skip after, fault, readFirst_eq_refused_iff.mpr ?_⟩
  rw [Reader.skip_skip]
  exact refused

end Source

/-- Where reading a source ends without a failure and the source is still unreadable, the
offset of the fault is the number of bytes before some character of the source. The text
before that character can be read. From there on nothing is skipped and no datum is read,
and the snippet is the start of what stands there. -/
theorem readProgram_of_readProgram_eq_unexpected
    {source snippet : List Char}
    {bytes : Nat}
    (noFailure : ∀ failure, Reader.topLevel.many source ≠ .error failure)
    (fault : readProgram source = .error (.unreadable (.unexpected bytes snippet))) :
    ∃ before character rest, before ++ character :: rest = source ∧
      bytes = Utf8.byteLength before ∧ bytes < Utf8.byteLength source ∧
      (∃ data, readProgram before = .ok data) ∧
      Reader.NothingToSkip (character :: rest) ∧
      (∃ place, readFirst (character :: rest) = .error (.refused place)) ∧
      snippet = (character :: rest).take snippetLength := by
  obtain ⟨failure, failed, -⟩ | ⟨data, place, read, more, same⟩ :=
    readProgram_eq_error_iff.mp fault
  · exact absurd (Reader.all_eq_error_iff.mp failed) (noFailure failure)
  · obtain ⟨before, rfl⟩ := Reader.keepsPlace_topLevel.all read
    obtain ⟨character, rest, rfl⟩ := List.exists_cons_of_ne_nil more
    rw [unexpectedAt, Reader.offset_append_self] at same
    simp only [Error.unreadable.injEq, ReadFault.unexpected.injEq] at same
    obtain ⟨rfl, rfl⟩ := same
    have width := character.utf8Size_pos
    obtain ⟨nothing, refused⟩ := exists_refused_of_all read
    refine ⟨before, character, rest, rfl, rfl, ?_,
      ⟨data, readProgram_of_all_append read⟩, nothing, refused, rfl⟩
    rw [Utf8.byteLength_append, Utf8.byteLength]
    omega

/-- A list that is not closed after a symbol of two bytes, a quoted list and a comment. -/
theorem readProgram_of_readProgram_eq_unexpected_notClosed :
    (∀ failure, Reader.topLevel.many "é'(x) ;c\r\n(b #".toList ≠ .error failure) ∧
    readProgram "é'(x) ;c\r\n(b #".toList =
      .error (.unreadable (.unexpected 11 "(b #".toList)) ∧
    (∃ data, readProgram "é'(x) ;c\r\n".toList = .ok data) ∧
    Reader.NothingToSkip "(b #".toList ∧
    ∃ place, readFirst "(b #".toList = .error (.refused place) := by
  have read : Reader.topLevel.many "é'(x) ;c\r\n(b #".toList =
      .ok ([.symbol "é", .list [.symbol "quote", .list [.symbol "x"]]],
        " ;c\r\n(b #".toList) := by
    decide +kernel
  have noFailure : ∀ failure,
      Reader.topLevel.many "é'(x) ;c\r\n(b #".toList ≠ .error failure := by
    intro failure failed
    cases read.symm.trans failed
  have fault : readProgram "é'(x) ;c\r\n(b #".toList =
      .error (.unreadable (.unexpected 11 "(b #".toList)) := by
    decide +kernel
  obtain ⟨before, character, rest, together, -, -, readBefore, nothing, refused, snippet⟩ :=
    readProgram_of_readProgram_eq_unexpected noFailure fault
  -- The snippet is shorter than it may be, so it is all that is left.
  have left : character :: rest = "(b #".toList := by
    rw [snippet, List.take_of_length_le]
    have length := congrArg List.length snippet
    rw [List.length_take, snippetLength, Nat.min_def] at length
    have bound : "(b #".toList.length < 20 := by decide
    rw [snippetLength]
    split at length <;> omega
  rw [left] at together nothing refused
  obtain rfl : before = "é'(x) ;c\r\n".toList := List.append_cancel_right together
  exact ⟨noFailure, fault, readBefore, nothing, refused⟩

end SExpr
