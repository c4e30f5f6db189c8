import SExpr.Proofs.Reader.Iteration

/-!
# Progress of reading

Reading repeats three things: skipping a run of blanks or a comment, going on with a
symbol by one character, and reading a datum after what is skipped before it. Each of them
uses up some of the text whenever it takes something, so a repetition that gives up where
nothing is used up, and that has one step for each character and one more, never gives up
and never runs out of steps: it comes to what `skip`, the word of a symbol and
`Reader.many` are.

Places are ends of the text, so the number of bytes before one is an exact difference.
-/

namespace SExpr

/-- The place of a fault at the first datum of a text. -/
def FirstDatumFault.place : FirstDatumFault -> List Char
  | .refused place => place
  | .failed failure => failure.place

namespace Reader

/-! ## Guarded repetition -/

/-- Why a repetition has no outcome: what is repeated failed, it took something and used up
none of the text, or there were more steps to make. -/
inductive RepetitionFault
  | failed (failure : Failure)
  | stuck (place : List Char)
  | outOfSteps
  deriving DecidableEq

/-- Take values until none is taken, in less than the given number of steps. A value that
uses up no bytes is a fault. -/
def repeated
    (take : List Char -> Reading α) :
    (steps : Nat) -> (text : List Char) ->
    Except RepetitionFault (List α × List Char)
  | 0, _ => .error .outOfSteps
  | steps + 1, text =>
      match take text with
      | .refused _ => .ok ([], text)
      | .failed failure => .error (.failed failure)
      | .taken value rest =>
          if Utf8.byteLength rest = Utf8.byteLength text then
            .error (.stuck text)
          else
            (repeated take steps rest).map fun (values, after) =>
              (value :: values, after)

/-- What is taken always uses up some of the text. -/
def Progresses (take : List Char -> Reading α) : Prop :=
  ∀ text value rest, take text = .taken value rest -> rest <:+ text ∧ rest ≠ text

section Repeated

variable {take : List Char -> Reading α} {text rest : List Char}

/-- A proper end of a text has fewer bytes. -/
theorem byteLength_lt_of_isSuffix
    (isSuffix : rest <:+ text)
    (proper : rest ≠ text) :
    Utf8.byteLength rest < Utf8.byteLength text := by
  obtain ⟨before, rfl⟩ := isSuffix
  cases before with
  | nil => exact absurd rfl proper
  | cons character before =>
      have positive := character.utf8Size_pos
      rw [Utf8.byteLength_append, Utf8.byteLength]
      omega

theorem Progresses.length_lt
    (progresses : Progresses take)
    {value : α}
    (taken : take text = .taken value rest) :
    rest.length < text.length := by
  obtain ⟨isSuffix, proper⟩ := progresses text value rest taken
  exact Nat.lt_of_le_of_ne isSuffix.length_le fun same =>
    proper (isSuffix.eq_of_length same)

/-- A repetition goes on after a value that uses up some of the text. -/
theorem Progresses.repeated_succ
    (progresses : Progresses take)
    {value : α}
    (taken : take text = .taken value rest)
    (steps : Nat) :
    repeated take (steps + 1) text =
      (repeated take steps rest).map fun (values, after) => (value :: values, after) := by
  obtain ⟨isSuffix, proper⟩ := progresses text value rest taken
  rw [repeated, taken]
  exact if_neg (Nat.ne_of_lt (byteLength_lt_of_isSuffix isSuffix proper))

end Repeated

/-! ## Blanks and comments -/

/-- Take a run of blanks, or a comment. -/
def takeTrivia : List Char -> Reading Unit
  | [] => .refused []
  | character :: rest =>
      if isBlank character then
        .taken () (rest.dropWhile isBlank)
      else if character = ';' then
        match afterComment? rest with
        | some after => .taken () after
        | none => .refused (character :: rest)
      else
        .refused (character :: rest)

section Trivia

variable {text rest : List Char}

theorem isSuffix_cons_and_ne
    (isSuffix : rest <:+ text)
    (character : Char) :
    rest <:+ character :: text ∧ rest ≠ character :: text := by
  refine ⟨isSuffix.trans (List.suffix_cons character text), ?_⟩
  rintro rfl
  exact absurd isSuffix.length_le (by simp)

theorem skip_dropWhile_isBlank (text : List Char) :
    skip (text.dropWhile isBlank) = skip text := by
  induction text with
  | nil => rfl
  | cons character text inductionHypothesis =>
      cases blank : isBlank character with
      | true => rw [List.dropWhile_cons_of_pos blank, skip_blank blank, inductionHypothesis]
      | false => rw [List.dropWhile_cons_of_neg (by simp [blank])]

/-- What is taken is a beginning of what is skipped. -/
theorem skip_of_takeTrivia
    (taken : takeTrivia text = .taken () rest) :
    (rest <:+ text ∧ rest ≠ text) ∧ skip text = skip rest := by
  revert taken
  fun_cases takeTrivia text with
  | case1 => rintro ⟨⟩
  | case2 character text blank =>
      rintro ⟨⟩
      rw [skip_dropWhile_isBlank, skip_blank blank]
      exact ⟨isSuffix_cons_and_ne (List.dropWhile_suffix _) character, rfl⟩
  | case3 text after found notBlank =>
      rintro ⟨⟩
      obtain ⟨line, together, -⟩ := exists_line_of_afterComment? found
      rw [skip_of_afterComment? found]
      exact ⟨isSuffix_cons_and_ne ⟨line, together⟩ ';', rfl⟩
  | case4 => rintro ⟨⟩
  | case5 => rintro ⟨⟩

/-- Where nothing is taken there is nothing to skip. -/
theorem skip_of_takeTrivia_refused
    {place : List Char}
    (refused : takeTrivia text = .refused place) :
    skip text = text := by
  revert refused
  fun_cases takeTrivia text with
  | case1 => exact fun _ => by rw [skip]
  | case2 => rintro ⟨⟩
  | case3 => rintro ⟨⟩
  | case4 text notFound notBlank => exact fun _ => skip_of_afterComment?_eq_none notFound
  | case5 character text notBlank notComment =>
      exact fun _ => skip_cons (by simpa using notBlank) notComment text

theorem takeTrivia_ne_failed
    (text : List Char)
    (failure : Failure) :
    takeTrivia text ≠ .failed failure := by
  fun_cases takeTrivia text with
  | case1 | case2 | case3 | case4 | case5 => rintro ⟨⟩

theorem progresses_takeTrivia : Progresses takeTrivia :=
  fun _ _ _ taken => (skip_of_takeTrivia taken).1

/-- Skipping is taking blanks and comments for as long as there are any. -/
theorem exists_repeated_takeTrivia
    {steps : Nat}
    (enough : text.length < steps) :
    ∃ pieces, repeated takeTrivia steps text = .ok (pieces, skip text) := by
  induction steps generalizing text with
  | zero => cases enough
  | succ steps inductionHypothesis =>
      cases taken : takeTrivia text with
      | refused place =>
          refine ⟨[], ?_⟩
          rw [repeated, taken, skip_of_takeTrivia_refused taken]
      | failed failure => exact absurd taken (takeTrivia_ne_failed text failure)
      | taken value rest =>
          have shorter := progresses_takeTrivia.length_lt taken
          obtain ⟨pieces, others⟩ := inductionHypothesis
            (Nat.lt_of_lt_of_le shorter (Nat.le_of_lt_succ enough))
          refine ⟨value :: pieces, ?_⟩
          rw [progresses_takeTrivia.repeated_succ taken, others,
            (skip_of_takeTrivia taken).2]
          rfl

end Trivia

/-! ## Characters of a symbol -/

/-- Take one character that satisfies a predicate. -/
def takeOne (accepts : Char -> Bool) : List Char -> Reading Char
  | [] => .refused []
  | character :: rest =>
      if accepts character then .taken character rest
      else .refused (character :: rest)

section Characters

variable (accepts : Char -> Bool)

theorem progresses_takeOne : Progresses (takeOne accepts) := by
  intro text value rest taken
  unfold takeOne at taken
  split at taken
  · cases taken
  · split at taken
    · cases taken
      exact isSuffix_cons_and_ne List.suffix_rfl _
    · cases taken

/-- Taking characters one by one takes the longest run of them. -/
theorem repeated_takeOne
    {steps : Nat}
    {text : List Char}
    (enough : text.length < steps) :
    repeated (takeOne accepts) steps text =
      .ok (text.takeWhile accepts, text.dropWhile accepts) := by
  induction steps generalizing text with
  | zero => cases enough
  | succ steps inductionHypothesis =>
      cases text with
      | nil => rfl
      | cons character rest =>
          cases accepted : accepts character with
          | true =>
              have taken : takeOne accepts (character :: rest) = .taken character rest :=
                if_pos accepted
              rw [(progresses_takeOne accepts).repeated_succ taken,
                inductionHypothesis (Nat.lt_of_succ_lt_succ enough),
                List.takeWhile_cons_of_pos accepted, List.dropWhile_cons_of_pos accepted]
              rfl
          | false => simp [repeated, takeOne, accepted]

end Characters

/-! ## Data -/

section Data

/-- What a reader takes uses up some of the text, and so does what it takes after blanks
and comments. -/
theorem KeepsPlace.progresses
    {reader : Reader α}
    (keeps : KeepsPlace reader) :
    Progresses reader.run := by
  intro text value rest taken
  have isSuffix := keeps text
  rw [taken] at isSuffix
  refine ⟨isSuffix, ?_⟩
  rintro rfl
  exact absurd (reader.shortens taken) (Nat.lt_irrefl _)

theorem KeepsPlace.progresses_skip
    {reader : Reader α}
    (keeps : KeepsPlace reader) :
    Progresses fun text => reader.run (skip text) := by
  intro text value rest taken
  refine ⟨keeps.of_run_skip taken, ?_⟩
  rintro rfl
  have shorter := reader.shortens taken
  have bound := length_skip_le rest
  omega

/-- Reading values one after another is guarded repetition. -/
theorem KeepsPlace.repeated_eq_many
    {reader : Reader α}
    (keeps : KeepsPlace reader)
    {steps : Nat}
    {text : List Char}
    (enough : text.length < steps) :
    repeated (fun text => reader.run (skip text)) steps text =
      (reader.many text).mapError .failed := by
  induction steps generalizing text with
  | zero => cases enough
  | succ steps inductionHypothesis =>
      cases taken : reader.run (skip text) with
      | refused place =>
          simp only [repeated, taken, many_of_refused taken]
          rfl
      | failed failure =>
          simp only [repeated, taken, many_of_failed taken]
          rfl
      | taken value rest =>
          have shorter := keeps.progresses_skip.length_lt taken
          rw [keeps.progresses_skip.repeated_succ taken, inductionHypothesis (by omega),
            many_of_taken taken]
          cases reader.many rest <;> rfl

end Data

end Reader

/-- A fault at the first datum is at an end of the source. -/
theorem isSuffix_place_of_readFirst
    {source : List Char}
    {fault : FirstDatumFault}
    (read : readFirst source = .error fault) :
    fault.place <:+ source := by
  cases fault with
  | refused place =>
      exact Reader.keepsPlace_topLevel.of_run_skip (readFirst_eq_refused_iff.mp read)
  | failed failure =>
      exact Reader.keepsPlace_topLevel.of_run_skip (readFirst_eq_failed_iff.mp read)

/-- The error of a source is about an end of it. -/
theorem exists_place_of_readProgram
    {source : List Char}
    {error : Error}
    (read : readProgram source = .error error) :
    ∃ place, place <:+ source ∧
      (error = unexpectedAt source place ∨
        ∃ cause, error = Failure.error source ⟨cause, place⟩) := by
  obtain ⟨failure, failed, same⟩ | ⟨data, place, all, -, same⟩ :=
    readProgram_eq_error_iff.mp read
  · exact ⟨failure.place, Reader.keepsPlace_topLevel.all_failed failed,
      .inr ⟨failure.cause, same⟩⟩
  · exact ⟨place, Reader.keepsPlace_topLevel.all all, .inl same⟩

/-- Skipping leaves an end of the text that starts with no blank and no comment, and skips
nothing of that. A datum that is taken, whatever levels may be opened, leaves a proper end
of the text, and a place where one is refused or fails is an end of the text, also where
blanks and comments are skipped around it. So none of the three repetitions takes anything
that uses up nothing: with a step for each character and one more they end, what is
skipped, the word of a symbol, and the data or their failure being what they come to. And
the bytes before the place of an error are an exact difference. -/
theorem reading_progresses (text : List Char) :
    (Reader.skip text <:+ text ∧ Reader.NothingToSkip (Reader.skip text) ∧
      Reader.skip (Reader.skip text) = Reader.skip text) ∧
    (∀ levels value rest, (Reader.datum levels).run text = .taken value rest ->
      rest <:+ text ∧ rest ≠ text) ∧
    (∀ levels, ((Reader.datum levels).run text).place <:+ text) ∧
    (∀ fault, readFirst text = .error fault -> fault.place <:+ text) ∧
    (∀ steps, text.length < steps ->
      (∃ pieces,
        Reader.repeated Reader.takeTrivia steps text = .ok (pieces, Reader.skip text)) ∧
      Reader.repeated (Reader.takeOne Reader.isSymbolSubsequent) steps text =
        .ok (text.takeWhile Reader.isSymbolSubsequent,
          text.dropWhile Reader.isSymbolSubsequent) ∧
      ∀ levels,
        Reader.repeated (fun rest => (Reader.datum levels).run (Reader.skip rest)) steps
            text =
          ((Reader.datum levels).many text).mapError .failed) ∧
    ∀ error, readProgram text = .error error ->
      ∃ place,
        (place <:+ text ∧
          Reader.offset text place + Utf8.byteLength place = Utf8.byteLength text) ∧
        (error = unexpectedAt text place ∨
          ∃ cause, error = Failure.error text ⟨cause, place⟩) := by
  refine ⟨⟨Reader.isSuffix_skip text, Reader.nothingToSkip_skip text,
    Reader.skip_skip text⟩, ?_, ?_, fun _ => isSuffix_place_of_readFirst, ?_, ?_⟩
  · intro levels
    exact (Reader.keepsPlace_datum levels).progresses text
  · intro levels
    exact Reader.keepsPlace_datum levels text
  · intro steps enough
    exact ⟨Reader.exists_repeated_takeTrivia enough, Reader.repeated_takeOne _ enough,
      fun levels => (Reader.keepsPlace_datum levels).repeated_eq_many enough⟩
  · intro error read
    obtain ⟨place, isSuffix, about⟩ := exists_place_of_readProgram read
    exact ⟨place, ⟨isSuffix, Reader.offset_add_byteLength isSuffix⟩, about⟩

/-- A datum before a comment, and a number without its exponent in a list that is quoted. -/
theorem reading_progresses_twoSources :
    ((Reader.datum 1).run "'é;".toList = .taken (.list [.symbol "quote", .symbol "é"]) [';'] ∧
      [';'] <:+ "'é;".toList ∧ [';'] ≠ "'é;".toList) ∧
    (readFirst "'(é 1e".toList = .error (.failed ⟨.exponentWithoutDigits, []⟩) ∧
      [] <:+ "'(é 1e".toList) ∧
    ("'(é 1e".toList.length < 7 ∧
      Reader.repeated (fun rest => (Reader.datum 2).run (Reader.skip rest)) 7
          "'(é 1e".toList =
        .error (.failed ⟨.exponentWithoutDigits, []⟩)) ∧
    (readProgram "'(é 1e".toList = .error (.unreadable (.unexpected 7 [])) ∧
      ∃ place,
        (place <:+ "'(é 1e".toList ∧
          Reader.offset "'(é 1e".toList place + Utf8.byteLength place = 7) ∧
        (Error.unreadable (.unexpected 7 []) = unexpectedAt "'(é 1e".toList place ∨
          ∃ cause, Error.unreadable (.unexpected 7 []) =
            Failure.error "'(é 1e".toList ⟨cause, place⟩)) := by
  have taken : (Reader.datum 1).run "'é;".toList =
      .taken (.list [.symbol "quote", .symbol "é"]) [';'] := by
    decide +kernel
  have first : readFirst "'(é 1e".toList = .error (.failed ⟨.exponentWithoutDigits, []⟩) :=
    readFirst_eq_failed_iff.mpr (by decide +kernel)
  have many : (Reader.datum 2).many "'(é 1e".toList =
      .error ⟨.exponentWithoutDigits, []⟩ := by
    decide +kernel
  have fault : readProgram "'(é 1e".toList = .error (.unreadable (.unexpected 7 [])) := by
    decide +kernel
  have enough : "'(é 1e".toList.length < 7 := by decide
  have repeated := ((reading_progresses "'(é 1e".toList).2.2.2.2.1 7 enough).2.2 2
  rw [many] at repeated
  exact ⟨⟨taken, (reading_progresses _).2.1 1 _ _ taken⟩,
    ⟨first, (reading_progresses _).2.2.2.1 _ first⟩, ⟨enough, repeated⟩,
    fault, (reading_progresses _).2.2.2.2.2 _ fault⟩

end SExpr
