import SExpr.Proofs.Reader.Place
import SExpr.Proofs.Reader.Tokens
import Mathlib.Data.List.DropRight

/-!
# Layout

Between tokens it does not matter which blanks and comments a text has: one blank does
as well as any of them. Two texts that differ in nothing else are read side by side.
Before the place where they differ the readers do the same, since what follows a
delimiter has no part in what is read before it. There both skip to the same text, and
from then on they read the same.

This holds for what is refused and for failures as well, so two such texts have the same
data or the same kind of error, at places of their own.
-/

namespace SExpr

/-- A fault of reading with no place in it. -/
def ReadFault.unplaced : ReadFault -> ReadFault
  | .integerOutOfRange _ => .integerOutOfRange 0
  | .unexpected _ _ => .unexpected 0 []
  | .notOneDatum count => .notOneDatum count

/-- An error with no place in a text in it. -/
def Error.unplaced : Error -> Error
  | .unreadable fault => .unreadable fault.unplaced
  | other => other

namespace Reader

/-! ## Blanks and comments -/

/-- Blanks and comments, each comment with the line feed that ends it. -/
inductive IsTrivia : List Char -> Prop
  | nil : IsTrivia []
  | blank
      {character : Char}
      {others : List Char}
      (isBlank : isBlank character = true)
      (more : IsTrivia others) :
      IsTrivia (character :: others)
  | comment
      {line others : List Char}
      (inside : ∀ character ∈ line, isLineEnd character = false)
      (more : IsTrivia others) :
      IsTrivia (';' :: (line ++ '\n' :: others))

/-- The last line of a text: what stands after its last line feed. -/
def lastLine (text : List Char) : List Char :=
  text.rtakeWhile (· ≠ '\n')

/-- Every semicolon of a text has a line feed after it, so that no comment goes on
past the end of the text. -/
def CommentsEnd (text : List Char) : Prop :=
  ∀ before after, text = before ++ ';' :: after -> '\n' ∈ after

/-- All comments end when there is no semicolon in the last line. -/
theorem commentsEnd_of_lastLine
    {text : List Char}
    (noSemicolon : ';' ∉ lastLine text) :
    CommentsEnd text := by
  rintro before after rfl
  by_contra noLineFeed
  apply noSemicolon
  have inLine : ∀ character ∈ (';' :: after).reverse,
      decide (character ≠ '\n') = true := by
    intro character member
    rw [List.mem_reverse, List.mem_cons] at member
    obtain rfl | member := member
    · decide
    · rw [decide_eq_true_iff]
      rintro rfl
      exact noLineFeed member
  rw [lastLine, List.rtakeWhile, List.reverse_append,
    List.takeWhile_append_of_pos inLine]
  simp

/-- The comments of an end of a text are comments of the text. -/
theorem CommentsEnd.of_isSuffix
    {text rest : List Char}
    (ended : CommentsEnd text)
    (isSuffix : rest <:+ text) :
    CommentsEnd rest := by
  obtain ⟨start, rfl⟩ := isSuffix
  rintro before after rfl
  exact ended (start ++ before) after (List.append_assoc ..).symm

/-- Whether a comment ends, and where, is told by the text up to a line feed. -/
theorem afterComment?_append_of_mem
    {text : List Char}
    (lineFeed : '\n' ∈ text)
    (next : List Char) :
    afterComment? (text ++ next) = (afterComment? text).map (· ++ next) := by
  obtain ⟨line, lineEnd, rest, rfl, isEnd, inside⟩ :=
    exists_line_of_isLineEnd ⟨'\n', lineFeed, rfl⟩
  rw [List.append_assoc, afterComment?_append_of_inside inside,
    afterComment?_append_of_inside inside, List.cons_append]
  by_cases isFeed : lineEnd = '\n'
  · subst isFeed
    rfl
  -- The line feed is further on, so what follows the other line end is in the text.
  · have inRest : '\n' ∈ rest := by
      simp only [List.mem_append, List.mem_cons, Ne.symm isFeed, false_or] at lineFeed
      refine lineFeed.resolve_left fun inLine => ?_
      exact absurd (inside _ inLine) (by decide)
    unfold afterComment?
    rw [dropWhile_lineEnd isEnd, dropWhile_lineEnd isEnd]
    match rest, inRest with
    | following :: more, _ => grind

/-- What is skipped at the start of a text whose comments end does not depend on what
follows, unless nothing else is in the text. -/
theorem skip_append
    {text : List Char}
    (ended : CommentsEnd text)
    (next : List Char) :
    skip (text ++ next) = if skip text = [] then skip next else skip text ++ next := by
  fun_induction skip text with
  | case1 => rfl
  | case2 character rest blank inductionHypothesis =>
      rw [List.cons_append, skip_blank blank]
      exact inductionHypothesis (ended.of_isSuffix (List.suffix_cons ..))
  | case3 rest after found notBlank inductionHypothesis =>
      have foundBefore := afterComment?_append_of_mem (ended [] rest rfl) next
      rw [found] at foundBefore
      obtain ⟨line, together, -⟩ := exists_line_of_afterComment? found
      have isSuffix : after <:+ rest := ⟨line, together⟩
      rw [List.cons_append, skip_of_afterComment? foundBefore]
      exact inductionHypothesis
        (ended.of_isSuffix (isSuffix.trans (List.suffix_cons ..)))
  | case4 rest found notBlank =>
      have foundBefore := afterComment?_append_of_mem (ended [] rest rfl) next
      rw [found] at foundBefore
      rw [if_neg (List.cons_ne_nil _ _), List.cons_append,
        skip_of_afterComment?_eq_none foundBefore]
  | case5 character rest notBlank notComment =>
      rw [if_neg (List.cons_ne_nil _ _), List.cons_append]
      exact skip_cons (by simpa using notBlank) notComment _

/-- Blanks and comments are skipped, whatever follows them. -/
theorem skip_trivia_append
    {trivia : List Char}
    (isTrivia : IsTrivia trivia)
    (next : List Char) :
    skip (trivia ++ next) = skip next := by
  induction isTrivia with
  | nil => rfl
  | blank isBlank _ inductionHypothesis =>
      rw [List.cons_append, skip_blank isBlank]
      exact inductionHypothesis
  | comment inside _ inductionHypothesis =>
      rw [List.cons_append, List.append_assoc, List.cons_append,
        skip_comment inside (.inr (.inl ⟨_, rfl⟩)), skip_blank (by decide)]
      exact inductionHypothesis

/-! ## Texts side by side -/

/-- A text starts with a blank or a semicolon. -/
def StartsTrivia (text : List Char) : Prop :=
  ∃ character rest, text = character :: rest ∧
    (isBlank character = true ∨ character = ';')

/-- Two texts that start with blanks or comments, with the same text after them. -/
structure SameAfterSkip (first second : List Char) : Prop where
  firstTrivia : StartsTrivia first
  secondTrivia : StartsTrivia second
  skipped : skip first = skip second

/-- Two texts that are the same, or that end with the given two after the same
start. -/
inductive Beside (first second : List Char) : List Char -> List Char -> Prop
  | same
      (text : List Char) :
      Beside first second text text
  | before
      {start : List Char}
      (ended : CommentsEnd start) :
      Beside first second (start ++ first) (start ++ second)

/-- The same outcome of reading two texts, but for the places. -/
inductive Alike (first second : List Char) : Reading α -> Reading α -> Prop
  | taken
      (value : α)
      {rest other : List Char}
      (rests : Beside first second rest other) :
      Alike first second (.taken value rest) (.taken value other)
  | refused
      (place other : List Char) :
      Alike first second (.refused place) (.refused other)
  | failed
      (cause : FailureCause)
      (place other : List Char) :
      Alike first second (.failed ⟨cause, place⟩) (.failed ⟨cause, other⟩)

/-- The same outcome of reading all values of two texts, but for the places. -/
inductive AllAlike (first second : List Char) :
    Except Failure (List α × List Char) ->
      Except Failure (List α × List Char) -> Prop
  | ok
      (values : List α)
      {rest other : List Char}
      (rests : Beside first second rest other) :
      AllAlike first second (.ok (values, rest)) (.ok (values, other))
  | error
      (cause : FailureCause)
      (place other : List Char) :
      AllAlike first second (.error ⟨cause, place⟩) (.error ⟨cause, other⟩)

/-- A reader that does the same with texts side by side. -/
def ReadsAlike
    (first second : List Char)
    (reader : Reader α) : Prop :=
  ∀ text other, Beside first second text other ->
    Alike first second (reader.run text) (reader.run other)

theorem StartsTrivia.startsDelimiter
    {text : List Char}
    (trivia : StartsTrivia text) :
    startsDelimiter text = true := by
  obtain ⟨character, rest, rfl, isBlank | rfl⟩ := trivia
  · simp [Reader.startsDelimiter, isBlank]
  · rfl

/-- What starts with no parenthesis and no quote mark can only be an atom. -/
theorem readNode_eq_readAtom
    {text : List Char}
    {inner : Option (Reader Datum)}
    (notOpened : ¬ ∃ rest, text = '(' :: rest)
    (notMarked : ¬ ∃ rest, text = '\'' :: rest) :
    readNode inner text = readAtom text := by
  unfold readNode
  split
  · exact absurd ⟨_, rfl⟩ notOpened
  · exact absurd ⟨_, rfl⟩ notOpened
  · exact absurd ⟨_, rfl⟩ notMarked
  · exact absurd ⟨_, rfl⟩ notMarked
  · rfl

section Beside

variable {first second text other : List Char}

theorem SameAfterSkip.symm
    (same : SameAfterSkip first second) :
    SameAfterSkip second first :=
  ⟨same.secondTrivia, same.firstTrivia, same.skipped.symm⟩

theorem Beside.symm
    (beside : Beside first second text other) :
    Beside second first other text := by
  cases beside with
  | same => exact .same _
  | before ended => exact .before ended

theorem alike_self (reading : Reading α) : Alike first second reading reading := by
  cases reading with
  | taken value rest => exact .taken value (.same rest)
  | refused place => exact .refused place place
  | failed failure => exact .failed failure.cause failure.place failure.place

theorem alike_readQuoted
    {element : Reader Datum}
    (each : ReadsAlike first second element)
    (beside : Beside first second text other) :
    Alike first second (readQuoted element text) (readQuoted element other) := by
  have quoted := each _ _ beside
  unfold readQuoted
  generalize element.run text = reading, element.run other = otherReading at quoted
  cases quoted with
  | taken value rests => exact .taken value.quoted rests
  | refused place otherPlace => exact .refused place otherPlace
  | failed cause place otherPlace => exact .failed cause place otherPlace

theorem alike_refuseAt
    {reading otherReading : Reading Datum}
    (alike : Alike first second reading otherReading) :
    Alike first second (refuseAt text reading) (refuseAt other otherReading) := by
  cases alike with
  | taken value rests => exact .taken value rests
  | refused => exact .refused text other
  | failed cause place otherPlace => exact .failed cause place otherPlace

variable (same : SameAfterSkip first second)

include same

/-- Texts side by side start with the same character if it is part of a token. -/
theorem Beside.exists_cons
    {character : Char}
    {rest : List Char}
    (notBlank : isBlank character = false)
    (notComment : character ≠ ';')
    (beside : Beside first second (character :: rest) other) :
    ∃ others, other = character :: others ∧ Beside first second rest others := by
  generalize start : character :: rest = text at beside
  cases beside with
  | same => exact ⟨rest, start.symm, .same rest⟩
  | @before before ended =>
      match before with
      | [] =>
          obtain ⟨head, more, rfl, isBlank | rfl⟩ := same.firstTrivia
          · obtain ⟨rfl, -⟩ := List.cons.inj start
            rw [isBlank] at notBlank
            cases notBlank
          · exact absurd (List.cons.inj start).1 notComment
      | head :: more =>
          obtain ⟨rfl, rfl⟩ := List.cons.inj start
          exact ⟨more ++ second, rfl,
            .before (ended.of_isSuffix (List.suffix_cons ..))⟩

theorem Beside.starts_iff
    {character : Char}
    (notBlank : isBlank character = false)
    (notComment : character ≠ ';')
    (beside : Beside first second text other) :
    (∃ rest, text = character :: rest) ↔ ∃ rest, other = character :: rest := by
  constructor
  · rintro ⟨rest, rfl⟩
    obtain ⟨others, here, -⟩ := beside.exists_cons same notBlank notComment
    exact ⟨others, here⟩
  · rintro ⟨rest, rfl⟩
    obtain ⟨others, here, -⟩ :=
      beside.symm.exists_cons same.symm notBlank notComment
    exact ⟨others, here⟩

/-- Nothing is left of one text exactly when nothing is left of the other. -/
theorem Beside.eq_nil_iff
    (beside : Beside first second text other) :
    text = [] ↔ other = [] := by
  cases beside with
  | same => rfl
  | before ended =>
      obtain ⟨_, _, rfl, -⟩ := same.firstTrivia
      obtain ⟨_, _, rfl, -⟩ := same.secondTrivia
      simp

/-- What is skipped at the start of texts side by side leaves them side by side. -/
theorem Beside.skip
    (beside : Beside first second text other) :
    Beside first second (Reader.skip text) (Reader.skip other) := by
  cases beside with
  | same => exact .same _
  | @before start ended =>
      rw [skip_append ended, skip_append ended]
      by_cases nothing : Reader.skip start = []
      · rw [if_pos nothing, if_pos nothing, same.skipped]
        exact .same _
      · rw [if_neg nothing, if_neg nothing]
        exact .before (ended.of_isSuffix (isSuffix_skip start))

/-! ## Readers side by side -/

theorem alike_readAtom
    (beside : Beside first second text other) :
    Alike first second (readAtom text) (readAtom other) := by
  cases beside with
  | same => exact alike_self _
  | @before start ended =>
      rw [readAtom_append_delimited same.firstTrivia.startsDelimiter,
        readAtom_append_delimited same.secondTrivia.startsDelimiter]
      match reading : readAtom start with
      | .taken value rest =>
          exact .taken value
            (.before (ended.of_isSuffix (isSuffix_of_readAtom reading)))
      | .refused place => exact .refused _ _
      | .failed failure => exact .failed failure.cause _ _

/-- Repetition does the same with texts side by side if each reading does. -/
theorem ReadsAlike.many
    {reader : Reader α}
    (each : ReadsAlike first second reader)
    (beside : Beside first second text other) :
    AllAlike first second (reader.many text) (reader.many other) := by
  fun_induction Reader.many reader text generalizing other with
  | case1 text value after taken inductionHypothesis =>
      have here := each _ _ (beside.skip same)
      rw [taken] at here
      generalize outcome : reader.run (Reader.skip other) = reading at here
      cases here with
      | @taken _ _ otherAfter rests =>
          have others := inductionHypothesis rests
          rw [many_of_taken outcome]
          generalize reader.many after = all, reader.many otherAfter = otherAll
            at others
          cases others with
          | ok values rests => exact .ok (value :: values) rests
          | error cause place other => exact .error cause place other
  | case2 text place refused =>
      have here := each _ _ (beside.skip same)
      rw [refused] at here
      generalize outcome : reader.run (Reader.skip other) = reading at here
      cases here with
      | refused =>
          rw [many_of_refused outcome]
          exact .ok [] beside
  | case3 text failure failed =>
      have here := each _ _ (beside.skip same)
      rw [failed] at here
      generalize outcome : reader.run (Reader.skip other) = reading at here
      cases here with
      | failed cause place otherPlace =>
          rw [many_of_failed outcome]
          exact .error cause place otherPlace

/-- What is left after all values of texts side by side is side by side. -/
theorem ReadsAlike.all
    {reader : Reader α}
    (each : ReadsAlike first second reader)
    (beside : Beside first second text other) :
    AllAlike first second (reader.all text) (reader.all other) := by
  have many := each.many same beside
  unfold Reader.all
  generalize reader.many text = read, reader.many other = otherRead at many
  cases many with
  | ok values rests => exact .ok values (rests.skip same)
  | error cause place otherPlace => exact .error cause place otherPlace

theorem alike_readElements
    {element : Reader Datum}
    (each : ReadsAlike first second element)
    (beside : Beside first second text other) :
    Alike first second (readElements element text) (readElements element other) := by
  have elements := each.many same beside
  unfold readElements
  generalize element.many text = all, element.many other = otherAll at elements
  cases elements with
  | error cause place otherPlace => exact .failed cause place otherPlace
  | @ok items after otherAfter rests =>
      have closing := rests.skip same
      dsimp only
      by_cases closed : ∃ rest, Reader.skip after = ')' :: rest
      · obtain ⟨rest, closed⟩ := closed
        rw [closed] at closing ⊢
        obtain ⟨otherRest, otherClosed, beside⟩ :=
          closing.exists_cons same (by decide) (by decide)
        rw [otherClosed]
        exact .taken _ beside
      · have otherOpen :=
          mt (closing.starts_iff same (by decide) (by decide)).mpr closed
        split
        · next here => exact absurd ⟨_, here⟩ closed
        · split
          · next here => exact absurd ⟨_, here⟩ otherOpen
          · exact .refused _ _

/-- A level more keeps texts side by side. -/
theorem readsAlike_node
    {inner : Option (Reader Datum)}
    (each : ∀ element ∈ inner, ReadsAlike first second element) :
    ReadsAlike first second (node inner) := by
  intro text other beside
  change Alike first second (readNode inner text) (readNode inner other)
  by_cases opened : ∃ rest, text = '(' :: rest
  · obtain ⟨rest, rfl⟩ := opened
    obtain ⟨otherRest, rfl, rests⟩ := beside.exists_cons same (by decide) (by decide)
    cases inner with
    | none => exact .failed .nestingTooDeep _ _
    | some element =>
        exact alike_refuseAt (alike_readElements same (each element rfl) rests)
  by_cases marked : ∃ rest, text = '\'' :: rest
  · obtain ⟨rest, rfl⟩ := marked
    obtain ⟨otherRest, rfl, rests⟩ := beside.exists_cons same (by decide) (by decide)
    cases inner with
    | none => exact .failed .nestingTooDeep _ _
    | some element =>
        exact alike_refuseAt (alike_readQuoted (each element rfl) (rests.skip same))
  have otherOpened := mt (beside.starts_iff same (by decide) (by decide)).mpr opened
  have otherMarked := mt (beside.starts_iff same (by decide) (by decide)).mpr marked
  rw [readNode_eq_readAtom opened marked, readNode_eq_readAtom otherOpened otherMarked]
  exact alike_readAtom same beside

theorem readsAlike_datum (levels : Nat) : ReadsAlike first second (datum levels) :=
  datum_induction (readsAlike_node same) levels

end Beside

end Reader

/-! ## Sources -/

/-- A failure is the same error in any source, but for the place. -/
theorem Failure.unplaced_error
    (cause : FailureCause)
    (source other place otherPlace : List Char) :
    ((⟨cause, place⟩ : Failure).error source).unplaced =
      ((⟨cause, otherPlace⟩ : Failure).error other).unplaced := by
  cases cause with
  | integerOutOfRange => rfl
  | nestingTooDeep => rfl
  | exponentWithoutDigits => rfl

/-- Two sources that are the same before and after what is skipped have the same data
or errors of the same kind. -/
theorem readProgram_beside
    {first second source other : List Char}
    (same : Reader.SameAfterSkip first second)
    (beside : Reader.Beside first second source other) :
    (∃ data, readProgram source = .ok data ∧ readProgram other = .ok data) ∨
      ∃ error otherError, readProgram source = .error error ∧
        readProgram other = .error otherError ∧
        error.unplaced = otherError.unplaced := by
  have all : Reader.AllAlike first second (Reader.topLevel.all source)
      (Reader.topLevel.all other) :=
    (Reader.readsAlike_datum same maxNesting).all same beside
  generalize read : Reader.topLevel.all source = outcome,
    otherRead : Reader.topLevel.all other = otherOutcome at all
  cases all with
  | error cause place otherPlace =>
      exact .inr ⟨_, _, readProgram_eq_error_iff.mpr (.inl ⟨_, read, rfl⟩),
        readProgram_eq_error_iff.mpr (.inl ⟨_, otherRead, rfl⟩),
        Failure.unplaced_error ..⟩
  | @ok data rest otherRest rests =>
      by_cases nothing : rest = []
      · obtain rfl := nothing
        obtain rfl := (rests.eq_nil_iff same).mp rfl
        exact .inl ⟨data, readProgram_eq_ok_iff_all.mpr read,
          readProgram_eq_ok_iff_all.mpr otherRead⟩
      · have otherLeft := mt (rests.eq_nil_iff same).mpr nothing
        exact .inr ⟨_, _,
          readProgram_eq_error_iff.mpr (.inr ⟨_, _, read, nothing, rfl⟩),
          readProgram_eq_error_iff.mpr (.inr ⟨_, _, otherRead, otherLeft, rfl⟩), rfl⟩

/-- Trivia that are not empty do the same as a blank. -/
theorem sameAfterSkip_trivia
    {trivia : List Char}
    (isTrivia : Reader.IsTrivia trivia)
    (nonempty : trivia ≠ [])
    (after : List Char) :
    Reader.SameAfterSkip (trivia ++ after) (' ' :: after) where
  firstTrivia := by
    cases isTrivia with
    | nil => exact absurd rfl nonempty
    | blank isBlank _ => exact ⟨_, _, rfl, .inl isBlank⟩
    | comment _ _ => exact ⟨_, _, rfl, .inr rfl⟩
  secondTrivia := ⟨' ', after, rfl, .inl rfl⟩
  skipped := by
    rw [Reader.skip_trivia_append isTrivia, Reader.skip_blank (by decide)]

/-- Blanks and comments between two texts can be replaced by one blank, unless the
first text ends inside a comment: the same data are read, or errors of the same kind
are met. -/
theorem readProgram_trivia
    {before trivia : List Char}
    (noSemicolon : ';' ∉ Reader.lastLine before)
    (isTrivia : Reader.IsTrivia trivia)
    (nonempty : trivia ≠ [])
    (after : List Char) :
    (∃ data, readProgram (before ++ trivia ++ after) = .ok data ∧
        readProgram (before ++ ' ' :: after) = .ok data) ∨
      ∃ error other, readProgram (before ++ trivia ++ after) = .error error ∧
        readProgram (before ++ ' ' :: after) = .error other ∧
        error.unplaced = other.unplaced := by
  have ended := Reader.commentsEnd_of_lastLine noSemicolon
  rw [List.append_assoc]
  exact readProgram_beside (sameAfterSkip_trivia isTrivia nonempty after)
    (.before ended)

/-- A comment and a carriage return between two digits and inside a list, after a line
that ends in a comment: without them the digits are one number. -/
theorem readProgram_divided_digits :
    ';' ∉ Reader.lastLine "(a;(\n'1".toList ∧
      Reader.IsTrivia ";)\n\r".toList ∧
      readProgram ("(a;(\n'1".toList ++ ";)\n\r".toList ++ "2)".toList) =
        .ok [.list [.symbol "a", (Datum.integer 1).quoted, .integer 2]] ∧
      readProgram ("(a;(\n'1".toList ++ ' ' :: "2)".toList) =
        .ok [.list [.symbol "a", (Datum.integer 1).quoted, .integer 2]] ∧
      readProgram ("(a;(\n'1".toList ++ "2)".toList) =
        .ok [.list [.symbol "a", (Datum.integer 12).quoted]] := by
  have noSemicolon : ';' ∉ Reader.lastLine "(a;(\n'1".toList := by decide
  have isTrivia : Reader.IsTrivia ";)\n\r".toList :=
    @Reader.IsTrivia.comment [')'] _ (by simp [Reader.isLineEnd])
      (.blank (by decide) .nil)
  have blank : readProgram ("(a;(\n'1".toList ++ ' ' :: "2)".toList) =
      .ok [.list [.symbol "a", (Datum.integer 1).quoted, .integer 2]] := by
    decide +kernel
  refine ⟨noSemicolon, isTrivia, ?_, blank, by decide +kernel⟩
  obtain ⟨data, read, otherRead⟩ | ⟨_, _, _, failed, _⟩ :=
    readProgram_trivia noSemicolon isTrivia (by decide) "2)".toList
  · rw [blank] at otherRead
    obtain rfl := Except.ok.inj otherRead
    exact read
  · rw [blank] at failed
    cases failed

end SExpr
