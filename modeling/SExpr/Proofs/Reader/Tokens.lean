import SExpr.Proofs.Reader.Data
import SExpr.Proofs.Reader.Run

/-!
# Tokens

A text cut into tokens, apart from what data they make up: parentheses, quote
marks, and runs of the other characters, which go as far as they can. Blanks and
comments are dropped. What the readers skip before a datum is what is dropped
before its first token.
-/

namespace SExpr
namespace Reader

/-- The tokens of a text. -/
inductive Token
  | opening
  | closing
  | quoteMark
  | run (characters : List Char)

/-- The characters of a token. -/
def Token.spelling : Token -> List Char
  | .opening => ['(']
  | .closing => [')']
  | .quoteMark => ['\'']
  | .run characters => characters

/-- A token may stand before a text: a run must have characters, have no delimiter
among them, and be ended by one or by the end of the text. -/
def Token.Before
    (text : List Char) : Token -> Prop
  | .run characters =>
      characters ≠ [] ∧ IsUndelimited characters ∧ startsDelimiter text = true
  | _ => True

/-- A text starts where a comment may end: at its end, at a line feed, or at a
carriage return that a line feed follows. -/
def EndsComment (text : List Char) : Prop :=
  text = [] ∨ (∃ rest, text = '\n' :: rest) ∨ ∃ rest, text = '\r' :: '\n' :: rest

/-- The tokens that a text is cut into. -/
inductive Tokenizes : List Char -> List Token -> Prop
  | done : Tokenizes [] []
  | blank
      {character : Char}
      {text : List Char}
      {tokens : List Token}
      (isBlank : isBlank character = true)
      (others : Tokenizes text tokens) :
      Tokenizes (character :: text) tokens
  | comment
      {line text : List Char}
      {tokens : List Token}
      (inside : ∀ character ∈ line, isLineEnd character = false)
      (ended : EndsComment text)
      (others : Tokenizes text tokens) :
      Tokenizes (';' :: (line ++ text)) tokens
  | token
      {token : Token}
      {text : List Char}
      {tokens : List Token}
      (ended : token.Before text)
      (others : Tokenizes text tokens) :
      Tokenizes (token.spelling ++ text) (token :: tokens)

/-! ## Comments -/

/-- The text after a comment is what follows the comment's line, if it is one that
ends a comment. -/
theorem dropWhile_of_afterComment?
    {text rest : List Char}
    (found : afterComment? text = some rest) :
    (text.dropWhile fun character => !isLineEnd character) = rest ∧
      EndsComment rest := by
  unfold afterComment? at found
  split at found
  · next dropped =>
      cases found
      exact ⟨dropped, .inl rfl⟩
  · next after dropped =>
      cases found
      exact ⟨dropped, .inr (.inl ⟨after, rfl⟩)⟩
  · next after dropped =>
      cases found
      exact ⟨dropped, .inr (.inr ⟨after, rfl⟩)⟩
  · cases found

/-- A comment goes on to the end of its line. -/
theorem afterComment?_append_of_inside
    {line : List Char}
    (inside : ∀ character ∈ line, isLineEnd character = false)
    (next : List Char) :
    afterComment? (line ++ next) = afterComment? next := by
  unfold afterComment?
  rw [List.dropWhile_append_of_pos fun character member => by
    simp [inside character member]]

/-- What follows the line of a comment is the text after it. -/
theorem afterComment?_append
    {line rest : List Char}
    (inside : ∀ character ∈ line, isLineEnd character = false)
    (ended : EndsComment rest) :
    afterComment? (line ++ rest) = some rest := by
  rw [afterComment?_append_of_inside inside]
  obtain rfl | ⟨after, rfl⟩ | ⟨after, rfl⟩ := ended
  · rfl
  · rfl
  · rfl

/-- The text after a comment comes after a line without a line end. -/
theorem exists_line_of_afterComment?
    {text rest : List Char}
    (found : afterComment? text = some rest) :
    ∃ line, line ++ rest = text ∧
      (∀ character ∈ line, isLineEnd character = false) ∧ EndsComment rest := by
  obtain ⟨dropped, ended⟩ := dropWhile_of_afterComment? found
  refine ⟨text.takeWhile fun character => !isLineEnd character, ?_, ?_, ended⟩
  · rw [← dropped, List.takeWhile_append_dropWhile]
  · intro character member
    simpa using List.mem_takeWhile_imp member

/-- There is no more of a line at its end. -/
theorem dropWhile_lineEnd
    {lineEnd : Char}
    (isEnd : isLineEnd lineEnd = true)
    (rest : List Char) :
    ((lineEnd :: rest).dropWhile fun character => !isLineEnd character) =
      lineEnd :: rest :=
  List.dropWhile_cons_of_neg (by simp [isEnd])

/-- A text with a line end is a line and what its line end starts. -/
theorem exists_line_of_isLineEnd
    {text : List Char}
    (ended : ∃ character ∈ text, isLineEnd character = true) :
    ∃ line lineEnd rest, text = line ++ lineEnd :: rest ∧
      isLineEnd lineEnd = true ∧
      ∀ character ∈ line, isLineEnd character = false := by
  obtain ⟨lineEnd, found⟩ := Option.isSome_iff_exists.mp (List.find?_isSome.mpr ended)
  obtain ⟨isEnd, line, rest, whole, inside⟩ := List.find?_eq_some_iff_append.mp found
  exact ⟨line, lineEnd, rest, whole, isEnd, by simpa using inside⟩

/-! ## What is dropped before a token -/

section Skipping

variable {text : List Char} {tokens : List Token}

theorem skip_blank
    {character : Char}
    (blank : isBlank character = true)
    (text : List Char) :
    skip (character :: text) = skip text := by
  rw [skip, if_pos blank]

theorem skip_of_afterComment?
    {rest : List Char}
    (found : afterComment? text = some rest) :
    skip (';' :: text) = skip rest := by
  rw [skip, if_neg (by decide), if_pos rfl]
  split
  · next found' =>
      rw [found] at found'
      rw [Option.some.inj found']
  · next found' =>
      rw [found] at found'
      cases found'

/-- A semicolon whose comment does not end is not skipped. -/
theorem skip_of_afterComment?_eq_none
    (notFound : afterComment? text = none) :
    skip (';' :: text) = ';' :: text := by
  rw [skip, if_neg (by decide), if_pos rfl]
  split
  · next found =>
      rw [notFound] at found
      cases found
  · rfl

theorem skip_comment
    {line : List Char}
    (inside : ∀ character ∈ line, isLineEnd character = false)
    (ended : EndsComment text) :
    skip (';' :: (line ++ text)) = skip text :=
  skip_of_afterComment? (afterComment?_append inside ended)

/-- A text that a run stands before starts with no delimiter. -/
theorem startsDelimiter_run_append
    {characters : List Char}
    (before : (Token.run characters).Before text) :
    startsDelimiter (characters ++ text) = false :=
  startsDelimiter_append_of_not
    (startsDelimiter_eq_false_of_isUndelimited before.1 before.2.1) text

/-- Nothing is skipped before a token. -/
theorem skip_spelling_append
    {token : Token}
    (before : token.Before text) :
    skip (token.spelling ++ text) = token.spelling ++ text := by
  cases token with
  | opening => exact skip_cons (by decide) (by decide) text
  | closing => exact skip_cons (by decide) (by decide) text
  | quoteMark => exact skip_cons (by decide) (by decide) text
  | run characters =>
      exact skip_of_not_delimited (startsDelimiter_run_append before)

/-- What is skipped is dropped before the tokens. -/
theorem tokenizes_of_skip
    (tokenizes : Tokenizes (skip text) tokens) :
    Tokenizes text tokens := by
  fun_induction skip text with
  | case1 => exact tokenizes
  | case2 character rest blank inductionHypothesis =>
      exact .blank blank (inductionHypothesis tokenizes)
  | case3 rest after found notBlank inductionHypothesis =>
      obtain ⟨line, rfl, inside, ended⟩ := exists_line_of_afterComment? found
      exact .comment inside ended (inductionHypothesis tokenizes)
  | case4 => exact tokenizes
  | case5 => exact tokenizes

/-- A text has no tokens when there is nothing in it but what is skipped. -/
theorem tokenizes_nil_iff :
    Tokenizes text [] ↔ skip text = [] := by
  constructor
  · intro tokenizes
    generalize none : [] = tokens at tokenizes
    induction tokenizes with
    | done => rw [skip]
    | blank blank _ inductionHypothesis =>
        rw [skip_blank blank]
        exact inductionHypothesis none
    | comment inside ended _ inductionHypothesis =>
        rw [skip_comment inside ended]
        exact inductionHypothesis none
    | token _ _ _ => cases none
  · intro nothing
    apply tokenizes_of_skip
    rw [nothing]
    exact .done

/-- The first token of a text is what comes after what is skipped. -/
theorem tokenizes_cons_iff
    (token : Token) :
    Tokenizes text (token :: tokens) ↔
      ∃ rest, skip text = token.spelling ++ rest ∧ token.Before rest ∧
        Tokenizes rest tokens := by
  constructor
  · intro tokenizes
    generalize all : token :: tokens = every at tokenizes
    induction tokenizes with
    | done => cases all
    | blank blank _ inductionHypothesis =>
        rw [skip_blank blank]
        exact inductionHypothesis all
    | comment inside ended _ inductionHypothesis =>
        rw [skip_comment inside ended]
        exact inductionHypothesis all
    | token before others _ =>
        cases all
        exact ⟨_, skip_spelling_append before, before, others⟩
  · rintro ⟨rest, first, before, others⟩
    apply tokenizes_of_skip
    rw [first]
    exact .token before others

end Skipping

/-! ## One way to cut a text -/

section Unique

variable {characters text rest : List Char}

/-- A run is all that stands before the first delimiter. -/
theorem takeWhile_run_append
    (before : (Token.run characters).Before rest) :
    (characters ++ rest).takeWhile (· ∉ delimiters) = characters := by
  obtain ⟨_, undelimited, delimited⟩ := before
  rw [takeWhile_append (by decide) delimited, List.takeWhile_eq_self_iff]
  intro character member
  simpa using undelimited character member

/-- At most one token and one text after it are spelled by a text. -/
theorem eq_of_spelling_append_eq
    {token other : Token}
    (before : token.Before text)
    (otherBefore : other.Before rest)
    (same : token.spelling ++ text = other.spelling ++ rest) :
    token = other ∧ text = rest := by
  match token, other with
  | .run characters, .run others =>
      have equal : characters = others := by
        rw [← takeWhile_run_append before, ← takeWhile_run_append otherBefore]
        exact congrArg _ same
      subst equal
      exact ⟨rfl, List.append_cancel_left same⟩
  | .run characters, .opening | .run characters, .closing
  | .run characters, .quoteMark =>
      have noDelimiter := startsDelimiter_run_append before
      rw [show characters ++ text = _ from same] at noDelimiter
      cases noDelimiter
  | .opening, .run others | .closing, .run others | .quoteMark, .run others =>
      have noDelimiter := startsDelimiter_run_append otherBefore
      rw [show others ++ rest = _ from same.symm] at noDelimiter
      cases noDelimiter
  | .opening, .opening | .closing, .closing | .quoteMark, .quoteMark =>
      exact ⟨rfl, List.append_cancel_left same⟩
  | .opening, .closing | .opening, .quoteMark | .closing, .opening
  | .closing, .quoteMark | .quoteMark, .opening | .quoteMark, .closing =>
      cases same

/-- A token has characters. -/
theorem spelling_ne_nil
    {token : Token}
    (before : token.Before rest) :
    token.spelling ≠ [] := by
  cases token with
  | opening => exact List.cons_ne_nil _ _
  | closing => exact List.cons_ne_nil _ _
  | quoteMark => exact List.cons_ne_nil _ _
  | run characters => exact before.1

theorem spelling_append_ne_nil
    {token : Token}
    (before : token.Before rest) :
    token.spelling ++ rest ≠ [] :=
  List.append_ne_nil_of_left_ne_nil (spelling_ne_nil before) rest

/-- A text is cut into tokens in one way. -/
theorem Tokenizes.unique
    {tokens others : List Token}
    (tokenizes : Tokenizes text tokens)
    (otherwise : Tokenizes text others) :
    tokens = others := by
  induction tokens generalizing text others with
  | nil =>
      have nothing := tokenizes_nil_iff.mp tokenizes
      match others with
      | [] => rfl
      | other :: others =>
          obtain ⟨rest, first, before, _⟩ := (tokenizes_cons_iff _).mp otherwise
          exact absurd (first.symm.trans nothing) (spelling_append_ne_nil before)
  | cons token tokens inductionHypothesis =>
      obtain ⟨rest, first, before, more⟩ := (tokenizes_cons_iff _).mp tokenizes
      match others with
      | [] =>
          have nothing := tokenizes_nil_iff.mp otherwise
          exact absurd (first.symm.trans nothing) (spelling_append_ne_nil before)
      | other :: others =>
          obtain ⟨rest', first', before', more'⟩ :=
            (tokenizes_cons_iff _).mp otherwise
          obtain ⟨rfl, rfl⟩ :=
            eq_of_spelling_append_eq before before' (first.symm.trans first')
          rw [inductionHypothesis more more']

end Unique
end Reader
end SExpr
