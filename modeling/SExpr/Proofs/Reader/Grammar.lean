import SExpr.Proofs.Reader.Tokens

/-!
# The grammar of programs

What the readers accept, against a grammar over tokens that is given apart from
them: a run is the datum it denotes, a list is the data between its parentheses,
and a quote mark quotes the datum after it. Lists and quotations may stand inside
one another up to a number of levels.

The readers work on the text itself and find the tokens as they go. What they read
from a text is derived from tokens that the text can be cut into, whatever the
text after it is cut into, and what is derived from the first tokens of a text is
read from it. At the end of a source both say the same.
-/

namespace SExpr
namespace Reader

mutual

/-- The datum that tokens derive, when the given number of levels may be
opened. -/
inductive Derives : (levels : Nat) -> List Token -> Datum -> Prop
  | run
      {levels : Nat}
      {characters : List Char}
      {value : Datum}
      (denotes : Denotes characters value) :
      Derives levels [.run characters] value
  | list
      {levels : Nat}
      {tokens : List Token}
      {items : List Datum}
      (elements : DerivesAll levels tokens items) :
      Derives (levels + 1) (.opening :: (tokens ++ [.closing])) (.list items)
  | quoted
      {levels : Nat}
      {tokens : List Token}
      {value : Datum}
      (datum : Derives levels tokens value) :
      Derives (levels + 1) (.quoteMark :: tokens) value.quoted

/-- The data that tokens derive one after the other. -/
inductive DerivesAll : (levels : Nat) -> List Token -> List Datum -> Prop
  | nil
      {levels : Nat} :
      DerivesAll levels [] []
  | cons
      {levels : Nat}
      {tokens others : List Token}
      {value : Datum}
      {values : List Datum}
      (first : Derives levels tokens value)
      (rest : DerivesAll levels others values) :
      DerivesAll levels (tokens ++ others) (value :: values)

end

/-! ## What is read is derived -/

/-- A text can be cut into tokens up to another text. -/
def TokenizesTo
    (text : List Char)
    (tokens : List Token)
    (rest : List Char) : Prop :=
  ∀ more, Tokenizes rest more -> Tokenizes text (tokens ++ more)

section Soundness

variable {text rest : List Char}

/-- Tokens up to a text are followed by those from it. -/
theorem TokenizesTo.append
    {tokens others : List Token}
    {middle : List Char}
    (first : TokenizesTo text tokens middle)
    (last : TokenizesTo middle others rest) :
    TokenizesTo text (tokens ++ others) rest := by
  intro more tokenizes
  rw [List.append_assoc]
  exact first _ (last more tokenizes)

/-- What is skipped before a text changes none of its tokens. -/
theorem TokenizesTo.of_skip
    {tokens : List Token}
    (tokenizes : TokenizesTo (skip text) tokens rest) :
    TokenizesTo text tokens rest :=
  fun more others => tokenizes_of_skip (tokenizes more others)

/-- A token that is spelled before a text is one token of it. -/
theorem tokenizesTo_spelling
    (token : Token)
    (before : token.Before rest) :
    TokenizesTo (token.spelling ++ rest) [token] rest :=
  fun _ others => .token before others

/-- An atom is derived from one run, with any number of levels. -/
theorem derives_of_readAtom
    {levels : Nat}
    {value : Datum}
    (taken : readAtom text = .taken value rest) :
    ∃ tokens, TokenizesTo text tokens rest ∧ Derives levels tokens value := by
  obtain ⟨characters, rfl, undelimited, alone⟩ := exists_run_of_readAtom taken
  have nonempty : characters ≠ [] := by
    rintro rfl
    cases alone
  exact ⟨[.run characters],
    tokenizesTo_spelling (.run characters)
      ⟨nonempty, undelimited, startsDelimiter_of_readAtom taken⟩,
    .run ((readAtom_eq_taken_nil_iff undelimited value).mp alone)⟩

/-- The data that repetition takes are derived if each datum is. -/
theorem derivesAll_of_many
    {levels : Nat}
    (each : ∀ {text value rest}, (datum levels).run text = .taken value rest ->
      ∃ tokens, TokenizesTo text tokens rest ∧ Derives levels tokens value)
    {values : List Datum}
    (read : (datum levels).many text = .ok (values, rest)) :
    ∃ tokens, TokenizesTo text tokens rest ∧
      DerivesAll levels tokens values := by
  refine many_induction
    (motive := fun text values rest =>
      ∃ tokens, TokenizesTo text tokens rest ∧ DerivesAll levels tokens values)
    ?_ ?_ read
  · intro text
    exact ⟨[], fun _ tokenizes => tokenizes, .nil⟩
  · rintro text value after values rest taken ⟨others, othersCut, derivesAll⟩
    obtain ⟨first, firstCut, derives⟩ := each taken
    exact ⟨first ++ others, firstCut.of_skip.append othersCut,
      .cons derives derivesAll⟩

/-- A datum that is read is derived from the tokens up to the text after it. -/
theorem derives_of_datum_run
    {levels : Nat}
    {value : Datum}
    (taken : (datum levels).run text = .taken value rest) :
    ∃ tokens, TokenizesTo text tokens rest ∧ Derives levels tokens value := by
  refine datum_run_induction
    (motive := fun levels text value rest =>
      ∃ tokens, TokenizesTo text tokens rest ∧ Derives levels tokens value)
    derives_of_readAtom ?_ ?_ taken
  · intro levels items inside after rest each elements closed
    obtain ⟨tokens, cut, derives⟩ := derivesAll_of_many each elements
    have closing : TokenizesTo (')' :: rest) [.closing] rest :=
      tokenizesTo_spelling .closing trivial
    rw [← closed] at closing
    exact ⟨_, (tokenizesTo_spelling .opening trivial).append
      (cut.append closing.of_skip), .list derives⟩
  · rintro levels value inside rest - ⟨tokens, cut, derives⟩
    exact ⟨_, (tokenizesTo_spelling .quoteMark trivial).append
      cut.of_skip, .quoted derives⟩

end Soundness

/-! ## What is derived is read -/

section Completeness

/-- No datum starts with these tokens, as they are at the end of a list or of a
source. -/
def EndsData : List Token -> Prop
  | [] => True
  | .closing :: _ => True
  | _ => False

/-- There are no more data where data end. -/
theorem many_of_endsData
    {levels : Nat}
    {text : List Char}
    {more : List Token}
    (ends : EndsData more)
    (tokenizes : Tokenizes text more) :
    (datum levels).many text = .ok ([], text) := by
  match more, ends with
  | [], _ =>
      have refused := datum_run_nil levels
      rw [← tokenizes_nil_iff.mp tokenizes] at refused
      exact many_of_refused refused
  | .closing :: _, _ =>
      obtain ⟨rest, first, _, _⟩ := (tokenizes_cons_iff .closing).mp tokenizes
      have refused : (datum levels).run (skip text) =
          .refused (')' :: rest) := by
        rw [first]
        exact datum_run_closing levels rest
      exact many_of_refused refused

-- Both go by the derivation. The tokens after a datum are any, so that the data of
-- a list can be read before its closing parenthesis and the next one after it.
mutual

/-- A datum that the first tokens of a text derive is read from it. -/
theorem datum_run_of_derives
    {levels : Nat}
    {tokens more : List Token}
    {value : Datum}
    {text : List Char}
    (derives : Derives levels tokens value)
    (tokenizes : Tokenizes text (tokens ++ more)) :
    ∃ rest, (datum levels).run (skip text) = .taken value rest ∧
      Tokenizes rest more := by
  cases derives with
  | run denotes =>
      obtain ⟨rest, first, before, others⟩ := (tokenizes_cons_iff _).mp tokenizes
      have noDelimiter := startsDelimiter_run_append before
      obtain ⟨_, undelimited, delimited⟩ := before
      have alone := (readAtom_eq_taken_nil_iff undelimited value).mpr denotes
      refine ⟨rest, ?_, others⟩
      rw [first, Token.spelling, datum_run_of_not_delimited noDelimiter,
        readAtom_append_delimited delimited, alone]
      rfl
  | list elements =>
      rw [List.cons_append, List.append_assoc] at tokenizes
      obtain ⟨inside, opened, _, others⟩ :=
        (tokenizes_cons_iff _).mp tokenizes
      have ends : EndsData ([.closing] ++ more) := trivial
      obtain ⟨after, read, last⟩ := many_of_derivesAll elements ends others
      obtain ⟨rest, closed, _, afterwards⟩ := (tokenizes_cons_iff _).mp last
      rw [opened]
      exact ⟨rest, datum_run_list_of_skip read closed, afterwards⟩
  | quoted quoted =>
      obtain ⟨inside, marked, _, others⟩ := (tokenizes_cons_iff _).mp tokenizes
      obtain ⟨rest, taken, afterwards⟩ := datum_run_of_derives quoted others
      rw [marked]
      exact ⟨rest, datum_run_quoted taken, afterwards⟩

/-- The data that the first tokens of a text derive are read from it, up to
where data end. -/
theorem many_of_derivesAll
    {levels : Nat}
    {tokens more : List Token}
    {values : List Datum}
    {text : List Char}
    (derives : DerivesAll levels tokens values)
    (ends : EndsData more)
    (tokenizes : Tokenizes text (tokens ++ more)) :
    ∃ rest, (datum levels).many text = .ok (values, rest) ∧
      Tokenizes rest more := by
  cases derives with
  | nil => exact ⟨text, many_of_endsData ends tokenizes, tokenizes⟩
  | cons first others =>
      rw [List.append_assoc] at tokenizes
      obtain ⟨middle, taken, afterFirst⟩ := datum_run_of_derives first tokenizes
      obtain ⟨rest, read, afterAll⟩ :=
        many_of_derivesAll others ends afterFirst
      refine ⟨rest, ?_, afterAll⟩
      rw [many_of_taken taken, read]
      rfl

end

end Completeness
end Reader

/-! ## Sources -/

/-- The data of a source are those that its tokens derive. -/
theorem readProgram_eq_ok_iff_derivesAll
    (source : List Char)
    (data : List Datum) :
    readProgram source = .ok data ↔
      ∃ tokens, Reader.Tokenizes source tokens ∧
        Reader.DerivesAll maxNesting tokens data := by
  rw [readProgram_eq_ok_iff]
  constructor
  · rintro ⟨after, read, nothing⟩
    obtain ⟨tokens, cut, derives⟩ :=
      Reader.derivesAll_of_many Reader.derives_of_datum_run read
    have tokenizes := cut [] (Reader.tokenizes_nil_iff.mpr nothing)
    rw [List.append_nil] at tokenizes
    exact ⟨tokens, tokenizes, derives⟩
  · rintro ⟨tokens, tokenizes, derives⟩
    rw [← List.append_nil tokens] at tokenizes
    have ends : Reader.EndsData [] := trivial
    obtain ⟨after, read, last⟩ :=
      Reader.many_of_derivesAll derives ends tokenizes
    exact ⟨after, read, Reader.tokenizes_nil_iff.mp last⟩

end SExpr
