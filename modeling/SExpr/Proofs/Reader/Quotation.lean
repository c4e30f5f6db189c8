import SExpr.Proofs.Datum.Leaves
import SExpr.Proofs.Reader.Grammar
import SExpr.Proofs.Reader.Lines

/-!
# The two ways to write a quotation

A quote mark before a datum and the list of the word `quote` and the datum are read as
the same quotation, and each opens one level. So when the datum has taken all levels
that may be opened, both are refused for the nesting.

Tokens that derive a datum with some number of levels derive no other datum with fewer:
they derive the same one, or a level is missing. The readers fail for the nesting at the
first level that is missing, and until then they find nothing else to refuse.
-/

namespace SExpr
namespace Reader

/-! ## Tokens with levels missing -/

-- Both go by the derivation with enough levels; the levels of the reader go down with
-- it, so that they run out at an opening parenthesis or a quote mark.
mutual

/-- Where a level is missing, reading fails for the nesting. -/
theorem datum_run_of_not_derives
    {levels other : Nat}
    {tokens more : List Token}
    {value : Datum}
    {text : List Char}
    (derives : Derives levels tokens value)
    (missing : ¬ Derives other tokens value)
    (tokenizes : Tokenizes text (tokens ++ more)) :
    ∃ place, (datum other).run (skip text) = .failed ⟨.nestingTooDeep, place⟩ := by
  cases derives with
  | run denotes => exact absurd (.run denotes) missing
  | list elements =>
      rw [List.cons_append, List.append_assoc] at tokenizes
      obtain ⟨inside, opened, _, others⟩ := (tokenizes_cons_iff _).mp tokenizes
      rw [opened]
      match other with
      | 0 => exact ⟨inside, rfl⟩
      | other + 1 =>
          obtain ⟨place, failed⟩ := many_of_not_derivesAll elements
            (fun enough => missing (.list enough)) others
          exact ⟨place, datum_run_list_of_failed failed⟩
  | quoted quoted =>
      obtain ⟨inside, marked, _, others⟩ := (tokenizes_cons_iff _).mp tokenizes
      rw [marked]
      match other with
      | 0 => exact ⟨skip inside, rfl⟩
      | other + 1 =>
          obtain ⟨place, failed⟩ := datum_run_of_not_derives quoted
            (fun enough => missing (.quoted enough)) others
          exact ⟨place, datum_run_quoted_of_failed failed⟩

theorem many_of_not_derivesAll
    {levels other : Nat}
    {tokens more : List Token}
    {values : List Datum}
    {text : List Char}
    (derives : DerivesAll levels tokens values)
    (missing : ¬ DerivesAll other tokens values)
    (tokenizes : Tokenizes text (tokens ++ more)) :
    ∃ place, (datum other).many text = .error ⟨.nestingTooDeep, place⟩ := by
  cases derives with
  | nil => exact absurd .nil missing
  | @cons _ firstTokens _ value _ first others =>
      rw [List.append_assoc] at tokenizes
      by_cases enough : Derives other firstTokens value
      · obtain ⟨rest, taken, afterFirst⟩ := datum_run_of_derives enough tokenizes
        obtain ⟨place, failed⟩ := many_of_not_derivesAll others
          (fun othersEnough => missing (.cons enough othersEnough)) afterFirst
        refine ⟨place, ?_⟩
        rw [many_of_taken taken, failed]
        rfl
      · obtain ⟨place, failed⟩ := datum_run_of_not_derives first enough tokenizes
        exact ⟨place, many_of_failed failed⟩

end

/-! ## One datum with a number of levels -/

/-- A text is one datum when the given number of levels may be opened. -/
def ReadsWithin
    (levels : Nat)
    (text : List Char)
    (value : Datum) : Prop :=
  ∃ tokens, Tokenizes text tokens ∧ Derives levels tokens value

theorem derivesAll_singleton_iff
    {levels : Nat}
    {tokens : List Token}
    {value : Datum} :
    DerivesAll levels tokens [value] ↔ Derives levels tokens value := by
  constructor
  · intro derives
    cases derives with
    | cons first none =>
        cases none
        rw [List.append_nil]
        exact first
  · intro derives
    rw [← List.append_nil tokens]
    exact .cons derives .nil

/-- A source is one datum when it is one with all levels that may be opened. -/
theorem readSingle_eq_ok_iff_readsWithin
    {source : List Char}
    {value : Datum} :
    readSingle source = .ok value ↔ ReadsWithin maxNesting source value := by
  have single : readSingle source = .ok value ↔
      readProgram source = .ok [value] := by
    refine ⟨readProgram_of_readSingle, fun program => ?_⟩
    rw [readSingle, program]
  rw [single, readProgram_eq_ok_iff_derivesAll]
  simp only [derivesAll_singleton_iff, ReadsWithin]

/-- A source that is one datum with more levels than may be opened is refused for
its nesting. -/
theorem readSingle_eq_nestingTooDeep
    {levels : Nat}
    {source : List Char}
    {tokens : List Token}
    {value : Datum}
    (tokenizes : Tokenizes source tokens)
    (derives : Derives levels tokens value)
    (missing : ¬ Derives maxNesting tokens value) :
    readSingle source = .error .nestingTooDeep := by
  rw [← List.append_nil tokens] at tokenizes
  obtain ⟨place, failed⟩ :=
    datum_run_of_not_derives derives missing tokenizes
  exact readSingle_of_failed failed

/-! ## The tokens of a quotation -/

/-- A line feed after a text leaves its tokens and those of the next line. -/
theorem Tokenizes.append_line
    {text next : List Char}
    {tokens more : List Token}
    (first : Tokenizes text tokens)
    (second : Tokenizes next more) :
    Tokenizes (text ++ '\n' :: next) (tokens ++ more) := by
  induction first with
  | done => exact .blank (by decide) second
  | blank isBlank _ inductionHypothesis => exact .blank isBlank inductionHypothesis
  | comment inside ended _ inductionHypothesis =>
      rw [List.cons_append, List.append_assoc]
      exact .comment inside (ended.append_line next) inductionHypothesis
  | @token token text _ ended _ inductionHypothesis =>
      rw [List.append_assoc]
      refine .token ?_ inductionHypothesis
      match token, ended with
      | .opening, _ | .closing, _ | .quoteMark, _ => trivial
      | .run characters, ⟨nonempty, undelimited, delimited⟩ =>
          refine ⟨nonempty, undelimited, ?_⟩
          rw [startsDelimiter_append text rfl]
          exact delimited

/-- The word at the head of a quotation. -/
def quoteWord : List Char :=
  "quote".toList

/-- The quotation of a text as a list, with a line feed for the case that the text
ends with a comment. -/
def longQuotation (text : List Char) : List Char :=
  "(quote ".toList ++ text ++ "\n)".toList

theorem readAtom_quoteWord :
    readAtom quoteWord = .taken Form.quote.head [] := by
  decide +kernel

theorem isUndelimited_quoteWord : IsUndelimited quoteWord :=
  isUndelimited_of_readAtom readAtom_quoteWord

theorem denotes_quoteWord : Denotes quoteWord Form.quote.head :=
  (readAtom_eq_taken_nil_iff isUndelimited_quoteWord _).mp readAtom_quoteWord

section Quotations

variable {text : List Char} {tokens : List Token}

theorem tokenizes_quoteMark
    (tokenizes : Tokenizes text tokens) :
    Tokenizes ('\'' :: text) (.quoteMark :: tokens) :=
  @Tokenizes.token .quoteMark text tokens trivial tokenizes

theorem tokenizes_longQuotation
    (tokenizes : Tokenizes text tokens) :
    Tokenizes (longQuotation text)
      (.opening :: ((.run quoteWord :: tokens) ++ [.closing])) := by
  have closing : Tokenizes [')'] [.closing] :=
    @Tokenizes.token .closing [] [] trivial .done
  have inside := tokenizes.append_line closing
  have word : (Token.run quoteWord).Before (' ' :: (text ++ "\n)".toList)) :=
    ⟨by decide, isUndelimited_quoteWord, rfl⟩
  exact @Tokenizes.token .opening _ _ trivial
    (.token word (.blank (by decide) inside))

variable {levels : Nat} {value : Datum}

/-- A symbol is derived from one run. -/
theorem exists_run_of_derives_symbol
    {name : String}
    (derives : Derives levels tokens (.symbol name)) :
    ∃ characters, tokens = [.run characters] := by
  generalize same : Datum.symbol name = symbol at derives
  cases derives with
  | run denotes => exact ⟨_, rfl⟩
  | list _ => cases same
  | quoted _ => cases same

/-- A quote mark takes one level. -/
theorem derives_quoteMark_iff :
    Derives (levels + 1) (.quoteMark :: tokens) value.quoted ↔
      Derives levels tokens value := by
  constructor
  · intro derives
    generalize same : value.quoted = quotation at derives
    cases derives with
    | quoted datum =>
        cases same
        exact datum
  · exact .quoted

/-- The list of a quotation takes one level. -/
theorem derives_longQuotation_iff :
    Derives (levels + 1) (.opening :: ((.run quoteWord :: tokens) ++ [.closing]))
        value.quoted ↔
      Derives levels tokens value := by
  constructor
  · intro derives
    generalize same : value.quoted = quotation,
      cut : Token.opening :: ((.run quoteWord :: tokens) ++ [.closing]) = all
      at derives
    cases derives with
    | run _ | quoted _ => cases cut
    | @list _ inside _ elements =>
        cases same
        obtain rfl : Token.run quoteWord :: tokens = inside :=
          List.append_cancel_right (List.cons.inj cut).2
        generalize inside : Token.run quoteWord :: tokens = all at elements
        cases elements with
        | cons word others =>
            obtain ⟨characters, rfl⟩ := exists_run_of_derives_symbol word
            obtain rfl := (List.cons.inj inside).2
            exact derivesAll_singleton_iff.mp others
  · intro derives
    exact .list
      (.cons (.run denotes_quoteWord) (derivesAll_singleton_iff.mpr derives))

end Quotations

end Reader

/-! ## Both ways -/

/-- A datum after a quote mark and a datum in the list of a quotation are read as the
same: as the quotation of the datum if it takes one level less than may be opened, and
otherwise both are refused for the nesting. -/
theorem readSingle_longQuotation
    {text : List Char}
    {value : Datum}
    (read : readSingle text = .ok value) :
    readSingle (Reader.longQuotation text) = readSingle ('\'' :: text) ∧
      (readSingle ('\'' :: text) = .ok (.list [.symbol "quote", value]) ∨
        readSingle ('\'' :: text) = .error .nestingTooDeep) ∧
      (readSingle ('\'' :: text) = .ok (.list [.symbol "quote", value]) ↔
        Reader.ReadsWithin (maxNesting - 1) text value) := by
  obtain ⟨tokens, tokenizes, derives⟩ :=
    Reader.readSingle_eq_ok_iff_readsWithin.mp read
  have marked := Reader.tokenizes_quoteMark tokenizes
  have listed := Reader.tokenizes_longQuotation tokenizes
  have fitsIff : Reader.ReadsWithin (maxNesting - 1) text value ↔
      Reader.Derives (maxNesting - 1) tokens value := by
    constructor
    · rintro ⟨others, otherwise, enough⟩
      rw [tokenizes.unique otherwise]
      exact enough
    · intro enough
      exact ⟨tokens, tokenizes, enough⟩
  rw [fitsIff]
  by_cases enough : Reader.Derives (maxNesting - 1) tokens value
  · have short : readSingle ('\'' :: text) = .ok value.quoted :=
      Reader.readSingle_eq_ok_iff_readsWithin.mpr
        ⟨_, marked, Reader.derives_quoteMark_iff.mpr enough⟩
    have long : readSingle (Reader.longQuotation text) = .ok value.quoted :=
      Reader.readSingle_eq_ok_iff_readsWithin.mpr
        ⟨_, listed, Reader.derives_longQuotation_iff.mpr enough⟩
    exact ⟨long.trans short.symm, .inl short, iff_of_true short enough⟩
  · have short : readSingle ('\'' :: text) = .error .nestingTooDeep :=
      Reader.readSingle_eq_nestingTooDeep marked (.quoted derives)
        (mt Reader.derives_quoteMark_iff.mp enough)
    have long : readSingle (Reader.longQuotation text) = .error .nestingTooDeep :=
      Reader.readSingle_eq_nestingTooDeep listed
        (Reader.derives_longQuotation_iff.mpr derives)
        (mt Reader.derives_longQuotation_iff.mp enough)
    refine ⟨long.trans short.symm, .inr short, iff_of_false ?_ enough⟩
    rw [short]
    exact fun same => nomatch same

/-- A list with a comment on each side of it, and as many lists inside one another as
there are levels. -/
theorem readSingle_longQuotation_noted_and_deep :
    readSingle ";b\n('a);b".toList = .ok (.list [(Datum.symbol "a").quoted]) ∧
      readSingle "';b\n('a);b".toList =
        .ok (.list [.symbol "quote", .list [(Datum.symbol "a").quoted]]) ∧
      readSingle "(quote ;b\n('a);b\n)".toList =
        .ok (.list [.symbol "quote", .list [(Datum.symbol "a").quoted]]) ∧
      readSingle (List.replicate 128 '(' ++ List.replicate 128 ')') =
        .ok ((Datum.list []).inLists 127) ∧
      readSingle
          ('\'' :: (List.replicate 128 '(' ++ List.replicate 128 ')')) =
        .error .nestingTooDeep ∧
      readSingle
          (Reader.longQuotation
            (List.replicate 128 '(' ++ List.replicate 128 ')')) =
        .error .nestingTooDeep := by
  have noted : readSingle ";b\n('a);b".toList =
      .ok (.list [(Datum.symbol "a").quoted]) := by
    decide +kernel
  have short : readSingle "';b\n('a);b".toList =
      .ok (.list [.symbol "quote", .list [(Datum.symbol "a").quoted]]) := by
    decide +kernel
  have deep : readSingle (List.replicate 128 '(' ++ List.replicate 128 ')') =
      .ok ((Datum.list []).inLists 127) := by
    decide +kernel
  have tooDeep :
      readSingle
          ('\'' :: (List.replicate 128 '(' ++ List.replicate 128 ')')) =
        .error .nestingTooDeep := by
    decide +kernel
  exact ⟨noted, short, (readSingle_longQuotation noted).1.trans short, deep,
    tooDeep, (readSingle_longQuotation deep).1.trans tooDeep⟩

end SExpr
