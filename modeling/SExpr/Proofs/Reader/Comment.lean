import SExpr.Proofs.Reader.Grammar
import SExpr.Proofs.Reader.Layout

/-!
# The text of a comment

A comment goes from its semicolon to the end of the line. It is skipped if there is no
carriage return in it, except for one that ends the line together with the line feed.
Then a text is read as if the line had no comment.

A carriage return anywhere else ends the comment at a place where none may end. Such a
comment is not skipped, so the semicolon would have to be part of a token, and no token
has one. A text with such a comment is not read, whatever else is in it.
-/

namespace SExpr
namespace Reader

/-! ## The end of a comment -/

section Line

variable {line : List Char}

/-- A comment with no carriage return but at the end of its line makes no difference to
what is left. -/
theorem skip_comment_line
    (noLineFeed : '\n' ∉ line)
    (noReturn : '\r' ∉ line.dropLast)
    (after : List Char) :
    skip (';' :: (line ++ '\n' :: after)) = skip ('\n' :: after) := by
  have inside {start : List Char} (isPrefix : start <+: line) (returns : '\r' ∉ start) :
      ∀ character ∈ start, isLineEnd character = false := by
    intro character member
    have notReturn : character ≠ '\r' := fun same => returns (same ▸ member)
    have notFeed : character ≠ '\n' := fun same =>
      noLineFeed (isPrefix.subset (same ▸ member))
    simp [isLineEnd, notReturn, notFeed]
  by_cases returns : '\r' ∈ line
  -- The line ends in a carriage return, which the line feed follows.
  · have nonempty := List.ne_nil_of_mem returns
    have split := List.dropLast_append_getLast nonempty
    have last : line.getLast nonempty = '\r' := by
      rw [← split] at returns
      simpa [noReturn, eq_comm] using returns
    rw [last] at split
    rw [← split, List.append_assoc, List.singleton_append,
      skip_comment (inside line.dropLast_prefix noReturn) (.inr (.inr ⟨after, rfl⟩)),
      skip_blank rfl]
  · exact skip_comment (inside List.prefix_rfl returns) (.inr (.inl ⟨after, rfl⟩))

/-- A comment ends at a carriage return, and where more of its line follows it may not
end. -/
theorem afterComment?_eq_none_of_return
    (noLineFeed : '\n' ∉ line)
    (returns : '\r' ∈ line.dropLast)
    (after : List Char) :
    afterComment? (line ++ '\n' :: after) = none := by
  obtain ⟨inner, lineEnd, more, start, isEnd, inside⟩ :=
    exists_line_of_isLineEnd ⟨'\r', returns, rfl⟩
  have nonempty : line ≠ [] := by
    rintro rfl
    simp at returns
  have split := List.dropLast_append_getLast nonempty
  rw [start, List.append_assoc, List.cons_append] at split
  rw [← split] at noLineFeed ⊢
  simp only [List.mem_append, List.mem_cons, not_or] at noLineFeed
  obtain rfl : lineEnd = '\r' := by
    simpa [isLineEnd, Ne.symm noLineFeed.2.1] using isEnd
  rw [List.append_assoc, List.cons_append, afterComment?_append_of_inside inside]
  unfold afterComment?
  rw [dropWhile_lineEnd rfl]
  cases more with
  | nil => grind
  | cons following _ => grind

end Line

/-! ## Semicolons in texts that are cut into tokens -/

/-- No token has a semicolon in it. -/
theorem semicolon_notMem_spelling
    {token : Token}
    {text : List Char}
    (before : token.Before text) :
    ';' ∉ token.spelling := by
  match token with
  | .opening | .closing | .quoteMark => simp [Token.spelling]
  | .run characters =>
      intro member
      exact absurd (before.2.1 _ member) (by decide)

/-- A semicolon that is in no comment starts one, in a text that is cut into tokens. -/
theorem exists_afterComment?_of_tokenizes
    {before rest : List Char}
    {tokens : List Token}
    (ended : CommentsEnd before)
    (tokenizes : Tokenizes (before ++ ';' :: rest) tokens) :
    ∃ after, afterComment? rest = some after := by
  generalize whole : before ++ ';' :: rest = text at tokenizes
  induction tokenizes generalizing before with
  | done => simp at whole
  | blank isBlank _ inductionHypothesis =>
      obtain ⟨rfl, same⟩ | ⟨others, rfl, rfl⟩ := List.append_eq_cons_iff.mp whole
      · obtain ⟨rfl, -⟩ := List.cons.inj same
        cases isBlank
      · exact inductionHypothesis (ended.of_isSuffix (List.suffix_cons ..)) rfl
  | @comment line text _ inside lineEnded _ inductionHypothesis =>
      obtain ⟨rfl, same⟩ | ⟨others, rfl, same⟩ := List.append_eq_cons_iff.mp whole
      · obtain ⟨-, rfl⟩ := List.cons.inj same
        exact ⟨text, afterComment?_append inside lineEnded⟩
      -- The line of the comment ends before the semicolon.
      · obtain ⟨more, rfl, rfl⟩ | ⟨more, rfl, -⟩ := List.append_eq_append_iff.mp same
        · exact inductionHypothesis
            (ended.of_isSuffix (List.suffix_append (';' :: line) more)) rfl
        · have isEnd := inside _ (List.mem_append_left _ (ended [] _ rfl))
          cases isEnd
  | @token token text _ isBefore _ inductionHypothesis =>
      have noSemicolon := semicolon_notMem_spelling isBefore
      obtain ⟨more, spelled, same⟩ | ⟨more, rfl, rfl⟩ := List.append_eq_append_iff.mp whole
      · obtain ⟨rfl, rfl⟩ | ⟨others, rfl, -⟩ := List.append_eq_cons_iff.mp same.symm
        · have noComment : CommentsEnd [] := by simp [CommentsEnd]
          exact inductionHypothesis noComment rfl
        · rw [spelled] at noSemicolon
          simp at noSemicolon
      · exact inductionHypothesis
          (ended.of_isSuffix (List.suffix_append token.spelling more)) rfl

end Reader

/-! ## Sources -/

/-- A semicolon that is in no comment starts one, in a source that is read. -/
theorem exists_afterComment?_of_readProgram
    {before rest : List Char}
    {data : List Datum}
    (ended : Reader.CommentsEnd before)
    (read : readProgram (before ++ ';' :: rest) = .ok data) :
    ∃ after, Reader.afterComment? rest = some after := by
  obtain ⟨after, many, nothing⟩ := (readProgram_eq_ok_iff ..).mp read
  obtain ⟨tokens, cut, -⟩ :=
    Reader.derivesAll_of_many Reader.derives_of_datum_run many
  exact Reader.exists_afterComment?_of_tokenizes ended
    (cut [] (Reader.tokenizes_nil_iff.mpr nothing))

/-- A comment may be left out of a source: the same data are read without it. It may have
any characters but one, a carriage return that is not the last character of the line. That
makes the source unreadable. -/
theorem readProgram_comment_iff
    {before line : List Char}
    (noSemicolon : ';' ∉ Reader.lastLine before)
    (noLineFeed : '\n' ∉ line)
    (after : List Char)
    (data : List Datum) :
    readProgram (before ++ ';' :: (line ++ '\n' :: after)) = .ok data ↔
      '\r' ∉ line.dropLast ∧ readProgram (before ++ '\n' :: after) = .ok data := by
  have ended := Reader.commentsEnd_of_lastLine noSemicolon
  by_cases returns : '\r' ∈ line.dropLast
  · have notFound := Reader.afterComment?_eq_none_of_return noLineFeed returns after
    refine iff_of_false (fun read => ?_) (fun both => both.1 returns)
    obtain ⟨rest, found⟩ := exists_afterComment?_of_readProgram ended read
    rw [notFound] at found
    cases found
  · have same : Reader.SameAfterSkip (';' :: (line ++ '\n' :: after)) ('\n' :: after) :=
      { firstTrivia := ⟨';', _, rfl, .inr rfl⟩
        secondTrivia := ⟨'\n', after, rfl, .inl rfl⟩
        skipped := Reader.skip_comment_line noLineFeed returns after }
    obtain ⟨data', read, otherRead⟩ | ⟨_, _, failed, otherFailed, -⟩ :=
      readProgram_beside same (.before ended)
    · rw [read, otherRead]
      exact (and_iff_right returns).symm
    · rw [failed, otherFailed]
      simp

/-- A comment with a quotation mark, a parenthesis, another semicolon and both line end
characters, between a quote mark and what it quotes. -/
theorem readProgram_comment_iff_quotation :
    ';' ∉ Reader.lastLine "(a'".toList ∧
      '\n' ∉ "\"é (;\r".toList ∧
      readProgram ("(a'".toList ++ ';' :: ("\"é (;\r".toList ++ '\n' :: "b)".toList)) =
        .ok [.list [.symbol "a", (Datum.symbol "b").quoted]] := by
  have noSemicolon : ';' ∉ Reader.lastLine "(a'".toList := by decide
  have noLineFeed : '\n' ∉ "\"é (;\r".toList := by decide
  have plain : readProgram ("(a'".toList ++ '\n' :: "b)".toList) =
      .ok [.list [.symbol "a", (Datum.symbol "b").quoted]] := by
    decide +kernel
  exact ⟨noSemicolon, noLineFeed,
    (readProgram_comment_iff noSemicolon noLineFeed _ _).mpr ⟨by decide, plain⟩⟩

/-- A carriage return inside a comment makes a source unreadable that can be read without
the comment. -/
theorem readProgram_comment_return :
    ';' ∉ Reader.lastLine [] ∧ '\n' ∉ "x\ry".toList ∧
      readProgram ([] ++ ';' :: ("x\ry".toList ++ '\n' :: ['1'])) =
        .error (.unreadable (.unexpected 0 ";x\ry\n1".toList)) ∧
      readProgram ([] ++ '\n' :: ['1']) = .ok [.integer 1] := by
  decide +kernel

end SExpr
