import SExpr.Proofs.Text.Utf8
import SExpr.Source
import SExpr.Text.Line

/-!
# Lines as bytes and back

Lines of text, each with a line feed at its end, are split from their bytes as the
lines they are, if there are no line feeds in them and no carriage returns. A line that
is split from any bytes has no carriage return if there is none in the bytes.
-/

namespace SExpr
namespace Line

/-- Bytes without a carriage return are a line as they are. -/
theorem withoutReturn_of_not_mem
    {bytes : List UInt8}
    (noReturn : 13 ∉ bytes) :
    withoutReturn bytes = bytes := by
  rw [withoutReturn, if_neg]
  intro last
  exact noReturn (List.mem_of_getLast? last)

/-- The bytes up to the first line feed are a line, together with those that stand
apart. -/
theorem splitAfter_append
    {bytes : List UInt8}
    (noFeed : 10 ∉ bytes)
    (current rest : List UInt8) :
    splitAfter current (bytes ++ 10 :: rest) =
      ofBytes (withoutReturn (current.reverse ++ bytes)) :: splitAfter [] rest := by
  induction bytes generalizing current with
  | nil => simp [splitAfter]
  | cons byte bytes inductionHypothesis =>
      rw [List.mem_cons, not_or] at noFeed
      rw [List.cons_append, splitAfter, if_neg (Ne.symm noFeed.1),
        inductionHypothesis noFeed.2, List.reverse_cons, List.append_assoc]
      rfl

/-- The bytes of lines are split into the lines. -/
theorem split_encode_unlines
    {lines : List (List Char)}
    (noFeed : ∀ line ∈ lines, '\n' ∉ line)
    (noReturn : ∀ line ∈ lines, '\r' ∉ line) :
    split (Utf8.encode (unlines lines)) = lines.map .text := by
  induction lines with
  | nil => rfl
  | cons line lines inductionHypothesis =>
      have first : Utf8.encode (unlines (line :: lines)) =
          Utf8.encode line ++ 10 :: Utf8.encode (unlines lines) := by
        rw [unlines_cons, Utf8.encode, List.flatMap_append]
        rfl
      have noFeedByte : 10 ∉ Utf8.encode line := fun member =>
        noFeed line List.mem_cons_self
          (@Utf8.mem_of_mem_encode line '\n' (by decide) member)
      have noReturnByte : 13 ∉ Utf8.encode line := fun member =>
        noReturn line List.mem_cons_self
          (@Utf8.mem_of_mem_encode line '\r' (by decide) member)
      rw [split, first, splitAfter_append noFeedByte, List.reverse_nil, List.nil_append,
        withoutReturn_of_not_mem noReturnByte, ofBytes, Utf8.text?_encode, ← split,
        inductionHypothesis (fun other member => noFeed other (.tail _ member))
          (fun other member => noReturn other (.tail _ member))]
      rfl

/-- Lines without a carriage return come of bytes without one. -/
theorem not_mem_of_ofBytes
    {bytes : List UInt8}
    {content : List Char}
    (noReturn : 13 ∉ bytes)
    (line : ofBytes bytes = .text content) :
    '\r' ∉ content := by
  unfold ofBytes at line
  split at line
  · next decoded =>
      cases line
      intro member
      exact noReturn (Utf8.mem_of_text? decoded (by decide) (by decide) member)
  · cases line

theorem not_mem_of_mem_splitAfter
    {current bytes : List UInt8}
    (noReturnBefore : 13 ∉ current)
    (noReturn : 13 ∉ bytes)
    {content : List Char}
    (member : .text content ∈ splitAfter current bytes) :
    '\r' ∉ content := by
  induction bytes generalizing current with
  | nil =>
      rw [splitAfter] at member
      split at member
      · cases member
      · rw [← List.mem_reverse] at noReturnBefore
        exact not_mem_of_ofBytes noReturnBefore (List.mem_singleton.mp member).symm
  | cons byte bytes inductionHypothesis =>
      rw [List.mem_cons, not_or] at noReturn
      rw [splitAfter] at member
      split at member
      · rw [← List.mem_reverse] at noReturnBefore
        rw [withoutReturn_of_not_mem noReturnBefore] at member
        obtain here | after := List.mem_cons.mp member
        · exact not_mem_of_ofBytes noReturnBefore here.symm
        · exact inductionHypothesis List.not_mem_nil noReturn.2 after
      · refine inductionHypothesis ?_ noReturn.2 member
        rw [List.mem_cons, not_or]
        exact ⟨noReturn.1, noReturnBefore⟩

end Line
end SExpr
