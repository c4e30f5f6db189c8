import SExpr.Proofs.LetElimination.Reread
import SExpr.Proofs.Reader.Lines
import SExpr.Proofs.Reader.Parentheses
import SExpr.Proofs.Source.Nesting

/-!
# Answers as sources

The lines that answer a source are themselves a source, and the answer to it is the
same lines again. Each line is read as one datum if it does not open too many
parentheses, perhaps not as the datum it is printed from but as one that is printed in
the same way, and let elimination keeps that datum.
-/

namespace SExpr

/-- The answer to a source has a line for each of its data, the printed form of what
it is rewritten to. -/
theorem respond_eq_ok_iff
    {source : List Char}
    {lines : List (List Char)} :
    respond source = .ok lines ↔
      ∃ data results,
        readProgram source = .ok data ∧
        List.Forall₂ (fun value result => value.withoutLet = .ok result)
          data results ∧
        lines = results.map Datum.written := by
  have rewritten {data results : List Datum} :
      withoutLets data = .ok results ↔
        List.Forall₂ (fun value result => value.withoutLet = .ok result)
          data results :=
    LetElimination.mapM_eq_ok_iff
  unfold respond rewriteSource
  constructor
  · intro answered
    split at answered
    · next data read =>
        cases outcome : withoutLets data with
        | error error =>
            rw [outcome] at answered
            cases answered
        | ok results =>
            rw [outcome] at answered
            cases answered
            exact ⟨data, results, read, rewritten.mp outcome, rfl⟩
    · cases answered
  · rintro ⟨data, results, read, each, rfl⟩
    simp only [read, rewritten.mpr each]
    rfl

/-- Lines that are one datum each are together a source of these data. -/
theorem readProgram_intercalate
    {lines : List (List Char)}
    {values : List Datum}
    (each : List.Forall₂ (fun line value => readProgram line = .ok [value])
      lines values) :
    readProgram (['\n'].intercalate lines) = .ok values := by
  induction each with
  | nil => decide +kernel
  | cons first others inductionHypothesis =>
      cases others with
      | nil =>
          rw [List.intercalate_singleton]
          exact first
      | cons second more =>
          rw [List.intercalate_cons_cons, List.append_assoc,
            List.singleton_append]
          exact readProgram_append_line_of_ok first inductionHypothesis

/-! ## Rewritten data -/

/-- A datum that is read from its line and kept as code, as what its line denotes. -/
structure Replays (result : Datum) : Prop where
  readable : Reader.NamesReadable result
  kept : LetElimination.EliminatesTo result.reread result.reread

/-- Rewriting a datum whose names can be read brings in one name that can be read as
well. -/
theorem namesReadable_of_withoutLet
    {value result : Datum}
    (readable : Reader.NamesReadable value)
    (accepted : value.withoutLet = .ok result) :
    Reader.NamesReadable result := by
  intro name member
  obtain lambda | inCode :=
    LetElimination.keepsLeaves_of_eliminate accepted _ member
  · obtain rfl := Datum.symbol.inj lambda
    decide
  · exact readable name inCode

theorem replays_of_withoutLet
    {value result : Datum}
    (readable : Reader.NamesReadable value)
    (accepted : value.withoutLet = .ok result) :
    Replays result where
  readable := namesReadable_of_withoutLet readable accepted
  kept := by
    have same := LetElimination.eliminatesTo_self_of_eliminate accepted
      result.codeDepth
    rw [if_pos (Nat.le_refl _)] at same
    exact LetElimination.eliminatesTo_reread same

/-- The line of a rewritten datum is read as one datum. -/
theorem Replays.readProgram_written
    {result : Datum}
    (replays : Replays result)
    (shallow : Reader.OpensAtMost maxNesting result.written) :
    readProgram result.written = .ok [result.reread] := by
  apply readProgram_of_readSingle
  rw [readSingle_eq_reread replays.readable, if_pos]
  exact (Reader.opensAtMost_written_iff replays.readable maxNesting).mp shallow

/-- What is read from the line of a rewritten datum is kept as code. -/
theorem Replays.withoutLet_reread
    {result : Datum}
    (replays : Replays result)
    {source : List Char}
    {data : List Datum}
    (read : readProgram source = .ok data)
    (member : result.reread ∈ data) :
    result.reread.withoutLet = .ok result.reread := by
  have notTooDeep := withoutLet_ne_nestingTooDeep_of_readProgram read member
  have outcome := replays.kept maxNesting
  rw [Datum.withoutLet] at notTooDeep ⊢
  by_cases shallow : result.reread.codeDepth ≤ maxNesting
  · rw [outcome, if_pos shallow]
  · rw [if_neg shallow] at outcome
    exact absurd rfl (notTooDeep _ outcome)

/-- The answer to a source, each line of which opens no more parentheses at once than
data may be nested, is its own answer when it is a source, one line after another. -/
theorem respond_intercalate
    {source : List Char}
    {lines : List (List Char)}
    (answered : respond source = .ok lines)
    (shallow : ∀ line ∈ lines, Reader.OpensAtMost maxNesting line) :
    respond (['\n'].intercalate lines) = .ok lines := by
  obtain ⟨data, results, read, rewritten, rfl⟩ :=
    respond_eq_ok_iff.mp answered
  have replays : ∀ result ∈ results, Replays result := by
    have both := (List.forall₂_and_left data results).mpr
      ⟨namesReadable_of_readProgram read, rewritten⟩
    have each := both.imp fun value result pair =>
      replays_of_withoutLet pair.1 pair.2
    exact LetElimination.forall_mem_of_forall₂ each.flip
  have readAgain :
      readProgram (['\n'].intercalate (results.map Datum.written)) =
        .ok (results.map Datum.reread) := by
    apply readProgram_intercalate
    rw [List.forall₂_map_left_iff, List.forall₂_map_right_iff,
      List.forall₂_same]
    intro result member
    exact (replays result member).readProgram_written
      (shallow _ (List.mem_map_of_mem member))
  have kept :
      List.Forall₂ (fun value result => value.withoutLet = .ok result)
        (results.map Datum.reread) (results.map Datum.reread) := by
    rw [List.forall₂_same]
    intro value member
    obtain ⟨result, among, rfl⟩ := List.mem_map.mp member
    exact (replays result among).withoutLet_reread readAgain member
  have printedAgain :
      results.map Datum.written =
        (results.map Datum.reread).map Datum.written := by
    simp [Function.comp_def, Datum.written_reread]
  exact respond_eq_ok_iff.mpr ⟨_, _, readAgain, kept, printedAgain⟩

/-- An overflowing numeral, a quotation in a `let`, and the answer to both: the first
line is read as a symbol where the source has a float. -/
theorem respond_intercalate_overflow :
    respond "1e999 (let ((x 'a)) x)".toList =
        .ok ["inf".toList, "((lambda (x) x) (quote a))".toList] ∧
      respond "inf\n((lambda (x) x) (quote a))".toList =
        .ok ["inf".toList, "((lambda (x) x) (quote a))".toList] := by
  have answered : respond "1e999 (let ((x 'a)) x)".toList =
      .ok ["inf".toList, "((lambda (x) x) (quote a))".toList] := by
    decide +kernel
  exact ⟨answered, respond_intercalate answered (by decide)⟩

end SExpr
