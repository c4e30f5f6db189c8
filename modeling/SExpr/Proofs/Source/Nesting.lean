import SExpr.Proofs.LetElimination.Levels
import SExpr.Proofs.Reader.Leaves
import SExpr.Source

/-!
# The nesting of source text

The reader opens a level for each list and each quotation, so a datum that is read has
no more levels than the reader may open. Let elimination counts fewer: the limit is
the same, and code is never deeper than its levels. So a source that is read is never
refused for its nesting afterwards.
-/

namespace SExpr
namespace Reader

/-- A datum that is read has no more levels than may be opened. -/
theorem levels_le_of_datum_run
    {levels : Nat}
    {value : Datum}
    {text rest : List Char}
    (taken : (datum levels).run text = .taken value rest) :
    value.levels ≤ levels := by
  refine datum_run_induction
    (motive := fun levels _ value _ => value.levels ≤ levels) ?_ ?_ ?_ taken
  · intro levels text value rest taken
    rw [Datum.levels_of_isAtom (isAtom_of_readAtom taken)]
    exact Nat.zero_le levels
  · intro levels items inside after rest each elements _
    exact Datum.levels_list_le (forall_mem_of_many each elements)
  · intro levels value inside rest _ shallow
    refine Datum.levels_list_le ?_
    simpa [Form.head] using shallow

end Reader

/-- The data of a source have no more levels than the limit. -/
theorem levels_le_of_readProgram
    {source : List Char}
    {data : List Datum}
    (read : readProgram source = .ok data) :
    ∀ value ∈ data, value.levels ≤ maxNesting := by
  obtain ⟨after, all, -⟩ := (readProgram_eq_ok_iff source data).mp read
  exact Reader.forall_mem_of_many Reader.levels_le_of_datum_run all

/-- No datum of a source is refused as code for its nesting. -/
theorem withoutLet_ne_nestingTooDeep_of_readProgram
    {source : List Char}
    {data : List Datum}
    (read : readProgram source = .ok data)
    {value : Datum}
    (member : value ∈ data) :
    LetElimination.FailsOnlyWith (· ≠ .nestingTooDeep) value.withoutLet := by
  apply LetElimination.eliminate_ne_nestingTooDeep
  calc
    value.codeDepth ≤ value.levels := LetElimination.codeDepth_le_levels value
    _ ≤ maxNesting := levels_le_of_readProgram read value member

/-- Rewriting a source fails for the nesting exactly when reading it does, so that no
datum of a source that is read is refused for its nesting. -/
theorem rewriteSource_eq_nestingTooDeep_iff (source : List Char) :
    (rewriteSource source = .error .nestingTooDeep ↔
        readProgram source = .error .nestingTooDeep) ∧
      ∀ data, readProgram source = .ok data ->
        ∀ value ∈ data, value.withoutLet ≠ .error .nestingTooDeep := by
  have shallow (data : List Datum) (read : readProgram source = .ok data)
      (value : Datum) (member : value ∈ data) :=
    withoutLet_ne_nestingTooDeep_of_readProgram read member
  refine ⟨?_, fun data read value member tooDeep =>
    shallow data read value member _ tooDeep rfl⟩
  unfold rewriteSource
  cases read : readProgram source with
  | error error => rfl
  | ok data =>
      have rewriting := LetElimination.failsOnlyWith_mapM (shallow data read)
      refine iff_of_false (fun tooDeep => rewriting _ tooDeep rfl) ?_
      exact fun failed => by cases failed

end SExpr
