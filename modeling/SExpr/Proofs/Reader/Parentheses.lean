import SExpr.Proofs.Reader.RoundTrip
import SExpr.Proofs.Reader.Run
import Mathlib.Data.List.Infix

/-!
# Parentheses in printed data

How many parentheses a text opens inside one another can be counted without reading
it. For printed data this count is their nesting: each list opens one parenthesis and
closes it, and there are no parentheses in the names of symbols, in numbers and in
booleans.
-/

namespace SExpr
namespace Reader

/-- A text never has more than the given number of open parentheses at once. -/
def OpensAtMost
    (limit : Nat)
    (text : List Char) : Prop :=
  ∀ start ∈ text.inits, start.count '(' ≤ start.count ')' + limit

instance
    (limit : Nat)
    (text : List Char) : Decidable (OpensAtMost limit text) :=
  inferInstanceAs
    (Decidable (∀ start ∈ text.inits, start.count '(' ≤ start.count ')' + limit))

section

variable {limit : Nat} {text : List Char}

@[simp] theorem opensAtMost_nil : OpensAtMost limit [] := by
  simp [OpensAtMost]

theorem opensAtMost_cons_iff
    (character : Char) :
    OpensAtMost limit (character :: text) ↔
      ∀ start ∈ text.inits,
        (character :: start).count '(' ≤ (character :: start).count ')' + limit := by
  simp [OpensAtMost]

@[simp] theorem not_opensAtMost_zero_opening :
    ¬ OpensAtMost 0 ('(' :: text) := by
  rw [opensAtMost_cons_iff]
  intro opens
  have first := opens [] (by simp)
  simp at first

/-- Inside an open parenthesis there may be one less. -/
@[simp] theorem opensAtMost_succ_opening_iff :
    OpensAtMost (limit + 1) ('(' :: text) ↔ OpensAtMost limit text := by
  rw [opensAtMost_cons_iff, OpensAtMost]
  refine forall₂_congr fun start _ => ?_
  rw [List.count_cons_self, List.count_cons_of_ne (by decide), ← Nat.add_assoc,
    Nat.add_le_add_iff_right]

/-- After a closing parenthesis there may be one more. -/
@[simp] theorem opensAtMost_closing_iff :
    OpensAtMost limit (')' :: text) ↔ OpensAtMost (limit + 1) text := by
  rw [opensAtMost_cons_iff, OpensAtMost]
  refine forall₂_congr fun start _ => ?_
  rw [List.count_cons_self, List.count_cons_of_ne (by decide), Nat.add_right_comm,
    Nat.add_assoc]

theorem opensAtMost_cons_of_ne
    {character : Char}
    (notOpening : character ≠ '(')
    (notClosing : character ≠ ')') :
    OpensAtMost limit (character :: text) ↔ OpensAtMost limit text := by
  rw [opensAtMost_cons_iff, OpensAtMost]
  refine forall₂_congr fun start _ => ?_
  rw [List.count_cons_of_ne notOpening, List.count_cons_of_ne notClosing]

/-- There are no parentheses in a run. -/
theorem opensAtMost_run_append
    {run : List Char}
    (undelimited : IsUndelimited run) :
    OpensAtMost limit (run ++ text) ↔ OpensAtMost limit text := by
  induction run with
  | nil => rfl
  | cons character others inductionHypothesis =>
      have apart := undelimited character List.mem_cons_self
      have notOpening : character ≠ '(' := by
        rintro rfl
        exact apart (by decide)
      have notClosing : character ≠ ')' := by
        rintro rfl
        exact apart (by decide)
      rw [List.cons_append, opensAtMost_cons_of_ne notOpening notClosing]
      exact inductionHypothesis fun other member =>
        undelimited other (List.mem_cons_of_mem character member)

end

/-- A printed datum that is no list has no parentheses. -/
theorem opensAtMost_writtenBefore_of_noList
    {value : Datum}
    (noList : value.asList? = none)
    (readable : NamesReadable value)
    (limit : Nat)
    (rest : List Char) :
    OpensAtMost limit (value.writtenBefore rest) ↔
      value.nesting ≤ limit ∧ OpensAtMost limit rest := by
  have flat : value.nesting = 0 := by
    match value, noList with
    | .symbol _, _ | .integer _, _ | .float _, _ | .boolean _, _ =>
        rw [Datum.nesting.eq_def]
  have run := isUndelimited_of_readAtom (readAtom_written noList readable)
  rw [Datum.writtenBefore_eq_append, opensAtMost_run_append run, flat]
  simp

mutual

/-- A printed datum opens as many parentheses at once as it is nested. -/
theorem opensAtMost_writtenBefore : (value : Datum) -> NamesReadable value ->
    (limit : Nat) -> (rest : List Char) ->
    (OpensAtMost limit (value.writtenBefore rest) ↔
      value.nesting ≤ limit ∧ OpensAtMost limit rest)
  | .symbol _, readable, limit, rest =>
      opensAtMost_writtenBefore_of_noList rfl readable limit rest
  | .integer _, readable, limit, rest =>
      opensAtMost_writtenBefore_of_noList rfl readable limit rest
  | .float _, readable, limit, rest =>
      opensAtMost_writtenBefore_of_noList rfl readable limit rest
  | .boolean _, readable, limit, rest =>
      opensAtMost_writtenBefore_of_noList rfl readable limit rest
  | .list items, _, 0, rest => by
      obtain ⟨text, written⟩ := exists_writtenBefore_list items rest
      rw [written]
      simp
  | .list [], _, limit + 1, rest => by
      rw [Datum.writtenBefore]
      simp
  | .list (first :: others), readable, limit + 1, rest => by
      rw [Datum.writtenBefore, opensAtMost_succ_opening_iff,
        opensAtMost_writtenBefore first
          (namesReadable_of_mem readable List.mem_cons_self),
        opensAtMost_othersBefore others fun item member =>
          namesReadable_of_mem readable (List.mem_cons_of_mem first member)]
      simp [and_assoc]

/-- The printed elements of a list open as many parentheses at once as the deepest one
is nested, and the parenthesis after them leaves one more for what follows. -/
theorem opensAtMost_othersBefore : (items : List Datum) ->
    (∀ item ∈ items, NamesReadable item) ->
    (limit : Nat) -> (rest : List Char) ->
    (OpensAtMost limit (Datum.othersBefore items rest) ↔
      Datum.nestingOfAll items ≤ limit ∧ OpensAtMost (limit + 1) rest)
  | [], _, limit, rest => by
      rw [Datum.othersBefore]
      simp
  | item :: items, readable, limit, rest => by
      rw [Datum.othersBefore, opensAtMost_cons_of_ne (by decide) (by decide),
        opensAtMost_writtenBefore item (readable item List.mem_cons_self),
        opensAtMost_othersBefore items fun other member =>
          readable other (List.mem_cons_of_mem item member)]
      simp [and_assoc]

end

/-- The parentheses in the printed form of a datum tell its nesting. -/
theorem opensAtMost_written_iff
    {value : Datum}
    (readable : NamesReadable value)
    (limit : Nat) :
    OpensAtMost limit value.written ↔ value.nesting ≤ limit := by
  rw [Datum.written, opensAtMost_writtenBefore value readable]
  simp

end Reader
end SExpr
