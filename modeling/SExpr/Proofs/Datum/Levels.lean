import SExpr.Datum.Basic

/-!
# Levels of combinations

The levels of a datum are the largest number of combinations in it that stand one
inside another. In contrast to its nesting, the empty list, which is an atom, is no
level.
-/

namespace SExpr
namespace Datum

mutual

/-- The levels of combinations in a datum. -/
def levels : Datum -> Nat
  | .list (head :: operands) => max head.levels (levelsOfAll operands) + 1
  | _ => 0

/-- The levels of combinations in the deepest one of some data. -/
def levelsOfAll : List Datum -> Nat
  | [] => 0
  | item :: items => max item.levels (levelsOfAll items)

end

@[simp] theorem levelsOfAll_nil : levelsOfAll [] = 0 := by
  rw [levelsOfAll]

@[simp] theorem levelsOfAll_cons
    (item : Datum)
    (items : List Datum) :
    levelsOfAll (item :: items) = max item.levels (levelsOfAll items) := by
  rw [levelsOfAll]

/-- Atoms have no levels. -/
theorem levels_of_isAtom
    {datum : Datum}
    (isAtom : datum.isAtom = true) :
    datum.levels = 0 := by
  match datum, isAtom with
  | .symbol _, _ => rw [levels.eq_def]
  | .integer _, _ => rw [levels.eq_def]
  | .float _, _ => rw [levels.eq_def]
  | .boolean _, _ => rw [levels.eq_def]
  | .list [], _ => rw [levels.eq_def]

@[simp] theorem levels_symbol (name : String) :
    (Datum.symbol name).levels = 0 :=
  levels_of_isAtom rfl

@[simp] theorem levels_list_nil : (Datum.list []).levels = 0 :=
  levels_of_isAtom rfl

/-- A combination has one level more than the deepest of its elements. -/
theorem levels_list_cons
    (head : Datum)
    (operands : List Datum) :
    (Datum.list (head :: operands)).levels =
      levelsOfAll (head :: operands) + 1 := by
  rw [levels, levelsOfAll_cons]

/-- A combination has no fewer levels than the list of its operands. -/
theorem levels_list_le_cons
    (head : Datum)
    (operands : List Datum) :
    (Datum.list operands).levels ≤ (Datum.list (head :: operands)).levels := by
  cases operands with
  | nil =>
      rw [levels_list_nil]
      exact Nat.zero_le _
  | cons first others =>
      rw [levels_list_cons, levels_list_cons, levelsOfAll_cons head]
      exact Nat.succ_le_succ (Nat.le_max_right _ _)

/-- Some data have a number of levels at most when each of them does. -/
theorem levelsOfAll_le_iff
    {items : List Datum}
    {bound : Nat} :
    levelsOfAll items ≤ bound ↔ ∀ item ∈ items, item.levels ≤ bound := by
  induction items with
  | nil => simp
  | cons item items inductionHypothesis =>
      rw [levelsOfAll_cons, Nat.max_le, inductionHypothesis,
        List.forall_mem_cons]

/-- A list has at most one level more than its elements. -/
theorem levels_list_le
    {items : List Datum}
    {bound : Nat}
    (each : ∀ item ∈ items, item.levels ≤ bound) :
    (Datum.list items).levels ≤ bound + 1 := by
  match items with
  | [] =>
      rw [levels_list_nil]
      exact Nat.zero_le _
  | head :: operands =>
      rw [levels_list_cons, Nat.add_le_add_iff_right]
      exact levelsOfAll_le_iff.mpr each

/-- An element has fewer levels than its list. -/
theorem levels_lt_of_mem
    {item : Datum}
    {items : List Datum}
    (member : item ∈ items) :
    item.levels < (Datum.list items).levels := by
  match items with
  | head :: operands =>
      rw [levels_list_cons, Nat.lt_add_one_iff]
      exact levelsOfAll_le_iff.mp (Nat.le_refl _) item member

end Datum
end SExpr
