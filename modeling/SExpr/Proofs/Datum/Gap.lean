import SExpr.Datum.Basic

/-!
# Data with one datum left out

A gap is a place for one datum among some data or anywhere inside them. Two different
data that are put into it leave no doubt about where it is, as long as neither of them
is a list: where the filled data differ is the gap.
-/

namespace SExpr

/-- A place for a datum: the datum as a whole, or a place inside an element of a list
with elements before and after it. -/
inductive Hole
  | whole
  | inside (before : List Datum) (hole : Hole) (after : List Datum)

/-- The datum with a value in the hole. -/
def Hole.fill (value : Datum) : Hole -> Datum
  | .whole => value
  | .inside before hole after => .list (before ++ hole.fill value :: after)

/-- A place for a datum in or inside one of some data. -/
@[ext] structure Gap where
  before : List Datum
  hole : Hole
  after : List Datum

/-- The data with a value in the gap. -/
def Gap.fill
    (value : Datum)
    (gap : Gap) : List Datum :=
  gap.before ++ gap.hole.fill value :: gap.after

@[simp] theorem Hole.fill_whole (value : Datum) :
    Hole.whole.fill value = value := by
  rw [fill]

@[simp] theorem Hole.fill_inside
    (before : List Datum)
    (hole : Hole)
    (after : List Datum)
    (value : Datum) :
    (Hole.inside before hole after).fill value =
      .list (before ++ hole.fill value :: after) := by
  rw [fill]

/-- Different values fill a hole differently. -/
theorem Hole.fill_injective
    {hole : Hole}
    {value other : Datum}
    (same : hole.fill value = hole.fill other) :
    value = other := by
  induction hole with
  | whole => simpa using same
  | inside before hole after inductionHypothesis =>
      rw [fill_inside, fill_inside, Datum.list.injEq] at same
      exact inductionHypothesis (List.cons.inj (List.append_cancel_left same)).1

/-- Two lists that differ in one element show where it is. -/
theorem eq_of_append_cons_eq
    {before after others rest : List α}
    {first second otherFirst otherSecond : α}
    (different : first ≠ second)
    (same : before ++ first :: after = others ++ otherFirst :: rest)
    (sameSecond : before ++ second :: after = others ++ otherSecond :: rest) :
    before = others ∧ first = otherFirst ∧ second = otherSecond ∧ after = rest := by
  induction before generalizing others with
  | nil =>
      cases others with
      | nil => grind
      | cons item others =>
          -- The element would be the same in both lists.
          have item := (List.cons.inj same).1.trans (List.cons.inj sameSecond).1.symm
          exact absurd item different
  | cons item before inductionHypothesis =>
      cases others with
      | nil =>
          have tail := (List.cons.inj same).2.trans (List.cons.inj sameSecond).2.symm
          exact absurd (List.cons.inj (List.append_cancel_left tail)).1 different
      | cons other others => grind

section Unique

variable {first second : Datum}
variable (isAtom : first.isAtom = true) (different : first ≠ second)

include isAtom different

/-- A hole is told by what it is with two different values in it. -/
theorem Hole.eq_of_fill
    {hole other : Hole}
    (same : hole.fill first = other.fill first)
    (sameSecond : hole.fill second = other.fill second) :
    hole = other := by
  have notInside (before : List Datum) (hole : Hole) (after : List Datum) :
      first ≠ (Hole.inside before hole after).fill first := by
    intro equal
    rw [equal, fill_inside] at isAtom
    cases before <;> cases isAtom
  induction hole generalizing other with
  | whole =>
      cases other with
      | whole => rfl
      | inside before hole after => exact absurd same (notInside before hole after)
  | inside before hole after inductionHypothesis =>
      cases other with
      | whole => exact absurd same.symm (notInside before hole after)
      | inside others other rest =>
          simp only [fill_inside, Datum.list.injEq] at same sameSecond
          obtain ⟨rfl, sameInside, sameSecondInside, rfl⟩ :=
            eq_of_append_cons_eq (mt fill_injective different) same sameSecond
          rw [inductionHypothesis sameInside sameSecondInside]

/-- A gap is told by what the data are with two different values in it. -/
theorem Gap.eq_of_fill
    {gap other : Gap}
    (same : gap.fill first = other.fill first)
    (sameSecond : gap.fill second = other.fill second) :
    gap = other := by
  obtain ⟨sameBefore, sameHole, sameSecondHole, sameAfter⟩ :=
    eq_of_append_cons_eq (mt Hole.fill_injective different) same sameSecond
  have sameHoles := Hole.eq_of_fill isAtom different sameHole sameSecondHole
  exact Gap.ext sameBefore sameHoles sameAfter

end Unique

end SExpr
