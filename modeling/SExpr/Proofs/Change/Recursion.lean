import SExpr.Change.Basic
import SExpr.Proofs.Change.Completion
import SExpr.Sequence

/-!
# The search for change and its recursion

The ways to make change have a short recursive description that takes one coin
at a time: the first denomination is used once more, or it is given up for good.
The search takes as many copies as fit at once and gives them back one by one,
and what it finds below a node obeys the same recursion. So the list of ways is
the list of the recursion, in its order and with its repetitions.
-/

namespace SExpr
namespace Change

/-- The number of copies that fit is a quotient of natural numbers. -/
theorem copies_eq_div
    {amount denomination : Int64}
    (nonnegative : 0 ≤ amount)
    (positive : 0 < denomination) :
    copies amount denomination =
      amount.toNatClampNeg / denomination.toNatClampNeg := by
  have notMinusOne : denomination ≠ -1 := by
    rintro rfl
    exact absurd positive (by decide)
  have quotient := Int64.toInt_div_of_ne_right amount denomination notMinusOne
  rw [Int64.toInt_eq_toNatClampNeg nonnegative,
    Int64.toInt_eq_toNatClampNeg (Int64.le_of_lt positive),
    ← Int.ofNat_tdiv] at quotient
  rw [copies, ← Int64.toNat_toInt, quotient, Int.toNat_natCast]

/-- A denomination above the amount does not fit. -/
theorem copies_of_lt
    {amount denomination : Int64}
    (nonnegative : 0 ≤ amount)
    (above : amount < denomination) :
    copies amount denomination = 0 := by
  have positive : 0 < denomination := Int64.lt_of_le_of_lt nonnegative above
  rw [copies_eq_div nonnegative positive, Nat.div_eq_zero_iff]
  have left := Int64.toInt_eq_toNatClampNeg nonnegative
  have right := Int64.toInt_eq_toNatClampNeg (Int64.le_of_lt positive)
  rw [Int64.lt_iff_toInt_lt] at above
  omega

/-- A denomination that is not above the amount fits once more than into what
remains after one copy of it. -/
theorem copies_of_le
    {amount denomination : Int64}
    (positive : 0 < denomination)
    (fits : denomination ≤ amount) :
    copies amount denomination =
      copies (amount - denomination) denomination + 1 := by
  have nonnegative : 0 ≤ denomination := Int64.le_of_lt positive
  have size : 0 < denomination.toNatClampNeg :=
    (Int64.toNatClampNeg_pos_iff denomination).mpr positive
  rw [copies_eq_div (Int64.le_trans nonnegative fits) positive,
    copies_eq_div (Int64.sub_nonneg_of_le nonnegative fits) positive,
    Int64.toNatClampNeg_sub_of_le nonnegative fits,
    Nat.div_eq_sub_div size (Int64.toNatClampNeg_le fits)]

@[simp] theorem after_zero (amount denomination : Int64) :
    after amount denomination 0 = amount := by
  simp [after]

/-- One copy more is one copy first and the others then. -/
theorem after_succ
    (amount denomination : Int64)
    (uses : Nat) :
    after amount denomination (uses + 1) =
      after (amount - denomination) denomination uses := by
  have split : Int64.ofNat (uses + 1) = Int64.ofNat uses + 1 :=
    Int64.ofNat_add uses 1
  rw [after, after, split]
  grind

/-- The ways to make change for a total, one coin at a time. A first denomination
above the total is given up; one that makes up the total is a way alone; and any
other one is used once more, in front of all ways to make up what remains then,
before it is given up. -/
def waysByCoin
    (total : Int64)
    (denominations : List Int64)
    (positive : ∀ denomination ∈ denominations, 0 < denomination) :
    List (List Int64) :=
  match denominations with
  | [] => []
  | denomination :: others =>
      let withoutFirst :=
        waysByCoin total others
          fun other member => positive other (List.mem_cons_of_mem _ member)
      if total < denomination then
        withoutFirst
      else if total = denomination then
        [[denomination]] ++ withoutFirst
      else
        Sequence.consAll denomination
            (waysByCoin (total - denomination) (denomination :: others)
              positive) ++
          withoutFirst
termination_by (total.toNatClampNeg, denominations.length)
decreasing_by
  · exact Prod.Lex.right _ (Nat.lt_succ_self _)
  · next notAbove _ =>
      have fits := Int64.not_lt.mp notAbove
      have size := positive denomination List.mem_cons_self
      apply Prod.Lex.left
      rw [Int64.toNatClampNeg_sub_of_le (Int64.le_of_lt size) fits]
      have := (Int64.toNatClampNeg_pos_iff denomination).mpr size
      have := Int64.toNatClampNeg_le fits
      omega

namespace Search

/-- Below a node the search finds, first, the ways that use the denomination
there once more, and then those that do not use it. -/
theorem completions_cons_of_le
    {amount denomination : Int64}
    (denominations : List Int64)
    (positive : 0 < denomination)
    (fits : denomination ≤ amount) :
    completions (denomination :: denominations) amount =
      Sequence.consAll denomination
          (fromMost
            (fun uses =>
              (completions denominations
                (after (amount - denomination) denomination uses)).map
                fun coins => List.replicate uses denomination ++ coins)
            (copies (amount - denomination) denomination + 1)) ++
        completions denominations amount := by
  have remains : amount ≠ 0 := by
    rintro rfl
    exact Int64.lt_irrefl (Int64.lt_of_lt_of_le positive fits)
  rw [completions_cons_of_ne_zero _ _ remains, copies_of_le positive fits,
    fromMost_succ_eq_append_zero, Sequence.consAll, map_fromMost]
  congr 1
  · apply fromMost_congr
    intro uses _
    rw [after_succ, List.map_map]
    rfl
  · simp

/-- What the search finds below a node where something remains is what the
recursion gives. -/
theorem completions_eq_waysByCoin
    (amount : Int64)
    (denominations : List Int64)
    (positive : ∀ denomination ∈ denominations, 0 < denomination)
    (remains : 0 < amount) :
    completions denominations amount =
      waysByCoin amount denominations positive := by
  have notZero : ∀ {number : Int64}, 0 < number -> number ≠ 0 := by
    rintro number above rfl
    exact Int64.lt_irrefl above
  fun_induction waysByCoin amount denominations positive with
  | case1 => exact completions_nil_of_ne_zero (notZero remains)
  | case2 amount denomination others positive withoutFirst above _
      othersHypothesis =>
      rw [completions_cons_of_ne_zero _ _ (notZero remains),
        copies_of_lt (Int64.le_of_lt remains) above]
      simp [withoutFirst, othersHypothesis remains]
  | case3 denomination others positive withoutFirst _ _ othersHypothesis =>
      rw [completions_cons_of_le others remains (Int64.le_refl _)]
      simp [withoutFirst, othersHypothesis remains,
        copies_of_lt (Int64.le_refl 0) remains]
  | case4 amount denomination others positive withoutFirst notAbove different
      _ othersHypothesis coinHypothesis =>
      have size := positive denomination List.mem_cons_self
      have fits := Int64.not_lt.mp notAbove
      have less : 0 < amount - denomination := by
        have below := Int64.lt_iff_le_and_ne.mpr
          ⟨fits, fun equal => different equal.symm⟩
        rw [Int64.lt_iff_toInt_lt] at below ⊢
        rw [Int64.toInt_sub_of_le _ _ (Int64.le_of_lt size) fits]
        have := Int64.toInt_zero
        omega
      rw [completions_cons_of_le others size fits, othersHypothesis remains,
        ← coinHypothesis less, completions_cons_of_ne_zero _ _ (notZero less)]

end Search

/-- A total of zero has no ways by the recursion. -/
theorem waysByCoin_zero
    (denominations : List Int64)
    (positive : ∀ denomination ∈ denominations, 0 < denomination) :
    waysByCoin 0 denominations positive = [] := by
  induction denominations with
  | nil => rw [waysByCoin]
  | cons denomination others inductionHypothesis =>
      rw [waysByCoin]
      simp [positive denomination List.mem_cons_self, inductionHypothesis]

/-- A denomination that is not positive is found when it is the first one. -/
theorem find?_eq_some_of_first
    {before after : List Int64}
    {denomination : Int64}
    (positive : ∀ other ∈ before, 0 < other)
    (bad : denomination ≤ 0) :
    (before ++ denomination :: after).find? (fun other => other ≤ 0) =
      some denomination := by
  rw [List.find?_append, List.find?_eq_none.mpr, Option.none_or,
    List.find?_cons_of_pos (by simpa using bad)]
  intro other member
  simpa using positive other member

/-- Where all denominations are positive none is found that is not. -/
theorem find?_eq_none_of_positive
    {denominations : List Int64}
    (positive : ∀ denomination ∈ denominations, 0 < denomination) :
    denominations.find? (fun denomination => denomination ≤ 0) = none := by
  rw [List.find?_eq_none]
  intro denomination member
  simpa using positive denomination member

/-- The ways to make change are those of the recursion, in its order and with its
repetitions, and the search for them ends. Only a negative total and a
denomination that is not positive are refused, the total first and then the first
such denomination. -/
theorem listWays_eq_waysByCoin
    (total : Int64)
    (denominations : List Int64) :
    (∃ rounds,
      Search.afterRounds denominations (Search.start total) rounds = none) ∧
    (total < 0 ->
      listWays total denominations = .error (.negativeTotal total)) ∧
    (0 ≤ total -> ∀ before denomination after,
      denominations = before ++ denomination :: after ->
      (∀ other ∈ before, 0 < other) -> denomination ≤ 0 ->
      listWays total denominations =
        .error (.nonPositiveDenomination denomination)) ∧
    (0 ≤ total ->
      ∀ positive : ∀ denomination ∈ denominations, 0 < denomination,
        listWays total denominations =
          .ok (waysByCoin total denominations positive)) := by
  refine ⟨⟨_, Search.afterRounds_size denominations _⟩, ?_, ?_, ?_⟩
  · intro negative
    rw [listWays, if_pos negative]
  · rintro nonnegative before denomination after rfl positive bad
    rw [listWays, if_neg (Int64.not_lt.mpr nonnegative),
      find?_eq_some_of_first positive bad]
  · intro nonnegative positive
    rw [listWays, if_neg (Int64.not_lt.mpr nonnegative),
      find?_eq_none_of_positive positive]
    by_cases nothing : total = 0
    · subst nothing
      simp [waysByCoin_zero]
    · have remains : 0 < total := Int64.lt_iff_le_and_ne.mpr
        ⟨nonnegative, fun equal => nothing equal.symm⟩
      simp only [nothing, if_false, Search.run_start,
        Search.completions_eq_waysByCoin total denominations positive remains]

/-- Two equal coins count as two, so four is made up of them in three ways. -/
theorem listWays_two_twice :
    listWays (-1) [2] = .error (.negativeTotal (-1)) ∧
      listWays 4 [2, 0, -1] = .error (.nonPositiveDenomination 0) ∧
      listWays 4 [2, 2, 3] = .ok [[2, 2], [2, 2], [2, 2]] := by
  have two : (0 : Int64) < 2 := by decide
  have three : (0 : Int64) < 3 := by decide
  refine ⟨?_, ?_, ?_⟩
  · exact (listWays_eq_waysByCoin (-1) [2]).2.1 (by decide)
  · exact (listWays_eq_waysByCoin 4 [2, 0, -1]).2.2.1 (by decide) [2] 0 [-1]
      rfl (by simp [two]) (by decide)
  · rw [(listWays_eq_waysByCoin 4 [2, 2, 3]).2.2.2 (by decide)
      (by simp [two, three])]
    simp [waysByCoin]

end Change
end SExpr
