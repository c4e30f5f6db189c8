import Mathlib.Data.Multiset.MapFold
import SExpr.Proofs.Change.Solutions

/-!
# Denominations in another order

The order of the denominations says in which order the ways to make change are found
and in which order each of them lists its coins, and nothing else. As bags of coins the
ways are the same, and each bag is found as often.

The searches for two orders have no steps in common, but the solutions behind them
correspond. What exchanges two denominations exchanges two counts of each solution, and
a denomination that keeps its place is used as often before and after. So the
correspondence is built up like the permutation.
-/

namespace SExpr
namespace Change

open Search (fromMost map_fromMost fromMost_congr)

/-- Families whose parts are reordered are reordered when put together. -/
theorem perm_fromMost
    {first second : Nat -> List α}
    {bound : Nat}
    (each : ∀ index < bound, (first index).Perm (second index)) :
    (fromMost first bound).Perm (fromMost second bound) := by
  induction bound with
  | zero => exact .nil
  | succ bound inductionHypothesis =>
      exact (each bound (Nat.lt_succ_self bound)).append
        (inductionHypothesis fun index below =>
          each index (Nat.lt_succ_of_lt below))

/-- The coins of each solution for an amount, without an order. -/
def bags
    (denominations : List Int64)
    (amount : Int64) : List (Multiset Int64) :=
  (solutions denominations amount).map fun counts =>
    Multiset.ofList (wayOf denominations counts)

/-- A first denomination adds its copies to the bags for what remains after them. -/
theorem bags_cons
    (denomination : Int64)
    (denominations : List Int64)
    (amount : Int64) :
    bags (denomination :: denominations) amount =
      fromMost
        (fun uses =>
          (bags denominations (after amount denomination uses)).map
            fun coins => Multiset.replicate uses denomination + coins)
        (copies amount denomination + 1) := by
  rw [bags, solutions, map_fromMost]
  apply fromMost_congr
  intro uses _
  rw [bags, List.map_map, List.map_map]
  rfl

/-! ## Two denominations exchanged -/

/-- The first two counts exchanged. -/
def exchange : List Nat -> List Nat
  | first :: second :: others => second :: first :: others
  | counts => counts

theorem exchange_involutive : Function.Involutive exchange := by
  intro counts
  match counts with
  | [] | [_] | _ :: _ :: _ => rfl

section Exchange

variable {first second : Int64}
variable {denominations : List Int64}
variable {amount : Int64}

/-- Counts are a solution when the exchanged counts are one for the exchanged
denominations. -/
theorem isSolution_exchange_iff (counts : List Nat) :
    IsSolution (first :: second :: denominations) amount (exchange counts) ↔
      IsSolution (second :: first :: denominations) amount counts := by
  match counts with
  | [] | [_] => simp [IsSolution, exchange]
  | count :: other :: others =>
      simp only [IsSolution, exchange, amountOf_cons, List.length_cons,
        Int.add_left_comm]

theorem wayOf_exchange
    {counts : List Nat}
    (solution : IsSolution (first :: second :: denominations) amount counts) :
    Multiset.ofList (wayOf (second :: first :: denominations) (exchange counts)) =
      Multiset.ofList (wayOf (first :: second :: denominations) counts) := by
  match counts, solution.1 with
  | count :: other :: others, _ =>
      exact Multiset.coe_eq_coe.mpr (List.perm_append_comm_assoc ..)

/-- The solutions for exchanged denominations are the exchanged ones. -/
theorem perm_solutions_exchange
    (positive : ∀ denomination ∈ first :: second :: denominations,
      0 < denomination)
    (nonnegative : 0 ≤ amount) :
    ((solutions (first :: second :: denominations) amount).map exchange).Perm
      (solutions (second :: first :: denominations) amount) := by
  have lists := listsSolutions positive nonnegative
  have otherLists : ListsSolutions (second :: first :: denominations) amount _ :=
    listsSolutions (by simpa [and_left_comm] using positive) nonnegative
  refine (List.perm_ext_iff_of_nodup
    (lists.once.map exchange_involutive.injective) otherLists.once).mpr ?_
  intro counts
  rw [otherLists.mem_iff, ← isSolution_exchange_iff, ← lists.mem_iff,
    List.mem_map_of_involutive exchange_involutive]

theorem perm_bags_exchange
    (positive : ∀ denomination ∈ first :: second :: denominations,
      0 < denomination)
    (nonnegative : 0 ≤ amount) :
    (bags (first :: second :: denominations) amount).Perm
      (bags (second :: first :: denominations) amount) := by
  have lists := listsSolutions positive nonnegative
  have exchanged := (perm_solutions_exchange positive nonnegative).map
    fun counts => Multiset.ofList (wayOf (second :: first :: denominations) counts)
  rw [List.map_map] at exchanged
  refine .trans (.of_eq ?_) exchanged
  refine List.map_congr_left fun counts member => ?_
  exact (wayOf_exchange ((lists.mem_iff counts).mp member)).symm

end Exchange

/-! ## Any order -/

/-- Denominations in another order have the same bags. -/
theorem perm_bags
    {denominations others : List Int64}
    (reordered : denominations.Perm others)
    (positive : ∀ denomination ∈ denominations, 0 < denomination)
    {amount : Int64}
    (nonnegative : 0 ≤ amount) :
    (bags denominations amount).Perm (bags others amount) := by
  induction reordered generalizing amount with
  | nil => exact .refl _
  | cons denomination _ inductionHypothesis =>
      rw [List.forall_mem_cons] at positive
      rw [bags_cons, bags_cons]
      refine perm_fromMost fun uses few => ?_
      have below := after_nonneg nonnegative positive.1 (Nat.le_of_lt_succ few)
      exact (inductionHypothesis positive.2 below).map _
  | swap first second denominations =>
      exact perm_bags_exchange positive nonnegative
  | @trans _ middle _ reordered _ firstHypothesis secondHypothesis =>
      have middlePositive : ∀ denomination ∈ middle, 0 < denomination :=
        fun denomination member => positive denomination (reordered.mem_iff.mpr member)
      exact (firstHypothesis positive nonnegative).trans
        (secondHypothesis middlePositive nonnegative)

/-- The ways to make change for a total that is not zero are those of the
solutions. -/
theorem listWays_of_pos
    {total : Int64}
    {denominations : List Int64}
    (remains : 0 < total)
    (positive : ∀ denomination ∈ denominations, 0 < denomination) :
    listWays total denominations =
      .ok ((solutions denominations total).map (wayOf denominations)) := by
  have nonnegative := Int64.le_of_lt remains
  have notZero : total ≠ 0 := (Int64.lt_iff_le_and_ne.mp remains).2.symm
  rw [listWays, if_neg (Int64.not_lt.mpr nonnegative),
    find?_eq_none_of_positive positive]
  simp only [notZero, if_false, Search.run_start,
    completions_eq_map_solutions positive nonnegative]

/-- The order of the denominations changes the order of the ways and the order of the
coins in each, and nothing else: the ways are the same bags of coins, each as many
times, and in particular there are as many of them. -/
theorem listWays_perm
    {total : Int64}
    {denominations others : List Int64}
    (nonnegative : 0 ≤ total)
    (positive : ∀ denomination ∈ denominations, 0 < denomination)
    (reordered : denominations.Perm others) :
    ∃ ways otherWays,
      listWays total denominations = .ok ways ∧
      listWays total others = .ok otherWays ∧
      Multiset.ofList (ways.map Multiset.ofList) =
        Multiset.ofList (otherWays.map Multiset.ofList) ∧
      ways.length = otherWays.length := by
  have othersPositive : ∀ denomination ∈ others, 0 < denomination :=
    fun denomination member => positive denomination (reordered.mem_iff.mpr member)
  by_cases remains : 0 < total
  · have found := listWays_of_pos remains positive
    have otherFound := listWays_of_pos remains othersPositive
    have bagsReordered := perm_bags reordered positive nonnegative
    refine ⟨_, _, found, otherFound, ?_, ?_⟩
    · rw [List.map_map, List.map_map]
      exact Multiset.coe_eq_coe.mpr bagsReordered
    · simpa [bags] using bagsReordered.length_eq
  · obtain rfl : total = 0 := Int64.le_antisymm (Int64.not_lt.mp remains) nonnegative
    have none {denominations : List Int64}
        (positive : ∀ denomination ∈ denominations, 0 < denomination) :
        listWays 0 denominations = .ok [] := by
      rw [listWays, find?_eq_none_of_positive positive]
      rfl
    exact ⟨[], [], none positive, none othersPositive, rfl, rfl⟩

/-- Four is made up of twos and ones in six ways when there are two kinds of twos. With
the ones between them and with the ones first, the ways come in different orders and
list their coins differently. -/
theorem listWays_perm_two_one_two :
    listWays 4 [2, 1, 2] =
        .ok [[2, 2], [2, 1, 1], [2, 2], [1, 1, 1, 1], [1, 1, 2], [2, 2]] ∧
      listWays 4 [1, 2, 2] =
        .ok [[1, 1, 1, 1], [1, 1, 2], [1, 1, 2], [2, 2], [2, 2], [2, 2]] ∧
      ∃ ways otherWays, listWays 4 [2, 1, 2] = .ok ways ∧
        listWays 4 [1, 2, 2] = .ok otherWays ∧
        Multiset.ofList (ways.map Multiset.ofList) =
          Multiset.ofList (otherWays.map Multiset.ofList) ∧
        ways.length = otherWays.length := by
  have positive : ∀ denomination ∈ ([2, 1, 2] : List Int64),
      0 < denomination := by simp
  have othersPositive : ∀ denomination ∈ ([1, 2, 2] : List Int64),
      0 < denomination := by simp
  refine ⟨?_, ?_, listWays_perm (by decide) positive (by decide)⟩
  · rw [listWays_of_pos (by decide) positive]
    rfl
  · rw [listWays_of_pos (by decide) othersPositive]
    rfl

end Change
end SExpr
