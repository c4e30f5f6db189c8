import SExpr.Proofs.Change.Recursion
import Mathlib.Data.List.Nodup
import Mathlib.Tactic.Ring

/-!
# The solutions behind the ways to make change

A way to make change for a total says for each denomination how often it is
used. Such a list of counts is a solution when the counted coins are worth the
total. The ways to make change are the ways of all solutions: each solution has
one, and a solution with more copies of an earlier denomination comes first, so
the solutions stand in decreasing lexicographic order.

The search looks at no denomination when nothing remains, which is no different
from using none of the denominations to come. So below a node it finds the ways
of the solutions for the amount there.
-/

namespace SExpr
namespace Change

/-! ## Counts of coins -/

/-- What coins are worth together, the denominations being used as often as the
counts say. -/
def amountOf : (denominations : List Int64) -> (counts : List Nat) -> Int
  | denomination :: denominations, count :: counts =>
      denomination.toInt * count + amountOf denominations counts
  | _, _ => 0

/-- The way with the given number of copies of each denomination. -/
def wayOf : (denominations : List Int64) -> (counts : List Nat) -> List Int64
  | denomination :: denominations, count :: counts =>
      List.replicate count denomination ++ wayOf denominations counts
  | _, _ => []

/-- What the coins of a way are worth together. -/
def worth : (way : List Int64) -> Int
  | [] => 0
  | coin :: coins => coin.toInt + worth coins

/-- Counts of all denominations that make up a total. -/
def IsSolution
    (denominations : List Int64)
    (total : Int64)
    (counts : List Nat) : Prop :=
  counts.length = denominations.length ∧
    amountOf denominations counts = total.toInt

/-- A list of all solutions, each of them once, from the lexicographically largest
down to the smallest one. -/
structure ListsSolutions
    (denominations : List Int64)
    (total : Int64)
    (solutions : List (List Nat)) : Prop where
  mem_iff : ∀ counts,
    counts ∈ solutions ↔ IsSolution denominations total counts
  once : solutions.Nodup
  decreasing : solutions.Pairwise
    fun earlier later => List.Lex (· < ·) later earlier

section Counts

variable {denomination : Int64}
variable {denominations : List Int64}

@[simp] theorem amountOf_cons
    (count : Nat)
    (counts : List Nat) :
    amountOf (denomination :: denominations) (count :: counts) =
      denomination.toInt * count + amountOf denominations counts := rfl

@[simp] theorem wayOf_cons
    (count : Nat)
    (counts : List Nat) :
    wayOf (denomination :: denominations) (count :: counts) =
      List.replicate count denomination ++ wayOf denominations counts := rfl

theorem amountOf_nonneg
    (positive : ∀ denomination ∈ denominations, 0 < denomination)
    (counts : List Nat) :
    0 ≤ amountOf denominations counts := by
  fun_induction amountOf denominations counts with
  | case1 denomination denominations count counts inductionHypothesis =>
      rw [List.forall_mem_cons] at positive
      have coin := Int64.lt_iff_toInt_lt.mp positive.1
      have coins := Int.mul_nonneg (Int.le_of_lt coin) (Int.natCast_nonneg count)
      have others := inductionHypothesis positive.2
      omega
  | case2 => exact Int.le_refl 0

theorem worth_append (first second : List Int64) :
    worth (first ++ second) = worth first + worth second := by
  induction first with
  | nil => simp [worth]
  | cons coin coins inductionHypothesis =>
      rw [List.cons_append, worth, inductionHypothesis, worth, Int.add_assoc]

theorem worth_replicate
    (count : Nat)
    (coin : Int64) :
    worth (List.replicate count coin) = coin.toInt * count := by
  induction count with
  | zero => simp [worth]
  | succ count inductionHypothesis =>
      rw [List.replicate_succ, worth, inductionHypothesis]
      push_cast
      ring

/-- The coins of a way are worth what their counts say. -/
theorem worth_wayOf
    (denominations : List Int64)
    (counts : List Nat) :
    worth (wayOf denominations counts) = amountOf denominations counts := by
  fun_induction wayOf denominations counts with
  | case1 denomination denominations count counts inductionHypothesis =>
      rw [worth_append, worth_replicate, inductionHypothesis, amountOf_cons]
  | case2 denominations counts notBoth =>
      rw [worth, amountOf]
      exact notBoth

theorem mem_of_mem_wayOf
    {coin : Int64}
    {counts : List Nat}
    (member : coin ∈ wayOf denominations counts) :
    coin ∈ denominations := by
  fun_induction wayOf denominations counts with
  | case1 denomination denominations count counts inductionHypothesis =>
      rw [List.mem_append, List.mem_replicate] at member
      obtain ⟨-, rfl⟩ | later := member
      · exact List.mem_cons_self
      · exact List.mem_cons_of_mem _ (inductionHypothesis later)
  | case2 => cases member

/-- Different counts of different denominations give different ways. -/
theorem wayOf_injective
    (distinct : denominations.Nodup)
    {counts others : List Nat}
    (length : counts.length = denominations.length)
    (lengthOthers : others.length = denominations.length)
    (same : wayOf denominations counts = wayOf denominations others) :
    counts = others := by
  induction denominations generalizing counts others with
  | nil =>
      rw [List.length_nil, List.length_eq_zero_iff] at length lengthOthers
      rw [length, lengthOthers]
  | cons denomination denominations inductionHypothesis =>
      obtain ⟨count, counts, rfl⟩ := List.exists_cons_of_length_eq_add_one length
      obtain ⟨other, others, rfl⟩ :=
        List.exists_cons_of_length_eq_add_one lengthOthers
      rw [List.nodup_cons] at distinct
      rw [List.length_cons, List.length_cons, Nat.add_right_cancel_iff]
        at length lengthOthers
      -- The first denomination is counted in the first part of a way alone.
      have absent (counts : List Nat) :
          (wayOf denominations counts).count denomination = 0 :=
        List.count_eq_zero.mpr fun member =>
          distinct.1 (mem_of_mem_wayOf member)
      have sameCount := congrArg (List.count denomination) same
      simp only [wayOf_cons, List.count_append, List.count_replicate_self,
        absent, Nat.add_zero] at sameCount
      subst sameCount
      rw [inductionHypothesis distinct.2 length lengthOthers
        (List.append_cancel_left same)]

end Counts

/-! ## Copies that fit -/

section Copies

variable {amount denomination : Int64}
variable (nonnegative : 0 ≤ amount) (positive : 0 < denomination)

include nonnegative positive

/-- As many copies fit as are worth no more than the amount. -/
theorem le_copies_iff (uses : Nat) :
    uses ≤ copies amount denomination ↔
      denomination.toInt * uses ≤ amount.toInt := by
  have size := (Int64.toNatClampNeg_pos_iff denomination).mpr positive
  rw [copies_eq_div nonnegative positive, Nat.le_div_iff_mul_le size,
    Int64.toInt_eq_toNatClampNeg nonnegative,
    Int64.toInt_eq_toNatClampNeg (Int64.le_of_lt positive), Nat.mul_comm]
  exact_mod_cast Iff.rfl

/-- Copies that fit are taken off an amount exactly. -/
theorem toInt_after
    {uses : Nat}
    (few : uses ≤ copies amount denomination) :
    (after amount denomination uses).toInt =
      amount.toInt - denomination.toInt * uses := by
  induction uses generalizing amount with
  | zero => simp
  | succ uses inductionHypothesis =>
      have fits : denomination ≤ amount := by
        by_contra above
        rw [copies_of_lt nonnegative (Int64.not_le.mp above)] at few
        omega
      rw [copies_of_le positive fits, Nat.add_le_add_iff_right] at few
      have coin := Int64.le_of_lt positive
      rw [after_succ, inductionHypothesis
        (Int64.sub_nonneg_of_le coin fits) few,
        Int64.toInt_sub_of_le _ _ coin fits]
      push_cast
      ring

theorem after_nonneg
    {uses : Nat}
    (few : uses ≤ copies amount denomination) :
    0 ≤ after amount denomination uses := by
  have remains := toInt_after nonnegative positive few
  have bound := (le_copies_iff nonnegative positive uses).mp few
  rw [Int64.le_iff_toInt_le, remains, Int64.toInt_zero]
  omega

end Copies

/-! ## All solutions in order -/

namespace Search

theorem mem_fromMost_iff
    {family : Nat -> List α}
    {bound : Nat}
    {item : α} :
    item ∈ fromMost family bound ↔ ∃ index < bound, item ∈ family index := by
  induction bound with
  | zero => simp
  | succ bound inductionHypothesis =>
      rw [fromMost_succ, List.mem_append, inductionHypothesis]
      constructor
      · rintro (last | ⟨index, below, member⟩)
        · exact ⟨bound, Nat.lt_succ_self bound, last⟩
        · exact ⟨index, Nat.lt_succ_of_lt below, member⟩
      · rintro ⟨index, below, member⟩
        obtain earlier | rfl := Nat.lt_succ_iff_lt_or_eq.mp below
        · exact .inr ⟨index, earlier, member⟩
        · exact .inl member

/-- Families put together are in order when each is and they follow each other in
order. -/
theorem pairwise_fromMost
    {relation : α -> α -> Prop}
    {family : Nat -> List α}
    {bound : Nat}
    (within : ∀ index < bound, (family index).Pairwise relation)
    (between : ∀ index < bound, ∀ lower < index,
      ∀ first ∈ family index, ∀ second ∈ family lower, relation first second) :
    (fromMost family bound).Pairwise relation := by
  induction bound with
  | zero => exact .nil
  | succ bound inductionHypothesis =>
      rw [fromMost_succ, List.pairwise_append]
      refine ⟨within bound (Nat.lt_succ_self bound), ?_, ?_⟩
      · apply inductionHypothesis
        · intro index below
          exact within index (Nat.lt_succ_of_lt below)
        · intro index below
          exact between index (Nat.lt_succ_of_lt below)
      · intro first inFirst second inSecond
        obtain ⟨lower, below, member⟩ := mem_fromMost_iff.mp inSecond
        exact between bound (Nat.lt_succ_self bound) lower below first inFirst
          second member

end Search

open Search (fromMost fromMost_congr map_fromMost mem_fromMost_iff
  pairwise_fromMost completions)

/-- The solutions for an amount, the most copies of each denomination first. -/
def solutions : (denominations : List Int64) -> Int64 -> List (List Nat)
  | [], amount => if amount = 0 then [[]] else []
  | denomination :: denominations, amount =>
      fromMost
        (fun uses =>
          (solutions denominations (after amount denomination uses)).map
            fun counts => uses :: counts)
        (copies amount denomination + 1)

section Solutions

variable {denominations : List Int64}

/-- Only solutions are listed, and all of them. -/
theorem mem_solutions_iff
    (positive : ∀ denomination ∈ denominations, 0 < denomination)
    {amount : Int64}
    (nonnegative : 0 ≤ amount)
    (counts : List Nat) :
    counts ∈ solutions denominations amount ↔
      IsSolution denominations amount counts := by
  induction denominations generalizing amount counts with
  | nil =>
      have nothing : 0 = amount.toInt ↔ amount = 0 := by
        rw [← Int64.toInt_inj, Int64.toInt_zero, eq_comm]
      by_cases zero : amount = 0 <;>
        simp [solutions, IsSolution, amountOf, nothing, zero]
  | cons denomination denominations inductionHypothesis =>
      rw [List.forall_mem_cons] at positive
      have fit := le_copies_iff nonnegative positive.1
      have below {uses : Nat} (few : uses ≤ copies amount denomination)
          (others : List Nat) :=
        inductionHypothesis positive.2
          (after_nonneg nonnegative positive.1 few) others
      rw [solutions, mem_fromMost_iff]
      simp only [List.mem_map, Nat.lt_succ_iff]
      constructor
      · rintro ⟨uses, few, others, member, rfl⟩
        obtain ⟨length, total⟩ := (below few others).mp member
        rw [toInt_after nonnegative positive.1 few] at total
        refine ⟨congrArg (· + 1) length, ?_⟩
        rw [amountOf_cons]
        omega
      · rintro ⟨length, total⟩
        obtain ⟨uses, others, rfl⟩ :=
          List.exists_cons_of_length_eq_add_one length
        rw [amountOf_cons] at total
        have rest := amountOf_nonneg positive.2 others
        have few := (fit uses).mpr (by omega)
        refine ⟨uses, few, others, (below few others).mpr ⟨?_, ?_⟩, rfl⟩
        · exact Nat.add_right_cancel length
        · rw [toInt_after nonnegative positive.1 few]
          omega

/-- The solutions are listed from the lexicographically largest one down. -/
theorem pairwise_solutions
    (denominations : List Int64)
    (amount : Int64) :
    (solutions denominations amount).Pairwise
      fun earlier later => List.Lex (· < ·) later earlier := by
  induction denominations generalizing amount with
  | nil =>
      rw [solutions]
      split <;> simp
  | cons denomination denominations inductionHypothesis =>
      rw [solutions]
      apply pairwise_fromMost
      · intro uses _
        rw [List.pairwise_map]
        exact (inductionHypothesis _).imp fun later => .cons later
      · intro uses _ fewer below first inFirst second inSecond
        obtain ⟨counts, -, rfl⟩ := List.mem_map.mp inFirst
        obtain ⟨others, -, rfl⟩ := List.mem_map.mp inSecond
        exact .rel below

theorem listsSolutions
    (positive : ∀ denomination ∈ denominations, 0 < denomination)
    {amount : Int64}
    (nonnegative : 0 ≤ amount) :
    ListsSolutions denominations amount (solutions denominations amount) where
  mem_iff := mem_solutions_iff positive nonnegative
  once := by
    refine (pairwise_solutions denominations amount).imp ?_
    rintro counts _ before rfl
    exact List.lex_irrefl Nat.lt_irrefl counts before
  decreasing := pairwise_solutions denominations amount

/-- Where nothing remains the one solution is to use nothing. -/
theorem solutions_zero
    (positive : ∀ denomination ∈ denominations, 0 < denomination) :
    (solutions denominations 0).map (wayOf denominations) = [[]] := by
  induction denominations with
  | nil => rfl
  | cons denomination denominations inductionHypothesis =>
      rw [List.forall_mem_cons] at positive
      have none := copies_of_lt (Int64.le_refl 0) positive.1
      rw [solutions, none, Search.fromMost_succ, Search.fromMost_zero,
        List.append_nil, after_zero, List.map_map,
        ← inductionHypothesis positive.2]
      rfl

/-- Below a node the search finds the ways of the solutions for the amount
there. -/
theorem completions_eq_map_solutions
    (positive : ∀ denomination ∈ denominations, 0 < denomination)
    {amount : Int64}
    (nonnegative : 0 ≤ amount) :
    completions denominations amount =
      (solutions denominations amount).map (wayOf denominations) := by
  induction denominations generalizing amount with
  | nil =>
      by_cases nothing : amount = 0
      · subst nothing
        rfl
      · simp [Search.completions_nil_of_ne_zero, solutions, nothing]
  | cons denomination denominations inductionHypothesis =>
      by_cases nothing : amount = 0
      · subst nothing
        rw [Search.completions_zero, solutions_zero positive]
      · rw [List.forall_mem_cons] at positive
        rw [Search.completions_cons_of_ne_zero _ _ nothing, solutions,
          map_fromMost]
        apply fromMost_congr
        intro uses few
        have below := after_nonneg nonnegative positive.1
          (Nat.le_of_lt_succ few)
        rw [inductionHypothesis positive.2 below, List.map_map, List.map_map]
        rfl

end Solutions

/-! ## The ways of the solutions -/

/-- The ways to make change for a positive total are those of all solutions, each
solution counting once, in decreasing lexicographic order; a total of zero has
none. So every way is worth the total, and when no denomination is given twice no
way appears twice. -/
theorem listWays_eq_map_wayOf
    (total : Int64)
    (denominations : List Int64)
    (positive : ∀ denomination ∈ denominations, 0 < denomination) :
    listWays 0 denominations = .ok [] ∧
      (0 < total -> ∃ solutions,
        ListsSolutions denominations total solutions ∧
        listWays total denominations =
          .ok (solutions.map (wayOf denominations)) ∧
        (∀ way ∈ solutions.map (wayOf denominations),
          worth way = total.toInt) ∧
        (denominations.Nodup ->
          (solutions.map (wayOf denominations)).Nodup)) := by
  have allPositive := find?_eq_none_of_positive positive
  constructor
  · rw [listWays, allPositive]
    rfl
  · intro remains
    have nonnegative := Int64.le_of_lt remains
    have notZero : total ≠ 0 := by
      rintro rfl
      exact Int64.lt_irrefl remains
    have lists := listsSolutions positive nonnegative
    refine ⟨solutions denominations total, lists, ?_, ?_, ?_⟩
    · rw [listWays, if_neg (Int64.not_lt.mpr nonnegative), allPositive]
      simp only [notZero, if_false, Search.run_start,
        completions_eq_map_solutions positive nonnegative]
    · intro way member
      obtain ⟨counts, listed, rfl⟩ := List.mem_map.mp member
      rw [worth_wayOf]
      exact ((lists.mem_iff counts).mp listed).2
    · intro distinct
      refine List.Nodup.map_on ?_ lists.once
      intro counts listed others othersListed same
      exact wayOf_injective distinct ((lists.mem_iff counts).mp listed).1
        ((lists.mem_iff others).mp othersListed).1 same

/-- Five is made up of threes, twos and ones in different ways, one of which
leaves out the threes. -/
theorem listWays_five_of_three_two_one :
    listWays 0 [3, 2, 1] = .ok [] ∧
      ∃ ways, listWays 5 [3, 2, 1] = .ok ways ∧ [2, 2, 1] ∈ ways ∧
        ways.Nodup ∧ ∀ way ∈ ways, worth way = 5 := by
  have positive : ∀ denomination ∈ ([3, 2, 1] : List Int64),
      0 < denomination := by simp
  obtain ⟨zero, five⟩ := listWays_eq_map_wayOf 5 [3, 2, 1] positive
  obtain ⟨solutions, lists, found, worthFive, once⟩ := five (by decide)
  have twoTwos : [0, 2, 1] ∈ solutions :=
    (lists.mem_iff [0, 2, 1]).mpr ⟨rfl, by decide⟩
  exact ⟨zero, _, found, List.mem_map_of_mem twoTwos, once (by decide),
    worthFive⟩

end Change
end SExpr
