import SExpr.Proofs.Change.Solutions

/-!
# The states of the search for change

Every state that the search comes to is a node of the tree: the root, or a child of a node
that uses no more copies of the denomination there than fit. Going down leads to the first
child of a node. Going back leads from a child to the next one of the same node, once the
children that use no copies have been left; these have put no coins on the path, so the
last coin on it is one of the choice that gives up a copy.

In a node the path, the choices and the amount that remains say the same, and every amount
on the way lies between zero and the total. So no operation of a round can go wrong: no
division is by zero, no result takes more than 64 bits, no position is past the last
denomination, and no other coin is taken off the path.
-/

namespace SExpr
namespace Change

/-! ## Nodes -/

namespace Search

/-- The child of a node that uses some copies of the denomination there. -/
def child
    (state : Search)
    (denomination : Int64)
    (uses : Nat) : Search :=
  ⟨List.replicate uses denomination ++ state.path,
    ⟨state.index, state.remaining, uses⟩ :: state.choices,
    after state.remaining denomination uses,
    state.index + 1⟩

/-- The states that are nodes of the tree. -/
inductive IsNode
    (total : Int64)
    (denominations : List Int64) : Search -> Prop
  | root : IsNode total denominations (start total)
  | child
      {parent : Search}
      {denomination : Int64}
      {uses : Nat}
      (isNode : IsNode total denominations parent)
      (present : denominations[parent.index]? = some denomination)
      (fit : uses ≤ copies parent.remaining denomination) :
      IsNode total denominations (parent.child denomination uses)

section Rounds

variable {total : Int64} {denominations : List Int64} {state next : Search}

/-- A choice without a copy is left for the choices before it. -/
theorem backtrack?_child_zero
    (state : Search)
    (denomination : Int64) :
    backtrack? denominations (state.child denomination 0).path
        (state.child denomination 0).choices =
      backtrack? denominations state.path state.choices := rfl

/-- From a child with a copy the search goes to the one with a copy less. -/
theorem backtrack?_child_succ
    {denomination : Int64}
    (present : denominations[state.index]? = some denomination)
    (uses : Nat) :
    backtrack? denominations (state.child denomination (uses + 1)).path
        (state.child denomination (uses + 1)).choices =
      some (state.child denomination uses) := by
  simp only [child, backtrack?, denominationAt_of_present present]
  rfl

/-- Going back from a node leads to a node. -/
theorem IsNode.backtrack?
    (isNode : IsNode total denominations state)
    (found : backtrack? denominations state.path state.choices = some next) :
    IsNode total denominations next := by
  induction isNode with
  | root => cases found
  | @child parent denomination uses isNode present fit inductionHypothesis =>
      cases uses with
      | zero =>
          rw [backtrack?_child_zero] at found
          exact inductionHypothesis found
      | succ uses =>
          rw [backtrack?_child_succ present] at found
          obtain rfl := Option.some.inj found
          exact .child isNode present (Nat.le_of_succ_le fit)

/-- A round leads from a node to a node. -/
theorem IsNode.round
    (isNode : IsNode total denominations state)
    (continues : (state.round denominations).next = some next) :
    IsNode total denominations next := by
  unfold Search.round at continues
  split at continues
  · exact isNode.backtrack? continues
  · split at continues
    · next denomination present =>
        obtain rfl := Option.some.inj continues
        exact .child isNode present Nat.le.refl
    · exact isNode.backtrack? continues

/-- After any number of rounds the search is at a node. -/
theorem isNode_of_afterRounds
    {rounds : Nat}
    (reached : afterRounds denominations (start total) rounds = some state) :
    IsNode total denominations state := by
  induction rounds generalizing state with
  | zero =>
      obtain rfl := Option.some.inj reached
      exact .root
  | succ rounds inductionHypothesis =>
      obtain ⟨previous, before, continues⟩ := Option.bind_eq_some_iff.mp reached
      exact (inductionHypothesis before).round continues

end Rounds

/-! ## What a node says -/

/-- The coins of choices. -/
def held
    (denominations : List Int64)
    (choices : List Choice) : List Int64 :=
  choices.flatMap fun choice =>
    List.replicate choice.uses (denominationAt denominations choice.index)

/-- The amounts on the way from the root to a node: those before its choices, from the
first one on, and the one that remains. -/
def amounts (state : Search) : List Int64 :=
  state.choices.reverse.map Choice.remaining ++ [state.remaining]

/-- The parts of a state agree: the choices are about the denominations before the current
one, in their order; the path holds their coins; the first amount is the total, and each
other one is what the coins of one choice leave of the amount before it; and all amounts
lie between zero and the total. -/
structure Consistent
    (total : Int64)
    (denominations : List Int64)
    (state : Search) : Prop where
  positions : state.choices.reverse.map Choice.index = List.range state.index
  index_le : state.index ≤ denominations.length
  path : state.path.reverse = held denominations state.choices.reverse
  first : state.amounts.head? = some total
  less : ∀ position choice amount,
    state.choices.reverse[position]? = some choice ->
    state.amounts[position + 1]? = some amount ->
    amount.toInt =
      choice.remaining.toInt -
        (denominationAt denominations position).toInt * choice.uses
  between : ∀ amount ∈ state.amounts, 0 ≤ amount ∧ amount ≤ total

section Nodes

variable {total : Int64} {denominations : List Int64} {state : Search}

theorem held_reverse
    (denominations : List Int64)
    (choices : List Choice) :
    held denominations choices.reverse = (held denominations choices).reverse := by
  simp [held, List.reverse_flatMap, Function.comp_def]

/-- The path of a node holds the coins of its choices, the latest one first. -/
theorem IsNode.path_eq
    (isNode : IsNode total denominations state) :
    state.path = held denominations state.choices := by
  induction isNode with
  | root => rfl
  | child isNode present fit inductionHypothesis =>
      simp [Search.child, held, denominationAt_of_present present, inductionHypothesis]

theorem IsNode.positions
    (isNode : IsNode total denominations state) :
    state.choices.reverse.map Choice.index = List.range state.index := by
  induction isNode with
  | root => rfl
  | child isNode present fit inductionHypothesis =>
      simp [Search.child, List.range_succ, ← inductionHypothesis]

theorem IsNode.index_le
    (isNode : IsNode total denominations state) :
    state.index ≤ denominations.length := by
  cases isNode with
  | root => exact Nat.zero_le _
  | child isNode present fit => exact (List.getElem?_eq_some_iff.mp present).1

/-- A child has the amounts of its parent and one more. -/
theorem amounts_child
    (state : Search)
    (denomination : Int64)
    (uses : Nat) :
    (state.child denomination uses).amounts =
      state.amounts ++ [after state.remaining denomination uses] := by
  simp [amounts, child]

theorem IsNode.head?_amounts
    (isNode : IsNode total denominations state) :
    state.amounts.head? = some total := by
  induction isNode with
  | root => rfl
  | child isNode present fit inductionHypothesis =>
      rw [amounts_child, List.head?_append, inductionHypothesis, Option.some_or]

end Nodes

section Amounts

variable {total : Int64} {denominations : List Int64} {state : Search}
variable (nonnegative : 0 ≤ total)
variable (positive : ∀ denomination ∈ denominations, 0 < denomination)

include nonnegative positive

/-- No amount on the way to a node is below zero or above the total. -/
theorem IsNode.between
    (isNode : IsNode total denominations state) :
    ∀ amount ∈ state.amounts, 0 ≤ amount ∧ amount ≤ total := by
  induction isNode with
  | root =>
      intro amount member
      obtain rfl := List.mem_singleton.mp member
      exact ⟨nonnegative, Int64.le_refl amount⟩
  | @child parent denomination uses isNode present fit inductionHypothesis =>
      intro amount member
      rw [amounts_child, List.mem_append, List.mem_singleton] at member
      obtain earlier | rfl := member
      · exact inductionHypothesis amount earlier
      · have size := positive denomination (List.mem_of_getElem? present)
        obtain ⟨lower, upper⟩ := inductionHypothesis parent.remaining (by simp [amounts])
        have remains := toInt_after lower size fit
        have price : 0 ≤ denomination.toInt * uses :=
          Int.mul_nonneg (Int.le_of_lt (Int64.lt_iff_toInt_lt.mp size))
            (Int.natCast_nonneg uses)
        refine ⟨after_nonneg lower size fit, ?_⟩
        rw [Int64.le_iff_toInt_le] at upper ⊢
        omega

theorem IsNode.remaining_nonneg
    (isNode : IsNode total denominations state) :
    0 ≤ state.remaining :=
  (isNode.between nonnegative positive state.remaining (by simp [amounts])).1

/-- Each choice leaves for the next amount what its coins are not worth. -/
theorem IsNode.less
    (isNode : IsNode total denominations state)
    (position : Nat)
    (choice : Choice)
    (amount : Int64)
    (chosen : state.choices.reverse[position]? = some choice)
    (next : state.amounts[position + 1]? = some amount) :
    amount.toInt =
      choice.remaining.toInt -
        (denominationAt denominations position).toInt * choice.uses := by
  induction isNode with
  | root => cases chosen
  | @child parent denomination uses isNode present fit inductionHypothesis =>
      have length : parent.choices.length = parent.index := by
        simpa using congrArg List.length isNode.positions
      have lengthAmounts : parent.amounts.length = parent.index + 1 := by
        simp [amounts, length]
      rw [amounts_child] at next
      rw [Search.child, List.reverse_cons] at chosen
      -- A choice of the parent, the one that led from there, or none.
      obtain earlier | rfl | later := Nat.lt_trichotomy position parent.index
      · rw [List.getElem?_append_left (by simpa [length] using earlier)] at chosen
        rw [List.getElem?_append_left (by omega)] at next
        exact inductionHypothesis chosen next
      · rw [← length, ← List.length_reverse, List.getElem?_concat_length] at chosen
        rw [← lengthAmounts, List.getElem?_concat_length] at next
        cases chosen
        cases next
        rw [denominationAt_of_present present]
        exact toInt_after (isNode.remaining_nonneg nonnegative positive)
          (positive denomination (List.mem_of_getElem? present)) fit
      · rw [List.getElem?_eq_none (by simp [length]; omega)] at chosen
        cases chosen

/-- The parts of a node agree. -/
theorem IsNode.consistent
    (isNode : IsNode total denominations state) :
    Consistent total denominations state where
  positions := isNode.positions
  index_le := isNode.index_le
  path := by rw [held_reverse, isNode.path_eq]
  first := isNode.head?_amounts
  less := isNode.less nonnegative positive
  between := isNode.between nonnegative positive

end Amounts

/-! ## Coins that are given up -/

section Coins

variable {total : Int64} {denominations : List Int64} {state : Search}

/-- The denomination of a choice is there. -/
theorem IsNode.exists_present
    (isNode : IsNode total denominations state)
    {choice : Choice}
    (member : choice ∈ state.choices) :
    ∃ coin, denominations[choice.index]? = some coin := by
  have position : choice.index ∈ state.choices.reverse.map Choice.index :=
    List.mem_map_of_mem (List.mem_reverse.mpr member)
  rw [isNode.positions, List.mem_range] at position
  exact ⟨_, List.getElem?_eq_getElem (Nat.lt_of_lt_of_le position isNode.index_le)⟩

/-- The last coin on the path is a copy of the latest choice that holds one. -/
theorem IsNode.path_eq_cons
    (isNode : IsNode total denominations state)
    {exhausted earlier : List Choice}
    {choice : Choice}
    {uses : Nat}
    (chosen : state.choices = exhausted ++ choice :: earlier)
    (none : ∀ other ∈ exhausted, other.uses = 0)
    (holds : choice.uses = uses + 1) :
    ∃ coin, denominations[choice.index]? = some coin ∧
      state.path =
        coin :: held denominations
          (⟨choice.index, choice.remaining, uses⟩ :: earlier) := by
  have member : choice ∈ state.choices := by simp [chosen]
  obtain ⟨coin, present⟩ := isNode.exists_present member
  have noCoins : held denominations exhausted = [] := by
    rw [held, List.flatMap_eq_nil_iff]
    intro other member
    rw [none other member, List.replicate_zero]
  have coins := isNode.path_eq
  rw [chosen, held, List.flatMap_append, ← held, noCoins, List.nil_append,
    List.flatMap_cons, holds, List.replicate_succ, denominationAt_of_present present]
    at coins
  refine ⟨coin, present, ?_⟩
  rw [coins, held, List.flatMap_cons, denominationAt_of_present present]
  rfl

end Coins

end Search

/-! ## Rounds with every operation checked -/

namespace Checked

/-- How many copies of a denomination fit into an amount, unless the division is by zero,
its result takes more than 64 bits, or that is no count. -/
def copies (amount denomination : Int64) : Option Nat := do
  guard (denomination ≠ 0)
  let quotient <- int64? (amount.toInt.tdiv denomination.toInt)
  guard (0 ≤ quotient)
  return quotient.toNatClampNeg

/-- What remains of an amount after some copies of a denomination, unless their number,
what they are worth, or what remains takes more than 64 bits. -/
def after
    (amount denomination : Int64)
    (uses : Nat) : Option Int64 := do
  let count <- int64? uses
  let price <- int64? (denomination.toInt * count.toInt)
  int64? (amount.toInt - price.toInt)

/-- Go to the first child of the current node. -/
def descend
    (state : Search)
    (denomination : Int64) : Option Search := do
  let uses <- copies state.remaining denomination
  let remaining <- after state.remaining denomination uses
  return ⟨List.replicate uses denomination ++ state.path,
    ⟨state.index, state.remaining, uses⟩ :: state.choices,
    remaining,
    state.index + 1⟩

/-- Go to the next node that is not below the current one, if there is one, unless the
denomination of the choice that gives up a copy is not there or is not the coin that is
taken off the path. -/
def backtrack
    (denominations : List Int64)
    (path : List Int64) : List Choice -> Option (Option Search)
  | [] => some none
  | choice :: choices =>
      match choice.uses with
      | 0 => backtrack denominations path choices
      | uses + 1 => do
          let coin <- path.head?
          let denomination <- denominations[choice.index]?
          guard (coin = denomination)
          let remaining <- after choice.remaining denomination uses
          return some
            ⟨path.tail,
              ⟨choice.index, choice.remaining, uses⟩ :: choices,
              remaining,
              choice.index + 1⟩

/-- One round of the search. -/
def round
    (denominations : List Int64)
    (state : Search) : Option Search.Round :=
  if state.remaining = 0 then do
    let next <- backtrack denominations state.path state.choices
    return ⟨some state.path.reverse, next⟩
  else
    match denominations[state.index]? with
    | some denomination => do
        let next <- descend state denomination
        return ⟨none, some next⟩
    | none => do
        let next <- backtrack denominations state.path state.choices
        return ⟨none, next⟩

section Operations

variable {amount denomination : Int64}
variable (nonnegative : 0 ≤ amount) (positive : 0 < denomination)

include nonnegative positive

/-- A positive denomination divides an amount that is not negative. -/
theorem copies_eq :
    copies amount denomination = some (Change.copies amount denomination) := by
  have notZero : denomination ≠ 0 := by
    rintro rfl
    exact Int64.lt_irrefl positive
  have notMinusOne : denomination ≠ -1 := by
    rintro rfl
    exact absurd positive (by decide)
  have quotient : int64? (amount.toInt.tdiv denomination.toInt) =
      some (amount / denomination) :=
    (int64?_eq_some_iff ..).mpr (Int64.toInt_div_of_ne_right _ _ notMinusOne)
  have count : 0 ≤ amount / denomination := by
    rw [Int64.le_iff_toInt_le, Int64.toInt_div_of_ne_right _ _ notMinusOne]
    exact Int.tdiv_nonneg (Int64.le_iff_toInt_le.mp nonnegative)
      (Int.le_of_lt (Int64.lt_iff_toInt_lt.mp positive))
  simp [copies, notZero, quotient, count, Change.copies]

/-- Copies that fit are counted, priced and taken off within 64 bits. -/
theorem after_eq
    {uses : Nat}
    (few : uses ≤ Change.copies amount denomination) :
    after amount denomination uses = some (Change.after amount denomination uses) := by
  have size : 1 ≤ denomination.toInt := Int64.lt_iff_toInt_lt.mp positive
  have bound := (le_copies_iff nonnegative positive uses).mp few
  have upper := amount.toInt_lt
  -- A copy is worth one at least, so their number is in range with what they are worth.
  have fewer : 1 * (uses : Int) ≤ denomination.toInt * uses :=
    Int.mul_le_mul_of_nonneg_right size (Int.natCast_nonneg uses)
  have count : (Int64.ofNat uses).toInt = uses :=
    Int64.toInt_ofNat_of_lt (by omega)
  have price :
      (denomination * Int64.ofNat uses).toInt = denomination.toInt * uses := by
    rw [Int64.toInt_mul, count]
    exact Int.bmod_eq_of_le (by omega) (by omega)
  have remains := toInt_after nonnegative positive few
  rw [after, (int64?_eq_some_iff ..).mpr count, Option.bind_eq_bind, Option.bind_some,
    count, (int64?_eq_some_iff ..).mpr price, Option.bind_some, price,
    (int64?_eq_some_iff ..).mpr remains]

end Operations

/-- Where an amount that is not negative remains, all checks of going down are passed. -/
theorem descend_eq
    {state : Search}
    {denomination : Int64}
    (nonnegative : 0 ≤ state.remaining)
    (positive : 0 < denomination) :
    descend state denomination = some (state.descend denomination) := by
  rw [descend, copies_eq nonnegative positive, Option.bind_eq_bind, Option.bind_some,
    after_eq nonnegative positive Nat.le.refl]
  rfl

section Rounds

variable {total : Int64} {denominations : List Int64} {state : Search}
variable (nonnegative : 0 ≤ total)
variable (positive : ∀ denomination ∈ denominations, 0 < denomination)

include nonnegative positive

/-- At a node all checks of going back are passed. -/
theorem backtrack_eq
    (isNode : state.IsNode total denominations) :
    backtrack denominations state.path state.choices =
      some (Search.backtrack? denominations state.path state.choices) := by
  induction isNode with
  | root => rfl
  | @child parent denomination uses isNode present fit inductionHypothesis =>
      cases uses with
      -- No copies put no coins on the path.
      | zero => exact inductionHypothesis
      | succ uses =>
          have remains := after_eq (isNode.remaining_nonneg nonnegative positive)
            (positive denomination (List.mem_of_getElem? present))
            (Nat.le_of_succ_le fit)
          rw [Search.backtrack?_child_succ present]
          simp [Search.child, backtrack, List.replicate_succ, present, remains]

/-- At a node all checks of a round are passed. -/
theorem round_eq
    (isNode : state.IsNode total denominations) :
    round denominations state = some (state.round denominations) := by
  rw [round, Search.round, backtrack_eq nonnegative positive isNode]
  split
  · rfl
  · cases present : denominations[state.index]? with
    | none => rfl
    | some denomination =>
        have down := descend_eq (isNode.remaining_nonneg nonnegative positive)
          (positive denomination (List.mem_of_getElem? present))
        simp only [down]
        rfl

end Rounds

end Checked

/-- However many rounds the search for change has gone through, the parts of its state agree;
the coin that is taken off the path is a copy of the choice that gives one up, whose
denomination is there; and a round with every operation checked is the round of the
search. -/
theorem consistent_of_afterRounds
    {total : Int64}
    {denominations : List Int64}
    (remains : 0 < total)
    (positive : ∀ denomination ∈ denominations, 0 < denomination)
    (rounds : Nat)
    (state : Search)
    (reached : Search.afterRounds denominations (Search.start total) rounds = some state) :
    state.Consistent total denominations ∧
    (∀ exhausted choice earlier uses,
      state.choices = exhausted ++ choice :: earlier ->
      (∀ other ∈ exhausted, other.uses = 0) -> choice.uses = uses + 1 ->
      ∃ coin, denominations[choice.index]? = some coin ∧
        state.path =
          coin :: Search.held denominations
            (⟨choice.index, choice.remaining, uses⟩ :: earlier)) ∧
    Checked.round denominations state = some (state.round denominations) := by
  have nonnegative := Int64.le_of_lt remains
  have isNode := Search.isNode_of_afterRounds reached
  refine ⟨isNode.consistent nonnegative positive, ?_,
    Checked.round_eq nonnegative positive isNode⟩
  intro exhausted choice earlier uses chosen none holds
  exact isNode.path_eq_cons chosen none holds

/-- The largest total, at a dead end behind an exhausted choice. -/
theorem consistent_of_afterRounds_largest :
    (0 : Int64) < Int64.maxValue ∧
    (∀ denomination ∈ [4611686018427387904, 4611686018427387900],
      (0 : Int64) < denomination) ∧
    Search.afterRounds [4611686018427387904, 4611686018427387900]
        (Search.start Int64.maxValue) 3 =
      some
        ⟨[4611686018427387904],
          [⟨1, 4611686018427387903, 0⟩, ⟨0, Int64.maxValue, 1⟩],
          4611686018427387903, 2⟩ ∧
    Checked.round [4611686018427387904, 4611686018427387900]
        ⟨[4611686018427387904],
          [⟨1, 4611686018427387903, 0⟩, ⟨0, Int64.maxValue, 1⟩],
          4611686018427387903, 2⟩ =
      some ⟨none, some ⟨[], [⟨0, Int64.maxValue, 0⟩], Int64.maxValue, 1⟩⟩ := by
  have positive : ∀ denomination ∈ [4611686018427387904, 4611686018427387900],
      (0 : Int64) < denomination := by
    rw [List.forall_mem_cons, List.forall_mem_singleton]
    decide
  have reached : Search.afterRounds [4611686018427387904, 4611686018427387900]
        (Search.start Int64.maxValue) 3 =
      some
        ⟨[4611686018427387904],
          [⟨1, 4611686018427387903, 0⟩, ⟨0, Int64.maxValue, 1⟩],
          4611686018427387903, 2⟩ := by
    decide
  exact ⟨by decide, positive, reached,
    (consistent_of_afterRounds (by decide) positive 3 _ reached).2.2⟩

end Change
end SExpr
