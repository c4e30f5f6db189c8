import SExpr.Change.Search

/-!
# What the search for change finds

The search goes through a tree with an explicit list of choices. Below a node it
finds the completions of the node: the sequences of coins, from the denomination
at the node on, that use up the amount that remains. They are a structural
recursion over the denominations to come.

In every state the ways still to be found are the completions of the current
node behind the coins on the way to it, and then, choice by choice, the
completions of the children that the choice has left for later. A round gives
out the first of them or none and keeps the others, so a run gives out all of
them in order.
-/

namespace SExpr
namespace Change
namespace Search

/-- The sequences of a family, from the one just below a bound down to the first
one, put together. -/
def fromMost
    (family : Nat -> List α) : (bound : Nat) -> List α
  | 0 => []
  | bound + 1 => family bound ++ fromMost family bound

@[simp] theorem fromMost_zero (family : Nat -> List α) :
    fromMost family 0 = [] := rfl

@[simp] theorem fromMost_succ
    (family : Nat -> List α)
    (bound : Nat) :
    fromMost family (bound + 1) = family bound ++ fromMost family bound := rfl

/-- Families that agree below a bound are put together alike. -/
theorem fromMost_congr
    {first second : Nat -> List α}
    {bound : Nat}
    (agree : ∀ index, index < bound -> first index = second index) :
    fromMost first bound = fromMost second bound := by
  induction bound with
  | zero => rfl
  | succ bound inductionHypothesis =>
      rw [fromMost_succ, fromMost_succ, agree bound (Nat.lt_succ_self bound),
        inductionHypothesis fun index below => agree index (by omega)]

/-- A function of the elements is applied to each part. -/
theorem map_fromMost
    (transform : α -> β)
    (family : Nat -> List α)
    (bound : Nat) :
    (fromMost family bound).map transform =
      fromMost (fun index => (family index).map transform) bound := by
  induction bound with
  | zero => rfl
  | succ bound inductionHypothesis =>
      rw [fromMost_succ, List.map_append, inductionHypothesis, fromMost_succ]

/-- The last part of a family stands apart from the others. -/
theorem fromMost_succ_eq_append_zero
    (family : Nat -> List α)
    (bound : Nat) :
    fromMost family (bound + 1) =
      fromMost (fun index => family (index + 1)) bound ++ family 0 := by
  induction bound with
  | zero => simp
  | succ bound inductionHypothesis =>
      rw [fromMost_succ, inductionHypothesis, fromMost_succ, List.append_assoc]

/-- The coins that the search adds below a node, for every way it finds there:
nothing where nothing remains, and else as many copies of the next denomination
as fit first and none last, each with the completions of what remains then. -/
def completions : List Int64 -> Int64 -> List (List Int64)
  | [], amount => if amount = 0 then [[]] else []
  | denomination :: denominations, amount =>
      if amount = 0 then
        [[]]
      else
        fromMost
          (fun uses =>
            (completions denominations (after amount denomination uses)).map
              fun coins => List.replicate uses denomination ++ coins)
          (copies amount denomination + 1)

@[simp] theorem completions_zero (denominations : List Int64) :
    completions denominations 0 = [[]] := by
  cases denominations <;> simp [completions]

theorem completions_nil_of_ne_zero
    {amount : Int64}
    (remains : amount ≠ 0) :
    completions [] amount = [] := by
  simp [completions, remains]

theorem completions_cons_of_ne_zero
    (denomination : Int64)
    (denominations : List Int64)
    {amount : Int64}
    (remains : amount ≠ 0) :
    completions (denomination :: denominations) amount =
      fromMost
        (fun uses =>
          (completions denominations (after amount denomination uses)).map
            fun coins => List.replicate uses denomination ++ coins)
        (copies amount denomination + 1) := by
  simp [completions, remains]

/-- The ways behind the given coins, the latest coin standing first, that the
search finds below a node. -/
def waysBelow
    (path : List Int64)
    (denominations : List Int64)
    (amount : Int64) : List (List Int64) :=
  (completions denominations amount).map fun coins => path.reverse ++ coins

/-- The ways below the children that a choice leaves for later. Each of them
holds fewer copies than the path does. -/
def waysLeft
    (denominations : List Int64)
    (path : List Int64)
    (choice : Choice) : List (List Int64) :=
  fromMost
    (fun uses =>
      waysBelow (path.drop (choice.uses - uses))
        (denominations.drop (choice.index + 1))
        (after choice.remaining
          (denominationAt denominations choice.index) uses))
    choice.uses

/-- The ways that the choices together leave for later, the latest choice
first. The coins of a choice are taken off the path before an earlier one. -/
def waysLeftByAll
    (denominations : List Int64) :
    (path : List Int64) -> (choices : List Choice) -> List (List Int64)
  | _, [] => []
  | path, choice :: choices =>
      waysLeft denominations path choice ++
        waysLeftByAll denominations (path.drop choice.uses) choices

/-- The ways that are still to be found in a state. -/
def pending
    (denominations : List Int64)
    (state : Search) : List (List Int64) :=
  waysBelow state.path (denominations.drop state.index) state.remaining ++
    waysLeftByAll denominations state.path state.choices

/-- The ways that are still to be found when the search may have ended. -/
def pending?
    (denominations : List Int64) : Option Search -> List (List Int64)
  | none => []
  | some state => pending denominations state

/-- A choice that holds a copy leaves the ways with one copy less, and then those
it leaves with one copy less. -/
theorem waysLeft_succ
    (denominations path : List Int64)
    (index : Nat)
    (remaining : Int64)
    (uses : Nat) :
    waysLeft denominations path ⟨index, remaining, uses + 1⟩ =
      waysBelow path.tail (denominations.drop (index + 1))
          (after remaining (denominationAt denominations index) uses) ++
        waysLeft denominations path.tail ⟨index, remaining, uses⟩ := by
  unfold waysLeft
  rw [fromMost_succ]
  congr 1
  · simp
  · apply fromMost_congr
    intro fewer below
    have shift : uses + 1 - fewer = (uses - fewer) + 1 := by omega
    rw [shift, ← List.drop_tail]

/-- Going back keeps what the choices have left. -/
theorem pending?_backtrack?
    (denominations path : List Int64)
    (choices : List Choice) :
    pending? denominations (backtrack? denominations path choices) =
      waysLeftByAll denominations path choices := by
  induction choices with
  | nil => rfl
  | cons choice choices inductionHypothesis =>
      obtain ⟨index, remaining, uses⟩ := choice
      cases uses with
      | zero =>
          rw [backtrack?, inductionHypothesis, waysLeftByAll]
          simp [waysLeft]
      | succ uses =>
          have dropped : path.drop (uses + 1) = path.tail.drop uses :=
            List.drop_tail.symm
          simp only [backtrack?, pending?, pending, waysLeftByAll,
            waysLeft_succ, List.append_assoc, dropped]

theorem denominationAt_of_present
    {denominations : List Int64}
    {index : Nat}
    {denomination : Int64}
    (present : denominations[index]? = some denomination) :
    denominationAt denominations index = denomination := by
  rw [denominationAt, present, Option.getD_some]

/-- Going to the first child keeps what is to be found: the ways below that
child come now, and those below the others are left for later. -/
theorem pending_descend
    {denominations : List Int64}
    {state : Search}
    {denomination : Int64}
    (remains : state.remaining ≠ 0)
    (present : denominations[state.index]? = some denomination) :
    pending denominations (state.descend denomination) =
      pending denominations state := by
  obtain ⟨inside, equal⟩ := List.getElem?_eq_some_iff.mp present
  have suffix := List.drop_eq_getElem_cons inside
  rw [equal] at suffix
  have atIndex := denominationAt_of_present present
  have below :
      waysBelow state.path (denominations.drop state.index) state.remaining =
        fromMost
          (fun uses =>
            waysBelow (List.replicate uses denomination ++ state.path)
              (denominations.drop (state.index + 1))
              (after state.remaining denomination uses))
          (copies state.remaining denomination + 1) := by
    rw [waysBelow, suffix, completions_cons_of_ne_zero _ _ remains,
      map_fromMost]
    simp [waysBelow, Function.comp_def]
  have later :
      waysLeft denominations (state.descend denomination).path
          ⟨state.index, state.remaining, copies state.remaining denomination⟩ =
        fromMost
          (fun uses =>
            waysBelow (List.replicate uses denomination ++ state.path)
              (denominations.drop (state.index + 1))
              (after state.remaining denomination uses))
          (copies state.remaining denomination) := by
    unfold waysLeft
    apply fromMost_congr
    intro uses fewer
    replace fewer : uses < copies state.remaining denomination := fewer
    have spare :
        copies state.remaining denomination -
            (copies state.remaining denomination - uses) = uses := by
      omega
    have fits :
        copies state.remaining denomination - uses ≤
          copies state.remaining denomination := by
      omega
    simp [descend, atIndex, List.drop_append_of_le_length, fits, spare]
  rw [pending, pending, below, fromMost_succ, List.append_assoc]
  simp only [descend, waysLeftByAll] at later ⊢
  rw [later]
  simp

/-- One round gives out the first of the ways to come or none of them, and keeps
the others. -/
theorem pending_eq_round
    (denominations : List Int64)
    (state : Search) :
    pending denominations state =
      (state.round denominations).way.toList ++
        pending? denominations (state.round denominations).next := by
  by_cases nothing : state.remaining = 0
  · simp [round, nothing, pending?_backtrack?, pending, waysBelow]
  · cases present : denominations[state.index]? with
    | some denomination =>
        simp [round, nothing, present, pending?,
          pending_descend nothing present]
    | none =>
        have past := List.drop_eq_nil_iff.mpr
          (List.getElem?_eq_none_iff.mp present)
        simp [round, nothing, present, pending?_backtrack?, pending, waysBelow,
          past, completions_nil_of_ne_zero nothing]

/-- A run gives out the ways found before it and all ways to come, in order. -/
theorem run_eq_append_pending
    (denominations : List Int64)
    (found : List (List Int64))
    (state : Search) :
    run denominations found state =
      found.reverse ++ pending denominations state := by
  induction size : state.size denominations using Nat.strongRecOn
    generalizing found state with
  | ind size inductionHypothesis =>
      rw [run, pending_eq_round]
      split
      · next next continues =>
          have fewer := size_lt_of_round continues
          rw [inductionHypothesis (next.size denominations) (by omega) _ next
            rfl, continues, pending?]
          cases (state.round denominations).way <;> simp
      · next ended =>
          rw [ended, pending?]
          cases (state.round denominations).way <;> simp

/-- From the root the search finds the completions of the root. -/
theorem run_start
    (denominations : List Int64)
    (total : Int64) :
    (start total).run denominations [] = completions denominations total := by
  rw [run_eq_append_pending]
  simp [pending, start, waysBelow, waysLeftByAll]

/-- The state after some rounds, if the search has not ended by then. -/
def afterRounds
    (denominations : List Int64)
    (state : Search) : (rounds : Nat) -> Option Search
  | 0 => some state
  | rounds + 1 =>
      (afterRounds denominations state rounds).bind fun current =>
        (current.round denominations).next

/-- Every round so far has taken at least one from the nodes to come. -/
theorem size_add_rounds_le
    {denominations : List Int64}
    {state current : Search}
    {rounds : Nat}
    (reached : afterRounds denominations state rounds = some current) :
    current.size denominations + rounds ≤ state.size denominations := by
  induction rounds generalizing current with
  | zero =>
      obtain rfl : state = current := by simpa [afterRounds] using reached
      omega
  | succ rounds inductionHypothesis =>
      obtain ⟨previous, before, continues⟩ :=
        Option.bind_eq_some_iff.mp reached
      have bound := inductionHypothesis before
      have fewer := size_lt_of_round continues
      omega

/-- The search has ended after as many rounds as there are nodes. -/
theorem afterRounds_size
    (denominations : List Int64)
    (state : Search) :
    afterRounds denominations state (state.size denominations) = none := by
  cases reached :
      afterRounds denominations state (state.size denominations) with
  | none => rfl
  | some current =>
      have bound := size_add_rounds_le reached
      have := nodes_pos (denominations.drop current.index) current.remaining
      simp only [size] at bound
      omega

end Search
end Change
end SExpr
