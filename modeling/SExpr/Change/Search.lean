/-!
# The search for change

A search for all ways to make up an amount from denominations goes through a
tree. A node is a position in the sequence of denominations and the amount that
remains; its children use so many copies of the denomination there, the most
that fit first and none last. The search keeps the choices on the way from the
root to the current node, so its depth is bounded by the number of
denominations and not by the number of coins.

`nodes` counts the nodes below and including a node. Each round of the search
leaves fewer nodes to come, so the search ends in every state.
-/

namespace SExpr
namespace Change

/-- How many copies of a denomination fit into an amount. -/
def copies
    (amount denomination : Int64) : Nat :=
  (amount / denomination).toNatClampNeg

/-- What remains of an amount after some copies of a denomination. -/
def after
    (amount denomination : Int64)
    (uses : Nat) : Int64 :=
  amount - denomination * Int64.ofNat uses

/-- A choice on the way to the current node: the position of a denomination,
the amount that remained before it, and how many copies of it are used. -/
structure Choice where
  index : Nat
  remaining : Int64
  uses : Nat
  deriving DecidableEq

/-- A state of the search. The coins on the way to the current node and the
choices that led to it have the latest one first. -/
structure Search where
  path : List Int64
  choices : List Choice
  remaining : Int64
  index : Nat
  deriving DecidableEq

namespace Search

/-- The state at the root. -/
def start (total : Int64) : Search :=
  ⟨[], [], total, 0⟩

/-- The denomination at a position. -/
def denominationAt
    (denominations : List Int64)
    (index : Nat) : Int64 :=
  denominations[index]?.getD 0

/-- Go to the first child of the current node: as many copies of its
denomination as fit. -/
def descend
    (state : Search)
    (denomination : Int64) : Search :=
  let uses := copies state.remaining denomination
  ⟨List.replicate uses denomination ++ state.path,
    ⟨state.index, state.remaining, uses⟩ :: state.choices,
    after state.remaining denomination uses,
    state.index + 1⟩

/-- Go to the next node that is not below the current one: the latest choice
that holds a copy gives it up. There is none when no choice holds one. -/
def backtrack?
    (denominations : List Int64)
    (path : List Int64) : List Choice -> Option Search
  | [] => none
  | choice :: choices =>
      match choice.uses with
      | 0 => backtrack? denominations path choices
      | uses + 1 =>
          some
            ⟨path.tail,
              ⟨choice.index, choice.remaining, uses⟩ :: choices,
              after choice.remaining
                (denominationAt denominations choice.index) uses,
              choice.index + 1⟩

/-- The total of a count over the numbers below a bound. -/
def totalBelow
    (count : Nat -> Nat) : (bound : Nat) -> Nat
  | 0 => 0
  | bound + 1 => totalBelow count bound + count bound

@[simp] theorem totalBelow_zero (count : Nat -> Nat) :
    totalBelow count 0 = 0 := rfl

@[simp] theorem totalBelow_succ
    (count : Nat -> Nat)
    (bound : Nat) :
    totalBelow count (bound + 1) =
      totalBelow count bound + count bound := rfl

/-- The number of nodes below and including the one with the given
denominations to come and the given amount. -/
def nodes : List Int64 -> Int64 -> Nat
  | [], _ => 1
  | denomination :: denominations, amount =>
      1 + totalBelow
        (fun uses => nodes denominations (after amount denomination uses))
        (copies amount denomination + 1)

/-- The number of nodes that a choice leaves for later: those below its smaller
numbers of copies. -/
def nodesLeft
    (denominations : List Int64)
    (choice : Choice) : Nat :=
  totalBelow
    (fun uses =>
      nodes (denominations.drop (choice.index + 1))
        (after choice.remaining
          (denominationAt denominations choice.index) uses))
    choice.uses

/-- The number of nodes that the choices together leave for later. -/
def nodesLeftByAll
    (denominations : List Int64) : (choices : List Choice) -> Nat
  | [] => 0
  | choice :: choices =>
      nodesLeft denominations choice + nodesLeftByAll denominations choices

/-- The number of nodes from the current one on. -/
def size
    (denominations : List Int64)
    (state : Search) : Nat :=
  nodes (denominations.drop state.index) state.remaining +
    nodesLeftByAll denominations state.choices

/-- There is at least the node itself. -/
theorem nodes_pos
    (denominations : List Int64)
    (amount : Int64) :
    0 < nodes denominations amount := by
  cases denominations with
  | nil => simp [nodes]
  | cons denomination denominations =>
      rw [nodes]
      omega

/-- Going to the first child passes one node. -/
theorem size_descend
    {denominations : List Int64}
    {state : Search}
    {denomination : Int64}
    (present : denominations[state.index]? = some denomination) :
    (state.descend denomination).size denominations + 1 =
      state.size denominations := by
  obtain ⟨inside, equal⟩ := List.getElem?_eq_some_iff.mp present
  have suffix := List.drop_eq_getElem_cons inside
  rw [equal] at suffix
  simp only [size, descend, nodesLeftByAll, suffix, nodes, nodesLeft,
    denominationAt, present, Option.getD_some, totalBelow_succ]
  omega

/-- Going back leaves no more than what the choices had left. -/
theorem size_le_of_backtrack?
    {denominations path : List Int64}
    {choices : List Choice}
    {next : Search}
    (found : backtrack? denominations path choices = some next) :
    next.size denominations ≤ nodesLeftByAll denominations choices := by
  induction choices with
  | nil => simp [backtrack?] at found
  | cons choice choices inductionHypothesis =>
      rw [backtrack?] at found
      split at found
      · have := inductionHypothesis found
        rw [nodesLeftByAll]
        omega
      · next uses held =>
          obtain rfl := Option.some.inj found
          simp only [size, nodesLeftByAll, nodesLeft, held, totalBelow_succ]
          omega

/-- Going back passes at least the current node. -/
theorem size_lt_of_backtrack?
    {denominations : List Int64}
    {state next : Search}
    (found : backtrack? denominations state.path state.choices = some next) :
    next.size denominations < state.size denominations := by
  have := size_le_of_backtrack? found
  have := nodes_pos (denominations.drop state.index) state.remaining
  unfold size at *
  omega

/-- What one round of the search comes to: the state of the next round, and the
way that was found in this one. -/
structure Round where
  way : Option (List Int64)
  next : Option Search
  deriving DecidableEq

/-- One round of the search. A node where nothing remains is a way, and nothing
below it is looked at; a node past the last denomination is a dead end. -/
def round
    (denominations : List Int64)
    (state : Search) : Round :=
  if state.remaining = 0 then
    ⟨some state.path.reverse,
      backtrack? denominations state.path state.choices⟩
  else
    match denominations[state.index]? with
    | some denomination => ⟨none, some (state.descend denomination)⟩
    | none => ⟨none, backtrack? denominations state.path state.choices⟩

/-- Every round leaves fewer nodes. -/
theorem size_lt_of_round
    {denominations : List Int64}
    {state next : Search}
    (continues : (state.round denominations).next = some next) :
    next.size denominations < state.size denominations := by
  unfold round at continues
  split at continues
  · exact size_lt_of_backtrack? continues
  · split at continues
    · next denomination present =>
        have := size_descend present
        obtain rfl := Option.some.inj continues
        omega
    · exact size_lt_of_backtrack? continues

/-- Run the search from a state to its end. The ways found come after those
found before, which stand in reverse. -/
def run
    (denominations : List Int64)
    (found : List (List Int64))
    (state : Search) : List (List Int64) :=
  let current := state.round denominations
  let found :=
    match current.way with
    | some way => way :: found
    | none => found
  match _ : current.next with
  | some next => run denominations found next
  | none => found.reverse
termination_by state.size denominations
decreasing_by exact size_lt_of_round (by assumption)

end Search
end Change
end SExpr
