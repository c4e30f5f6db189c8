import SExpr.Proofs.LetElimination.Refusal

/-!
# The first fault of code

A visit of code enters a combination before its parts and leaves it after them,
and takes the parts in the order in which they are rewritten. A node is faulty
when it stands too deep or its own shape is wrong. Code that is refused has a
faulty node, and it is refused for the first one that the visit enters: for its
nesting when it is too deep, and otherwise with the error with which the node is
refused when it stands alone, which names the form at its head. Every node that
the visit has left by then is accepted when it stands alone.

Each outcome of let elimination is accounted for by the events of a visit, and
the events of two visits, one after the other, account for the outcomes that are
chained in the same way.
-/

namespace SExpr
namespace LetElimination

/-! ## The visit of code -/

/-- What happens on a visit of code: a combination is entered, some combinations being
around it, or it is left. -/
inductive Event
  | enter (depth : Nat) (node : Datum)
  | leave (node : Datum)

/-- The visit of code that some combinations are around. -/
def visit (depth : Nat) (code : Datum) : List Event :=
  if code.isAtom then
    []
  else
    [.enter depth code] ++
      ((visitedParts code).attach.flatMap fun part => visit (depth + 1) part.1) ++
        [.leave code]
termination_by code.levels
decreasing_by
  exact levels_lt_of_mem_codeParts (mem_visitedParts_iff.mp part.2)

/-- Nothing happens on a visit of an atom. -/
theorem visit_of_isAtom
    (depth : Nat)
    {code : Datum}
    (isAtom : code.isAtom = true) :
    visit depth code = [] := by
  rw [visit, if_pos isAtom]

/-- A combination is entered and left, and its parts are visited in between. -/
theorem visit_list_cons
    (depth : Nat)
    (head : Datum)
    (operands : List Datum) :
    visit depth (.list (head :: operands)) =
      [.enter depth (.list (head :: operands))] ++
        (visitedParts (.list (head :: operands))).flatMap (visit (depth + 1)) ++
          [.leave (.list (head :: operands))] := by
  have notAtom : ¬ (Datum.list (head :: operands)).isAtom = true := nofun
  rw [visit, if_neg notAtom, List.flatMap_subtype fun _ _ => rfl,
    List.unattach_attach]

/-! ## The first fault -/

/-- A node at a depth is faulty when it is too deep or its own shape is wrong. -/
def Faulty
    (depth : Nat)
    (node : Datum) : Prop :=
  maxNesting ≤ depth ∨ ¬ WellShaped node

theorem not_faulty_of_wellShaped
    {depth : Nat}
    {node : Datum}
    (shallow : depth < maxNesting)
    (wellShaped : WellShaped node) :
    ¬ Faulty depth node := by
  rintro (deep | misshapen)
  · exact absurd shallow (Nat.not_lt.mpr deep)
  · exact misshapen wellShaped

/-- Among some events, of which the given ones come first, a node is entered at a depth
that is faulty, as the first one that is. -/
structure FirstFault
    (events before : List Event)
    (depth : Nat)
    (node : Datum) : Prop where
  /-- The node is entered after the given events. -/
  reached : before ++ [.enter depth node] <+: events
  /-- No node that was entered before is faulty. -/
  sound : ∀ depth node, .enter depth node ∈ before -> ¬ Faulty depth node
  /-- The node is faulty. -/
  faulty : Faulty depth node

section

variable {events before before' : List Event}
variable {depth depth' : Nat}
variable {node node' : Datum}

/-- Of two first faults neither comes after the other one. -/
theorem FirstFault.eq_of_prefix
    (first : FirstFault events before depth node)
    (second : FirstFault events before' depth' node')
    (earlier : before ++ [.enter depth node] <+: before' ++ [.enter depth' node']) :
    before = before' ∧ depth = depth' ∧ node = node' := by
  obtain same | inBefore := List.prefix_concat_iff.mp earlier
  · obtain ⟨sameBefore, sameEvent⟩ := List.append_inj' same rfl
    cases sameEvent
    exact ⟨sameBefore, rfl, rfl⟩
  · have member : Event.enter depth node ∈ before' :=
      inBefore.subset (by simp)
    exact absurd first.faulty (second.sound depth node member)

/-- There is one first fault at most. -/
theorem FirstFault.unique
    (first : FirstFault events before depth node)
    (second : FirstFault events before' depth' node') :
    before = before' ∧ depth = depth' ∧ node = node' := by
  obtain earlier | later :=
    List.prefix_or_prefix_of_prefix first.reached second.reached
  · exact first.eq_of_prefix second earlier
  · obtain ⟨rfl, rfl, rfl⟩ := second.eq_of_prefix first later
    exact ⟨rfl, rfl, rfl⟩

end

/-! ## Events that account for an outcome -/

/-- A node is accepted when it stands alone. -/
def AcceptedAlone (node : Datum) : Prop :=
  ∃ result, node.withoutLet = .ok result

/-- An error blames a node at a depth: for its nesting when it is too deep, and otherwise
as the node is refused when it stands alone, which is for the form at its head. -/
structure Blames
    (error : Error)
    (depth : Nat)
    (node : Datum) : Prop where
  tooDeep : maxNesting ≤ depth -> error = .nestingTooDeep
  misshapen : depth < maxNesting ->
    ∃ form fault, error = .malformed form fault ∧
      node.headSymbol? = some form.keyword ∧
      node.withoutLet = .error error

/-- No node that is entered among some events is faulty, and all that are left are
accepted. -/
structure Passed (events : List Event) : Prop where
  sound : ∀ depth node, .enter depth node ∈ events -> ¬ Faulty depth node
  accepted : ∀ node, .leave node ∈ events -> AcceptedAlone node

/-- Some events pass up to a faulty node, which an error blames. -/
structure StopsAt
    (events : List Event)
    (error : Error)
    (before : List Event)
    (depth : Nat)
    (node : Datum) : Prop where
  reached : before ++ [.enter depth node] <+: events
  passed : Passed before
  faulty : Faulty depth node
  blames : Blames error depth node

/-- Some events account for an outcome: they pass when there is a value, and they stop at
a node to blame when there is an error. -/
def AccountsFor
    (events : List Event) : Except Error α -> Prop
  | .ok _ => Passed events
  | .error error => ∃ before depth node, StopsAt events error before depth node

section

variable {events later before : List Event}
variable {depth : Nat}
variable {node : Datum}
variable {error : Error}

theorem passed_nil : Passed [] where
  sound := nofun
  accepted := nofun

theorem passed_enter (sound : ¬ Faulty depth node) :
    Passed [.enter depth node] where
  sound := by
    intro _ _ member
    cases List.mem_singleton.mp member
    exact sound
  accepted := by simp

theorem passed_leave (accepted : AcceptedAlone node) :
    Passed [.leave node] where
  sound := by simp
  accepted := by
    intro _ member
    cases List.mem_singleton.mp member
    exact accepted

theorem Passed.append
    (first : Passed events)
    (second : Passed later) :
    Passed (events ++ later) where
  sound depth node member :=
    (List.mem_append.mp member).elim (first.sound depth node)
      (second.sound depth node)
  accepted node member :=
    (List.mem_append.mp member).elim (first.accepted node) (second.accepted node)

/-- The first fault is where the events stop. -/
theorem StopsAt.firstFault (stops : StopsAt events error before depth node) :
    FirstFault events before depth node :=
  ⟨stops.reached, stops.passed.sound, stops.faulty⟩

/-- Events stop at the node at which they begin when it is to blame. -/
theorem stopsAt_cons
    (faulty : Faulty depth node)
    (blames : Blames error depth node) :
    StopsAt (.enter depth node :: later) error [] depth node where
  reached := ⟨later, rfl⟩
  passed := passed_nil
  faulty := faulty
  blames := blames

/-- What comes after the node to blame does not matter. -/
theorem StopsAt.append
    (stops : StopsAt events error before depth node)
    (later : List Event) :
    StopsAt (events ++ later) error before depth node :=
  { stops with reached := stops.reached.trans (List.prefix_append events later) }

/-- What passes can come before the node to blame. -/
theorem Passed.stopsAt
    (passed : Passed events)
    (stops : StopsAt later error before depth node) :
    StopsAt (events ++ later) error (events ++ before) depth node where
  reached := by
    rw [List.append_assoc]
    exact (List.prefix_append_right_inj events).mpr stops.reached
  passed := passed.append stops.passed
  faulty := stops.faulty
  blames := stops.blames

/-- Only the error of an outcome matters to the events that account for it. -/
theorem accountsFor_congr
    {first : Except Error α}
    {second : Except Error β}
    (same : ∀ error, first = .error error ↔ second = .error error) :
    AccountsFor events first ↔ AccountsFor events second := by
  cases first with
  | error error =>
      rw [(same error).mp rfl]
      exact Iff.rfl
  | ok value =>
      cases second with
      | error error => cases (same error).mpr rfl
      | ok other => exact Iff.rfl

/-- The events of the steps of a chain, one after the other, account for the chain. -/
theorem AccountsFor.bind
    {first : Except Error α}
    {next : α -> Except Error β}
    (accounts : AccountsFor events first)
    (nextAccounts :
      ∀ value, first = .ok value -> AccountsFor later (next value)) :
    AccountsFor (events ++ later) (first >>= next) := by
  cases first with
  | error error =>
      obtain ⟨before, depth, node, stops⟩ := accounts
      exact ⟨before, depth, node, stops.append later⟩
  | ok value =>
      have passed : Passed events := accounts
      have following := nextAccounts value rfl
      change AccountsFor (events ++ later) (next value)
      cases outcome : next value with
      | error error =>
          rw [outcome] at following
          obtain ⟨before, depth, node, stops⟩ := following
          exact ⟨_, depth, node, passed.stopsAt stops⟩
      | ok result =>
          rw [outcome] at following
          exact passed.append following

/-- The events of the items, in order, account for the items taken in order. -/
theorem accountsFor_mapM
    {transform : α -> Except Error β}
    {eventsOf : α -> List Event}
    {items : List α}
    (each : ∀ item ∈ items, AccountsFor (eventsOf item) (transform item)) :
    AccountsFor (items.flatMap eventsOf) (items.mapM transform) := by
  induction items with
  | nil => exact passed_nil
  | cons item items inductionHypothesis =>
      rw [List.forall_mem_cons] at each
      rw [List.flatMap_cons, List.mapM_cons]
      refine each.1.bind fun value _ => ?_
      rw [← List.append_nil (items.flatMap eventsOf)]
      exact (inductionHypothesis each.2).bind fun values _ => passed_nil

end

/-! ## The visit accounts for let elimination -/

section

variable {levels depth : Nat}
variable {head : Datum}
variable {operands : List Datum}

/-- What is accepted with some levels is accepted alone. -/
theorem acceptedAlone_of_eliminate
    {code result : Datum}
    (enough : levels ≤ maxNesting)
    (accepted : eliminate levels code = .ok result) :
    AcceptedAlone code := by
  obtain ⟨wellFormed, shallow⟩ := eliminate_accepts_iff.mp ⟨result, accepted⟩
  exact eliminate_accepts_iff.mpr ⟨wellFormed, Nat.le_trans shallow enough⟩

/-- The visit of a combination of the right shape accounts for its outcome when the visits
of its parts account for theirs. -/
theorem accountsFor_of_wellShaped
    (remaining : depth + (levels + 1) = maxNesting)
    (wellShaped : WellShaped (.list (head :: operands)))
    (each : ∀ part, AccountsFor (visit (depth + 1) part) (eliminate levels part)) :
    AccountsFor (visit depth (.list (head :: operands)))
      (eliminate (levels + 1) (.list (head :: operands))) := by
  have shallow : depth < maxNesting := by omega
  have enter : Passed [.enter depth (.list (head :: operands))] :=
    passed_enter (not_faulty_of_wellShaped shallow wellShaped)
  have parts :
      AccountsFor
        ((visitedParts (.list (head :: operands))).flatMap (visit (depth + 1)))
        (eliminate (levels + 1) (.list (head :: operands))) := by
    rw [eliminate_succ_list_cons,
      accountsFor_congr fun _ => eliminateCombination_eq_error_iff wellShaped]
    exact accountsFor_mapM fun part _ => each part
  rw [visit_list_cons]
  cases outcome : eliminate (levels + 1) (.list (head :: operands)) with
  | error error =>
      rw [outcome] at parts
      obtain ⟨before, inner, node, stops⟩ := parts
      exact ⟨_, inner, node, (enter.stopsAt stops).append _⟩
  | ok result =>
      rw [outcome] at parts
      have enough : levels + 1 ≤ maxNesting := by omega
      exact (enter.append parts).append
        (passed_leave (acceptedAlone_of_eliminate enough outcome))

/-- The visit of a combination of the wrong shape stops at once, at the combination. -/
theorem accountsFor_of_not_wellShaped
    (shallow : depth < maxNesting)
    (misshapen : ¬ WellShaped (.list (head :: operands))) :
    AccountsFor (visit depth (.list (head :: operands)))
      (eliminate (levels + 1) (.list (head :: operands))) := by
  obtain ⟨form, fault, rfl, refused⟩ := exists_malformed_of_not_wellShaped misshapen
  rw [visit_list_cons, eliminate_succ_list_cons, refused]
  exact ⟨[], depth, _, stopsAt_cons (.inr misshapen)
    { tooDeep := fun deep => absurd shallow (Nat.not_lt.mpr deep)
      misshapen := fun _ => ⟨form, fault, rfl, rfl, refused _⟩ }⟩

/-- The visit of code accounts for its outcome when the combinations around it have used
up all levels but those that are left. -/
theorem accountsFor_eliminate
    (remaining : depth + levels = maxNesting)
    (code : Datum) :
    AccountsFor (visit depth code) (eliminate levels code) := by
  -- Induction on the levels, which go down as the depth goes up.
  induction levels generalizing depth code with
  | zero =>
      obtain isAtom | ⟨head, operands, rfl⟩ := isAtom_or_combination code
      · rw [visit_of_isAtom depth isAtom, eliminate_of_isAtom 0 isAtom]
        exact passed_nil
      · have deep : maxNesting ≤ depth := Nat.le_of_eq remaining.symm
        rw [visit_list_cons, eliminate_zero_list_cons]
        exact ⟨[], depth, _, stopsAt_cons (.inl deep)
          { tooDeep := fun _ => rfl
            misshapen := fun shallow => absurd deep (Nat.not_le.mpr shallow) }⟩
  | succ levels inductionHypothesis =>
      obtain isAtom | ⟨head, operands, rfl⟩ := isAtom_or_combination code
      · rw [visit_of_isAtom depth isAtom, eliminate_of_isAtom _ isAtom]
        exact passed_nil
      · by_cases wellShaped : WellShaped (.list (head :: operands))
        · refine accountsFor_of_wellShaped remaining wellShaped fun part => ?_
          exact inductionHypothesis (by omega) part
        · exact accountsFor_of_not_wellShaped (by omega) wellShaped

end

/-- Code that is refused has a first fault, and the error blames that node. Every node
that the visit of the code has left before is accepted when it stands alone. -/
theorem withoutLet_error_blames_firstFault
    {code : Datum}
    {error : Error}
    (refused : code.withoutLet = .error error) :
    (∃ before depth node, FirstFault (visit 0 code) before depth node) ∧
      ∀ before depth node, FirstFault (visit 0 code) before depth node ->
        Blames error depth node ∧
          ∀ earlier, .leave earlier ∈ before -> AcceptedAlone earlier := by
  have accounts := accountsFor_eliminate (Nat.zero_add maxNesting) code
  change AccountsFor _ code.withoutLet at accounts
  rw [refused] at accounts
  obtain ⟨before, depth, node, stops⟩ := accounts
  refine ⟨⟨before, depth, node, stops.firstFault⟩, ?_⟩
  intro _ _ _ first
  obtain ⟨rfl, rfl, rfl⟩ := stops.firstFault.unique first
  exact ⟨stops.blames, stops.passed.accepted⟩

/-- The function `(lambda x x)`, whose parameters are no list. -/
def withoutParameters : Datum :=
  .list [Form.lambda.head, .symbol "x", .symbol "x"]

/-- The code `(let ((x (quote))) (lambda x x))`, of which the body and the value have the
wrong shape. -/
def faultyLet : Datum :=
  .list
    [Form.letForm.head,
      .list [.list [.symbol "x", .list [Form.quote.head]]],
      withoutParameters]

/-- The code `(g)`. -/
def call : Datum :=
  .list [.symbol "g"]

/-- The code `(f (g) (let ((x (quote))) (lambda x x)) (mu))`. -/
def severalFaults : Datum :=
  .list [.symbol "f", call, faultyLet, .list [Form.mu.head]]

theorem not_wellShaped_withoutParameters : ¬ WellShaped withoutParameters := by
  intro wellShaped
  have refused :
      eliminateCombination .ok Form.lambda.head [.symbol "x", .symbol "x"] =
        .error (.malformed .lambda (.parametersNotList (.symbol "x"))) := rfl
  rw [eliminateCombination_eq_error_iff wellShaped] at refused
  cases refused

/-- The first fault is in the body, after the call and before the value of the `let`. -/
theorem firstFault_severalFaults :
    FirstFault (visit 0 severalFaults)
      [.enter 0 severalFaults, .enter 1 call, .leave call, .enter 1 faultyLet]
      2 withoutParameters where
  reached := by
    have several :
        visit 0 severalFaults =
          [.enter 0 severalFaults] ++
            [.symbol "f", call, faultyLet, .list [Form.mu.head]].flatMap (visit 1) ++
              [.leave severalFaults] :=
      visit_list_cons 0 _ _
    have called :
        visit 1 call =
          [.enter 1 call] ++ [.symbol "g"].flatMap (visit 2) ++ [.leave call] :=
      visit_list_cons 1 _ _
    have bound :
        visit 1 faultyLet =
          [.enter 1 faultyLet] ++
            [withoutParameters, .list [Form.quote.head]].flatMap (visit 2) ++
              [.leave faultyLet] :=
      visit_list_cons 1 _ _
    have function :
        visit 2 withoutParameters =
          [.enter 2 withoutParameters] ++ [.symbol "x"].flatMap (visit 3) ++
            [.leave withoutParameters] :=
      visit_list_cons 2 _ _
    have symbol (name : String) (depth : Nat) : visit depth (.symbol name) = [] :=
      visit_of_isAtom depth rfl
    simp [several, called, bound, function, symbol]
  sound := by
    have several : WellShaped severalFaults :=
      .combination (form?_eq_none_iff.mp (rfl : severalFaults.form? = none))
    have called : WellShaped call :=
      .combination (form?_eq_none_iff.mp (rfl : call.form? = none))
    have bound : WellShaped faultyLet :=
      @WellShaped.letForm [("x", .list [Form.quote.head])] [withoutParameters]
        (by decide) (by simp)
    intro depth node member
    simp only [List.mem_cons, Event.enter.injEq, reduceCtorEq, List.not_mem_nil,
      or_false, false_or] at member
    obtain ⟨rfl, rfl⟩ | ⟨rfl, rfl⟩ | ⟨rfl, rfl⟩ := member
    · exact not_faulty_of_wellShaped (by decide) several
    · exact not_faulty_of_wellShaped (by decide) called
    · exact not_faulty_of_wellShaped (by decide) bound
  faulty := .inr not_wellShaped_withoutParameters

/-- The function without a list of parameters is blamed, although the value of the `let`
and what follows the `let` are faulty too, and the call before it is accepted. -/
theorem withoutLet_error_blames_withoutParameters :
    severalFaults.withoutLet =
        .error (.malformed .lambda (.parametersNotList (.symbol "x"))) ∧
      Blames (.malformed .lambda (.parametersNotList (.symbol "x")))
        2 withoutParameters ∧
      AcceptedAlone call := by
  have refused :
      severalFaults.withoutLet =
        .error (.malformed .lambda (.parametersNotList (.symbol "x"))) := rfl
  obtain ⟨-, eachFirst⟩ := withoutLet_error_blames_firstFault refused
  obtain ⟨blames, accepted⟩ := eachFirst _ _ _ firstFault_severalFaults
  exact ⟨refused, blames, accepted call (by simp)⟩

end LetElimination
end SExpr
