import SExpr.Proofs.LetElimination.Levels

/-!
# How much deeper let elimination makes data

The bodies of a `let` come to stand inside a function that is itself the head of an
application, so each of them moves down by one level. The values of its bindings move
up, out of the binding and the list of bindings, and the names that it binds stand no
deeper than the bindings did. So no combination gets more than one level on top of
those it has, and the levels of a datum are at most doubled. Lets without bindings, one
in the body of the other, are doubled exactly.
-/

namespace SExpr
namespace LetElimination

open Datum (levelsOfAll)

/-! ## At most twice the levels -/

/-- The result of a piece of code has at most twice its levels. -/
def AtMostDoubled (code result : Datum) : Prop :=
  result.levels ≤ 2 * code.levels

theorem levelsOfAll_le_of_atMostDoubled
    {codes results : List Datum}
    (each : List.Forall₂ AtMostDoubled codes results) :
    levelsOfAll results ≤ 2 * levelsOfAll codes := by
  induction each with
  | nil => exact Nat.zero_le _
  | cons first _ inductionHypothesis =>
      unfold AtMostDoubled at first
      rw [Datum.levelsOfAll_cons, Datum.levelsOfAll_cons]
      omega

/-- The names that a `let` binds have no more levels than its bindings. -/
theorem levels_boundNames_le (pairs : List (String × Datum)) :
    (Datum.list (boundNames pairs)).levels ≤
      (Datum.list (pairs.map bindingDatum)).levels := by
  cases pairs with
  | nil => exact Nat.le_refl _
  | cons pair others =>
      have names := levels_list_symbols_le ((pair :: others).map Prod.fst)
      rw [← boundNames_eq] at names
      rw [List.map_cons, Datum.levels_list_cons (bindingDatum pair)]
      omega

/-- The values of bindings have fewer levels than the list of the bindings. -/
theorem levelsOfAll_values_le (pairs : List (String × Datum)) :
    levelsOfAll (pairs.map Prod.snd) ≤
      (Datum.list (pairs.map bindingDatum)).levels := by
  refine Datum.levelsOfAll_le_iff.mpr fun value member => ?_
  obtain ⟨pair, among, rfl⟩ := List.mem_map.mp member
  have inBinding : pair.2.levels < (bindingDatum pair).levels :=
    Datum.levels_lt_of_mem (by simp)
  have inBindings :
      (bindingDatum pair).levels < (Datum.list (pairs.map bindingDatum)).levels :=
    Datum.levels_lt_of_mem (List.mem_map_of_mem among)
  omega

/-- A combination is at most doubled when its parts are. -/
theorem atMostDoubled_of_rewrites
    {head result : Datum}
    {operands : List Datum}
    (rewrites : Rewrites AtMostDoubled head operands result) :
    AtMostDoubled (.list (head :: operands)) result := by
  unfold AtMostDoubled
  rw [Datum.levels_list_cons]
  cases rewrites with
  | quote operand =>
      rw [Datum.quoted, Datum.levels_list_cons]
      omega
  | function _ _ _ each =>
      have bodies := levelsOfAll_le_of_atMostDoubled each
      rw [Datum.levels_list_cons]
      simp only [Datum.levelsOfAll_cons]
      omega
  | @letForm pairs bodies results values _ _ eachBody eachValue =>
      have bodiesLevels := levelsOfAll_le_of_atMostDoubled eachBody
      have valuesLevels := levelsOfAll_le_of_atMostDoubled eachValue
      have names := levels_boundNames_le pairs
      have valuesInside := levelsOfAll_values_le pairs
      simp only [Datum.levels_list_cons, Datum.levelsOfAll_cons, Form.head,
        Datum.levels_symbol]
      omega
  | combination _ each =>
      have itemLevels := levelsOfAll_le_of_atMostDoubled each
      cases each with
      | cons =>
          rw [Datum.levels_list_cons]
          omega

theorem atMostDoubled_of_eliminate
    {levels : Nat}
    {code result : Datum}
    (accepted : eliminate levels code = .ok result) :
    AtMostDoubled code result := by
  refine eliminate_induction (motive := AtMostDoubled) ?_ ?_ accepted
  · intro code _
    unfold AtMostDoubled
    omega
  · intro _ head operands result rewrites
    exact atMostDoubled_of_rewrites (rewrites.imp fun _ _ part => part.2)

/-! ## Exactly twice the levels -/

/-- A number of lets without bindings, each in the body of the one before:
`(let () (let () ... name))`. -/
def bodyLets (name : String) : (count : Nat) -> Datum
  | 0 => .symbol name
  | count + 1 => .list [Form.letForm.head, .list [], bodyLets name count]

/-- The applications that such lets become:
`((lambda () ((lambda () ... name))))`. -/
def bodyApplications (name : String) : (count : Nat) -> Datum
  | 0 => .symbol name
  | count + 1 =>
      .list [.list [Form.lambda.head, .list [], bodyApplications name count]]

theorem levels_bodyLets
    (name : String)
    (count : Nat) :
    (bodyLets name count).levels = count := by
  induction count with
  | zero => exact Datum.levels_symbol name
  | succ count inductionHypothesis =>
      simp [bodyLets, Datum.levels_list_cons, Form.head, inductionHypothesis]

theorem levels_bodyApplications
    (name : String)
    (count : Nat) :
    (bodyApplications name count).levels = 2 * count := by
  induction count with
  | zero => exact Datum.levels_symbol name
  | succ count inductionHypothesis =>
      simp [bodyApplications, Datum.levels_list_cons, Form.head,
        inductionHypothesis]
      omega

/-- Lets without bindings are accepted with as many levels as there are lets. -/
theorem eliminate_bodyLets
    (name : String)
    {count levels : Nat}
    (enough : count ≤ levels) :
    eliminate levels (bodyLets name count) =
      .ok (bodyApplications name count) := by
  induction count generalizing levels with
  | zero => exact eliminate_of_isAtom levels rfl
  | succ count inductionHypothesis =>
      obtain ⟨levels, rfl⟩ := Nat.exists_eq_add_of_le' enough
      rw [bodyLets, ← Nat.add_assoc, eliminate_succ_list_cons,
        eliminateCombination_eq_ok_iff]
      have body := inductionHypothesis (Nat.le_add_left count levels)
      exact @Rewrites.letForm _ [] _ _ _ (List.cons_ne_nil _ _) rfl
        (.cons body .nil) .nil

/-- Let elimination gives no datum more than twice its levels. Up to the limit there
is, for every number of levels, a datum that it gives exactly twice as many. -/
theorem levels_withoutLet_le_two_mul :
    (∀ code result : Datum, code.withoutLet = .ok result ->
      result.levels ≤ 2 * code.levels) ∧
    ∀ (name : String) (count : Nat), count ≤ maxNesting ->
      (bodyLets name count).levels = count ∧
      (bodyLets name count).withoutLet = .ok (bodyApplications name count) ∧
      (bodyApplications name count).levels = 2 * count := by
  refine ⟨fun code result accepted => atMostDoubled_of_eliminate accepted, ?_⟩
  intro name count enough
  exact ⟨levels_bodyLets name count, eliminate_bodyLets name enough,
    levels_bodyApplications name count⟩

/-- The code `(let ((f (lambda (x) (let () x)))) (f '(1 (2))))`, with a `let` in a value
and with quoted data. -/
def mixedLet : Datum :=
  .list
    [Form.letForm.head,
      .list
        [.list
          [.symbol "f",
            .list [Form.lambda.head, .list [.symbol "x"], bodyLets "x" 1]]],
      .list
        [.symbol "f", (Datum.list [.integer 1, .list [.integer 2]]).quoted]]

/-- The code `((lambda (f) (f '(1 (2)))) (lambda (x) ((lambda () x))))`. -/
def mixedApplication : Datum :=
  .list
    [.list
      [Form.lambda.head, .list [.symbol "f"],
        .list
          [.symbol "f", (Datum.list [.integer 1, .list [.integer 2]]).quoted]],
      .list [Form.lambda.head, .list [.symbol "x"], bodyApplications "x" 1]]

/-- Where the deepest data are quoted in a body, a `let` gets one level more, and the
deepest lets that are accepted get as many again as the limit allows. -/
theorem levels_withoutLet_le_two_mul_mixedLet :
    mixedLet.withoutLet = .ok mixedApplication ∧ mixedLet.levels = 5 ∧
      mixedApplication.levels = 6 ∧
      mixedApplication.levels ≤ 2 * mixedLet.levels ∧
      128 ≤ maxNesting ∧ (bodyLets "x" 128).levels = 128 ∧
      (bodyLets "x" 128).withoutLet = .ok (bodyApplications "x" 128) ∧
      (bodyApplications "x" 128).levels = 2 * 128 := by
  have accepted : mixedLet.withoutLet = .ok mixedApplication := by
    decide +kernel
  have enough : 128 ≤ maxNesting := Nat.le_refl _
  obtain ⟨atMost, exactly⟩ := levels_withoutLet_le_two_mul
  exact ⟨accepted, by decide +kernel, by decide +kernel, atMost _ _ accepted,
    enough, exactly "x" 128 enough⟩

end LetElimination
end SExpr
