import SExpr.Proofs.Datum.Leaves
import SExpr.Proofs.LetElimination.Acceptance

/-!
# Eliminating lets twice

Rewritten code has no `let` left in it, so it is its own result. It may be deeper
than the code it comes from, though, since the bodies of a `let` stand one level
lower in the application that it becomes. Where that takes it past the limit,
eliminating lets once more refuses it as too deep; elsewhere it changes nothing.
-/

namespace SExpr
namespace LetElimination

section

variable {levels : Nat}
variable {code head result : Datum}

/-- A combination is rewritten to a list. -/
theorem Rewrites.exists_eq_list
    {rewritten : Datum -> Datum -> Prop}
    {operands : List Datum}
    (rewrites : Rewrites rewritten head operands result) :
    ∃ items, result = .list items := by
  cases rewrites with
  | quote operand => exact ⟨_, rfl⟩
  | function => exact ⟨_, rfl⟩
  | letForm => exact ⟨_, rfl⟩
  | combination => exact ⟨_, rfl⟩

/-- Only a symbol is rewritten to a symbol, and then to itself. -/
theorem eq_symbol_of_eliminate
    {name : String}
    (accepted : eliminate levels code = .ok (.symbol name)) :
    code = .symbol name := by
  obtain ⟨-, kept⟩ | ⟨_, _, _, -, -, rewrites⟩ :=
    eliminate_eq_ok_iff.mp accepted
  · exact kept.symm
  · obtain ⟨items, shape⟩ := rewrites.exists_eq_list
    cases shape

/-- Rewriting the head of a combination makes no special form of it. -/
theorem form?_eq_none_of_eliminate
    {operands results : List Datum}
    (noForm : (Datum.list (head :: operands)).form? = none)
    (accepted : eliminate levels head = .ok result) :
    (Datum.list (result :: results)).form? = none := by
  rw [form?_eq_none_iff] at noForm ⊢
  rintro form rfl
  exact noForm form (eq_symbol_of_eliminate accepted)

/-- The check of a function form only counts the bodies. -/
theorem checkFunction_congr
    {bodies others : List Datum}
    (sameLength : bodies.length = others.length)
    (form : Form)
    (target : Datum) :
    checkFunction form target bodies = checkFunction form target others := by
  unfold checkFunction checkTarget
  rw [sameLength]

/-- Items that are each related to themselves are so together. -/
theorem forall₂_self_of_forall₂
    {relation : β -> β -> Prop}
    {items : List α}
    {others : List β}
    (each : List.Forall₂ (fun _ other => relation other other) items others) :
    List.Forall₂ relation others others :=
  List.forall₂_same.mpr (forall_mem_of_forall₂ each.flip)

theorem ne_nil_of_forall₂
    {relation : α -> β -> Prop}
    {items : List α}
    {others : List β}
    (each : List.Forall₂ relation items others)
    (present : items ≠ []) :
    others ≠ [] := by
  rintro rfl
  exact present (List.forall₂_nil_right_iff.mp each)

/-- What a part of code is rewritten to, it being its own result. -/
def Settles
    (levels : Nat)
    (part rewritten : Datum) : Prop :=
  eliminate levels part = .ok rewritten ∧ EliminatesTo rewritten rewritten

/-- The rules give a result that is its own when they do so for the parts. -/
theorem eliminatesTo_self_of_rewrites
    {operands : List Datum}
    (rewrites : Rewrites (Settles levels) head operands result) :
    EliminatesTo result result := by
  have parts {items results : List Datum}
      (each : List.Forall₂ (Settles levels) items results) :
      List.Forall₂ EliminatesTo results results :=
    forall₂_self_of_forall₂ (each.imp fun _ _ settles => settles.2)
  cases rewrites with
  | quote operand => exact eliminatesTo_of_rewrites (.quote operand)
  | function function present shape each =>
      rw [checkFunction_congr each.length_eq] at shape
      exact eliminatesTo_of_rewrites
        (.function function (ne_nil_of_forall₂ each present) shape (parts each))
  | letForm present shape eachBody eachValue =>
      exact eliminatesTo_application (ne_nil_of_forall₂ eachBody present) shape
        (parts eachBody) (parts eachValue)
  | combination noForm each =>
      cases each with
      | cons first others =>
          exact eliminatesTo_of_rewrites
            (.combination (form?_eq_none_of_eliminate noForm first.1)
              (parts (.cons first others)))

/-- Rewritten code is its own result. -/
theorem eliminatesTo_self_of_eliminate
    (accepted : eliminate levels code = .ok result) :
    EliminatesTo result result := by
  refine eliminate_induction
    (motive := fun _ rewritten => EliminatesTo rewritten rewritten)
    ?_ ?_ accepted
  · intro code isAtom
    exact eliminatesTo_of_isAtom isAtom
  · intro _ head operands result rewrites
    exact eliminatesTo_self_of_rewrites rewrites

end

/-- Eliminating lets from rewritten code changes nothing unless the code is too
deep by now, and then it is refused for that. -/
theorem withoutLet_withoutLet
    {code result : Datum}
    (accepted : code.withoutLet = .ok result) :
    result.withoutLet =
      if result.codeDepth ≤ maxNesting then .ok result
      else .error .nestingTooDeep :=
  eliminatesTo_self_of_eliminate accepted maxNesting

/-- The code `(let ((x (let ((y 1)) y))) (lambda (z) (let ((w z)) w)))`. -/
def threeLets : Datum :=
  .list
    [Form.letForm.head,
      .list
        [.list
          [.symbol "x",
            .list
              [Form.letForm.head,
                .list [.list [.symbol "y", .integer 1]], .symbol "y"]]],
      .list
        [Form.lambda.head, .list [.symbol "z"],
          .list
            [Form.letForm.head, .list [.list [.symbol "w", .symbol "z"]],
              .symbol "w"]]]

/-- The code `((lambda (x) (lambda (z) ((lambda (w) w) z))) ((lambda (y) y) 1))`. -/
def threeApplications : Datum :=
  .list
    [.list
        [Form.lambda.head, .list [.symbol "x"],
          .list
            [Form.lambda.head, .list [.symbol "z"],
              .list
                [.list [Form.lambda.head, .list [.symbol "w"], .symbol "w"],
                  .symbol "z"]]],
      .list
        [.list [Form.lambda.head, .list [.symbol "y"], .symbol "y"],
          .integer 1]]

/-- Lets in the value and in the body of a `let` are all gone after one pass. -/
theorem withoutLet_threeApplications :
    threeLets.withoutLet = .ok threeApplications ∧
      threeApplications.withoutLet = .ok threeApplications := by
  have accepted : threeLets.withoutLet = .ok threeApplications := rfl
  have shallow : threeApplications.codeDepth ≤ maxNesting := by decide
  have again := withoutLet_withoutLet accepted
  rw [if_pos shallow] at again
  exact ⟨accepted, again⟩

/-- The code `(let () x)`. -/
def emptyLet : Datum :=
  .list [Form.letForm.head, .list [], .symbol "x"]

/-- The code `((lambda () x))`. -/
def emptyApplication : Datum :=
  .list [.list [Form.lambda.head, .list [], .symbol "x"]]

/-- A `let` on the last level that code may have becomes an application that is
one level deeper, so that it is accepted itself and its rewritten form is not. -/
theorem withoutLet_emptyApplication_eq_error :
    (emptyLet.inLists 127).withoutLet = .ok (emptyApplication.inLists 127) ∧
      (emptyApplication.inLists 127).withoutLet = .error .nestingTooDeep := by
  decide +kernel

end LetElimination
end SExpr
