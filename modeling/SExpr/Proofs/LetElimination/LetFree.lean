import SExpr.Proofs.LetElimination.Idempotence
import SExpr.Proofs.LetElimination.Levels

/-!
# Code without lets

Let elimination is complete: no `let` stands where the rewritten code is code. It is
also sparing: code that has no `let` in such a place is its own result, whatever its
parameters and its quoted data look like, and code that has one is not.
-/

namespace SExpr
namespace LetElimination

open Datum (codeParts)

/-- No `let` is among the pieces of code that stand in code. -/
def LetFree (code : Datum) : Prop :=
  ∀ operands, ¬ CodeIn (.list (Form.letForm.head :: operands)) code

/-- Code is free of lets when it is no `let` and its parts are free of lets. -/
theorem letFree_iff
    {code : Datum} :
    LetFree code ↔
      (∀ operands, code ≠ .list (Form.letForm.head :: operands)) ∧
        ∀ part ∈ codeParts code, LetFree part := by
  constructor
  · intro free
    exact
      ⟨fun operands same => free operands (same ▸ .self),
        fun part member operands inside => free operands (.part member inside)⟩
  · rintro ⟨notLet, each⟩ operands inside
    cases inside with
    | self => exact notLet operands rfl
    | part member inside => exact each _ member operands inside

/-- An atom is free of lets. -/
theorem letFree_of_isAtom
    {code : Datum}
    (isAtom : code.isAtom = true) :
    LetFree code := by
  rw [letFree_iff, codeParts_of_isAtom isAtom]
  refine ⟨?_, fun part member => by cases member⟩
  rintro operands rfl
  cases isAtom

section

variable {head target : Datum}
variable {operands bodies : List Datum}

/-- A combination that is a `let` is one by its form. -/
theorem form?_eq_letForm_iff :
    (Datum.list (head :: operands)).form? = some .letForm ↔
      ∃ others, Datum.list (head :: operands) =
        .list (Form.letForm.head :: others) := by
  constructor
  · intro found
    exact ⟨operands, by rw [head_eq_of_form? found]⟩
  · rintro ⟨others, same⟩
    rw [same, form?_head]

/-- A combination is free of lets when its form is not `let` and its parts are free
of lets. -/
theorem letFree_list_cons_iff :
    LetFree (.list (head :: operands)) ↔
      (Datum.list (head :: operands)).form? ≠ some .letForm ∧
        ∀ part ∈ codeParts (.list (head :: operands)), LetFree part := by
  rw [letFree_iff, ne_eq, form?_eq_letForm_iff, not_exists]

/-- A quotation is free of lets, whatever it quotes. -/
theorem letFree_quoted (operand : Datum) : LetFree operand.quoted := by
  rw [Datum.quoted, letFree_list_cons_iff, form?_head, codeParts_quote]
  exact ⟨by decide, fun part member => by cases member⟩

/-- A function form is free of lets when its bodies are, whatever its target is. -/
theorem letFree_function
    {form : Form}
    (function : form ≠ .quote ∧ form ≠ .letForm)
    (each : ∀ body ∈ bodies, LetFree body) :
    LetFree (.list (form.head :: target :: bodies)) := by
  rw [letFree_list_cons_iff, form?_head, codeParts_function function]
  exact ⟨fun same => function.2 (Option.some.inj same), each⟩

/-- A combination that is no special form is free of lets when its elements are. -/
theorem letFree_combination
    (noForm : (Datum.list (head :: operands)).form? = none)
    (each : ∀ item ∈ head :: operands, LetFree item) :
    LetFree (.list (head :: operands)) := by
  rw [letFree_list_cons_iff, noForm, codeParts_of_noForm noForm]
  exact ⟨by decide, each⟩

end

section

variable {levels : Nat}
variable {code head result : Datum}
variable {operands : List Datum}

/-- The rules give a result without lets when they do so for the parts. -/
theorem letFree_of_rewrites
    (rewrites :
      Rewrites
        (fun part rewritten =>
          eliminate levels part = .ok rewritten ∧ LetFree rewritten)
        head operands result) :
    LetFree result := by
  have free {parts others : List Datum}
      (each : List.Forall₂
        (fun part rewritten =>
          eliminate levels part = .ok rewritten ∧ LetFree rewritten)
        parts others) :
      ∀ other ∈ others, LetFree other :=
    forall_mem_of_forall₂ (each.imp fun _ _ part => part.2).flip
  cases rewrites with
  | quote operand => exact letFree_quoted operand
  | function function _ _ each => exact letFree_function function (free each)
  | @letForm pairs bodies results values _ _ eachBody eachValue =>
      -- The `let` has become an application, and its bodies those of a function.
      have function :
          LetFree
            (.list (Form.lambda.head :: .list (boundNames pairs) :: results)) :=
        letFree_function (by decide) (free eachBody)
      exact letFree_combination rfl
        (List.forall_mem_cons.mpr ⟨function, free eachValue⟩)
  | combination noForm each =>
      cases each with
      | cons first others =>
          exact letFree_combination (form?_eq_none_of_eliminate noForm first.1)
            (free (.cons first others))

/-- Rewritten code is free of lets. -/
theorem letFree_of_eliminate
    (accepted : eliminate levels code = .ok result) :
    LetFree result := by
  refine eliminate_induction (motive := fun _ rewritten => LetFree rewritten)
    ?_ ?_ accepted
  · intro code isAtom
    exact letFree_of_isAtom isAtom
  · intro _ head operands result rewrites
    exact letFree_of_rewrites rewrites

/-- Items that are kept where they are free of lets are kept together. -/
theorem eq_of_forall₂_of_letFree
    {items others : List Datum}
    (each : List.Forall₂
      (fun part rewritten => LetFree part -> rewritten = part) items others)
    (free : ∀ item ∈ items, LetFree item) :
    others = items := by
  induction each with
  | nil => rfl
  | cons first _ inductionHypothesis =>
      rw [List.forall_mem_cons] at free
      rw [first free.1, inductionHypothesis free.2]

/-- The rules keep a combination without lets when they keep its parts. -/
theorem eq_of_rewrites_of_letFree
    (rewrites :
      Rewrites (fun part rewritten => LetFree part -> rewritten = part)
        head operands result)
    (free : LetFree (.list (head :: operands))) :
    result = .list (head :: operands) := by
  rw [letFree_iff] at free
  cases rewrites with
  | quote operand => rfl
  | function function _ _ each =>
      rw [codeParts_function function] at free
      rw [eq_of_forall₂_of_letFree each free.2]
  | letForm => exact absurd rfl (free.1 _)
  | combination noForm each =>
      rw [codeParts_of_noForm noForm] at free
      rw [eq_of_forall₂_of_letFree each free.2]

/-- Code without lets is its own result. -/
theorem eq_of_eliminate_of_letFree
    (accepted : eliminate levels code = .ok result)
    (free : LetFree code) :
    result = code := by
  refine eliminate_induction
    (motive := fun code result => LetFree code -> result = code)
    ?_ ?_ accepted free
  · intro code _ _
    rfl
  · intro _ head operands result rewrites
    exact eq_of_rewrites_of_letFree (rewrites.imp fun _ _ part => part.2)

/-- Rewritten code is the same code exactly when there was no `let` in it. -/
theorem eq_iff_letFree_of_eliminate
    (accepted : eliminate levels code = .ok result) :
    result = code ↔ LetFree code := by
  constructor
  · rintro rfl
    exact letFree_of_eliminate accepted
  · exact eq_of_eliminate_of_letFree accepted

end

/-- No `let` is left in rewritten code, and code is kept exactly when there is no
`let` in it. -/
theorem letFree_and_eq_iff_of_withoutLet
    {code result : Datum}
    (accepted : code.withoutLet = .ok result) :
    LetFree result ∧ (result = code ↔ LetFree code) :=
  ⟨letFree_of_eliminate accepted, eq_iff_letFree_of_eliminate accepted⟩

/-- The code `(lambda (let x) (quote (let ((y 1)) y)))`. -/
def likeLets : Datum :=
  .list
    [Form.lambda.head, .list [Form.letForm.head, .symbol "x"],
      Datum.quoted
        (.list
          [Form.letForm.head, .list [.list [.symbol "y", .integer 1]],
            .symbol "y"])]

/-- The code `((let () f) (define (g) (let ((y (let () 1))) y)))`. -/
def hiddenLets : Datum :=
  .list
    [.list [Form.letForm.head, .list [], .symbol "f"],
      .list
        [Form.define.head, .list [.symbol "g"],
          .list
            [Form.letForm.head,
              .list
                [.list
                  [.symbol "y",
                    .list [Form.letForm.head, .list [], .integer 1]]],
              .symbol "y"]]]

/-- The code `(((lambda () f)) (define (g) ((lambda (y) y) ((lambda () 1)))))`. -/
def hiddenApplications : Datum :=
  .list
    [.list [.list [Form.lambda.head, .list [], .symbol "f"]],
      .list
        [Form.define.head, .list [.symbol "g"],
          .list
            [.list [Form.lambda.head, .list [.symbol "y"], .symbol "y"],
              .list [.list [Form.lambda.head, .list [], .integer 1]]]]]

/-- A parameter `let` and a quoted `let` are kept and are none, and the lets in a
head, in a definition and in a value are found. -/
theorem letFree_likeLets_and_hiddenApplications :
    likeLets.withoutLet = .ok likeLets ∧ LetFree likeLets ∧
      hiddenLets.withoutLet = .ok hiddenApplications ∧
      LetFree hiddenApplications ∧ ¬ LetFree hiddenLets := by
  have kept : likeLets.withoutLet = .ok likeLets := rfl
  have changed : hiddenLets.withoutLet = .ok hiddenApplications := rfl
  have differ : hiddenApplications ≠ hiddenLets := by decide
  have found := letFree_and_eq_iff_of_withoutLet changed
  exact
    ⟨kept, (letFree_and_eq_iff_of_withoutLet kept).2.mp rfl, changed, found.1,
      fun free => differ (found.2.mpr free)⟩

end LetElimination
end SExpr
