import SExpr.Proofs.Evaluation.Basic
import SExpr.Proofs.LetElimination.Rewriting

/-!
# Code up to the elimination of lets

Code and its rewritten form are related by eliminating some of the lets that
stand where code is evaluated. The relation is larger than let elimination: it
lets every let be kept as well, so it also relates the parts of a combination
that let elimination does not look into, such as the target of a definition, with
themselves. What evaluation needs to know of it is how each kind of combination
is related to others, from the one side and from the other.
-/

namespace SExpr
namespace Evaluation

/-- Two pieces of code differ by the elimination of some lets, in places that are
evaluated as code. What is quoted and the parameters of functions are the same,
and so is everything in a piece of code that is kept as a whole. -/
inductive Desugars : Datum -> Datum -> Prop
  | same (code : Datum) : Desugars code code
  | lambda
      {head parameters : Datum}
      {bodies bodies' : List Datum}
      (rule : Rule.ofHead head = .lambda)
      (each : List.Forall₂ Desugars bodies bodies') :
      Desugars (.list (head :: parameters :: bodies))
        (.list (head :: parameters :: bodies'))
  | parts
      {head head' : Datum}
      {operands operands' : List Datum}
      (rule : Rule.ofHead head = .conditional ∨
        Rule.ofHead head = .application)
      (heads : Desugars head head')
      (each : List.Forall₂ Desugars operands operands') :
      Desugars (.list (head :: operands)) (.list (head' :: operands'))
  | letForm
      {head : Datum}
      {bindings bodies bodies' values : List Datum}
      {pairs : List (String × Datum)}
      (rule : Rule.ofHead head = .letForm)
      (read : bindings.mapM binding? = some pairs)
      (eachBody : List.Forall₂ Desugars bodies bodies')
      (eachValue : List.Forall₂ Desugars (pairs.map Prod.snd) values) :
      Desugars (.list (head :: .list bindings :: bodies))
        (.list
          (.list (Form.lambda.head ::
            .list (LetElimination.boundNames pairs) :: bodies') :: values))

namespace Desugars

/-- Lists of the same code. -/
theorem sameAll (codes : List Datum) : List.Forall₂ Desugars codes codes :=
  List.forall₂_same.mpr fun code _ => .same code

/-- Code that differs by the elimination of lets heads combinations that are
evaluated alike. -/
theorem ofHead_eq
    {head head' : Datum}
    (related : Desugars head head') :
    Rule.ofHead head = Rule.ofHead head' := by
  cases related <;> rfl

/-- An atom is kept. -/
theorem of_isAtom
    {code code' : Datum}
    (related : Desugars code code')
    (atom : code.isAtom = true) :
    code' = code := by
  cases related <;> simp_all

/-- Only an atom becomes one. -/
theorem to_isAtom
    {code code' : Datum}
    (related : Desugars code code')
    (atom : code'.isAtom = true) :
    code = code' := by
  cases related <;> simp_all

section

variable {code head : Datum}
variable {operands : List Datum}

/-- A quotation is kept. -/
theorem of_quote
    (related : Desugars (.list (head :: operands)) code)
    (rule : Rule.ofHead head = .quote) :
    code = .list (head :: operands) := by
  cases related <;> simp_all

/-- Only a quotation becomes one. -/
theorem to_quote
    (related : Desugars code (.list (head :: operands)))
    (rule : Rule.ofHead head = .quote) :
    code = .list (head :: operands) := by
  cases related with
  | same => rfl
  | lambda rule' each => simp_all
  | parts rule' heads each => simp_all [heads.ofHead_eq]
  | letForm rule' read eachBody eachValue => cases rule

/-- A function keeps its parameters. -/
theorem of_lambda
    {parameters : Datum}
    {bodies : List Datum}
    (related : Desugars (.list (head :: parameters :: bodies)) code)
    (rule : Rule.ofHead head = .lambda) :
    ∃ bodies', code = .list (head :: parameters :: bodies') ∧
      List.Forall₂ Desugars bodies bodies' := by
  cases related with
  | same => exact ⟨bodies, rfl, sameAll bodies⟩
  | lambda _ each => exact ⟨_, rfl, each⟩
  | parts rule' => simp_all
  | letForm rule' => simp_all

/-- Only a function with the same parameters becomes one. -/
theorem to_lambda
    {parameters : Datum}
    {bodies' : List Datum}
    (related : Desugars code (.list (head :: parameters :: bodies')))
    (rule : Rule.ofHead head = .lambda) :
    ∃ bodies, code = .list (head :: parameters :: bodies) ∧
      List.Forall₂ Desugars bodies bodies' := by
  cases related with
  | same => exact ⟨bodies', rfl, sameAll bodies'⟩
  | lambda _ each => exact ⟨_, rfl, each⟩
  | parts rule' heads => simp_all [heads.ofHead_eq]
  | letForm => cases rule

/-- A conditional or an application stays one, part by part. -/
theorem of_parts
    (related : Desugars (.list (head :: operands)) code)
    (rule : Rule.ofHead head = .conditional ∨
      Rule.ofHead head = .application) :
    ∃ head' operands', code = .list (head' :: operands') ∧
      Desugars head head' ∧ List.Forall₂ Desugars operands operands' := by
  cases related with
  | same => exact ⟨head, operands, rfl, .same head, sameAll operands⟩
  | lambda rule' => simp_all
  | parts _ heads each => exact ⟨_, _, rfl, heads, each⟩
  | letForm rule' => simp_all

/-- Only a conditional becomes one, part by part. -/
theorem to_conditional
    (related : Desugars code (.list (head :: operands)))
    (rule : Rule.ofHead head = .conditional) :
    ∃ head' operands', code = .list (head' :: operands') ∧
      Desugars head' head ∧ List.Forall₂ Desugars operands' operands := by
  cases related with
  | same => exact ⟨head, operands, rfl, .same head, sameAll operands⟩
  | lambda rule' => simp_all
  | parts _ heads each => exact ⟨_, _, rfl, heads, each⟩
  | letForm => cases rule

/-- A `let` is kept as a whole or becomes the application of a function. -/
theorem of_letForm
    {bindings bodies : List Datum}
    {pairs : List (String × Datum)}
    (related : Desugars (.list (head :: .list bindings :: bodies)) code)
    (rule : Rule.ofHead head = .letForm)
    (read : bindings.mapM binding? = some pairs) :
    code = .list (head :: .list bindings :: bodies) ∨
      ∃ bodies' values,
        code = .list
          (.list (Form.lambda.head ::
            .list (LetElimination.boundNames pairs) :: bodies') :: values) ∧
        List.Forall₂ Desugars bodies bodies' ∧
        List.Forall₂ Desugars (pairs.map Prod.snd) values := by
  cases related with
  | same => exact .inl rfl
  | lambda rule' => simp_all
  | parts rule' => simp_all
  | letForm _ read' eachBody eachValue =>
      obtain rfl := Option.some.inj (read.symm.trans read')
      exact .inr ⟨_, _, rfl, eachBody, eachValue⟩

/-- A `let` is there afterwards only where it was kept as a whole. -/
theorem to_letForm
    (related : Desugars code (.list (head :: operands)))
    (rule : Rule.ofHead head = .letForm) :
    code = .list (head :: operands) := by
  cases related with
  | same => rfl
  | lambda rule' => simp_all
  | parts rule' heads => simp_all [heads.ofHead_eq]
  | letForm => cases rule

/-- An application was one before, part by part, or it was made from a `let`. -/
theorem to_application
    (related : Desugars code (.list (head :: operands)))
    (rule : Rule.ofHead head = .application) :
    (∃ head' operands', code = .list (head' :: operands') ∧
      Desugars head' head ∧ List.Forall₂ Desugars operands' operands) ∨
    ∃ keyword bindings pairs bodies bodies',
      code = .list (keyword :: .list bindings :: bodies) ∧
      Rule.ofHead keyword = .letForm ∧
      bindings.mapM binding? = some pairs ∧
      head = .list (Form.lambda.head ::
        .list (LetElimination.boundNames pairs) :: bodies') ∧
      List.Forall₂ Desugars bodies bodies' ∧
      List.Forall₂ Desugars (pairs.map Prod.snd) operands := by
  cases related with
  | same => exact .inl ⟨head, operands, rfl, .same head, sameAll operands⟩
  | lambda rule' => simp_all
  | parts _ heads each => exact .inl ⟨_, _, rfl, heads, each⟩
  | letForm rule' read eachBody eachValue =>
      exact .inr ⟨_, _, _, _, _, rfl, rule', read, rfl, eachBody, eachValue⟩

end

end Desugars

/-- A head that is no special form is a conditional or an application. -/
theorem rule_of_form?_eq_none
    {head : Datum}
    {operands : List Datum}
    (noForm : (Datum.list (head :: operands)).form? = none) :
    Rule.ofHead head = .conditional ∨ Rule.ofHead head = .application := by
  cases head with
  | symbol name =>
      have unknown : Form.ofKeyword? name = none := noForm
      rw [Rule.ofHead, Rule.ofName, unknown]
      by_cases conditional : name = "if"
      · exact .inl (if_pos conditional)
      · exact .inr (if_neg conditional)
  | integer | float | boolean | list => exact .inr rfl

/-- Bindings that let elimination reads are read alike by evaluation. -/
theorem mapM_binding?_bindingDatum (pairs : List (String × Datum)) :
    (pairs.map LetElimination.bindingDatum).mapM binding? = some pairs := by
  induction pairs with
  | nil => rfl
  | cons pair pairs inductionHypothesis =>
      have first : binding? (LetElimination.bindingDatum pair) = some pair := by
        simp [binding?, LetElimination.bindingDatum, Datum.text, Datum.written,
          Datum.writtenBefore]
      rw [List.map_cons, List.mapM_cons, first, inductionHypothesis]
      rfl

/-- Every rule of let elimination eliminates lets where code is evaluated. -/
theorem desugars_of_rewrites
    {rewritten : Datum -> Datum -> Prop}
    (inner : ∀ part result, rewritten part result -> Desugars part result)
    {head result : Datum}
    {operands : List Datum}
    (rewrites : LetElimination.Rewrites rewritten head operands result) :
    Desugars (.list (head :: operands)) result := by
  cases rewrites with
  | quote operand => exact .same _
  | @function form target bodies results function _ _ each =>
      have parts := each.imp inner
      cases form with
      | quote => exact absurd rfl function.1
      | letForm => exact absurd rfl function.2
      | lambda => exact .lambda rfl parts
      | mu | define =>
          exact .parts (.inr rfl) (.same _) (.cons (.same target) parts)
  | letForm _ _ eachBody eachValue =>
      exact .letForm rfl (mapM_binding?_bindingDatum _) (eachBody.imp inner)
        (eachValue.imp inner)
  | combination noForm each =>
      cases each with
      | cons heads others =>
          exact .parts (rule_of_form?_eq_none noForm) (inner _ _ heads)
            (others.imp inner)

/-- Let elimination eliminates lets where code is evaluated. -/
theorem desugars_of_eliminate
    {levels : Nat}
    {code result : Datum}
    (eliminated : LetElimination.eliminate levels code = .ok result) :
    Desugars code result := by
  refine LetElimination.eliminate_induction ?_ ?_ eliminated
  · intro code _
    exact .same code
  · intro _ head operands result rewrites
    exact desugars_of_rewrites (fun _ _ part => part.2) rewrites

end Evaluation
end SExpr
