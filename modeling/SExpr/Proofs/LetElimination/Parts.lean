import SExpr.Proofs.Datum.Levels
import SExpr.Proofs.LetElimination.WellFormed

/-!
# The parts of code

Which parts of a piece of code are code themselves, form by form. Each of them has fewer
levels of lists than the code, so that what holds of code when it holds of its parts holds
of all code. The parts are rewritten in an order of their own, where the bodies of a `let`
come before its values.
-/

namespace SExpr
namespace LetElimination

open Datum (codeParts)

/-! ## The parts of each form -/

/-- Atoms have no parts. -/
theorem codeParts_of_isAtom
    {code : Datum}
    (isAtom : code.isAtom = true) :
    codeParts code = [] := by
  match code, isAtom with
  | .symbol _, _ | .integer _, _ | .float _, _ | .boolean _, _
  | .list [], _ => rfl

section Parts

variable {head target : Datum}
variable {operands bodies : List Datum}

theorem codeParts_quote :
    codeParts (.list (Form.quote.head :: operands)) = [] := by
  rw [codeParts, form?_head]

theorem codeParts_function
    {form : Form}
    (function : form ≠ .quote ∧ form ≠ .letForm) :
    codeParts (.list (form.head :: target :: bodies)) = bodies := by
  rw [codeParts, form?_head]
  cases form with
  | quote => exact absurd rfl function.1
  | letForm => exact absurd rfl function.2
  | lambda | mu | define => rfl

theorem bindingValues_bindingDatum (pairs : List (String × Datum)) :
    Datum.bindingValues (pairs.map bindingDatum) = pairs.map Prod.snd := by
  induction pairs with
  | nil => rfl
  | cons pair pairs inductionHypothesis =>
      rw [List.map_cons, bindingDatum, Datum.bindingValues, inductionHypothesis,
        List.map_cons]

theorem codeParts_letForm (pairs : List (String × Datum)) :
    codeParts
        (.list (Form.letForm.head :: .list (pairs.map bindingDatum) :: bodies)) =
      pairs.map Prod.snd ++ bodies := by
  rw [codeParts, form?_head]
  exact congrArg (· ++ bodies) (bindingValues_bindingDatum pairs)

theorem codeParts_of_noForm
    (noForm : (Datum.list (head :: operands)).form? = none) :
    codeParts (.list (head :: operands)) = head :: operands := by
  rw [codeParts, noForm]

/-- The elements of a list that is no special form are its parts. -/
theorem codeParts_list_of_noForm
    {items : List Datum}
    (noForm : (Datum.list items).form? = none) :
    codeParts (.list items) = items := by
  cases items with
  | nil => rfl
  | cons head operands => exact codeParts_of_noForm noForm

end Parts

/-! ## Code and its parts -/

theorem exists_mem_of_mem_bindingValues
    {value : Datum}
    {bindings : List Datum}
    (member : value ∈ Datum.bindingValues bindings) :
    ∃ name, .list [name, value] ∈ bindings := by
  fun_induction Datum.bindingValues bindings with
  | case1 => cases member
  | case2 name first bindings inductionHypothesis =>
      obtain rfl | later := List.mem_cons.mp member
      · exact ⟨name, List.mem_cons_self⟩
      · obtain ⟨other, among⟩ := inductionHypothesis later
        exact ⟨other, List.mem_cons_of_mem _ among⟩
  | case3 binding bindings _ inductionHypothesis =>
      obtain ⟨name, among⟩ := inductionHypothesis member
      exact ⟨name, List.mem_cons_of_mem _ among⟩

theorem levels_lt_of_mem_letParts
    {part : Datum}
    {operands : List Datum}
    (member : part ∈ Datum.letParts operands) :
    part.levels < (Datum.list operands).levels := by
  fun_cases Datum.letParts operands with
  | case1 bindings bodies =>
      rw [Datum.letParts, List.mem_append] at member
      obtain inValues | inBodies := member
      · obtain ⟨name, among⟩ := exists_mem_of_mem_bindingValues inValues
        have inBinding : part ∈ [name, part] := by simp
        calc
          part.levels < (Datum.list [name, part]).levels :=
            Datum.levels_lt_of_mem inBinding
          _ < (Datum.list bindings).levels := Datum.levels_lt_of_mem among
          _ < _ := Datum.levels_lt_of_mem List.mem_cons_self
      · exact Datum.levels_lt_of_mem (List.mem_cons_of_mem _ inBodies)
  | case2 operands noList =>
      rw [Datum.letParts] at member
      · cases member
      · exact noList

/-- A part of code that is code itself has fewer levels. -/
theorem levels_lt_of_mem_codeParts
    {part code : Datum}
    (member : part ∈ codeParts code) :
    part.levels < code.levels := by
  obtain isAtom | ⟨head, operands, rfl⟩ := isAtom_or_combination code
  · rw [codeParts_of_isAtom isAtom] at member
    cases member
  · rw [codeParts] at member
    split at member
    · cases member
    · exact Nat.lt_of_lt_of_le (levels_lt_of_mem_letParts member)
        (Datum.levels_list_le_cons head operands)
    · exact Datum.levels_lt_of_mem
        (List.mem_cons_of_mem _ (List.mem_of_mem_tail member))
    · exact Datum.levels_lt_of_mem member

/-- What holds of code when it holds of the parts of it that are code holds of all
code. -/
theorem codeParts_induction
    {motive : Datum -> Prop}
    (step : ∀ code, (∀ part ∈ codeParts code, motive part) -> motive code)
    (code : Datum) : motive code :=
  step code fun part member =>
    -- The value of a binding is no element of the code, so the recursion is on levels.
    have := levels_lt_of_mem_codeParts member
    codeParts_induction step part
termination_by code.levels

/-- A piece of code stands in code: it is that code or stands in a part of it that is
code. -/
inductive CodeIn (piece : Datum) : Datum -> Prop
  | self : CodeIn piece piece
  | part
      {part code : Datum}
      (member : part ∈ codeParts code)
      (inside : CodeIn piece part) :
      CodeIn piece code

theorem codeIn_iff
    {piece code : Datum} :
    CodeIn piece code ↔
      piece = code ∨ ∃ part ∈ codeParts code, CodeIn piece part := by
  constructor
  · rintro (_ | ⟨member, inside⟩)
    · exact .inl rfl
    · exact .inr ⟨_, member, inside⟩
  · rintro (rfl | ⟨part, member, inside⟩)
    · exact .self
    · exact .part member inside

/-! ## The order of the parts -/

/-- The parts of a piece of code that are code themselves, in the order in which they are
rewritten: the bodies of a `let` come before its values. -/
def visitedParts (code : Datum) : List Datum :=
  match code.form?, code with
  | some .letForm, .list (_ :: .list bindings :: bodies) =>
      bodies ++ Datum.bindingValues bindings
  | _, _ => codeParts code

/-- The order makes a difference only in a `let`. -/
theorem visitedParts_eq_codeParts
    {code : Datum}
    (notLet : code.form? ≠ some .letForm) :
    visitedParts code = codeParts code := by
  unfold visitedParts
  split
  · next found => exact absurd found notLet
  · rfl

theorem visitedParts_letForm
    (pairs : List (String × Datum))
    (bodies : List Datum) :
    visitedParts
        (.list (Form.letForm.head :: .list (pairs.map bindingDatum) :: bodies)) =
      bodies ++ pairs.map Prod.snd := by
  rw [← bindingValues_bindingDatum]
  rfl

/-- The parts are the same in either order. -/
theorem mem_visitedParts_iff
    {part code : Datum} :
    part ∈ visitedParts code ↔ part ∈ codeParts code := by
  unfold visitedParts
  split
  · next head bindings bodies found =>
      have parts :
          codeParts (.list (head :: .list bindings :: bodies)) =
            Datum.bindingValues bindings ++ bodies := by
        rw [codeParts, found, Datum.letParts]
      rw [parts, List.mem_append, List.mem_append, or_comm]
  · rfl

end LetElimination
end SExpr
