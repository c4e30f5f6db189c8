import SExpr.Proofs.LetElimination.Parts

/-!
# The shape of a piece of code

A piece of code has a shape of its own: its operands, its parameters or its
bindings, apart from what its parts are. Code is well formed when its own shape
is right and its parts are well formed, and a rule applies to a combination
exactly when the shape of the combination is right and the rule applies to its
parts.
-/

namespace SExpr
namespace LetElimination

open Datum (codeParts)

/-- A piece of code whose own shape is right, whatever its parts are. -/
inductive WellShaped : Datum -> Prop
  | atom
      {code : Datum}
      (isAtom : code.isAtom = true) :
      WellShaped code
  | quote (operand : Datum) :
      WellShaped (.list [Form.quote.head, operand])
  | function
      {form : Form}
      {names : List String}
      {bodies : List Datum}
      (makes : form = .lambda ∨ form = .mu)
      (distinct : names.Nodup)
      (present : bodies ≠ []) :
      WellShaped (.list (form.head :: .list (names.map .symbol) :: bodies))
  | defineValue
      (name : String)
      (value : Datum) :
      WellShaped (.list [Form.define.head, .symbol name, value])
  | defineFunction
      {names : List String}
      {bodies : List Datum}
      (named : names ≠ [])
      (distinct : names.Nodup)
      (present : bodies ≠ []) :
      WellShaped
        (.list (Form.define.head :: .list (names.map .symbol) :: bodies))
  | letForm
      {pairs : List (String × Datum)}
      {bodies : List Datum}
      (distinct : (pairs.map Prod.fst).Nodup)
      (present : bodies ≠ []) :
      WellShaped
        (.list
          (Form.letForm.head :: .list (pairs.map bindingDatum) :: bodies))
  | combination
      {head : Datum}
      {operands : List Datum}
      (noForm : ∀ form : Form, head ≠ form.head) :
      WellShaped (.list (head :: operands))

/-! ## Well-formed code -/

section

variable {code : Datum}

/-- The own shape of well-formed code is right. -/
theorem WellFormed.wellShaped (wellFormed : WellFormed code) :
    WellShaped code := by
  cases wellFormed with
  | atom isAtom => exact .atom isAtom
  | quote operand => exact .quote operand
  | function makes distinct present => exact .function makes distinct present
  | defineValue name => exact .defineValue name _
  | defineFunction named distinct present =>
      exact .defineFunction named distinct present
  | letForm distinct present => exact .letForm distinct present
  | combination noForm => exact .combination noForm

/-- The parts of well-formed code that are code are well formed. -/
theorem WellFormed.of_mem_codeParts
    {part : Datum}
    (wellFormed : WellFormed code)
    (member : part ∈ codeParts code) :
    WellFormed part := by
  cases wellFormed with
  | atom isAtom =>
      rw [codeParts_of_isAtom isAtom] at member
      cases member
  | quote operand =>
      rw [codeParts_quote] at member
      cases member
  | function makes distinct present each =>
      rw [codeParts_function (by grind)] at member
      exact each part member
  | defineValue name valueWellFormed =>
      rw [codeParts_function (by decide), List.mem_singleton] at member
      rw [member]
      exact valueWellFormed
  | defineFunction named distinct present each =>
      rw [codeParts_function (by decide)] at member
      exact each part member
  | letForm distinct present eachValue eachBody =>
      rw [codeParts_letForm, List.mem_append, List.mem_map] at member
      obtain ⟨pair, among, rfl⟩ | inBodies := member
      · exact eachValue pair among
      · exact eachBody part inBodies
  | combination noForm each =>
      rw [codeParts_of_noForm (form?_eq_none_iff.mpr noForm)] at member
      exact each part member

/-- Code of the right shape with well-formed parts is well formed. -/
theorem WellShaped.wellFormed
    (wellShaped : WellShaped code)
    (each : ∀ part ∈ codeParts code, WellFormed part) :
    WellFormed code := by
  cases wellShaped with
  | atom isAtom => exact .atom isAtom
  | quote operand => exact .quote operand
  | function makes distinct present =>
      rw [codeParts_function (by grind)] at each
      exact .function makes distinct present each
  | defineValue name value =>
      rw [codeParts_function (by decide)] at each
      exact .defineValue name (each value List.mem_cons_self)
  | defineFunction named distinct present =>
      rw [codeParts_function (by decide)] at each
      exact .defineFunction named distinct present each
  | letForm distinct present =>
      rw [codeParts_letForm, List.forall_mem_append, List.forall_mem_map] at each
      exact .letForm distinct present each.1 each.2
  | combination noForm =>
      rw [codeParts_of_noForm (form?_eq_none_iff.mpr noForm)] at each
      exact .combination noForm each

end

/-! ## The rules and the shape -/

section

variable {rewritten : Datum -> Datum -> Prop}
variable {head result : Datum}
variable {operands : List Datum}

/-- A function form that passes its check has the right shape. -/
theorem wellShaped_function
    {form : Form}
    {target : Datum}
    {bodies : List Datum}
    (function : form ≠ .quote ∧ form ≠ .letForm)
    (present : bodies ≠ [])
    (shape : checkFunction form target bodies = .ok ()) :
    WellShaped (.list (form.head :: target :: bodies)) := by
  cases form with
  | quote => exact absurd rfl function.1
  | letForm => exact absurd rfl function.2
  | lambda =>
      obtain ⟨names, rfl, distinct⟩ := checkFormals_eq_ok_iff.mp shape
      exact .function (.inl rfl) distinct present
  | mu =>
      obtain ⟨names, rfl, distinct⟩ := checkFormals_eq_ok_iff.mp shape
      exact .function (.inr rfl) distinct present
  | define =>
      obtain ⟨one, name, rfl⟩ | ⟨names, rfl, distinct, named⟩ :=
        checkTarget_eq_ok_iff.mp shape
      · obtain ⟨value, rfl⟩ := List.length_eq_one_iff.mp one
        exact .defineValue name value
      · exact .defineFunction named distinct present

/-- The rules ask of a combination that its own shape is right. -/
theorem wellShaped_of_rewrites
    (rewrites : Rewrites rewritten head operands result) :
    WellShaped (.list (head :: operands)) := by
  cases rewrites with
  | quote operand => exact .quote operand
  | function function present shape =>
      exact wellShaped_function function present shape
  | letForm present shape =>
      exact .letForm (checkFormals_boundNames_eq_ok_iff.mp shape) present
  | combination noForm => exact .combination (form?_eq_none_iff.mp noForm)

/-- What the rules ask of the parts alone holds of each part. -/
theorem forall_mem_codeParts_of_rewrites
    {property : Datum -> Prop}
    (rewrites : Rewrites (fun part _ => property part) head operands result) :
    ∀ part ∈ codeParts (.list (head :: operands)), property part := by
  cases rewrites with
  | quote operand =>
      rw [codeParts_quote]
      exact fun part member => by cases member
  | function function _ _ each =>
      rw [codeParts_function function]
      exact forall_mem_of_forall₂ each
  | letForm _ _ eachBody eachValue =>
      rw [codeParts_letForm, List.forall_mem_append]
      exact ⟨forall_mem_of_forall₂ eachValue, forall_mem_of_forall₂ eachBody⟩
  | combination noForm each =>
      rw [codeParts_of_noForm noForm]
      exact forall_mem_of_forall₂ each

/-- A rule applies to a combination of the right shape when it applies to its parts. -/
theorem WellShaped.exists_rewrites
    (wellShaped : WellShaped (.list (head :: operands)))
    (each : ∀ part ∈ codeParts (.list (head :: operands)),
      ∃ result, rewritten part result) :
    ∃ result, Rewrites rewritten head operands result := by
  -- A function form that passes its check is rewritten with its bodies.
  have function {form : Form} {target : Datum} {bodies : List Datum}
      (function : form ≠ .quote ∧ form ≠ .letForm)
      (present : bodies ≠ [])
      (shape : checkFunction form target bodies = .ok ())
      (each : ∀ part ∈ codeParts (.list (form.head :: target :: bodies)),
        ∃ result, rewritten part result) :
      ∃ result, Rewrites rewritten form.head (target :: bodies) result := by
    rw [codeParts_function function] at each
    obtain ⟨results, eachResult⟩ := exists_forall₂_of_forall_mem each
    exact ⟨_, .function function present shape eachResult⟩
  cases wellShaped with
  | atom isAtom => cases isAtom
  | quote operand => exact ⟨_, .quote operand⟩
  | @function form names bodies makes distinct present =>
      have formals : checkFormals form (.list (names.map .symbol)) = .ok () :=
        checkFormals_eq_ok_iff.mpr ⟨names, rfl, distinct⟩
      obtain rfl | rfl := makes
      · exact function (by decide) present formals each
      · exact function (by decide) present formals each
  | defineValue name value =>
      have target : checkTarget (.symbol name) [value] = .ok () :=
        checkTarget_eq_ok_iff.mpr (.inl ⟨rfl, name, rfl⟩)
      exact function (by decide) (List.cons_ne_nil _ _) target each
  | @defineFunction names bodies named distinct present =>
      have target : checkTarget (.list (names.map .symbol)) bodies = .ok () :=
        checkTarget_eq_ok_iff.mpr (.inr ⟨names, rfl, distinct, named⟩)
      exact function (by decide) present target each
  | letForm distinct present =>
      rw [codeParts_letForm, List.forall_mem_append] at each
      obtain ⟨values, eachValue⟩ := exists_forall₂_of_forall_mem each.1
      obtain ⟨results, eachBody⟩ := exists_forall₂_of_forall_mem each.2
      exact ⟨_, .letForm present (checkFormals_boundNames_eq_ok_iff.mpr distinct)
        eachBody eachValue⟩
  | combination noForm =>
      rw [← form?_eq_none_iff] at noForm
      rw [codeParts_of_noForm noForm] at each
      obtain ⟨items, eachItem⟩ := exists_forall₂_of_forall_mem each
      exact ⟨_, .combination noForm eachItem⟩

end

end LetElimination
end SExpr
