import Mathlib.Logic.Relation
import SExpr.Proofs.LetElimination.LetFree

/-!
# One let at a time

A `let` can be eliminated where it stands, its values and bodies being left as they are.
Any number of such steps, taken in any order, leaves the result of let elimination the
same: the result is the one code without further steps that can be reached. A step may
take code past the limit on its depth, though, as the bodies of the `let` stand one level
lower afterwards, and then let elimination refuses the code for that.
-/

namespace SExpr
namespace LetElimination

open Datum (codeParts)
open Relation (ReflTransGen)

/-- The code of a `let`. -/
def letCode
    (pairs : List (String × Datum))
    (bodies : List Datum) : Datum :=
  .list (Form.letForm.head :: .list (pairs.map bindingDatum) :: bodies)

/-- The code of a function with the names of some bindings as its parameters, applied to
the values of the bindings. -/
def applicationCode
    (pairs : List (String × Datum))
    (bodies : List Datum) : Datum :=
  .list
    (.list (Form.lambda.head :: .list (boundNames pairs) :: bodies) ::
      pairs.map Prod.snd)

/-- One `let` that stands in code is replaced by the application of a function, nothing
in it being rewritten. -/
inductive Step : Datum -> Datum -> Prop
  | letForm
      (pairs : List (String × Datum))
      (bodies : List Datum) :
      Step (letCode pairs bodies) (applicationCode pairs bodies)
  | element
      {before after : List Datum}
      {part stepped : Datum}
      (noForm : (Datum.list (before ++ part :: after)).form? = none)
      (step : Step part stepped) :
      Step (.list (before ++ part :: after)) (.list (before ++ stepped :: after))
  | body
      {form : Form}
      {first part stepped : Datum}
      {before after : List Datum}
      (notQuote : form ≠ .quote)
      (step : Step part stepped) :
      Step (.list (form.head :: first :: (before ++ part :: after)))
        (.list (form.head :: first :: (before ++ stepped :: after)))
  | value
      {before after : List (String × Datum)}
      {name : String}
      {bodies : List Datum}
      {part stepped : Datum}
      (step : Step part stepped) :
      Step (letCode (before ++ (name, part) :: after) bodies)
        (letCode (before ++ (name, stepped) :: after) bodies)

section

variable {code stepped result : Datum}

/-- A step leads from a list to a list. -/
theorem Step.exists_eq_list (step : Step code stepped) :
    ∃ items others, code = .list items ∧ stepped = .list others := by
  cases step with
  | letForm => exact ⟨_, _, rfl, rfl⟩
  | element => exact ⟨_, _, rfl, rfl⟩
  | body => exact ⟨_, _, rfl, rfl⟩
  | value => exact ⟨_, _, rfl, rfl⟩

/-- A step in an element of a combination makes no special form of it. -/
theorem form?_eq_none_of_step
    {before after : List Datum}
    {part : Datum}
    (noForm : (Datum.list (before ++ part :: after)).form? = none)
    (step : Step part stepped) :
    (Datum.list (before ++ stepped :: after)).form? = none := by
  cases before with
  | nil =>
      obtain ⟨_, _, -, rfl⟩ := step.exists_eq_list
      rfl
  | cons head others =>
      rw [List.cons_append, form?_eq_none_iff] at noForm ⊢
      exact noForm

/-! ## A step keeps the result -/

/-- Code with a result has it with as many levels as it is deep. -/
theorem EliminatesTo.eliminate_codeDepth
    (eliminatesTo : EliminatesTo code result) :
    eliminate code.codeDepth code = .ok result := by
  rw [eliminatesTo, if_pos (Nat.le_refl _)]

/-- Code with a result is well formed. -/
theorem EliminatesTo.wellFormed
    (eliminatesTo : EliminatesTo code result) :
    WellFormed code :=
  (wellFormed_and_eliminatesTo_of_eliminate eliminatesTo.eliminate_codeDepth).1

/-- A combination has a result exactly when the rules give it that result. -/
theorem eliminatesTo_list_cons_iff
    {head : Datum}
    {operands : List Datum} :
    EliminatesTo (.list (head :: operands)) result ↔
      Rewrites EliminatesTo head operands result := by
  refine ⟨fun eliminatesTo => ?_, eliminatesTo_of_rewrites⟩
  obtain ⟨isAtom, -⟩ | ⟨below, _, _, -, same, rewrites⟩ :=
    eliminate_eq_ok_iff.mp eliminatesTo.eliminate_codeDepth
  · cases isAtom
  · cases same
    exact rewrites.imp fun _ _ part =>
      (wellFormed_and_eliminatesTo_of_eliminate part).2

/-- A combination that is no special form has a result exactly when its elements have
theirs. -/
theorem eliminatesTo_list_iff_of_noForm
    {items : List Datum}
    (present : items ≠ [])
    (noForm : (Datum.list items).form? = none) :
    EliminatesTo (.list items) result ↔
      ∃ results, List.Forall₂ EliminatesTo items results ∧
        result = .list results := by
  obtain ⟨head, operands, rfl⟩ := List.exists_cons_of_ne_nil present
  rw [eliminatesTo_list_cons_iff]
  constructor
  · intro rewrites
    exact rewrites.of_noForm noForm
  · rintro ⟨results, each, rfl⟩
    exact .combination noForm each

/-- An item with all the results of another one can take its place. -/
theorem forall₂_replace
    {relation : α -> β -> Prop}
    {before after : List α}
    {item other : α}
    {results : List β}
    (each : List.Forall₂ relation (before ++ item :: after) results)
    (replaced : ∀ result, relation item result -> relation other result) :
    List.Forall₂ relation (before ++ other :: after) results := by
  induction before generalizing results with
  | nil =>
      cases each with
      | cons first others => exact .cons (replaced _ first) others
  | cons head before inductionHypothesis =>
      cases each with
      | cons first others => exact .cons first (inductionHypothesis others)

theorem bindingDatum_injective : Function.Injective bindingDatum := by
  rintro ⟨first, firstValue⟩ ⟨second, secondValue⟩ same
  simpa [bindingDatum] using same

/-- The rule for a `let`, its bindings being given. -/
theorem rewrites_letCode
    {pairs : List (String × Datum)}
    {bodies : List Datum}
    (eliminatesTo : EliminatesTo (letCode pairs bodies) result) :
    ∃ results values, bodies ≠ [] ∧
      checkFormals .letForm (.list (boundNames pairs)) = .ok () ∧
      List.Forall₂ EliminatesTo bodies results ∧
      List.Forall₂ EliminatesTo (pairs.map Prod.snd) values ∧
      result = .list
        (.list (Form.lambda.head :: .list (boundNames pairs) :: results) ::
          values) := by
  obtain ⟨others, _, results, values, same, present, shape, eachBody, eachValue, rfl⟩ :=
    (eliminatesTo_list_cons_iff.mp eliminatesTo).of_letForm
  obtain ⟨bindings, rfl⟩ := List.cons.inj same
  obtain rfl :=
    List.map_injective_iff.mpr bindingDatum_injective (Datum.list.inj bindings)
  exact ⟨results, values, present, shape, eachBody, eachValue, rfl⟩

/-- A step keeps the result that code has with levels enough for it. -/
theorem EliminatesTo.of_step
    (eliminatesTo : EliminatesTo code result)
    (step : Step code stepped) :
    EliminatesTo stepped result := by
  induction step generalizing result with
  | letForm pairs bodies =>
      obtain ⟨results, values, present, shape, eachBody, eachValue, rfl⟩ :=
        rewrites_letCode eliminatesTo
      exact eliminatesTo_application present shape eachBody eachValue
  | @element before after part stepped noForm step inductionHypothesis =>
      have stillNone := form?_eq_none_of_step noForm step
      rw [eliminatesTo_list_iff_of_noForm (by simp) noForm] at eliminatesTo
      rw [eliminatesTo_list_iff_of_noForm (by simp) stillNone]
      obtain ⟨results, each, rfl⟩ := eliminatesTo
      exact ⟨results, forall₂_replace each fun _ => inductionHypothesis, rfl⟩
  | @body form first part stepped before after notQuote step inductionHypothesis =>
      rw [eliminatesTo_list_cons_iff] at eliminatesTo ⊢
      by_cases isLet : form = .letForm
      · subst isLet
        obtain ⟨pairs, bodies, results, values, same, -, shape, eachBody, eachValue,
          rfl⟩ := eliminatesTo.of_letForm
        obtain ⟨rfl, rfl⟩ := List.cons.inj same
        exact .letForm (by simp) shape
          (forall₂_replace eachBody fun _ => inductionHypothesis) eachValue
      · obtain ⟨target, bodies, results, same, -, shape, each, rfl⟩ :=
          eliminatesTo.of_function ⟨notQuote, isLet⟩
        obtain ⟨rfl, rfl⟩ := List.cons.inj same
        have sameLength :
            (before ++ part :: after).length = (before ++ stepped :: after).length := by
          simp
        rw [checkFunction_congr sameLength] at shape
        exact .function ⟨notQuote, isLet⟩ (by simp) shape
          (forall₂_replace each fun _ => inductionHypothesis)
  | @value before after name bodies part stepped step inductionHypothesis =>
      obtain ⟨results, values, present, shape, eachBody, eachValue, rfl⟩ :=
        rewrites_letCode eliminatesTo
      rw [List.map_append, List.map_cons] at eachValue
      have names :
          boundNames (before ++ (name, part) :: after) =
            boundNames (before ++ (name, stepped) :: after) := by
        simp [boundNames]
      rw [names] at shape ⊢
      refine eliminatesTo_of_rewrites (.letForm present shape eachBody ?_)
      rw [List.map_append, List.map_cons]
      exact forall₂_replace eachValue fun _ => inductionHypothesis

/-! ## Steps and lets -/

/-- There is a `let` where a step is made. -/
theorem Step.exists_codeIn (step : Step code stepped) :
    ∃ operands, CodeIn (.list (Form.letForm.head :: operands)) code := by
  induction step with
  | letForm => exact ⟨_, .self⟩
  | element noForm step inductionHypothesis =>
      obtain ⟨operands, inside⟩ := inductionHypothesis
      refine ⟨operands, .part ?_ inside⟩
      rw [codeParts_list_of_noForm noForm]
      simp
  | @body form first part stepped before after notQuote step inductionHypothesis =>
      by_cases isLet : form = .letForm
      · subst isLet
        exact ⟨_, .self⟩
      · obtain ⟨operands, inside⟩ := inductionHypothesis
        refine ⟨operands, .part ?_ inside⟩
        rw [codeParts_function ⟨notQuote, isLet⟩]
        simp
  | value => exact ⟨_, .self⟩

/-- A step in a part of code of the right shape is one of the code. -/
theorem WellShaped.exists_step
    {part : Datum}
    (wellShaped : WellShaped code)
    (member : part ∈ codeParts code)
    (step : Step part stepped) :
    ∃ other, Step code other := by
  -- The bodies of a form follow its first operand.
  have inBody {form : Form} {first : Datum} {bodies : List Datum}
      (notQuote : form ≠ .quote)
      (among : part ∈ bodies) :
      ∃ other, Step (.list (form.head :: first :: bodies)) other := by
    obtain ⟨before, after, rfl⟩ := List.append_of_mem among
    exact ⟨_, .body notQuote step⟩
  obtain isAtom | ⟨head, operands, rfl⟩ := isAtom_or_combination code
  · rw [codeParts_of_isAtom isAtom] at member
    cases member
  obtain ⟨_, rewrites⟩ :=
    wellShaped.exists_rewrites fun part _ => ⟨part, Eq.refl part⟩
  cases rewrites with
  | quote operand =>
      rw [codeParts_quote] at member
      cases member
  | function function =>
      rw [codeParts_function function] at member
      exact inBody function.1 member
  | @letForm pairs bodies =>
      rw [codeParts_letForm, List.mem_append, List.mem_map] at member
      obtain ⟨⟨name, value⟩, among, rfl⟩ | inBodies := member
      · obtain ⟨before, after, rfl⟩ := List.append_of_mem among
        exact ⟨_, .value step⟩
      · exact inBody (by decide) inBodies
  | combination noForm =>
      rw [codeParts_of_noForm noForm] at member
      obtain ⟨before, after, split⟩ := List.append_of_mem member
      rw [split] at noForm ⊢
      exact ⟨_, .element noForm step⟩

/-- A step can be made in well-formed code that has a `let` in it. -/
theorem WellFormed.exists_step_of_codeIn
    {operands : List Datum}
    (wellFormed : WellFormed code)
    (inside : CodeIn (.list (Form.letForm.head :: operands)) code) :
    ∃ other, Step code other := by
  induction inside with
  | self =>
      obtain ⟨result, eliminatesTo⟩ := exists_eliminatesTo wellFormed
      obtain ⟨pairs, bodies, -, -, rfl, -⟩ :=
        (eliminatesTo_list_cons_iff.mp eliminatesTo).of_letForm
      exact ⟨_, .letForm pairs bodies⟩
  | part member inside inductionHypothesis =>
      obtain ⟨stepped, step⟩ :=
        inductionHypothesis (wellFormed.of_mem_codeParts member)
      exact wellFormed.wellShaped.exists_step member step

end

/-! ## The result can be reached -/

/-- One of some pieces of code makes a step. -/
inductive StepAmong : List Datum -> List Datum -> Prop
  | intro
      {part stepped : Datum}
      (before after : List Datum)
      (step : Step part stepped) :
      StepAmong (before ++ part :: after) (before ++ stepped :: after)

/-- Pieces of code that reach others each reach them together. -/
theorem stepsAmong_of_forall₂
    {parts results : List Datum}
    (each : List.Forall₂ (ReflTransGen Step) parts results) :
    ReflTransGen StepAmong parts results := by
  induction each with
  | nil => exact .refl
  | @cons part result parts results first _ inductionHypothesis =>
      have firstSteps :
          ReflTransGen StepAmong (part :: parts) (result :: parts) :=
        first.lift (· :: parts) fun _ _ step => .intro [] parts step
      have otherSteps :
          ReflTransGen StepAmong (result :: parts) (result :: results) := by
        refine inductionHypothesis.lift (result :: ·) ?_
        rintro _ _ ⟨before, after, step⟩
        exact .intro (result :: before) after step
      exact firstSteps.trans otherSteps

/-- The elements of a combination that is no special form make their steps in it. -/
theorem steps_elements
    {items results : List Datum}
    (steps : ReflTransGen StepAmong items results)
    (noForm : (Datum.list items).form? = none) :
    ReflTransGen Step (.list items) (.list results) := by
  induction steps using ReflTransGen.head_induction_on with
  | refl => exact .refl
  | head first _ inductionHypothesis =>
      obtain ⟨before, after, step⟩ := first
      exact .head (.element noForm step)
        (inductionHypothesis (form?_eq_none_of_step noForm step))

/-- The bodies of a form make their steps in it. -/
theorem steps_bodies
    {form : Form}
    {bodies results : List Datum}
    (steps : ReflTransGen StepAmong bodies results)
    (notQuote : form ≠ .quote)
    (first : Datum) :
    ReflTransGen Step (.list (form.head :: first :: bodies))
      (.list (form.head :: first :: results)) := by
  refine steps.lift (fun bodies => Datum.list (form.head :: first :: bodies)) ?_
  rintro _ _ ⟨before, after, step⟩
  exact .body notQuote step

/-- The rules lead to what can be reached step by step when they do so for the
parts. -/
theorem steps_of_rewrites
    {head result : Datum}
    {operands : List Datum}
    (rewrites : Rewrites (ReflTransGen Step) head operands result) :
    ReflTransGen Step (.list (head :: operands)) result := by
  cases rewrites with
  | quote operand => exact .refl
  | @function form target _ _ function _ _ each =>
      exact steps_bodies (stepsAmong_of_forall₂ each) function.1 target
  | @letForm pairs bodies results values _ _ eachBody eachValue =>
      -- The `let` is eliminated first, then those in its bodies and in its values.
      have function :
          ReflTransGen Step
            (.list (Form.lambda.head :: .list (boundNames pairs) :: bodies))
            (.list (Form.lambda.head :: .list (boundNames pairs) :: results)) :=
        steps_bodies (stepsAmong_of_forall₂ eachBody) (by decide) _
      have elements := stepsAmong_of_forall₂ (.cons function eachValue)
      exact .head (.letForm pairs bodies) (steps_elements elements rfl)
  | combination noForm each =>
      exact steps_elements (stepsAmong_of_forall₂ each) noForm

/-- The result of code can be reached step by step. -/
theorem steps_of_eliminate
    {levels : Nat}
    {code result : Datum}
    (accepted : eliminate levels code = .ok result) :
    ReflTransGen Step code result := by
  refine eliminate_induction (motive := ReflTransGen Step) ?_ ?_ accepted
  · intro code _
    exact .refl
  · intro _ head operands result rewrites
    exact steps_of_rewrites (rewrites.imp fun _ _ part => part.2)

/-- Code that can be reached has the result that the code has. -/
theorem EliminatesTo.of_steps
    {code reached result : Datum}
    (eliminatesTo : EliminatesTo code result)
    (steps : ReflTransGen Step code reached) :
    EliminatesTo reached result := by
  induction steps with
  | refl => exact eliminatesTo
  | tail _ step inductionHypothesis => exact inductionHypothesis.of_step step

/-- Code has no step exactly when it is free of lets. -/
theorem letFree_iff_forall_not_step
    {code : Datum}
    (wellFormed : WellFormed code) :
    LetFree code ↔ ∀ other, ¬ Step code other := by
  constructor
  · intro free other step
    obtain ⟨operands, inside⟩ := step.exists_codeIn
    exact free operands inside
  · intro noStep operands inside
    obtain ⟨other, step⟩ := wellFormed.exists_step_of_codeIn inside
    exact noStep other step

/-- Eliminating one `let` where it stands changes the result only where it takes code
past the limit. The result is the one code without further steps that can be reached
step by step. -/
theorem withoutLet_of_step
    {code result : Datum}
    (accepted : code.withoutLet = .ok result) :
    (∀ stepped, Step code stepped ->
      stepped.withoutLet =
        if stepped.codeDepth ≤ maxNesting then .ok result
        else .error .nestingTooDeep) ∧
      ∀ normal,
        (ReflTransGen Step code normal ∧ ∀ other, ¬ Step normal other) ↔
          normal = result := by
  have eliminatesTo := (wellFormed_and_eliminatesTo_of_eliminate accepted).2
  refine ⟨fun stepped step => eliminatesTo.of_step step maxNesting, fun normal => ?_⟩
  constructor
  · rintro ⟨steps, noStep⟩
    have reached := eliminatesTo.of_steps steps
    have free := (letFree_iff_forall_not_step reached.wellFormed).mpr noStep
    exact (eq_of_eliminate_of_letFree reached.eliminate_codeDepth free).symm
  · rintro rfl
    have own := eliminatesTo_self_of_eliminate accepted
    exact
      ⟨steps_of_eliminate accepted,
        (letFree_iff_forall_not_step own.wellFormed).mp
          (letFree_of_eliminate accepted)⟩

/-- A step in code is one in any number of lists around it. -/
theorem Step.inLists
    {code stepped : Datum}
    (step : Step code stepped)
    (count : Nat) :
    Step (code.inLists count) (stepped.inLists count) := by
  induction count with
  | zero => exact step
  | succ count inductionHypothesis =>
      have noForm : (Datum.list [code.inLists count]).form? = none := by
        obtain ⟨_, _, same, -⟩ := inductionHypothesis.exists_eq_list
        rw [same]
        rfl
      exact @Step.element [] [] _ _ noForm inductionHypothesis

/-- The code `(let ((x (let ((y 1)) y))) (lambda (z) ((lambda (w) w) z)))`, which
`threeLets` becomes when the `let` in its body is eliminated. -/
def innerStepped : Datum :=
  letCode
    [("x", letCode [("y", .integer 1)] [.symbol "y"])]
    [.list
      [Form.lambda.head, .list [.symbol "z"],
        applicationCode [("w", .symbol "z")] [.symbol "w"]]]

/-- The innermost `let` can be eliminated first, and a `let` on the last level that code
may have can be eliminated, but the code is refused then. -/
theorem withoutLet_of_step_innerStepped :
    threeLets.withoutLet = .ok threeApplications ∧
      Step threeLets innerStepped ∧
      innerStepped.withoutLet = .ok threeApplications ∧
      Step (emptyLet.inLists 127) (emptyApplication.inLists 127) ∧
      (emptyApplication.inLists 127).withoutLet = .error .nestingTooDeep := by
  have accepted : threeLets.withoutLet = .ok threeApplications := rfl
  have step : Step threeLets innerStepped := by
    refine @Step.body .letForm _ _ _ [] [] (by decide) ?_
    refine @Step.body .lambda _ _ _ [] [] (by decide) ?_
    exact .letForm [("w", .symbol "z")] [.symbol "w"]
  have shallow : innerStepped.codeDepth ≤ maxNesting := by decide
  have stepped := (withoutLet_of_step accepted).1 innerStepped step
  rw [if_pos shallow] at stepped
  have deepAccepted :
      (emptyLet.inLists 127).withoutLet = .ok (emptyApplication.inLists 127) := by
    decide +kernel
  have deepStep := (Step.letForm [] [.symbol "x"]).inLists 127
  have deep : ¬ (emptyApplication.inLists 127).codeDepth ≤ maxNesting := by
    decide +kernel
  have refused := (withoutLet_of_step deepAccepted).1 _ deepStep
  exact ⟨accepted, step, stepped, deepStep, refused.trans (if_neg deep)⟩

end LetElimination
end SExpr
