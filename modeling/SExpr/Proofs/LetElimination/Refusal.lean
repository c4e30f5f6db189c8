import SExpr.Proofs.LetElimination.Acceptance

/-!
# How let elimination refuses code

Code is refused for the shape of a form or for the nesting, and for nothing else.
The parts of a form can also be taken by the accessors of lists, which have
errors of their own. They are taken after the operands have been counted, so the
accessors always have an answer: `eliminateByAccessors`, which counts operands
and then takes the second element of a form and what follows it by `cadr` and
`cddr`, is let elimination.
-/

namespace SExpr
namespace LetElimination

/-! ## Faults of code -/

/-- All errors of a computation are of a kind. -/
def FailsOnlyWith
    (kind : Error -> Prop)
    (outcome : Except Error α) : Prop :=
  ∀ error, outcome = .error error -> kind error

section FailsOnlyWith

variable {kind : Error -> Prop}

theorem failsOnlyWith_ok (value : α) :
    FailsOnlyWith kind (.ok value) := by
  intro error failed
  cases failed

theorem failsOnlyWith_error
    {error : Error}
    (isKind : kind error) :
    FailsOnlyWith kind (.error error : Except Error α) := by
  intro failure failed
  cases failed
  exact isKind

theorem FailsOnlyWith.bind
    {first : Except Error α}
    {next : α -> Except Error β}
    (firstKind : FailsOnlyWith kind first)
    (nextKind : ∀ value, first = .ok value -> FailsOnlyWith kind (next value)) :
    FailsOnlyWith kind (first >>= next) := by
  cases first with
  | error failure => exact failsOnlyWith_error (firstKind failure rfl)
  | ok value => exact nextKind value rfl

theorem failsOnlyWith_mapM
    {transform : α -> Except Error β}
    {items : List α}
    (each : ∀ item ∈ items, FailsOnlyWith kind (transform item)) :
    FailsOnlyWith kind (items.mapM transform) := by
  induction items with
  | nil => exact failsOnlyWith_ok []
  | cons item items inductionHypothesis =>
      rw [List.forall_mem_cons] at each
      rw [List.mapM_cons]
      refine each.1.bind fun value _ => ?_
      exact (inductionHypothesis each.2).bind fun values _ =>
        failsOnlyWith_ok _

end FailsOnlyWith

/-- An error about the shape of the given form. -/
def IsShapeFault
    (form : Form)
    (error : Error) : Prop :=
  ∃ fault, error = .malformed form fault

/-- An error about the nesting of code or the shape of one of its forms. -/
def IsCodeFault (error : Error) : Prop :=
  error = .nestingTooDeep ∨ ∃ form, IsShapeFault form error

theorem failsOnlyWith_malformed
    (form : Form)
    (fault : FormFault) :
    FailsOnlyWith (IsShapeFault form)
      (.error (.malformed form fault) : Except Error α) :=
  failsOnlyWith_error ⟨fault, rfl⟩

theorem checkParameters_failsOnlyWith
    (form : Form)
    (seen : List String)
    (parameters : List Datum) :
    FailsOnlyWith (IsShapeFault form)
      (checkParameters form seen parameters) := by
  fun_induction checkParameters form seen parameters with
  | case1 => exact failsOnlyWith_ok ()
  | case2 => exact failsOnlyWith_malformed form _
  | case3 _ _ _ _ inductionHypothesis => exact inductionHypothesis
  | case4 => exact failsOnlyWith_malformed form _

theorem checkFormals_failsOnlyWith
    (form : Form)
    (target : Datum) :
    FailsOnlyWith (IsShapeFault form) (checkFormals form target) := by
  unfold checkFormals
  split
  · exact checkParameters_failsOnlyWith form [] _
  · exact failsOnlyWith_malformed form _

theorem checkFunction_failsOnlyWith
    (form : Form)
    (target : Datum)
    (bodies : List Datum) :
    FailsOnlyWith (IsShapeFault form) (checkFunction form target bodies) := by
  unfold checkFunction checkTarget
  split
  · next defines =>
      subst defines
      split
      · split
        · exact failsOnlyWith_ok ()
        · exact failsOnlyWith_malformed _ _
      · exact checkFormals_failsOnlyWith _ _
      · exact failsOnlyWith_malformed _ _
  · exact checkFormals_failsOnlyWith form target

theorem readBindings_failsOnlyWith (bindings : Datum) :
    FailsOnlyWith (IsShapeFault .letForm) (readBindings bindings) := by
  unfold readBindings
  split
  · refine failsOnlyWith_mapM fun binding _ => ?_
    unfold readBinding
    split
    · exact failsOnlyWith_ok _
    · exact failsOnlyWith_malformed _ _
  · exact failsOnlyWith_malformed _ _

/-! ## The shape of a combination and its parts -/

/-- A chain that only goes on with the value of its first step fails as that step
does. -/
theorem bind_ok_eq_error_iff
    {first : Except ε α}
    {next : α -> β}
    {error : ε} :
    (first >>= fun value => .ok (next value)) = .error error ↔
      first = .error error := by
  cases first <;> simp [bind, Except.bind]

section

variable {head : Datum}
variable {operands bodies : List Datum}

/-- A quotation of the wrong shape is refused for that. -/
theorem exists_malformed_of_quote
    (misshapen : ¬ WellShaped (.list (Form.quote.head :: operands))) :
    ∃ fault, eliminateQuote operands = .error (.malformed .quote fault) := by
  match operands with
  | [] => exact ⟨.tooFewOperands, rfl⟩
  | [operand] => exact absurd (.quote operand) misshapen
  | _ :: _ :: _ => exact ⟨.tooManyOperands, rfl⟩

/-- A function form of the wrong shape is refused for that. -/
theorem exists_malformed_of_function
    {form : Form}
    (function : form ≠ .quote ∧ form ≠ .letForm)
    (misshapen : ¬ WellShaped (.list (form.head :: operands))) :
    ∃ fault, ∀ eliminate,
      eliminateFunction form eliminate operands =
        .error (.malformed form fault) := by
  match operands with
  | [] | [_] => exact ⟨.tooFewOperands, fun _ => rfl⟩
  | target :: first :: others =>
      have present := List.cons_ne_nil first others
      cases checked : checkFunction form target (first :: others) with
      | ok => exact absurd (wellShaped_function function present checked) misshapen
      | error error =>
          obtain ⟨fault, rfl⟩ := checkFunction_failsOnlyWith _ _ _ error checked
          refine ⟨fault, fun eliminate => ?_⟩
          rw [eliminateFunction_of_present present, checked]
          rfl

/-- A `let` of the wrong shape is refused for that. -/
theorem exists_malformed_of_letForm
    (misshapen : ¬ WellShaped (.list (Form.letForm.head :: operands))) :
    ∃ fault, ∀ eliminate,
      eliminateLet eliminate operands = .error (.malformed .letForm fault) := by
  match operands with
  | [] | [_] => exact ⟨.tooFewOperands, fun _ => rfl⟩
  | bindings :: first :: others =>
      have present := List.cons_ne_nil first others
      simp only [eliminateLet_of_present present]
      cases read : readBindings bindings with
      | error error =>
          obtain ⟨fault, rfl⟩ := readBindings_failsOnlyWith bindings error read
          exact ⟨fault, fun _ => rfl⟩
      | ok pairs =>
          cases checked : checkFormals .letForm (.list (boundNames pairs)) with
          | ok =>
              have distinct := checkFormals_boundNames_eq_ok_iff.mp checked
              rw [readBindings_eq_ok_iff.mp read] at misshapen
              exact absurd (.letForm distinct present) misshapen
          | error error =>
              obtain ⟨fault, rfl⟩ := checkFormals_failsOnlyWith _ _ error checked
              refine ⟨fault, fun eliminate => ?_⟩
              change (do
                checkFormals _ _
                _) = _
              rw [checked]
              rfl

/-- A combination whose own shape is wrong is refused for that, whatever its parts are,
and the form that is blamed is the one at its head. -/
theorem exists_malformed_of_not_wellShaped
    (misshapen : ¬ WellShaped (.list (head :: operands))) :
    ∃ form fault, head = form.head ∧
      ∀ eliminate, eliminateCombination eliminate head operands =
        .error (.malformed form fault) := by
  cases found : (Datum.list (head :: operands)).form? with
  | none => exact absurd (.combination (form?_eq_none_iff.mp found)) misshapen
  | some form =>
      obtain rfl := head_eq_of_form? found
      by_cases isQuote : form = .quote
      · subst isQuote
        obtain ⟨fault, refused⟩ := exists_malformed_of_quote misshapen
        exact ⟨.quote, fault, rfl, fun _ => refused⟩
      by_cases isLet : form = .letForm
      · subst isLet
        obtain ⟨fault, refused⟩ := exists_malformed_of_letForm misshapen
        exact ⟨.letForm, fault, rfl, refused⟩
      · have function := And.intro isQuote isLet
        obtain ⟨fault, refused⟩ := exists_malformed_of_function function misshapen
        refine ⟨form, fault, rfl, fun eliminate => ?_⟩
        rw [eliminateCombination_function function, refused]

/-- A combination whose own shape is right is refused exactly as its parts are, the
bodies of a `let` before its values. -/
theorem eliminateCombination_eq_error_iff
    (wellShaped : WellShaped (.list (head :: operands)))
    {eliminate : Datum -> Except Error Datum}
    {error : Error} :
    eliminateCombination eliminate head operands = .error error ↔
      (visitedParts (.list (head :: operands))).mapM eliminate = .error error := by
  obtain ⟨_, rewrites⟩ :=
    wellShaped.exists_rewrites fun part _ => ⟨part, Eq.refl part⟩
  cases rewrites with
  | quote operand =>
      rw [visitedParts_eq_codeParts (by simp), codeParts_quote]
      exact iff_of_false (fun failed => by cases failed) (fun failed => by cases failed)
  | function function present shape =>
      rw [visitedParts_eq_codeParts (by simp [function.2]),
        codeParts_function function, eliminateCombination_function function,
        eliminateFunction_of_present present, shape]
      exact bind_ok_eq_error_iff
  | @letForm pairs bodies _ _ present shape =>
      have read := readBindings_eq_ok_iff.mpr
        (rfl : Datum.list (pairs.map bindingDatum) = _)
      rw [visitedParts_letForm, List.mapM_append, eliminateCombination_letForm,
        eliminateLet_of_present present, read]
      change (do
        checkFormals _ _
        _) = _ ↔ _
      rw [shape]
      cases bodies.mapM eliminate with
      | error failure => simp [bind, Except.bind]
      | ok results =>
          exact bind_ok_eq_error_iff.trans bind_ok_eq_error_iff.symm
  | combination noForm =>
      rw [visitedParts_eq_codeParts (by simp [noForm]), codeParts_of_noForm noForm,
        eliminateCombination_of_noForm noForm]
      exact bind_ok_eq_error_iff

end

/-- A combination is refused for its own shape or as the parts of it that are code
are. -/
theorem eliminateCombination_failsOnlyWith
    {eliminate : Datum -> Except Error Datum}
    {kind : Error -> Prop}
    (ofShape : ∀ {form error}, IsShapeFault form error -> kind error)
    {head : Datum}
    {operands : List Datum}
    (each : ∀ part ∈ Datum.codeParts (.list (head :: operands)),
      FailsOnlyWith kind (eliminate part)) :
    FailsOnlyWith kind (eliminateCombination eliminate head operands) := by
  intro error failed
  by_cases wellShaped : WellShaped (.list (head :: operands))
  · rw [eliminateCombination_eq_error_iff wellShaped] at failed
    have parts := failsOnlyWith_mapM fun part member =>
      each part (mem_visitedParts_iff.mp member)
    exact parts error failed
  · obtain ⟨form, fault, -, refused⟩ := exists_malformed_of_not_wellShaped wellShaped
    rw [refused] at failed
    cases failed
    exact ofShape ⟨fault, rfl⟩

/-- Atoms are never refused. -/
theorem eliminate_failsOnlyWith_of_isAtom
    {kind : Error -> Prop}
    {code : Datum}
    (isAtom : code.isAtom = true)
    (levels : Nat) :
    FailsOnlyWith kind (eliminate levels code) := by
  rw [eliminate_of_isAtom levels isAtom]
  exact failsOnlyWith_ok code

/-- Code is refused for its nesting or for the shape of a form. -/
theorem eliminate_failsOnlyWith
    (levels : Nat)
    (code : Datum) :
    FailsOnlyWith IsCodeFault (eliminate levels code) := by
  induction levels generalizing code with
  | zero =>
      obtain isAtom | ⟨head, operands, rfl⟩ := isAtom_or_combination code
      · exact eliminate_failsOnlyWith_of_isAtom isAtom 0
      · exact failsOnlyWith_error (.inl rfl)
  | succ levels inductionHypothesis =>
      obtain isAtom | ⟨head, operands, rfl⟩ := isAtom_or_combination code
      · exact eliminate_failsOnlyWith_of_isAtom isAtom _
      · rw [eliminate_succ_list_cons]
        exact eliminateCombination_failsOnlyWith
          (fun fault => .inr ⟨_, fault⟩)
          fun part _ => inductionHypothesis part

/-! ## Forms taken apart by accessors -/

/-- Check that the number of operands of a form is in a range. -/
def checkCount
    (form : Form)
    (operands : List Datum)
    (least : Nat)
    (most? : Option Nat) : Except Error Unit :=
  if operands.length < least then
    .error (.malformed form .tooFewOperands)
  else if most?.any fun most => most < operands.length then
    .error (.malformed form .tooManyOperands)
  else
    .ok ()

/-- The elements of a combination, and none of an atom. -/
def elements (code : Datum) : List Datum :=
  code.asList?.getD []

/-- Check what a definition defines, the operands being counted once more where
it is a symbol. -/
def checkTargetByCount
    (target : Datum)
    (operands : List Datum) : Except Error Unit :=
  match target with
  | .symbol _ => checkCount .define operands 2 (some 2)
  | .list (_ :: _) => checkFormals .define target
  | other => .error (.malformed .define (.targetNotSymbol other))

section ByAccessors

variable (eliminate : Datum -> Except Error Datum)

/-- Rewrite a form that makes or defines a function, taken apart by accessors. -/
def eliminateFunctionByAccessors
    (form : Form)
    (code : Datum) : Except Error Datum := do
  let operands := (elements code).tail
  checkCount form operands 2 none
  let target <- code.access .cadr
  if form = .define then checkTargetByCount target operands
  else checkFormals form target
  let rest <- code.access .cddr
  let bodies <- (elements rest).mapM eliminate
  return .list (form.head :: target :: bodies)

/-- Rewrite a `let`, taken apart by accessors. -/
def eliminateLetByAccessors (code : Datum) : Except Error Datum := do
  checkCount .letForm (elements code).tail 2 none
  let bindings <- code.access .cadr
  let pairs <- readBindings bindings
  checkFormals .letForm (.list (boundNames pairs))
  let rest <- code.access .cddr
  let bodies <- (elements rest).mapM eliminate
  let values <- (pairs.map Prod.snd).mapM eliminate
  return .list
    (.list (Form.lambda.head :: .list (boundNames pairs) :: bodies) :: values)

/-- Rewrite a combination, its form taken apart by accessors. -/
def eliminateCombinationByAccessors (code : Datum) : Except Error Datum :=
  match code.form? with
  | some .quote => do
      checkCount .quote (elements code).tail 1 (some 1)
      return code
  | some .letForm => eliminateLetByAccessors eliminate code
  | some form => eliminateFunctionByAccessors eliminate form code
  | none => do
      let items <- (elements code).mapM eliminate
      return .list items

end ByAccessors

/-- Rewrite code that may have the given number of levels, its forms taken apart
by accessors. -/
def eliminateByAccessors : (levels : Nat) -> Datum -> Except Error Datum
  | levels, .list (head :: operands) =>
      match levels with
      | 0 => .error .nestingTooDeep
      | levels + 1 =>
          eliminateCombinationByAccessors (eliminateByAccessors levels)
            (.list (head :: operands))
  | _, atom => .ok atom

section ByAccessors

variable (eliminate : Datum -> Except Error Datum)

/-- A definition has two operands or more when its target is looked at. -/
theorem checkTargetByCount_eq
    (target first : Datum)
    (others : List Datum) :
    checkTargetByCount target (target :: first :: others) =
      checkTarget target (first :: others) := by
  match target with
  | .symbol name => cases others <;> simp [checkTargetByCount, checkTarget,
      checkCount]
  | .list (name :: parameters) => rfl
  | .integer _ | .float _ | .boolean _ | .list [] => rfl

theorem eliminateFunctionByAccessors_eq
    (form : Form)
    (head : Datum)
    (operands : List Datum) :
    eliminateFunctionByAccessors eliminate form (.list (head :: operands)) =
      eliminateFunction form eliminate operands := by
  match operands with
  | [] => rfl
  | [_] => rfl
  | target :: first :: others =>
      by_cases defines : form = .define
      · subst defines
        change (do
          checkTargetByCount target (target :: first :: others)
          _) = _
        rw [checkTargetByCount_eq]
        rfl
      · unfold eliminateFunctionByAccessors eliminateFunction
        simp only [defines, if_false]
        rfl

theorem eliminateLetByAccessors_eq
    (head : Datum)
    (operands : List Datum) :
    eliminateLetByAccessors eliminate (.list (head :: operands)) =
      eliminateLet eliminate operands := by
  match operands with
  | [] => rfl
  | [_] => rfl
  | bindings :: first :: others => rfl

theorem eliminateCombinationByAccessors_eq
    (head : Datum)
    (operands : List Datum) :
    eliminateCombinationByAccessors eliminate (.list (head :: operands)) =
      eliminateCombination eliminate head operands := by
  unfold eliminateCombinationByAccessors eliminateCombination
  cases found : (Datum.list (head :: operands)).form? with
  | none => rfl
  | some form =>
      cases form with
      | quote =>
          obtain rfl := head_eq_of_form? found
          match operands with
          | [] => rfl
          | [_] => rfl
          | _ :: _ :: _ => rfl
      | letForm => exact eliminateLetByAccessors_eq eliminate head operands
      | lambda | mu | define =>
          exact eliminateFunctionByAccessors_eq eliminate _ head operands

end ByAccessors

/-- The accessors that take a form apart never fail. -/
theorem eliminateByAccessors_eq
    (levels : Nat)
    (code : Datum) :
    eliminateByAccessors levels code = eliminate levels code := by
  induction levels generalizing code with
  | zero =>
      match code with
      | .list (_ :: _) => rfl
      | .symbol _ | .integer _ | .float _ | .boolean _ | .list [] => rfl
  | succ levels inductionHypothesis =>
      match code with
      | .symbol _ | .integer _ | .float _ | .boolean _ | .list [] => rfl
      | .list (head :: operands) =>
          have same : eliminateByAccessors levels = eliminate levels :=
            funext inductionHypothesis
          rw [eliminate_succ_list_cons, ← eliminateCombinationByAccessors_eq,
            ← same]
          rfl

/-! ## Well-formed code is accepted -/

/-- Code is rewritten exactly when it is well formed and not too deep. Other code
is refused for the shape of a form or for the nesting alone, also when its forms
are taken apart by accessors, which never fail. -/
theorem withoutLet_accepts_iff_wellFormed (code : Datum) :
    ((∃ result, code.withoutLet = .ok result) ↔
        WellFormed code ∧ code.codeDepth ≤ maxNesting) ∧
      (∀ error, code.withoutLet = .error error ->
        error = .nestingTooDeep ∨
          ∃ form fault, error = .malformed form fault) ∧
      eliminateByAccessors maxNesting code = code.withoutLet :=
  ⟨eliminate_accepts_iff, eliminate_failsOnlyWith maxNesting code,
    eliminateByAccessors_eq maxNesting code⟩

end LetElimination
end SExpr
