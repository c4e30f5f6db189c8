import Mathlib.Logic.Equiv.Basic
import SExpr.Proofs.Datum.Renaming
import SExpr.Proofs.LetElimination.Refusal

/-!
# Let elimination and names

The names of the special forms are the only names that let elimination knows. When the
other symbols are renamed, different ones to different ones, renamed code has the renamed
result of the code, and it is refused for the renamed fault, of the same form, where the
code is refused. In particular a parameter that occurs twice still occurs twice, and no
other one does.
-/

namespace SExpr

/-- A fault with every symbol in it renamed. -/
def FormFault.rename (names : String -> String) : FormFault -> FormFault
  | .parametersNotList found => .parametersNotList (found.rename names)
  | .parameterNotSymbol found => .parameterNotSymbol (found.rename names)
  | .duplicateParameter name => .duplicateParameter (names name)
  | .targetNotSymbol found => .targetNotSymbol (found.rename names)
  | .bindingsNotList found => .bindingsNotList (found.rename names)
  | .badBinding found => .badBinding (found.rename names)
  | fault => fault

/-- An error with every symbol of code in it renamed. -/
def Error.rename (names : String -> String) : Error -> Error
  | .notAPair accessor datum => .notAPair accessor (datum.rename names)
  | .malformed form fault => .malformed form (fault.rename names)
  | error => error

namespace LetElimination

/-- A renaming that keeps different names different and the names of the special forms
as they are. -/
structure KeepsForms (names : String -> String) : Prop where
  /-- Different names are renamed to different names. -/
  injective : Function.Injective names
  /-- The names of the special forms are kept. -/
  keyword : ∀ form : Form, names form.keyword = form.keyword

/-- What a computation gives when the symbols in its value, renamed by the given
function, and in its error are renamed. -/
def renameOutcome
    (names : String -> String)
    (renameValue : α -> β) : Except Error α -> Except Error β
  | .ok value => .ok (renameValue value)
  | .error error => .error (error.rename names)

section

variable {names : String -> String}

/-- A chain of two steps is renamed step by step. -/
theorem bind_eq_renameOutcome
    {first : Except Error α}
    {next : α -> Except Error β}
    {firstRenamed : Except Error γ}
    {nextRenamed : γ -> Except Error δ}
    {renameFirst : α -> γ}
    {renameLast : β -> δ}
    (firstSame : firstRenamed = renameOutcome names renameFirst first)
    (nextSame : ∀ value,
      nextRenamed (renameFirst value) = renameOutcome names renameLast (next value)) :
    (firstRenamed >>= nextRenamed) =
      renameOutcome names renameLast (first >>= next) := by
  subst firstSame
  cases first with
  | error error => rfl
  | ok value => exact nextSame value

/-- Renamed items are transformed to renamed results when each of them is. -/
theorem mapM_map_eq_renameOutcome
    {transform : α -> Except Error β}
    {transformRenamed : γ -> Except Error δ}
    {renameItem : α -> γ}
    {renameResult : β -> δ}
    (each : ∀ item,
      transformRenamed (renameItem item) =
        renameOutcome names renameResult (transform item))
    (items : List α) :
    (items.map renameItem).mapM transformRenamed =
      renameOutcome names (List.map renameResult) (items.mapM transform) := by
  induction items with
  | nil => rfl
  | cons item items inductionHypothesis =>
      rw [List.map_cons, List.mapM_cons, List.mapM_cons]
      refine bind_eq_renameOutcome (each item) fun result => ?_
      exact bind_eq_renameOutcome inductionHypothesis fun results => rfl

/-! ## Heads and checks -/

variable (keeps : KeepsForms names)

include keeps

theorem ofKeyword?_rename (name : String) :
    Form.ofKeyword? (names name) = Form.ofKeyword? name := by
  cases found : Form.ofKeyword? name with
  | some form =>
      rw [← Form.keyword_of_ofKeyword? found, keeps.keyword, Form.ofKeyword?_keyword]
  | none =>
      cases renamed : Form.ofKeyword? (names name) with
      | none => rfl
      | some form =>
          have keyword := Form.keyword_of_ofKeyword? renamed
          rw [← keeps.keyword form] at keyword
          rw [← keeps.injective keyword, Form.ofKeyword?_keyword] at found
          cases found

theorem rename_head (form : Form) : form.head.rename names = form.head :=
  congrArg Datum.symbol (keeps.keyword form)

/-- A renamed combination has the form of the combination. -/
theorem form?_rename
    (head : Datum)
    (operands : List Datum) :
    (Datum.list (head.rename names :: operands.map (Datum.rename names))).form? =
      (Datum.list (head :: operands)).form? := by
  cases head with
  | symbol name => exact ofKeyword?_rename keeps name
  | integer | float | boolean => rfl
  | list items =>
      rw [Datum.rename_list]
      rfl

theorem checkParameters_rename
    (form : Form)
    (seen : List String)
    (parameters : List Datum) :
    checkParameters form (seen.map names) (parameters.map (Datum.rename names)) =
      renameOutcome names id (checkParameters form seen parameters) := by
  fun_induction checkParameters form seen parameters with
  | case1 => rfl
  | case2 seen name others member =>
      rw [List.map_cons, Datum.rename_symbol, checkParameters,
        if_pos (List.mem_map_of_mem member)]
      rfl
  | case3 seen name others notMember inductionHypothesis =>
      have stillNot : names name ∉ seen.map names :=
        fun member => notMember ((List.mem_map_of_injective keeps.injective).mp member)
      rw [List.map_cons, Datum.rename_symbol, checkParameters, if_neg stillNot]
      exact inductionHypothesis
  | case4 seen other others notSymbol =>
      cases other with
      | symbol name => exact absurd rfl (notSymbol name)
      | integer | float | boolean => rfl
      | list items =>
          simp only [List.map_cons, Datum.rename_list, checkParameters]
          simp [renameOutcome, Error.rename, FormFault.rename]

theorem checkFormals_rename
    (form : Form)
    (target : Datum) :
    checkFormals form (target.rename names) =
      renameOutcome names id (checkFormals form target) := by
  cases target with
  | symbol | integer | float | boolean => rfl
  | list parameters =>
      rw [Datum.rename_list]
      exact checkParameters_rename keeps form [] parameters

theorem checkFunction_rename
    (form : Form)
    (target : Datum)
    (bodies : List Datum) :
    checkFunction form (target.rename names) (bodies.map (Datum.rename names)) =
      renameOutcome names id (checkFunction form target bodies) := by
  unfold checkFunction
  split
  · unfold checkTarget
    match target with
    | .symbol name =>
        simp only [Datum.rename_symbol, List.length_map]
        split <;> rfl
    | .integer _ | .float _ | .boolean _ | .list [] => rfl
    | .list (name :: parameters) =>
        have formals := checkFormals_rename keeps .define (.list (name :: parameters))
        rw [Datum.rename_list, List.map_cons] at formals ⊢
        exact formals
  · exact checkFormals_rename keeps form target

omit keeps in
/-- A renamed binding is read as the renamed name and the renamed value. -/
theorem readBinding_rename (binding : Datum) :
    readBinding (binding.rename names) =
      renameOutcome names (Prod.map names (Datum.rename names))
        (readBinding binding) := by
  match binding with
  | .symbol _ | .integer _ | .float _ | .boolean _ | .list [] => rfl
  | .list [.symbol name, value] => rw [Datum.rename_list]; rfl
  | .list [.integer _, value] | .list [.float _, value] | .list [.boolean _, value]
  | .list [.list _, value] | .list [_] | .list (_ :: _ :: _ :: _) =>
      simp [readBinding, renameOutcome, Error.rename, FormFault.rename]

omit keeps in
/-- Renamed bindings are read as the renamed names and the renamed values. -/
theorem readBindings_rename (bindings : Datum) :
    readBindings (bindings.rename names) =
      renameOutcome names (List.map (Prod.map names (Datum.rename names)))
        (readBindings bindings) := by
  cases bindings with
  | symbol | integer | float | boolean => rfl
  | list items =>
      rw [Datum.rename_list]
      exact mapM_map_eq_renameOutcome readBinding_rename items

omit keeps in
theorem boundNames_map (pairs : List (String × Datum)) :
    boundNames (pairs.map (Prod.map names (Datum.rename names))) =
      (boundNames pairs).map (Datum.rename names) := by
  simp [boundNames, Function.comp_def]

omit keeps in
theorem map_snd_map (pairs : List (String × Datum)) :
    (pairs.map (Prod.map names (Datum.rename names))).map Prod.snd =
      (pairs.map Prod.snd).map (Datum.rename names) := by
  simp [Function.comp_def]

/-! ## Renamed code -/

theorem eliminateQuote_rename (operands : List Datum) :
    eliminateQuote (operands.map (Datum.rename names)) =
      renameOutcome names (Datum.rename names) (eliminateQuote operands) := by
  match operands with
  | [] => rfl
  | [operand] => simp [eliminateQuote, renameOutcome, Datum.quoted, rename_head keeps]
  | _ :: _ :: _ => rfl

section

variable {transform renamed : Datum -> Except Error Datum}
variable (each : ∀ part,
  renamed (part.rename names) =
    renameOutcome names (Datum.rename names) (transform part))

include each

theorem eliminateFunction_rename
    (form : Form)
    (operands : List Datum) :
    eliminateFunction form renamed (operands.map (Datum.rename names)) =
      renameOutcome names (Datum.rename names)
        (eliminateFunction form transform operands) := by
  match operands with
  | [] | [_] => rfl
  | target :: first :: others =>
      rw [eliminateFunction_of_present (List.cons_ne_nil first others), List.map_cons,
        eliminateFunction_of_present (by simp)]
      refine bind_eq_renameOutcome (checkFunction_rename keeps form target _)
        fun _ => ?_
      refine bind_eq_renameOutcome (mapM_map_eq_renameOutcome each _)
        fun results => ?_
      simp [renameOutcome, pure, Except.pure, rename_head keeps]

theorem eliminateLet_rename (operands : List Datum) :
    eliminateLet renamed (operands.map (Datum.rename names)) =
      renameOutcome names (Datum.rename names) (eliminateLet transform operands) := by
  match operands with
  | [] | [_] => rfl
  | bindings :: first :: others =>
      rw [eliminateLet_of_present (List.cons_ne_nil first others), List.map_cons,
        eliminateLet_of_present (by simp)]
      refine bind_eq_renameOutcome (readBindings_rename bindings) fun pairs => ?_
      rw [boundNames_map, map_snd_map]
      have formals := checkFormals_rename keeps .letForm (.list (boundNames pairs))
      rw [Datum.rename_list] at formals
      refine bind_eq_renameOutcome formals fun _ => ?_
      refine bind_eq_renameOutcome (mapM_map_eq_renameOutcome each _)
        fun results => ?_
      refine bind_eq_renameOutcome (mapM_map_eq_renameOutcome each _)
        fun values => ?_
      simp [renameOutcome, pure, Except.pure, rename_head keeps]

/-- A renamed combination is rewritten to the renamed result when its parts are. -/
theorem eliminateCombination_rename
    (head : Datum)
    (operands : List Datum) :
    eliminateCombination renamed (head.rename names)
        (operands.map (Datum.rename names)) =
      renameOutcome names (Datum.rename names)
        (eliminateCombination transform head operands) := by
  unfold eliminateCombination
  rw [form?_rename keeps]
  cases (Datum.list (head :: operands)).form? with
  | none =>
      refine bind_eq_renameOutcome (mapM_map_eq_renameOutcome each (head :: operands))
        fun items => ?_
      simp [renameOutcome, pure, Except.pure]
  | some form =>
      cases form with
      | quote => exact eliminateQuote_rename keeps operands
      | letForm => exact eliminateLet_rename keeps each operands
      | lambda | mu | define => exact eliminateFunction_rename keeps each _ operands

end

omit keeps in
/-- Atoms are kept, renamed or not. -/
theorem eliminate_rename_of_isAtom
    (levels : Nat)
    {code : Datum}
    (isAtom : code.isAtom = true) :
    eliminate levels (code.rename names) =
      renameOutcome names (Datum.rename names) (eliminate levels code) := by
  have renamedAtom : (code.rename names).isAtom = true := by
    rw [Datum.isAtom_rename, isAtom]
  rw [eliminate_of_isAtom levels isAtom, eliminate_of_isAtom levels renamedAtom]
  rfl

/-- Renamed code is rewritten to the renamed result and refused for the renamed
fault. -/
theorem eliminate_rename
    (levels : Nat)
    (code : Datum) :
    eliminate levels (code.rename names) =
      renameOutcome names (Datum.rename names) (eliminate levels code) := by
  induction levels generalizing code with
  | zero =>
      obtain isAtom | ⟨head, operands, rfl⟩ := isAtom_or_combination code
      · exact eliminate_rename_of_isAtom 0 isAtom
      · rw [Datum.rename_list]
        rfl
  | succ levels inductionHypothesis =>
      obtain isAtom | ⟨head, operands, rfl⟩ := isAtom_or_combination code
      · exact eliminate_rename_of_isAtom (levels + 1) isAtom
      · rw [Datum.rename_list, List.map_cons, eliminate_succ_list_cons,
          eliminate_succ_list_cons]
        exact eliminateCombination_rename keeps inductionHypothesis head operands

end

section

variable {names : String -> String}

/-- A renamed value comes from the value. -/
theorem renameOutcome_eq_ok_iff
    {renameValue : α -> β}
    (injective : Function.Injective renameValue)
    {outcome : Except Error α}
    {value : α} :
    renameOutcome names renameValue outcome = .ok (renameValue value) ↔
      outcome = .ok value := by
  cases outcome with
  | error error => simp [renameOutcome]
  | ok other => simp [renameOutcome, injective.eq_iff]

/-- Renaming does not hide that code is nested too deeply. -/
theorem renameOutcome_eq_nestingTooDeep_iff
    {renameValue : α -> β}
    {outcome : Except Error α} :
    renameOutcome names renameValue outcome = .error .nestingTooDeep ↔
      outcome = .error .nestingTooDeep := by
  cases outcome with
  | error error => cases error <;> simp [renameOutcome, Error.rename]
  | ok value => simp [renameOutcome]

/-- Renaming keeps the form that is malformed. -/
theorem exists_renameOutcome_eq_malformed_iff
    {renameValue : α -> β}
    {outcome : Except Error α}
    {form : Form} :
    (∃ fault, renameOutcome names renameValue outcome =
        .error (.malformed form fault)) ↔
      ∃ fault, outcome = .error (.malformed form fault) := by
  cases outcome with
  | error error => cases error <;> simp [renameOutcome, Error.rename]
  | ok value => simp [renameOutcome]

end

/-- Let elimination knows no names but those of the special forms: when all other
symbols are permuted, it accepts the same code, with the permuted result, and refuses
the same code, for its nesting or for a fault of the same form. -/
theorem withoutLet_rename_iff
    (names : Equiv.Perm String)
    (keyword : ∀ form : Form, names form.keyword = form.keyword)
    (code : Datum) :
    (∀ result,
        code.withoutLet = .ok result ↔
          (code.rename names).withoutLet = .ok (result.rename names)) ∧
      (code.withoutLet = .error .nestingTooDeep ↔
        (code.rename names).withoutLet = .error .nestingTooDeep) ∧
      ∀ form,
        (∃ fault, code.withoutLet = .error (.malformed form fault)) ↔
          ∃ fault, (code.rename names).withoutLet =
            .error (.malformed form fault) := by
  have keeps : KeepsForms names := ⟨names.injective, keyword⟩
  have renamed :
      (code.rename names).withoutLet =
        renameOutcome names (Datum.rename names) code.withoutLet :=
    eliminate_rename keeps maxNesting code
  rw [renamed]
  exact
    ⟨fun result =>
        (renameOutcome_eq_ok_iff (Datum.rename_injective names.injective)).symm,
      renameOutcome_eq_nestingTooDeep_iff.symm,
      fun form => exists_renameOutcome_eq_malformed_iff.symm⟩

/-- The renaming that exchanges `if` and `f`. -/
def exchanged : Equiv.Perm String :=
  Equiv.swap "if" "f"

/-- The code `(if (let ((f 1)) (cond f)) (lambda (if f) if))`. -/
def conditional : Datum :=
  .list
    [.symbol "if",
      .list
        [Form.letForm.head, .list [.list [.symbol "f", .integer 1]],
          .list [.symbol "cond", .symbol "f"]],
      .list
        [Form.lambda.head, .list [.symbol "if", .symbol "f"], .symbol "if"]]

/-- The code `(if ((lambda (f) (cond f)) 1) (lambda (if f) if))`. -/
def conditionalWithoutLet : Datum :=
  .list
    [.symbol "if",
      .list
        [.list
            [Form.lambda.head, .list [.symbol "f"],
              .list [.symbol "cond", .symbol "f"]],
          .integer 1],
      .list
        [Form.lambda.head, .list [.symbol "if", .symbol "f"], .symbol "if"]]

/-- The code `(f (lambda (if if) f))`. -/
def doubledParameter : Datum :=
  .list
    [.symbol "f",
      .list [Form.lambda.head, .list [.symbol "if", .symbol "if"], .symbol "f"]]

/-- With `if` and `f` exchanged a conditional is rewritten alike, and a function with
a parameter twice is refused alike. -/
theorem withoutLet_rename_exchanged :
    (∀ form : Form, exchanged form.keyword = form.keyword) ∧
      conditional.withoutLet = .ok conditionalWithoutLet ∧
      (conditional.rename exchanged).withoutLet =
        .ok (conditionalWithoutLet.rename exchanged) ∧
      ∃ fault, (doubledParameter.rename exchanged).withoutLet =
        .error (.malformed .lambda fault) := by
  have keyword (form : Form) : exchanged form.keyword = form.keyword := by
    cases form <;> decide
  have accepted : conditional.withoutLet = .ok conditionalWithoutLet := rfl
  have refused :
      doubledParameter.withoutLet =
        .error (.malformed .lambda (.duplicateParameter "if")) := rfl
  have alike := withoutLet_rename_iff exchanged keyword conditional
  have refusedAlike := withoutLet_rename_iff exchanged keyword doubledParameter
  exact
    ⟨keyword, accepted, (alike.1 _).mp accepted,
      (refusedAlike.2.2 .lambda).mp ⟨_, refused⟩⟩

end LetElimination
end SExpr
