import Mathlib.Data.List.Forall2
import SExpr.LetElimination

/-!
# The rules of let elimination

A combination is rewritten by one of four rules, and which one is told by its
head: a quotation is kept, a form that makes or defines a function has its bodies
rewritten, a `let` becomes an application, and every other combination is
rewritten element by element. `Rewrites` says in one place what each rule asks of
a combination and what comes out of it, the rewriting of the parts being a
relation. Let elimination accepts a combination exactly by these rules.
-/

namespace SExpr
namespace LetElimination

/-- The list datum of one binding. -/
def bindingDatum (pair : String × Datum) : Datum :=
  .list [.symbol pair.1, pair.2]

/-- The parameters of the function that a `let` becomes. -/
def boundNames (pairs : List (String × Datum)) : List Datum :=
  pairs.map fun pair => Datum.symbol pair.1

/-- What is checked of the target of a function form and the bodies after it. -/
def checkFunction
    (form : Form)
    (target : Datum)
    (bodies : List Datum) : Except Error Unit :=
  if form = .define then checkTarget target bodies
  else checkFormals form target

/-- How the combination of a head and operands is rewritten, its parts being
rewritten as the given relation says. -/
inductive Rewrites
    (rewritten : Datum -> Datum -> Prop) : Datum -> List Datum -> Datum -> Prop
  | quote (operand : Datum) :
      Rewrites rewritten Form.quote.head [operand] operand.quoted
  | function
      {form : Form}
      {target : Datum}
      {bodies results : List Datum}
      (function : form ≠ .quote ∧ form ≠ .letForm)
      (present : bodies ≠ [])
      (shape : checkFunction form target bodies = .ok ())
      (each : List.Forall₂ rewritten bodies results) :
      Rewrites rewritten form.head (target :: bodies)
        (.list (form.head :: target :: results))
  | letForm
      {pairs : List (String × Datum)}
      {bodies results values : List Datum}
      (present : bodies ≠ [])
      (shape : checkFormals .letForm (.list (boundNames pairs)) = .ok ())
      (eachBody : List.Forall₂ rewritten bodies results)
      (eachValue : List.Forall₂ rewritten (pairs.map Prod.snd) values) :
      Rewrites rewritten Form.letForm.head
        (.list (pairs.map bindingDatum) :: bodies)
        (.list
          (.list (Form.lambda.head :: .list (boundNames pairs) :: results) ::
            values))
  | combination
      {head : Datum}
      {operands items : List Datum}
      (noForm : (Datum.list (head :: operands)).form? = none)
      (each : List.Forall₂ rewritten (head :: operands) items) :
      Rewrites rewritten head operands (.list items)

/-- The rules ask for no more of the parts than that they are rewritten. -/
theorem Rewrites.imp
    {rewritten other : Datum -> Datum -> Prop}
    (weaker : ∀ part result, rewritten part result -> other part result)
    {head result : Datum}
    {operands : List Datum}
    (rewrites : Rewrites rewritten head operands result) :
    Rewrites other head operands result := by
  cases rewrites with
  | quote operand => exact .quote operand
  | function function present shape each =>
      exact .function function present shape (each.imp weaker)
  | letForm present shape eachBody eachValue =>
      exact .letForm present shape (eachBody.imp weaker)
        (eachValue.imp weaker)
  | combination noForm each => exact .combination noForm (each.imp weaker)

/-- A chain of two steps succeeds exactly when both steps do. -/
theorem bind_eq_ok_iff
    {first : Except ε α}
    {next : α -> Except ε β}
    {result : β} :
    (first >>= next) = .ok result ↔
      ∃ value, first = .ok value ∧ next value = .ok result := by
  cases first <;> simp [bind, Except.bind]

/-- Items are transformed in order exactly when each of them is. -/
theorem mapM_eq_ok_iff
    {transform : α -> Except ε β}
    {items : List α}
    {results : List β} :
    items.mapM transform = .ok results ↔
      List.Forall₂ (fun item result => transform item = .ok result)
        items results := by
  induction items generalizing results with
  | nil => cases results <;> simp [pure, Except.pure]
  | cons item items inductionHypothesis =>
      rw [List.mapM_cons, bind_eq_ok_iff, List.forall₂_cons_left_iff]
      simp only [bind_eq_ok_iff, inductionHypothesis, pure, Except.pure,
        Except.ok.injEq]
      constructor
      · rintro ⟨value, first, values, others, rfl⟩
        exact ⟨value, values, first, others, rfl⟩
      · rintro ⟨value, values, first, others, rfl⟩
        exact ⟨value, first, values, others, rfl⟩

/-- A relation that tells of the left items alone is a property of each. -/
theorem forall_mem_of_forall₂
    {property : α -> Prop}
    {items : List α}
    {others : List β}
    (each : List.Forall₂ (fun item _ => property item) items others) :
    ∀ item ∈ items, property item := by
  induction each with
  | nil => simp
  | cons first _ inductionHypothesis =>
      rw [List.forall_mem_cons]
      exact ⟨first, inductionHypothesis⟩

/-- Items that are each related to something are related to a list. -/
theorem exists_forall₂_of_forall_mem
    {relation : α -> β -> Prop}
    {items : List α}
    (each : ∀ item ∈ items, ∃ other, relation item other) :
    ∃ others, List.Forall₂ relation items others := by
  induction items with
  | nil => exact ⟨[], .nil⟩
  | cons item items inductionHypothesis =>
      rw [List.forall_mem_cons] at each
      obtain ⟨other, first⟩ := each.1
      obtain ⟨others, rest⟩ := inductionHypothesis each.2
      exact ⟨other :: others, .cons first rest⟩

/-- A binding is read exactly from its list datum. -/
theorem readBinding_eq_ok_iff
    {datum : Datum}
    {pair : String × Datum} :
    readBinding datum = .ok pair ↔ datum = bindingDatum pair := by
  constructor
  · intro read
    unfold readBinding at read
    split at read
    · cases read
      rfl
    · cases read
  · rintro rfl
    rfl

/-- Bindings are read exactly from the list of their list data. -/
theorem readBindings_eq_ok_iff
    {datum : Datum}
    {pairs : List (String × Datum)} :
    readBindings datum = .ok pairs ↔
      datum = .list (pairs.map bindingDatum) := by
  have each (bindings : List Datum) :
      bindings.mapM readBinding = .ok pairs ↔
        bindings = pairs.map bindingDatum := by
    rw [mapM_eq_ok_iff]
    simp only [readBinding_eq_ok_iff]
    rw [← List.forall₂_map_right_iff (R := (· = ·)), List.forall₂_eq_eq_eq]
  constructor
  · intro read
    unfold readBindings at read
    split at read
    · rw [(each _).mp read]
    · cases read
  · rintro rfl
    exact (each _).mpr rfl

/-- The form of a combination is told by the symbol at its head. -/
theorem head_eq_of_form?
    {head : Datum}
    {operands : List Datum}
    {form : Form}
    (found : (Datum.list (head :: operands)).form? = some form) :
    head = form.head := by
  cases head with
  | symbol name => rw [Form.head, Form.keyword_of_ofKeyword? found]
  | integer | float | boolean | list => cases found

@[simp] theorem form?_head
    (form : Form)
    (operands : List Datum) :
    (Datum.list (form.head :: operands)).form? = some form :=
  Form.ofKeyword?_keyword form

/-- Different forms have different heads. -/
theorem form_head_injective : Function.Injective Form.head := by
  intro first second same
  have found : (Datum.list [second.head]).form? = some first :=
    same ▸ form?_head first []
  rw [form?_head] at found
  exact (Option.some.inj found).symm

theorem form?_eq_none_iff
    {head : Datum}
    {operands : List Datum} :
    (Datum.list (head :: operands)).form? = none ↔
      ∀ form : Form, head ≠ form.head := by
  constructor
  · rintro noForm form rfl
    rw [form?_head] at noForm
    cases noForm
  · intro noHead
    cases found : (Datum.list (head :: operands)).form? with
    | none => rfl
    | some form => exact absurd (head_eq_of_form? found) (noHead form)

/-! ## The rule of each form -/

section

variable {rewritten : Datum -> Datum -> Prop}
variable {head result : Datum}
variable {operands : List Datum}

/-- A combination with the head of a function form is rewritten as that. -/
theorem Rewrites.of_function
    {form : Form}
    (rewrites : Rewrites rewritten form.head operands result)
    (function : form ≠ .quote ∧ form ≠ .letForm) :
    ∃ target bodies results,
      operands = target :: bodies ∧ bodies ≠ [] ∧
      checkFunction form target bodies = .ok () ∧
      List.Forall₂ rewritten bodies results ∧
      result = .list (form.head :: target :: results) := by
  generalize same : form.head = head at rewrites
  cases rewrites with
  | quote => exact absurd (form_head_injective same) function.1
  | letForm => exact absurd (form_head_injective same) function.2
  | function _ present shape each =>
      obtain rfl := form_head_injective same
      exact ⟨_, _, _, rfl, present, shape, each, rfl⟩
  | combination noForm => exact absurd same.symm (form?_eq_none_iff.mp noForm form)

/-- A combination with the head of a `let` is rewritten as that. -/
theorem Rewrites.of_letForm
    (rewrites : Rewrites rewritten Form.letForm.head operands result) :
    ∃ pairs bodies results values,
      operands = .list (pairs.map bindingDatum) :: bodies ∧ bodies ≠ [] ∧
      checkFormals .letForm (.list (boundNames pairs)) = .ok () ∧
      List.Forall₂ rewritten bodies results ∧
      List.Forall₂ rewritten (pairs.map Prod.snd) values ∧
      result = .list
        (.list (Form.lambda.head :: .list (boundNames pairs) :: results) ::
          values) := by
  generalize same : Form.letForm.head = head at rewrites
  cases rewrites with
  | quote => exact absurd (form_head_injective same) (by decide)
  | function function =>
      exact absurd (form_head_injective same).symm function.2
  | letForm present shape eachBody eachValue =>
      exact ⟨_, _, _, _, rfl, present, shape, eachBody, eachValue, rfl⟩
  | combination noForm =>
      exact absurd same.symm (form?_eq_none_iff.mp noForm .letForm)

/-- A combination that is no special form is rewritten element by element. -/
theorem Rewrites.of_noForm
    (rewrites : Rewrites rewritten head operands result)
    (noForm : (Datum.list (head :: operands)).form? = none) :
    ∃ items,
      List.Forall₂ rewritten (head :: operands) items ∧ result = .list items := by
  have noHead := form?_eq_none_iff.mp noForm
  cases rewrites with
  | quote => exact absurd rfl (noHead .quote)
  | function => exact absurd rfl (noHead _)
  | letForm => exact absurd rfl (noHead .letForm)
  | combination _ each => exact ⟨_, each, rfl⟩

end

/-! ## The rules and let elimination -/

section

variable {eliminate : Datum -> Except Error Datum}
variable {operands : List Datum}
variable {result : Datum}

/-- A quotation is accepted with one operand and kept. -/
theorem eliminateQuote_eq_ok_iff :
    eliminateQuote operands = .ok result ↔
      ∃ operand, operands = [operand] ∧ result = operand.quoted := by
  match operands with
  | [] => simp [eliminateQuote]
  | [operand] => simp [eliminateQuote, eq_comm]
  | _ :: _ :: _ => simp [eliminateQuote]

/-- With a body in it, a function form is checked and then its bodies are
rewritten. -/
theorem eliminateFunction_of_present
    {bodies : List Datum}
    (present : bodies ≠ [])
    (form : Form)
    (target : Datum) :
    eliminateFunction form eliminate (target :: bodies) =
      (do
        checkFunction form target bodies
        let results <- bodies.mapM eliminate
        return .list (form.head :: target :: results)) := by
  obtain ⟨first, others, rfl⟩ := List.exists_cons_of_ne_nil present
  by_cases defines : form = .define <;>
    simp [eliminateFunction, checkFunction, defines]

/-- With a body in it, the bindings of a `let` are read, its names are checked, and
then its bodies and values are rewritten. -/
theorem eliminateLet_of_present
    {bodies : List Datum}
    (present : bodies ≠ [])
    (bindings : Datum) :
    eliminateLet eliminate (bindings :: bodies) =
      (do
        let pairs <- readBindings bindings
        checkFormals .letForm (.list (boundNames pairs))
        let results <- bodies.mapM eliminate
        let values <- (pairs.map Prod.snd).mapM eliminate
        return .list
          (.list (Form.lambda.head :: .list (boundNames pairs) :: results) ::
            values)) := by
  obtain ⟨first, others, rfl⟩ := List.exists_cons_of_ne_nil present
  rfl

/-- A function form is accepted when its target is and its bodies are, of which
there must be one. -/
theorem eliminateFunction_eq_ok_iff
    {form : Form} :
    eliminateFunction form eliminate operands = .ok result ↔
      ∃ target bodies results,
        operands = target :: bodies ∧ bodies ≠ [] ∧
        checkFunction form target bodies = .ok () ∧
        bodies.mapM eliminate = .ok results ∧
        result = .list (form.head :: target :: results) := by
  match operands with
  | [] => simp [eliminateFunction]
  | [_] => simp [eliminateFunction]
  | target :: first :: others =>
      rw [eliminateFunction_of_present (List.cons_ne_nil first others)]
      simp only [bind_eq_ok_iff, pure, Except.pure, Except.ok.injEq]
      constructor
      · rintro ⟨_, checked, results, mapped, rfl⟩
        exact ⟨target, _, results, rfl, by simp, checked, mapped, rfl⟩
      · rintro ⟨target', bodies, results, shape, -, checked, mapped, rfl⟩
        obtain ⟨rfl, rfl⟩ := List.cons.inj shape
        exact ⟨(), checked, results, mapped, rfl⟩

/-- A `let` is accepted when its bindings can be read, its names are distinct,
and its bodies, of which there must be one, and its values are accepted. -/
theorem eliminateLet_eq_ok_iff :
    eliminateLet eliminate operands = .ok result ↔
      ∃ pairs bodies results values,
        operands = .list (pairs.map bindingDatum) :: bodies ∧ bodies ≠ [] ∧
        checkFormals .letForm (.list (boundNames pairs)) = .ok () ∧
        bodies.mapM eliminate = .ok results ∧
        (pairs.map Prod.snd).mapM eliminate = .ok values ∧
        result = .list
          (.list (Form.lambda.head :: .list (boundNames pairs) :: results) ::
            values) := by
  match operands with
  | [] => simp [eliminateLet]
  | [_] => simp [eliminateLet]
  | bindings :: first :: others =>
      rw [eliminateLet_of_present (List.cons_ne_nil first others)]
      simp only [bind_eq_ok_iff, pure, Except.pure, Except.ok.injEq]
      constructor
      · rintro ⟨pairs, read, _, checked, results, mapped, values, evaluated,
          rfl⟩
        rw [readBindings_eq_ok_iff.mp read]
        exact ⟨pairs, _, results, values, rfl, by simp, checked, mapped,
          evaluated, rfl⟩
      · rintro ⟨pairs, bodies, results, values, shape, -, checked, mapped,
          evaluated, rfl⟩
        obtain ⟨rfl, rfl⟩ := List.cons.inj shape
        exact ⟨pairs, readBindings_eq_ok_iff.mpr rfl, (), checked, results,
          mapped, values, evaluated, rfl⟩

/-- A combination with the head of a function form is rewritten as that. -/
theorem eliminateCombination_function
    {form : Form}
    (function : form ≠ .quote ∧ form ≠ .letForm) :
    eliminateCombination eliminate form.head operands =
      eliminateFunction form eliminate operands := by
  rw [eliminateCombination, form?_head]
  cases form with
  | quote => exact absurd rfl function.1
  | letForm => exact absurd rfl function.2
  | lambda | mu | define => rfl

theorem eliminateCombination_quote :
    eliminateCombination eliminate Form.quote.head operands =
      eliminateQuote operands := by
  rw [eliminateCombination, form?_head]

theorem eliminateCombination_letForm :
    eliminateCombination eliminate Form.letForm.head operands =
      eliminateLet eliminate operands := by
  rw [eliminateCombination, form?_head]

/-- Any other combination is rewritten element by element. -/
theorem eliminateCombination_of_noForm
    {head : Datum}
    (noForm : (Datum.list (head :: operands)).form? = none) :
    eliminateCombination eliminate head operands =
      (do
        let items <- (head :: operands).mapM eliminate
        return .list items) := by
  rw [eliminateCombination, noForm]

/-- Let elimination accepts a combination exactly by its rules. -/
theorem eliminateCombination_eq_ok_iff
    {head : Datum} :
    eliminateCombination eliminate head operands = .ok result ↔
      Rewrites (fun part rewritten => eliminate part = .ok rewritten)
        head operands result := by
  constructor
  · intro accepted
    unfold eliminateCombination at accepted
    split at accepted
    · next found =>
        obtain rfl := head_eq_of_form? found
        obtain ⟨operand, rfl, rfl⟩ := eliminateQuote_eq_ok_iff.mp accepted
        exact .quote operand
    · next found =>
        obtain rfl := head_eq_of_form? found
        obtain ⟨pairs, bodies, results, values, rfl, present, checked, mapped,
          evaluated, rfl⟩ := eliminateLet_eq_ok_iff.mp accepted
        exact .letForm present checked (mapM_eq_ok_iff.mp mapped)
          (mapM_eq_ok_iff.mp evaluated)
    · next form notQuote notLet found =>
        obtain rfl := head_eq_of_form? found
        obtain ⟨target, bodies, results, rfl, present, checked, mapped, rfl⟩ :=
          eliminateFunction_eq_ok_iff.mp accepted
        exact .function ⟨notQuote, notLet⟩ present checked
          (mapM_eq_ok_iff.mp mapped)
    · next noForm =>
        obtain ⟨items, mapped, done⟩ := bind_eq_ok_iff.mp accepted
        cases done
        exact .combination noForm (mapM_eq_ok_iff.mp mapped)
  · intro rewrites
    cases rewrites with
    | quote operand =>
        rw [eliminateCombination_quote]
        exact eliminateQuote_eq_ok_iff.mpr ⟨operand, rfl, rfl⟩
    | function function present shape each =>
        rw [eliminateCombination_function function]
        exact eliminateFunction_eq_ok_iff.mpr
          ⟨_, _, _, rfl, present, shape, mapM_eq_ok_iff.mpr each, rfl⟩
    | letForm present shape eachBody eachValue =>
        rw [eliminateCombination_letForm]
        exact eliminateLet_eq_ok_iff.mpr
          ⟨_, _, _, _, rfl, present, shape, mapM_eq_ok_iff.mpr eachBody,
            mapM_eq_ok_iff.mpr eachValue, rfl⟩
    | combination noForm each =>
        rw [eliminateCombination_of_noForm noForm]
        exact bind_eq_ok_iff.mpr ⟨_, mapM_eq_ok_iff.mpr each, rfl⟩

end

/-- A datum is an atom or a combination. -/
theorem isAtom_or_combination (datum : Datum) :
    datum.isAtom = true ∨
      ∃ head operands, datum = .list (head :: operands) := by
  match datum with
  | .symbol _ | .integer _ | .float _ | .boolean _ | .list [] => exact .inl rfl
  | .list (head :: operands) => exact .inr ⟨head, operands, rfl⟩

/-- Code is accepted when it is an atom, or when a level is left for it and its
combination is accepted with one level less for the parts. -/
theorem eliminate_eq_ok_iff
    {levels : Nat}
    {code result : Datum} :
    eliminate levels code = .ok result ↔
      (code.isAtom = true ∧ result = code) ∨
      ∃ below head operands,
        levels = below + 1 ∧ code = .list (head :: operands) ∧
        Rewrites (fun part rewritten => eliminate below part = .ok rewritten)
          head operands result := by
  obtain atom | ⟨head, operands, rfl⟩ := isAtom_or_combination code
  · rw [eliminate_of_isAtom levels atom]
    constructor
    · intro kept
      cases kept
      exact .inl ⟨atom, rfl⟩
    · rintro (⟨-, rfl⟩ | ⟨_, head, operands, -, rfl, -⟩)
      · rfl
      · simp at atom
  · cases levels with
    | zero => simp
    | succ below =>
        rw [eliminate_succ_list_cons, eliminateCombination_eq_ok_iff]
        constructor
        · intro rewrites
          exact .inr ⟨below, head, operands, rfl, rfl, rewrites⟩
        · rintro (⟨atom, -⟩ | ⟨_, _, _, level, code, rewrites⟩)
          · simp at atom
          · cases level
            cases code
            exact rewrites

/-- What holds between every atom and itself, and between a combination and its
result when it holds between its parts and theirs, holds between all accepted code
and its result. -/
theorem eliminate_induction
    {motive : Datum -> Datum -> Prop}
    (atom : ∀ code, code.isAtom = true -> motive code code)
    (combination : ∀ below head operands result,
      Rewrites
          (fun part rewritten =>
            eliminate below part = .ok rewritten ∧ motive part rewritten)
          head operands result ->
        motive (.list (head :: operands)) result)
    {levels : Nat}
    {code result : Datum}
    (accepted : eliminate levels code = .ok result) :
    motive code result := by
  induction levels generalizing code result with
  | zero =>
      obtain ⟨isAtom, rfl⟩ | ⟨_, _, _, level, -, -⟩ :=
        eliminate_eq_ok_iff.mp accepted
      · exact atom _ isAtom
      · cases level
  | succ levels inductionHypothesis =>
      obtain ⟨isAtom, rfl⟩ | ⟨_, head, operands, level, rfl, rewrites⟩ :=
        eliminate_eq_ok_iff.mp accepted
      · exact atom _ isAtom
      · cases level
        have both (part rewritten : Datum)
            (partAccepted : eliminate levels part = .ok rewritten) :
            eliminate levels part = .ok rewritten ∧ motive part rewritten :=
          ⟨partAccepted, inductionHypothesis partAccepted⟩
        exact combination levels head operands result (rewrites.imp both)

end LetElimination
end SExpr
