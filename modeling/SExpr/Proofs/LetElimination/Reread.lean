import SExpr.Proofs.LetElimination.Idempotence

/-!
# Let elimination and printing

Code that is printed and read again may be another datum, since a float that is not
finite is read back as a symbol. That makes no difference to let elimination: it is no
special form by such a symbol at its head, and no parameter or target that passes the
checks is a float. So what the printed form of code denotes is rewritten to what the
printed form of its result denotes. The leaves of the result are those of the code,
besides the symbols at the heads of new functions.
-/

namespace SExpr
namespace LetElimination

/-! ## Leaves -/

/-- The leaves of a datum are among those of another one or are the symbol at the head
of a function. -/
def KeepsLeaves (code result : Datum) : Prop :=
  ∀ leaf ∈ result.leaves, leaf = Form.lambda.head ∨ leaf ∈ code.leaves

theorem leavesOfAll_of_forall₂
    {codes results : List Datum}
    (each : List.Forall₂ KeepsLeaves codes results) :
    ∀ leaf ∈ Datum.leavesOfAll results,
      leaf = Form.lambda.head ∨ leaf ∈ Datum.leavesOfAll codes := by
  induction each with
  | nil => simp
  | @cons code result codes results first _ inductionHypothesis =>
      intro leaf member
      rw [Datum.leavesOfAll_cons, List.mem_append] at member ⊢
      obtain inFirst | inOthers := member
      · exact (first leaf inFirst).imp_right .inl
      · exact (inductionHypothesis leaf inOthers).imp_right .inr

/-- The leaves of bindings are their names and the leaves of their values. -/
theorem mem_leavesOfAll_bindingDatum_iff
    (pairs : List (String × Datum))
    (leaf : Datum) :
    leaf ∈ Datum.leavesOfAll (pairs.map bindingDatum) ↔
      leaf ∈ boundNames pairs ∨
        leaf ∈ Datum.leavesOfAll (pairs.map Prod.snd) := by
  induction pairs with
  | nil => simp [boundNames]
  | cons pair pairs inductionHypothesis =>
      simp only [boundNames, List.map_cons, Datum.leavesOfAll_cons, bindingDatum,
        Datum.leaves_list, Datum.leavesOfAll_nil, Datum.leaves_symbol,
        List.mem_append, List.mem_cons] at inductionHypothesis ⊢
      grind

/-- The names that a `let` binds are leaves of their own. -/
theorem leavesOfAll_boundNames (pairs : List (String × Datum)) :
    Datum.leavesOfAll (boundNames pairs) = boundNames pairs := by
  induction pairs with
  | nil => rfl
  | cons pair pairs inductionHypothesis =>
      unfold boundNames at *
      rw [List.map_cons, Datum.leavesOfAll_cons, inductionHypothesis]
      rfl

/-- The rules keep the leaves of a combination when the parts keep theirs. -/
theorem keepsLeaves_of_rewrites
    {head result : Datum}
    {operands : List Datum}
    (rewrites : Rewrites KeepsLeaves head operands result) :
    KeepsLeaves (.list (head :: operands)) result := by
  intro leaf member
  cases rewrites with
  | quote operand => exact .inr member
  | @function form target bodies results function present shape each =>
      have inBodies := leavesOfAll_of_forall₂ each leaf
      simp only [Datum.leaves_list, Datum.leavesOfAll_cons, List.mem_append]
        at member ⊢
      grind
  | @letForm pairs bodies results values present shape eachBody eachValue =>
      have inBodies := leavesOfAll_of_forall₂ eachBody leaf
      have inValues := leavesOfAll_of_forall₂ eachValue leaf
      have inBindings := mem_leavesOfAll_bindingDatum_iff pairs leaf
      have lambda : Form.lambda.head.leaves = [Form.lambda.head] := rfl
      simp only [Datum.leaves_list, Datum.leavesOfAll_cons, leavesOfAll_boundNames,
        lambda, List.mem_append, List.mem_singleton] at member ⊢
      grind
  | combination noForm each =>
      rw [Datum.leaves_list] at member ⊢
      exact leavesOfAll_of_forall₂ each leaf member

/-- The leaves of rewritten code are those of the code or the symbol at the head of a
function. -/
theorem keepsLeaves_of_eliminate
    {levels : Nat}
    {code result : Datum}
    (accepted : eliminate levels code = .ok result) :
    KeepsLeaves code result := by
  refine eliminate_induction (motive := KeepsLeaves) ?_ ?_ accepted
  · intro code _ leaf member
    exact .inr member
  · intro _ head operands result rewrites
    exact keepsLeaves_of_rewrites (rewrites.imp fun _ _ part => part.2)

/-! ## What printed code denotes -/

theorem reread_head (form : Form) : form.head.reread = form.head := rfl

/-- A list of symbols is not changed. -/
theorem reread_list_symbols (names : List String) :
    (Datum.list (names.map .symbol)).reread = .list (names.map .symbol) := by
  rw [Datum.reread_list, Datum.rereadAll_eq_map, List.map_map]
  rfl

/-- The target of a function form is not changed. -/
theorem reread_of_checkFunction
    {form : Form}
    {target : Datum}
    {bodies : List Datum}
    (shape : checkFunction form target bodies = .ok ()) :
    target.reread = target := by
  unfold checkFunction at shape
  split at shape
  · obtain ⟨-, name, rfl⟩ | ⟨names, rfl, -⟩ := checkTarget_eq_ok_iff.mp shape
    · rfl
    · exact reread_list_symbols names
  · obtain ⟨names, rfl, -⟩ := checkFormals_eq_ok_iff.mp shape
    exact reread_list_symbols names

/-- A combination that is no special form does not become one. -/
theorem form?_reread_eq_none
    {head : Datum}
    {operands others : List Datum}
    (noForm : (Datum.list (head :: operands)).form? = none) :
    (Datum.list (head.reread :: others)).form? = none := by
  rw [form?_eq_none_iff] at noForm ⊢
  intro form same
  match head with
  | .symbol _ | .integer _ | .boolean _ => exact noForm form same
  | .list items =>
      rw [Datum.reread_list] at same
      cases same
  | .float (.finite negative magnitude) =>
      have finite := Datum.reread_float_eq_iff (.finite negative magnitude)
      rw [finite.mpr trivial] at same
      cases same
  | .float .nan | .float (.infinite true) | .float (.infinite false) =>
      -- These are printed as words, and the words are not those of special forms.
      revert same
      cases form <;> decide

/-- What the printed forms of the values of bindings denote, under the same names. -/
def rereadValues (pairs : List (String × Datum)) : List (String × Datum) :=
  pairs.map fun pair => (pair.1, pair.2.reread)

theorem map_reread_bindingDatum (pairs : List (String × Datum)) :
    (pairs.map bindingDatum).map Datum.reread =
      (rereadValues pairs).map bindingDatum := by
  simp [rereadValues, bindingDatum, Function.comp_def]

theorem boundNames_rereadValues (pairs : List (String × Datum)) :
    boundNames (rereadValues pairs) = boundNames pairs := by
  simp [rereadValues, boundNames, Function.comp_def]

theorem map_reread_boundNames (pairs : List (String × Datum)) :
    (boundNames pairs).map Datum.reread = boundNames pairs := by
  simp [boundNames, Function.comp_def]

theorem map_snd_rereadValues (pairs : List (String × Datum)) :
    (rereadValues pairs).map Prod.snd =
      (pairs.map Prod.snd).map Datum.reread := by
  simp [rereadValues, Function.comp_def]

/-- What the printed form of a combination denotes is rewritten by the rule for the
combination. -/
theorem Rewrites.reread
    {rewritten other : Datum -> Datum -> Prop}
    (parts : ∀ part result, rewritten part result ->
      other part.reread result.reread)
    {head result : Datum}
    {operands : List Datum}
    (rewrites : Rewrites rewritten head operands result) :
    Rewrites other head.reread (operands.map Datum.reread) result.reread := by
  have all {codes results : List Datum}
      (each : List.Forall₂ rewritten codes results) :
      List.Forall₂ other (codes.map Datum.reread) (results.map Datum.reread) :=
    List.forall₂_map_left_iff.mpr
      (List.forall₂_map_right_iff.mpr (each.imp parts))
  cases rewrites with
  | quote operand =>
      have kept : operand.quoted.reread = operand.reread.quoted := by
        simp [Datum.quoted, reread_head]
      rw [kept]
      exact .quote operand.reread
  | @function form target bodies results function present shape each =>
      have target := reread_of_checkFunction shape
      rw [checkFunction_congr (List.length_map Datum.reread).symm] at shape
      rw [Datum.reread_list, Datum.rereadAll_eq_map, List.map_cons, List.map_cons,
        List.map_cons, target]
      exact .function function (by simpa using present) shape (all each)
  | @letForm pairs bodies results values present shape eachBody eachValue =>
      have formals :
          checkFormals .letForm (.list (boundNames (rereadValues pairs))) =
            .ok () := by
        rw [boundNames_rereadValues]
        exact shape
      have eachReread :
          List.Forall₂ other ((rereadValues pairs).map Prod.snd)
            (values.map Datum.reread) := by
        rw [map_snd_rereadValues]
        exact all eachValue
      have binds :=
        Rewrites.letForm (by simpa using present) formals (all eachBody) eachReread
      simpa only [List.map_cons, Datum.reread_list, Datum.rereadAll_eq_map,
        reread_head, map_reread_bindingDatum, map_reread_boundNames,
        boundNames_rereadValues] using binds
  | combination noForm each =>
      rw [Datum.reread_list, Datum.rereadAll_eq_map]
      exact .combination (form?_reread_eq_none noForm) (all each)

/-- The printed form of an atom denotes an atom. -/
theorem isAtom_reread
    {code : Datum}
    (isAtom : code.isAtom = true) :
    code.reread.isAtom = true := by
  match code, isAtom with
  | .symbol _, _ | .integer _, _ | .boolean _, _ | .list [], _ => rfl
  | .float number, _ =>
      rw [Datum.reread]
      split <;> rfl

/-- What printed code denotes has as its result what the printed result denotes, with
any number of levels that is enough for it. -/
theorem eliminatesTo_reread
    {levels : Nat}
    {code result : Datum}
    (accepted : eliminate levels code = .ok result) :
    EliminatesTo code.reread result.reread := by
  refine eliminate_induction
    (motive := fun code result => EliminatesTo code.reread result.reread)
    ?_ ?_ accepted
  · intro code isAtom
    exact eliminatesTo_of_isAtom (isAtom_reread isAtom)
  · intro _ head operands result rewrites
    rw [Datum.reread_list, Datum.rereadAll_eq_map]
    exact eliminatesTo_of_rewrites (rewrites.reread fun _ _ part => part.2)

end LetElimination
end SExpr
