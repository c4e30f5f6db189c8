import SExpr.Proofs.LetElimination.Rewriting

/-!
# Well-formed code

Which data are well-formed code, form by form, and how deep code is. Only the
parts of a form that are code themselves have to be well formed, and only they
make it deeper: quoted data, parameters and the targets of definitions are not
looked into, and the values of a `let` stand one level below it although they
are written inside two more lists.

Let elimination checks parameters against the names it has seen so far and the
targets of definitions together with what follows them. `checkFormals_eq_ok_iff`
and `checkFunction_eq_ok_iff` say without that what it asks for.
-/

namespace SExpr
namespace LetElimination

/-- Code whose special forms all have the right shape. -/
inductive WellFormed : Datum -> Prop
  | atom
      {code : Datum}
      (isAtom : code.isAtom = true) :
      WellFormed code
  | quote (operand : Datum) :
      WellFormed (.list [Form.quote.head, operand])
  | function
      {form : Form}
      {names : List String}
      {bodies : List Datum}
      (makes : form = .lambda ∨ form = .mu)
      (distinct : names.Nodup)
      (present : bodies ≠ [])
      (each : ∀ body ∈ bodies, WellFormed body) :
      WellFormed (.list (form.head :: .list (names.map .symbol) :: bodies))
  | defineValue
      (name : String)
      {value : Datum}
      (wellFormed : WellFormed value) :
      WellFormed (.list [Form.define.head, .symbol name, value])
  | defineFunction
      {names : List String}
      {bodies : List Datum}
      (named : names ≠ [])
      (distinct : names.Nodup)
      (present : bodies ≠ [])
      (each : ∀ body ∈ bodies, WellFormed body) :
      WellFormed
        (.list (Form.define.head :: .list (names.map .symbol) :: bodies))
  | letForm
      {pairs : List (String × Datum)}
      {bodies : List Datum}
      (distinct : (pairs.map Prod.fst).Nodup)
      (present : bodies ≠ [])
      (eachValue : ∀ pair ∈ pairs, WellFormed pair.2)
      (eachBody : ∀ body ∈ bodies, WellFormed body) :
      WellFormed
        (.list
          (Form.letForm.head :: .list (pairs.map bindingDatum) :: bodies))
  | combination
      {head : Datum}
      {operands : List Datum}
      (noForm : ∀ form : Form, head ≠ form.head)
      (each : ∀ item ∈ head :: operands, WellFormed item) :
      WellFormed (.list (head :: operands))

/-! ## How deep code is -/

end LetElimination

namespace Datum

mutual

/-- How many levels code has, the parts that are code themselves standing one
level below. -/
def codeDepth : Datum -> Nat
  | .list (head :: operands) =>
      match (Datum.list (head :: operands)).form? with
      | some .quote => 1
      | some .letForm => depthOfLet operands + 1
      | some _ => depthAfterFirst operands + 1
      | none => max head.codeDepth (depthOfAll operands) + 1
  | _ => 0

/-- How many levels the deepest piece of code has. -/
def depthOfAll : List Datum -> Nat
  | [] => 0
  | code :: others => max code.codeDepth (depthOfAll others)

/-- How many levels the deepest piece of code after the first one has. -/
def depthAfterFirst : List Datum -> Nat
  | [] => 0
  | _ :: bodies => depthOfAll bodies

/-- How many levels the values and bodies of a `let` have. -/
def depthOfLet : List Datum -> Nat
  | .list bindings :: bodies => max (depthOfValues bindings) (depthOfAll bodies)
  | _ => 0

/-- How many levels the deepest value of some bindings has. -/
def depthOfValues : List Datum -> Nat
  | [] => 0
  | .list [_, value] :: bindings =>
      max value.codeDepth (depthOfValues bindings)
  | _ :: bindings => depthOfValues bindings

end

/-- The values of some bindings. -/
def bindingValues : List Datum -> List Datum
  | [] => []
  | .list [_, value] :: bindings => value :: bindingValues bindings
  | _ :: bindings => bindingValues bindings

/-- The values and the bodies of a `let`. -/
def letParts : List Datum -> List Datum
  | .list bindings :: bodies => bindingValues bindings ++ bodies
  | _ => []

/-- The parts of a piece of code that are code themselves. -/
def codeParts : Datum -> List Datum
  | .list (head :: operands) =>
      match (Datum.list (head :: operands)).form? with
      | some .quote => []
      | some .letForm => letParts operands
      | some _ => operands.tail
      | none => head :: operands
  | _ => []

@[simp] theorem depthOfAll_nil : depthOfAll [] = 0 := by
  rw [depthOfAll]

@[simp] theorem depthOfAll_cons
    (code : Datum)
    (others : List Datum) :
    depthOfAll (code :: others) = max code.codeDepth (depthOfAll others) := by
  rw [depthOfAll]

@[simp] theorem depthOfAll_append (first second : List Datum) :
    depthOfAll (first ++ second) =
      max (depthOfAll first) (depthOfAll second) := by
  induction first with
  | nil => simp
  | cons code others inductionHypothesis =>
      rw [List.cons_append, depthOfAll_cons, inductionHypothesis,
        depthOfAll_cons, Nat.max_assoc]

theorem depthOfValues_eq (bindings : List Datum) :
    depthOfValues bindings = depthOfAll (bindingValues bindings) := by
  fun_induction bindingValues bindings with
  | case1 => rw [depthOfValues, depthOfAll_nil]
  | case2 name value bindings inductionHypothesis =>
      rw [depthOfValues, inductionHypothesis, depthOfAll_cons]
  | case3 binding bindings notPair inductionHypothesis =>
      rw [depthOfValues, inductionHypothesis]
      exact notPair

theorem depthOfLet_eq (operands : List Datum) :
    depthOfLet operands = depthOfAll (letParts operands) := by
  fun_cases letParts operands with
  | case1 bindings bodies =>
      rw [depthOfLet, depthOfValues_eq, depthOfAll_append]
  | case2 operands noList =>
      rw [depthOfLet, depthOfAll_nil]
      exact noList

/-- Atoms have no levels. -/
theorem codeDepth_of_isAtom
    {code : Datum}
    (isAtom : code.isAtom = true) :
    code.codeDepth = 0 := by
  match code, isAtom with
  | .symbol _, _ => rw [codeDepth.eq_def]
  | .integer _, _ => rw [codeDepth.eq_def]
  | .float _, _ => rw [codeDepth.eq_def]
  | .boolean _, _ => rw [codeDepth.eq_def]
  | .list [], _ => rw [codeDepth.eq_def]

/-- A combination has one level more than the deepest part of it that is code. -/
theorem codeDepth_list_cons
    (head : Datum)
    (operands : List Datum) :
    (Datum.list (head :: operands)).codeDepth =
      depthOfAll (codeParts (.list (head :: operands))) + 1 := by
  rw [codeDepth, codeParts]
  split
  · rw [depthOfAll_nil]
  · rw [depthOfLet_eq]
  · cases operands with
    | nil => rw [depthAfterFirst, List.tail_nil, depthOfAll_nil]
    | cons first bodies => rw [depthAfterFirst, List.tail_cons]
  · rw [depthOfAll_cons]

end Datum

namespace LetElimination

/-! ## What the checks ask for -/

/-- Parameters pass when they are distinct symbols that have not been seen. -/
theorem checkParameters_eq_ok_iff
    {form : Form}
    {seen : List String}
    {parameters : List Datum} :
    checkParameters form seen parameters = .ok () ↔
      ∃ names : List String,
        names.map .symbol = parameters ∧ names.Nodup ∧
          ∀ name ∈ names, name ∉ seen := by
  fun_induction checkParameters form seen parameters with
  | case1 => exact iff_of_true rfl ⟨[], rfl, List.nodup_nil, by simp⟩
  | case2 seen name others member =>
      refine iff_of_false (by simp) ?_
      rintro ⟨names, shape, -, unseen⟩
      obtain ⟨first, rest, rfl, same, -⟩ := List.map_eq_cons_iff.mp shape
      cases same
      exact unseen name List.mem_cons_self member
  | case3 seen name others notMember inductionHypothesis =>
      rw [inductionHypothesis]
      constructor
      · rintro ⟨names, rfl, distinct, unseen⟩
        refine ⟨name :: names, rfl, ?_, ?_⟩ <;> grind
      · rintro ⟨names, shape, distinct, unseen⟩
        obtain ⟨first, rest, rfl, same, rfl⟩ := List.map_eq_cons_iff.mp shape
        cases same
        exact ⟨rest, rfl, by grind, by grind⟩
  | case4 seen other others notSymbol =>
      refine iff_of_false (by simp) ?_
      rintro ⟨names, shape, -, -⟩
      obtain ⟨first, rest, rfl, same, -⟩ := List.map_eq_cons_iff.mp shape
      exact notSymbol first same.symm

/-- The parameters of a form are a list of distinct symbols. -/
theorem checkFormals_eq_ok_iff
    {form : Form}
    {target : Datum} :
    checkFormals form target = .ok () ↔
      ∃ names : List String,
        target = .list (names.map .symbol) ∧ names.Nodup := by
  unfold checkFormals
  split
  · rw [checkParameters_eq_ok_iff]
    simp [eq_comm]
  · next notList =>
      refine iff_of_false (by simp) ?_
      rintro ⟨names, rfl, -⟩
      exact notList _ rfl

/-- A definition is of a symbol with one value, or of a list of distinct symbols
of which there must be one. -/
theorem checkTarget_eq_ok_iff
    {target : Datum}
    {bodies : List Datum} :
    checkTarget target bodies = .ok () ↔
      (bodies.length = 1 ∧ ∃ name, target = .symbol name) ∨
      ∃ names : List String,
        target = .list (names.map .symbol) ∧ names.Nodup ∧ names ≠ [] := by
  unfold checkTarget
  split
  · split <;> simp [*]
  · rw [checkFormals_eq_ok_iff]
    grind
  · next notSymbol notNamed =>
      refine iff_of_false (by simp) ?_
      rintro (⟨-, name, rfl⟩ | ⟨names, rfl, -, named⟩)
      · exact notSymbol name rfl
      · obtain ⟨first, others, rfl⟩ := List.exists_cons_of_ne_nil named
        exact notNamed _ _ rfl

theorem boundNames_eq (pairs : List (String × Datum)) :
    boundNames pairs = (pairs.map Prod.fst).map .symbol := by
  rw [boundNames, List.map_map]
  rfl

/-- The names that a `let` binds are distinct when they pass as parameters. -/
theorem checkFormals_boundNames_eq_ok_iff
    {form : Form}
    {pairs : List (String × Datum)} :
    checkFormals form (.list (boundNames pairs)) = .ok () ↔
      (pairs.map Prod.fst).Nodup := by
  have injective : Function.Injective Datum.symbol :=
    fun _ _ => Datum.symbol.inj
  rw [checkFormals_eq_ok_iff, boundNames_eq]
  constructor
  · rintro ⟨names, same, distinct⟩
    rw [List.map_injective_iff.mpr injective (Datum.list.inj same)]
    exact distinct
  · intro distinct
    exact ⟨_, rfl, distinct⟩

end LetElimination
end SExpr
