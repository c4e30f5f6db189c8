import SExpr.Proofs.Datum.Leaves
import SExpr.Proofs.LetElimination.Refusal

/-!
# Code and the levels of data

Code is never deeper than the levels of the datum that it is, since each part of it
that is code stands inside it. So let elimination does not refuse a datum for its
nesting when the datum has no more levels than it is given.

Code may have more levels than it is deep, though. The bindings of a `let` and each
of them are lists that are no code, so that a level of code takes up to three levels
of lists, and quoted data are not looked into. A limit on the depth of code limits the
levels of accepted code in this way alone, and there is code that has them all.
-/

namespace SExpr
namespace LetElimination

open Datum (codeDepth codeParts depthOfAll)

theorem depthOfAll_le_iff
    {codes : List Datum}
    {bound : Nat} :
    depthOfAll codes ≤ bound ↔ ∀ code ∈ codes, code.codeDepth ≤ bound := by
  induction codes with
  | nil => simp
  | cons code codes inductionHypothesis =>
      rw [Datum.depthOfAll_cons, Nat.max_le, inductionHypothesis,
        List.forall_mem_cons]

/-- Code is not deeper than its levels. -/
theorem codeDepth_le_levels (code : Datum) :
    code.codeDepth ≤ code.levels := by
  induction code using codeParts_induction with
  | step code inductionHypothesis =>
      obtain isAtom | ⟨head, operands, rfl⟩ := isAtom_or_combination code
      · rw [Datum.codeDepth_of_isAtom isAtom]
        exact Nat.zero_le _
      · rw [Datum.codeDepth_list_cons, Datum.levels_list_cons]
        refine Nat.succ_le_succ (depthOfAll_le_iff.mpr fun part member => ?_)
        have fewer := levels_lt_of_mem_codeParts member
        rw [Datum.levels_list_cons, Nat.lt_succ_iff] at fewer
        exact Nat.le_trans (inductionHypothesis part member) fewer

/-- Code is not refused for its nesting with as many levels as it is deep. -/
theorem eliminate_ne_nestingTooDeep
    {levels : Nat}
    {code : Datum}
    (shallow : code.codeDepth ≤ levels) :
    FailsOnlyWith (· ≠ .nestingTooDeep) (eliminate levels code) := by
  induction levels generalizing code with
  | zero =>
      obtain isAtom | ⟨head, operands, rfl⟩ := isAtom_or_combination code
      · exact eliminate_failsOnlyWith_of_isAtom isAtom 0
      · rw [Datum.codeDepth_list_cons] at shallow
        cases shallow
  | succ levels inductionHypothesis =>
      obtain isAtom | ⟨head, operands, rfl⟩ := isAtom_or_combination code
      · exact eliminate_failsOnlyWith_of_isAtom isAtom _
      · rw [Datum.codeDepth_list_cons, Nat.add_le_add_iff_right,
          depthOfAll_le_iff] at shallow
        rw [eliminate_succ_list_cons]
        refine eliminateCombination_failsOnlyWith ?_
          fun part member => inductionHypothesis (shallow part member)
        rintro form error ⟨fault, rfl⟩
        exact Error.noConfusion

/-! ## The levels of accepted code -/

theorem levels_list_symbols_le (names : List String) :
    (Datum.list (names.map .symbol)).levels ≤ 1 := by
  refine Datum.levels_list_le fun item member => ?_
  obtain ⟨name, -, rfl⟩ := List.mem_map.mp member
  exact Nat.le_of_eq (Datum.levels_symbol name)

theorem levels_bindingDatum_le
    {bound : Nat}
    {pair : String × Datum}
    (value : pair.2.levels ≤ bound) :
    (bindingDatum pair).levels ≤ bound + 1 := by
  refine Datum.levels_list_le ?_
  simp [value]

/-- Well-formed code has three levels more than its parts at most, if it is no
quotation of a datum that has still more. -/
theorem WellFormed.levels_le_of_codeParts
    {bound : Nat}
    {code : Datum}
    (wellFormed : WellFormed code)
    (each : ∀ part ∈ codeParts code, part.levels ≤ bound)
    (quotation : ∀ operand : Datum,
      code = operand.quoted -> operand.levels ≤ bound + 2) :
    code.levels ≤ bound + 3 := by
  -- A function form has its target besides its bodies, a list of symbols at most.
  have function {form : Form} {target : Datum} {bodies : List Datum}
      (targetLevels : target.levels ≤ 1)
      (eachBody : ∀ body ∈ bodies, body.levels ≤ bound) :
      (Datum.list (form.head :: target :: bodies)).levels ≤ bound + 3 := by
    refine Datum.levels_list_le ?_
    simp only [List.forall_mem_cons, Form.head, Datum.levels_symbol]
    exact ⟨Nat.zero_le _, by omega, fun body member =>
      Nat.le_add_right_of_le (eachBody body member)⟩
  cases wellFormed with
  | atom isAtom =>
      rw [Datum.levels_of_isAtom isAtom]
      exact Nat.zero_le _
  | quote operand =>
      refine Datum.levels_list_le ?_
      simpa [Form.head] using quotation operand rfl
  | @function form names bodies makes distinct present wellFormedBodies =>
      rw [codeParts_function (by grind)] at each
      exact function (levels_list_symbols_le names) each
  | defineValue name valueWellFormed =>
      rw [codeParts_function (by decide)] at each
      exact function (by simp) each
  | @defineFunction names bodies named distinct present wellFormedBodies =>
      rw [codeParts_function (by decide)] at each
      exact function (levels_list_symbols_le names) each
  | @letForm pairs bodies distinct present eachValue eachBody =>
      rw [codeParts_letForm, List.forall_mem_append] at each
      have bindings :
          (Datum.list (pairs.map bindingDatum)).levels ≤ bound + 2 := by
        refine Datum.levels_list_le fun binding member => ?_
        obtain ⟨pair, among, rfl⟩ := List.mem_map.mp member
        exact levels_bindingDatum_le (each.1 _ (List.mem_map_of_mem among))
      refine Datum.levels_list_le ?_
      simp only [List.forall_mem_cons, Form.head, Datum.levels_symbol]
      exact ⟨Nat.zero_le _, bindings, fun body member =>
        Nat.le_add_right_of_le (each.2 body member)⟩
  | combination noForm wellFormedItems =>
      rw [codeParts_of_noForm (form?_eq_none_iff.mpr noForm)] at each
      refine Datum.levels_list_le fun item member => ?_
      exact Nat.le_add_right_of_le (each item member)

/-- Well-formed code has at most three levels of lists for each level of code, besides
the levels of the data that are quoted in it. -/
theorem WellFormed.levels_le
    {most : Nat}
    {code : Datum}
    (wellFormed : WellFormed code)
    (quotations : ∀ operand : Datum,
      CodeIn operand.quoted code -> operand.levels ≤ most) :
    code.levels ≤ 3 * code.codeDepth + most := by
  induction code using codeParts_induction with
  | step code inductionHypothesis =>
      obtain isAtom | ⟨head, operands, rfl⟩ := isAtom_or_combination code
      · rw [Datum.levels_of_isAtom isAtom]
        exact Nat.zero_le _
      · rw [Datum.codeDepth_list_cons]
        generalize deepest :
          depthOfAll (codeParts (.list (head :: operands))) = depth
        have parts : ∀ part ∈ codeParts (.list (head :: operands)),
            part.levels ≤ 3 * depth + most := by
          intro part member
          have levels := inductionHypothesis part member
            (wellFormed.of_mem_codeParts member)
            fun operand inside => quotations operand (.part member inside)
          have shallow := depthOfAll_le_iff.mp (Nat.le_of_eq deepest) part member
          omega
        have quotation (operand : Datum)
            (same : .list (head :: operands) = operand.quoted) :
            operand.levels ≤ 3 * depth + most + 2 := by
          have levels := quotations operand (same ▸ .self)
          omega
        have levels := wellFormed.levels_le_of_codeParts parts quotation
        omega

/-- Accepted code has no more levels than the limit, where only lists that are code
count. With the lists of bindings and the lists of names it may have three times as
many, besides the levels of the data that are quoted in it. -/
theorem levels_le_of_withoutLet
    {code result : Datum}
    (accepted : code.withoutLet = .ok result) :
    code.codeDepth ≤ maxNesting ∧
      ∀ most,
        (∀ operand : Datum,
          CodeIn operand.quoted code -> operand.levels ≤ most) ->
        code.levels ≤ 3 * maxNesting + most := by
  obtain ⟨wellFormed, shallow⟩ := eliminate_accepts_iff.mp ⟨result, accepted⟩
  refine ⟨shallow, fun most quotations => ?_⟩
  have levels := wellFormed.levels_le quotations
  omega

/-! ## Code with three levels of lists for each level -/

/-- A number of lets, each in the value of the one before:
`(let ((x (let ((x ...)) x))) x)`. -/
def valueLets : (count : Nat) -> Datum
  | 0 => .symbol "x"
  | count + 1 =>
      .list
        [Form.letForm.head, .list [.list [.symbol "x", valueLets count]],
          .symbol "x"]

theorem codeParts_valueLets_succ (count : Nat) :
    codeParts (valueLets (count + 1)) = [valueLets count, .symbol "x"] :=
  codeParts_letForm [("x", valueLets count)]

theorem wellFormed_valueLets (count : Nat) :
    WellFormed (valueLets count) := by
  induction count with
  | zero => exact .atom rfl
  | succ count inductionHypothesis =>
      exact @WellFormed.letForm [("x", valueLets count)] _ (by simp) (by simp)
        (by simpa using inductionHypothesis) (by simpa using .atom rfl)

theorem codeDepth_valueLets (count : Nat) :
    (valueLets count).codeDepth = count := by
  induction count with
  | zero => rfl
  | succ count inductionHypothesis =>
      have parts := codeParts_valueLets_succ count
      rw [valueLets] at parts ⊢
      have name : (Datum.symbol "x").codeDepth = 0 :=
        Datum.codeDepth_of_isAtom rfl
      rw [Datum.codeDepth_list_cons, parts]
      simp [inductionHypothesis, name]

theorem levels_valueLets (count : Nat) :
    (valueLets count).levels = 3 * count := by
  induction count with
  | zero => rfl
  | succ count inductionHypothesis =>
      simp [valueLets, Datum.levels_list_cons, Form.head, inductionHypothesis]
      omega

/-- Nothing is quoted in lets without quotations. -/
theorem not_codeIn_valueLets
    (operand : Datum)
    (count : Nat) :
    ¬ CodeIn operand.quoted (valueLets count) := by
  have notSymbol : ¬ CodeIn operand.quoted (.symbol "x") := by
    rw [codeIn_iff]
    simp [Datum.quoted, codeParts]
  induction count with
  | zero =>
      exact notSymbol
  | succ count inductionHypothesis =>
      rw [codeIn_iff, codeParts_valueLets_succ]
      rintro (same | ⟨part, member, inside⟩)
      · simp [valueLets, Datum.quoted, Form.head, Form.keyword] at same
      · obtain rfl | rfl := List.mem_pair.mp member
        · exact inductionHypothesis inside
        · exact notSymbol inside

/-- There is accepted code with three levels of lists for each level of code. -/
theorem levels_le_of_withoutLet_valueLets :
    (∃ result, (valueLets maxNesting).withoutLet = .ok result) ∧
      (valueLets maxNesting).levels = 3 * maxNesting ∧
      (valueLets maxNesting).levels ≤ 3 * maxNesting + 0 := by
  obtain ⟨result, accepted⟩ := eliminate_accepts_iff.mpr
    ⟨wellFormed_valueLets maxNesting, Nat.le_of_eq (codeDepth_valueLets maxNesting)⟩
  exact
    ⟨⟨result, accepted⟩, levels_valueLets maxNesting,
      (levels_le_of_withoutLet accepted).2 0 fun operand inside =>
        absurd inside (not_codeIn_valueLets operand maxNesting)⟩

/-- The code `(let ((x 1)) x)`. -/
def shortLet : Datum :=
  .list
    [Form.letForm.head, .list [.list [.symbol "x", .integer 1]], .symbol "x"]

/-- The code `((lambda (x) x) 1)`. -/
def shortApplication : Datum :=
  .list
    [.list [Form.lambda.head, .list [.symbol "x"], .symbol "x"], .integer 1]

/-- A `let` on the last level that code may have is accepted although the list of its
bindings and each binding in it are past the limit. -/
theorem withoutLet_shortLet_of_levels :
    (shortLet.inLists 127).withoutLet = .ok (shortApplication.inLists 127) ∧
      maxNesting < (shortLet.inLists 127).levels := by
  decide +kernel

end LetElimination
end SExpr
