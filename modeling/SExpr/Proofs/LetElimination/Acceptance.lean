import SExpr.Proofs.LetElimination.Shape

/-!
# What let elimination accepts

Well-formed code has one result, which it is rewritten to with as many levels as
it is deep or more, and with fewer levels it is refused as too deep. Code that
is not well formed is never accepted. So let elimination accepts code exactly
when it is well formed and not deeper than the limit, and what it refuses it
refuses for the shape of a form or for the nesting.
-/

namespace SExpr
namespace LetElimination

open Datum (codeDepth codeParts depthOfAll)

/-- Code has the given result with levels enough for it and is too deep with
fewer. -/
def EliminatesTo (code result : Datum) : Prop :=
  ∀ levels, eliminate levels code =
    if code.codeDepth ≤ levels then .ok result else .error .nestingTooDeep

theorem eliminatesTo_of_isAtom
    {code : Datum}
    (isAtom : code.isAtom = true) :
    EliminatesTo code code := by
  intro levels
  rw [eliminate_of_isAtom levels isAtom, Datum.codeDepth_of_isAtom isAtom,
    if_pos (Nat.zero_le levels)]

/-- Pieces of code have their results together when there are levels enough for
the deepest one. -/
theorem mapM_eliminate
    {codes results : List Datum}
    (each : List.Forall₂ EliminatesTo codes results)
    (levels : Nat) :
    codes.mapM (eliminate levels) =
      if depthOfAll codes ≤ levels then .ok results
      else .error .nestingTooDeep := by
  induction each with
  | nil => simp [pure, Except.pure]
  | @cons code result codes results first _ inductionHypothesis =>
      rw [List.mapM_cons, first levels, inductionHypothesis]
      simp only [Datum.depthOfAll_cons, Nat.max_le]
      by_cases shallow : code.codeDepth ≤ levels
      · by_cases othersShallow : depthOfAll codes ≤ levels <;>
          simp [shallow, othersShallow, bind, Except.bind, pure, Except.pure]
      · simp [shallow, bind, Except.bind]

/-- The rules give a combination its result when the parts have theirs. -/
theorem eliminatesTo_of_rewrites
    {head result : Datum}
    {operands : List Datum}
    (rewrites : Rewrites EliminatesTo head operands result) :
    EliminatesTo (.list (head :: operands)) result := by
  intro levels
  rw [Datum.codeDepth_list_cons]
  cases levels with
  | zero => rw [eliminate_zero_list_cons, if_neg (Nat.not_succ_le_zero _)]
  | succ levels =>
      simp only [eliminate_succ_list_cons, Nat.add_le_add_iff_right]
      cases rewrites with
      | quote operand =>
          rw [eliminateCombination_quote, codeParts_quote, Datum.depthOfAll_nil,
            if_pos (Nat.zero_le levels)]
          rfl
      | function function present shape each =>
          rw [eliminateCombination_function function,
            eliminateFunction_of_present present, shape, mapM_eliminate each,
            codeParts_function function]
          split <;> rfl
      | @letForm pairs bodies results values present shape eachBody eachValue =>
          have read := readBindings_eq_ok_iff.mpr
            (rfl : Datum.list (pairs.map bindingDatum) = _)
          rw [eliminateCombination_letForm, eliminateLet_of_present present,
            read]
          change (do
            checkFormals _ _
            _) = _
          rw [shape, mapM_eliminate eachBody, mapM_eliminate eachValue]
          simp only [codeParts_letForm, Datum.depthOfAll_append, Nat.max_le]
          by_cases shallow : depthOfAll bodies ≤ levels
          · by_cases valuesShallow : depthOfAll (pairs.map Prod.snd) ≤ levels <;>
              simp [shallow, valuesShallow, bind, Except.bind, pure, Except.pure]
          · simp [shallow, bind, Except.bind]
      | combination noForm each =>
          rw [eliminateCombination_of_noForm noForm, mapM_eliminate each,
            codeParts_of_noForm noForm]
          split <;> rfl

/-! ## Accepted code -/

/-- The application that a `let` becomes has the result that the rule for the `let`
gives, since names that pass as those of a `let` pass as parameters too. -/
theorem eliminatesTo_application
    {pairs : List (String × Datum)}
    {bodies results codes values : List Datum}
    (present : bodies ≠ [])
    (shape : checkFormals .letForm (.list (boundNames pairs)) = .ok ())
    (eachBody : List.Forall₂ EliminatesTo bodies results)
    (eachValue : List.Forall₂ EliminatesTo codes values) :
    EliminatesTo
      (.list
        (.list (Form.lambda.head :: .list (boundNames pairs) :: bodies) :: codes))
      (.list
        (.list (Form.lambda.head :: .list (boundNames pairs) :: results) ::
          values)) := by
  have formals : checkFormals .lambda (.list (boundNames pairs)) = .ok () := by
    rw [checkFormals_boundNames_eq_ok_iff] at shape ⊢
    exact shape
  have function :
      EliminatesTo
        (.list (Form.lambda.head :: .list (boundNames pairs) :: bodies)) _ :=
    eliminatesTo_of_rewrites (.function (by decide) present formals eachBody)
  exact eliminatesTo_of_rewrites (.combination rfl (.cons function eachValue))

/-- The rules ask of a combination with well-formed parts that it is well formed
itself. -/
theorem wellFormed_of_rewrites
    {head result : Datum}
    {operands : List Datum}
    (rewrites :
      Rewrites (fun part _ => WellFormed part) head operands result) :
    WellFormed (.list (head :: operands)) :=
  (wellShaped_of_rewrites rewrites).wellFormed
    (forall_mem_codeParts_of_rewrites rewrites)

/-- Accepted code is well formed, and it has its result with any other number of
levels that is enough for it. -/
theorem wellFormed_and_eliminatesTo_of_eliminate
    {levels : Nat}
    {code result : Datum}
    (accepted : eliminate levels code = .ok result) :
    WellFormed code ∧ EliminatesTo code result := by
  refine eliminate_induction
    (motive := fun code result => WellFormed code ∧ EliminatesTo code result)
    ?_ ?_ accepted
  · intro code isAtom
    exact ⟨.atom isAtom, eliminatesTo_of_isAtom isAtom⟩
  · intro _ head operands result rewrites
    exact
      ⟨wellFormed_of_rewrites (rewrites.imp fun _ _ part => part.2.1),
        eliminatesTo_of_rewrites (rewrites.imp fun _ _ part => part.2.2)⟩

/-- Well-formed code has a result. -/
theorem exists_eliminatesTo
    {code : Datum}
    (wellFormed : WellFormed code) :
    ∃ result, EliminatesTo code result := by
  induction code using codeParts_induction with
  | step code inductionHypothesis =>
      obtain isAtom | ⟨head, operands, rfl⟩ := isAtom_or_combination code
      · exact ⟨code, eliminatesTo_of_isAtom isAtom⟩
      · obtain ⟨result, rewrites⟩ :=
          wellFormed.wellShaped.exists_rewrites fun part member =>
            inductionHypothesis part member (wellFormed.of_mem_codeParts member)
        exact ⟨result, eliminatesTo_of_rewrites rewrites⟩

/-- With a number of levels code is accepted exactly when it is well formed and
no deeper. -/
theorem eliminate_accepts_iff
    {levels : Nat}
    {code : Datum} :
    (∃ result, eliminate levels code = .ok result) ↔
      WellFormed code ∧ code.codeDepth ≤ levels := by
  constructor
  · rintro ⟨result, accepted⟩
    obtain ⟨wellFormed, eliminatesTo⟩ :=
      wellFormed_and_eliminatesTo_of_eliminate accepted
    refine ⟨wellFormed, ?_⟩
    by_contra deep
    rw [eliminatesTo levels, if_neg deep] at accepted
    cases accepted
  · rintro ⟨wellFormed, shallow⟩
    obtain ⟨result, eliminatesTo⟩ := exists_eliminatesTo wellFormed
    exact ⟨result, by rw [eliminatesTo levels, if_pos shallow]⟩

end LetElimination
end SExpr
