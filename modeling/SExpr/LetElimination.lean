import SExpr.Error
import SExpr.Form

/-!
# Let elimination

Rewrites code so that no `let` is left in it. A combination
`(let ((n1 v1) ... (nk vk)) b1 ... bm)` becomes the application
`((lambda (n1 ... nk) b1 ... bm) v1 ... vk)`, its bodies and values being
rewritten in turn. Quoted data, parameters and the targets of definitions are
not code and are kept as they are; every other part of a combination is
rewritten.

The shape of each special form is checked before its parts are rewritten, and
the bodies of a `let` are rewritten before its values, so the first fault in
that order is the one that is reported. Each level of code uses up one of the
levels that are left, and code on a level past the last one is refused before
its shape is looked at.
-/

namespace SExpr
namespace LetElimination

/-- Check that parameters are symbols and that none of them occurs twice, the
names seen so far being given. -/
def checkParameters
    (form : Form)
    (seen : List String) : List Datum -> Except Error Unit
  | [] => .ok ()
  | .symbol name :: others =>
      if name ∈ seen then
        .error (.malformed form (.duplicateParameter name))
      else
        checkParameters form (name :: seen) others
  | other :: _ => .error (.malformed form (.parameterNotSymbol other))

/-- Check that the parameters of a form are a list of distinct symbols. -/
def checkFormals
    (form : Form) : Datum -> Except Error Unit
  | .list parameters => checkParameters form [] parameters
  | other => .error (.malformed form (.parametersNotList other))

/-- Check what a definition defines and how many operands follow: a symbol has
one value, and a list of distinct symbols has bodies. -/
def checkTarget
    (target : Datum)
    (bodies : List Datum) : Except Error Unit :=
  match target with
  | .symbol _ =>
      if bodies.length = 1 then .ok ()
      else .error (.malformed .define .tooManyOperands)
  | .list (name :: parameters) =>
      checkFormals .define (.list (name :: parameters))
  | other => .error (.malformed .define (.targetNotSymbol other))

/-- The name and the value of one binding. -/
def readBinding : Datum -> Except Error (String × Datum)
  | .list [.symbol name, value] => .ok (name, value)
  | other => .error (.malformed .letForm (.badBinding other))

/-- The names and values of the bindings of a `let`. -/
def readBindings : Datum -> Except Error (List (String × Datum))
  | .list bindings => bindings.mapM readBinding
  | other => .error (.malformed .letForm (.bindingsNotList other))

/-- Rewrite a quotation: it is kept, and must have one operand. -/
def eliminateQuote
    (operands : List Datum) : Except Error Datum :=
  match operands with
  | [] => .error (.malformed .quote .tooFewOperands)
  | [operand] => .ok operand.quoted
  | _ => .error (.malformed .quote .tooManyOperands)

/-- Rewrite a form that makes or defines a function: its target or parameters
are checked and kept, and its bodies are rewritten. -/
def eliminateFunction
    (form : Form)
    (eliminate : Datum -> Except Error Datum)
    (operands : List Datum) : Except Error Datum :=
  match operands with
  | target :: first :: others => do
      if form = .define then checkTarget target (first :: others)
      else checkFormals form target
      let bodies <- (first :: others).mapM eliminate
      return .list (form.head :: target :: bodies)
  | _ => .error (.malformed form .tooFewOperands)

/-- Rewrite a `let` as the application of a function. -/
def eliminateLet
    (eliminate : Datum -> Except Error Datum)
    (operands : List Datum) : Except Error Datum :=
  match operands with
  | bindings :: first :: others => do
      let pairs <- readBindings bindings
      let names := pairs.map fun pair => Datum.symbol pair.1
      checkFormals .letForm (.list names)
      let bodies <- (first :: others).mapM eliminate
      let values <- (pairs.map Prod.snd).mapM eliminate
      return .list (.list (Form.lambda.head :: .list names :: bodies) :: values)
  | _ => .error (.malformed .letForm .tooFewOperands)

/-- Rewrite a combination, its parts with the given function. -/
def eliminateCombination
    (eliminate : Datum -> Except Error Datum)
    (head : Datum)
    (operands : List Datum) : Except Error Datum :=
  match (Datum.list (head :: operands)).form? with
  | some .quote => eliminateQuote operands
  | some .letForm => eliminateLet eliminate operands
  | some form => eliminateFunction form eliminate operands
  | none => do
      let items <- (head :: operands).mapM eliminate
      return .list items

/-- Rewrite code that may have the given number of levels. -/
def eliminate : (levels : Nat) -> Datum -> Except Error Datum
  | levels, .list (head :: operands) =>
      match levels with
      | 0 => .error .nestingTooDeep
      | levels + 1 => eliminateCombination (eliminate levels) head operands
  | _, atom => .ok atom

/-- Atoms are kept on every level. -/
theorem eliminate_of_isAtom
    (levels : Nat)
    {datum : Datum}
    (atom : datum.isAtom = true) :
    eliminate levels datum = .ok datum := by
  match datum, atom with
  | .symbol _, _ => rw [eliminate.eq_def]
  | .integer _, _ => rw [eliminate.eq_def]
  | .float _, _ => rw [eliminate.eq_def]
  | .boolean _, _ => rw [eliminate.eq_def]
  | .list [], _ => rw [eliminate.eq_def]

/-- Without levels no combination is accepted. -/
@[simp] theorem eliminate_zero_list_cons
    (head : Datum)
    (operands : List Datum) :
    eliminate 0 (.list (head :: operands)) = .error .nestingTooDeep := rfl

/-- A combination uses up one level. -/
@[simp] theorem eliminate_succ_list_cons
    (levels : Nat)
    (head : Datum)
    (operands : List Datum) :
    eliminate (levels + 1) (.list (head :: operands)) =
      eliminateCombination (eliminate levels) head operands := rfl

end LetElimination

/-- Rewrite a datum as code without `let`. -/
def Datum.withoutLet (datum : Datum) : Except Error Datum :=
  LetElimination.eliminate maxNesting datum

/-- Rewrite data in order, up to the first one that fails. -/
def withoutLets (data : List Datum) : Except Error (List Datum) :=
  data.mapM Datum.withoutLet

end SExpr
