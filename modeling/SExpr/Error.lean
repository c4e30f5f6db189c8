import SExpr.Datum.Accessor
import SExpr.Datum.Equality
import SExpr.Datum.Printer
import SExpr.Form
import SExpr.Text.Quoted

/-!
# Errors

An error is a cause with the values that it is about. Its report puts the cause
under one of seven headings with the details in words, and the text of the
report is the message that users see.
-/

namespace SExpr

/-- Why a text cannot be read, apart from its nesting. -/
inductive ReadFault
  | integerOutOfRange (offset : Nat)
  | unexpected (offset : Nat) (snippet : List Char)
  | notOneDatum (count : Nat)
  deriving DecidableEq

/-- What is wrong with the shape of a special form. -/
inductive FormFault
  | tooFewOperands
  | tooManyOperands
  | parametersNotList (found : Datum)
  | parameterNotSymbol (found : Datum)
  | duplicateParameter (name : String)
  | targetNotSymbol (found : Datum)
  | bindingsNotList (found : Datum)
  | badBinding (found : Datum)
  deriving DecidableEq

/-- The causes for which an operation has no result. -/
inductive Error
  | notAPair (accessor : Accessor) (datum : Datum)
  | kindMismatch (expected found : Kind)
  | malformed (form : Form) (fault : FormFault)
  | nonPositiveDenomination (denomination : Int64)
  | negativeTotal (total : Int64)
  | unreadable (fault : ReadFault)
  | nestingTooDeep
  deriving DecidableEq

/-- An error as it is shown: a heading with its details in words. -/
inductive Report
  | notAPair (operation : String)
  | kindMismatch (expected found : String)
  | malformed (form message : String)
  | nonPositiveDenomination (denomination : Int)
  | negativeTotal (total : Int)
  | unreadable (cause : String)
  | nestingTooDeep (limit : Nat)
  deriving DecidableEq

namespace ReadFault

/-- A fault of reading in words. -/
def cause : ReadFault -> String
  | .integerOutOfRange offset =>
      s!"integer literal out of range at offset {offset}"
  | .unexpected offset snippet =>
      s!"unexpected input at offset {offset}: " ++
        String.ofList (Text.quoted snippet)
  | .notOneDatum count =>
      s!"expected exactly one datum, found {count}"

end ReadFault

namespace FormFault

/-- A fault of a special form in words. -/
def cause : FormFault -> String
  | .tooFewOperands => "too few operands in form"
  | .tooManyOperands => "too many operands in form"
  | .parametersNotList found =>
      "parameters must be a list, found " ++ found.text
  | .parameterNotSymbol found => "non-symbol parameter " ++ found.text
  | .duplicateParameter name => "duplicate parameter " ++ name
  | .targetNotSymbol found => "non-symbol target " ++ found.text
  | .bindingsNotList found => "bad bindings list " ++ found.text
  | .badBinding found => "bad binding " ++ found.text

end FormFault

namespace Report

/-- The message of a report. -/
def text : Report -> String
  | .notAPair operation => "Not a pair: " ++ operation
  | .kindMismatch expected found =>
      "Type error: expected " ++ expected ++ ", found " ++ found
  | .malformed form message =>
      "Malformed '" ++ form ++ "' form: " ++ message
  | .nonPositiveDenomination denomination =>
      "Precondition violated: denominations must be positive, got " ++
        String.ofList (Decimal.wholeNumber denomination)
  | .negativeTotal total =>
      "Precondition violated: total must be non-negative, got " ++
        String.ofList (Decimal.wholeNumber total)
  | .unreadable cause => "Parse error: " ++ cause
  | .nestingTooDeep limit => s!"Nesting exceeds {limit} levels"

end Report

namespace Error

/-- The report of an error. -/
def report : Error -> Report
  | .notAPair accessor datum =>
      .notAPair (accessor.name ++ " of " ++ datum.text)
  | .kindMismatch expected found => .kindMismatch expected.name found.name
  | .malformed form fault => .malformed form.keyword fault.cause
  | .nonPositiveDenomination denomination =>
      .nonPositiveDenomination denomination.toInt
  | .negativeTotal total => .negativeTotal total.toInt
  | .unreadable fault => .unreadable fault.cause
  | .nestingTooDeep => .nestingTooDeep maxNesting

/-- The message of an error. -/
def message (error : Error) : String :=
  error.report.text

end Error

namespace Datum

/-- Apply an accessor to a datum. -/
def access
    (accessor : Accessor)
    (datum : Datum) : Except Error Datum :=
  match accessor.select? datum with
  | some selected => .ok selected
  | none => .error (.notAPair accessor datum)

/-- An accessor fails exactly where it has no answer. -/
theorem access_eq_error_iff
    (accessor : Accessor)
    (datum : Datum)
    (error : Error) :
    datum.access accessor = .error error ↔
      accessor.select? datum = none ∧ error = .notAPair accessor datum := by
  unfold access
  cases accessor.select? datum <;> simp [eq_comm]

end Datum
end SExpr
