import SExpr.Datum.Basic

/-!
# Special forms

The combinations with a meaning of their own: quoted data, the three forms that
make or define functions, and `let`. A combination is a special form by the
symbol at its head alone.
-/

namespace SExpr

/-- The special forms. -/
inductive Form
  | quote
  | lambda
  | mu
  | define
  | letForm
  deriving DecidableEq

namespace Form

/-- The symbol at the head of a form. -/
def keyword : Form -> String
  | .quote => "quote"
  | .lambda => "lambda"
  | .mu => "mu"
  | .define => "define"
  | .letForm => "let"

/-- All special forms. -/
def all : List Form :=
  [.quote, .lambda, .mu, .define, .letForm]

/-- The form of a keyword. -/
def ofKeyword? (name : String) : Option Form :=
  all.find? fun form => form.keyword == name

/-- Every form is found under its keyword. -/
@[simp] theorem ofKeyword?_keyword (form : Form) :
    ofKeyword? form.keyword = some form := by
  cases form <;> decide

/-- A name is the keyword of the form it finds. -/
theorem keyword_of_ofKeyword?
    {name : String}
    {form : Form}
    (found : ofKeyword? name = some form) :
    form.keyword = name := by
  simpa using List.find?_some found

/-- The symbol at the head of a form, as a datum. -/
def head (form : Form) : Datum :=
  .symbol form.keyword

end Form

namespace Datum

/-- The special form that a datum is, by its head. -/
def form? (datum : Datum) : Option Form :=
  datum.headSymbol?.bind Form.ofKeyword?

/-- Whether a datum is the given special form. -/
def isForm
    (form : Form)
    (datum : Datum) : Bool :=
  datum.isHeadedBy form.keyword

/-- The quotation of a datum. -/
def quoted (datum : Datum) : Datum :=
  .list [Form.quote.head, datum]

end Datum
end SExpr
