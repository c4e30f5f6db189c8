import SExpr.Binary64.Basic

/-!
# Data

A datum is a symbol, a number, a boolean, or a list of data. The same values
serve as data and as code: a non-empty list is a combination, and the empty
list is the one list that counts as an atom.
-/

namespace SExpr

/-- A symbolic value. -/
inductive Datum
  | symbol (name : String)
  | integer (value : Int64)
  | float (value : Binary64)
  | boolean (value : Bool)
  | list (items : List Datum)

/-- The kinds of data that errors tell apart, the empty list being one. -/
inductive Kind
  | symbol
  | integer
  | float
  | boolean
  | emptyList
  | list
  deriving DecidableEq

namespace Kind

/-- The name under which errors report a kind. -/
def name : Kind -> String
  | .symbol => "Symbol"
  | .integer => "Integer"
  | .float => "Float"
  | .boolean => "Bool"
  | .emptyList => "Nil"
  | .list => "List"

end Kind

/-- The most levels of list nesting that the reader and let elimination accept. -/
def maxNesting : Nat :=
  128

namespace Datum

/-- The kind of a datum. -/
def kind : Datum -> Kind
  | .symbol _ => .symbol
  | .integer _ => .integer
  | .float _ => .float
  | .boolean _ => .boolean
  | .list [] => .emptyList
  | .list (_ :: _) => .list

/-- Everything but a non-empty list is an atom. -/
def isAtom : Datum -> Bool
  | .list (_ :: _) => false
  | _ => true

@[simp] theorem isAtom_list_nil : (Datum.list []).isAtom = true := rfl

@[simp] theorem isAtom_list_cons
    (head : Datum)
    (operands : List Datum) :
    (Datum.list (head :: operands)).isAtom = false := rfl

/-- The name of a symbol. -/
def asSymbol? : Datum -> Option String
  | .symbol name => some name
  | _ => none

/-- The elements of a list. -/
def asList? : Datum -> Option (List Datum)
  | .list items => some items
  | _ => none

/-- The name of the symbol at the head of a combination. -/
def headSymbol? : Datum -> Option String
  | .list (.symbol name :: _) => some name
  | _ => none

/-- Whether a datum is a combination with the given symbol at its head. -/
def isHeadedBy
    (name : String)
    (datum : Datum) : Bool :=
  datum.headSymbol? == some name

/-- An atom is headed by nothing. -/
theorem headSymbol?_eq_none_of_isAtom
    {datum : Datum}
    (atom : datum.isAtom = true) :
    datum.headSymbol? = none := by
  match datum, atom with
  | .symbol _, _ => rfl
  | .integer _, _ => rfl
  | .float _, _ => rfl
  | .boolean _, _ => rfl
  | .list [], _ => rfl

end Datum
end SExpr
