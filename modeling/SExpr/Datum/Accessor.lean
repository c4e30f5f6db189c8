import SExpr.Datum.Basic

/-!
# Accessors

The five classical accessors of lists. Each takes an element or a tail of a
combination, and has no answer on atoms and on lists that are too short.
-/

namespace SExpr

/-- The accessors: first element, tail, second element, tail after the second
element, third element. -/
inductive Accessor
  | car
  | cdr
  | cadr
  | cddr
  | caddr
  deriving DecidableEq

namespace Accessor

/-- The name of an accessor. -/
def name : Accessor -> String
  | .car => "car"
  | .cdr => "cdr"
  | .cadr => "cadr"
  | .cddr => "cddr"
  | .caddr => "caddr"

/-- All accessors. -/
def all : List Accessor :=
  [.car, .cdr, .cadr, .cddr, .caddr]

/-- The accessor of a name. -/
def ofName? (name : String) : Option Accessor :=
  all.find? fun accessor => accessor.name == name

/-- Every accessor is found under its name. -/
@[simp] theorem ofName?_name (accessor : Accessor) :
    ofName? accessor.name = some accessor := by
  cases accessor <;> decide

/-- What an accessor takes from a datum, if the datum is long enough. -/
def select? : Accessor -> Datum -> Option Datum
  | .car, .list (first :: _) => some first
  | .cdr, .list (_ :: rest) => some (.list rest)
  | .cadr, .list (_ :: second :: _) => some second
  | .cddr, .list (_ :: _ :: rest) => some (.list rest)
  | .caddr, .list (_ :: _ :: third :: _) => some third
  | _, _ => none

/-- No accessor has an answer on an atom. -/
theorem select?_eq_none_of_isAtom
    (accessor : Accessor)
    {datum : Datum}
    (atom : datum.isAtom = true) :
    accessor.select? datum = none := by
  match datum, atom with
  | .symbol _, _ => cases accessor <;> rfl
  | .integer _, _ => cases accessor <;> rfl
  | .float _, _ => cases accessor <;> rfl
  | .boolean _, _ => cases accessor <;> rfl
  | .list [], _ => cases accessor <;> rfl

end Accessor
end SExpr
