import SExpr.Datum.Basic

/-!
# Equality of data

Equality of data as values is decidable. Beside it stands the comparison
`sameValue`, which compares numbers arithmetically: the two float zeros agree,
not-a-number agrees with nothing, and an integer never agrees with a float.
-/

namespace SExpr
namespace Datum

mutual

/-- Decide whether two data are equal. -/
def decideEq : (left right : Datum) -> Decidable (left = right)
  | .symbol left, .symbol right =>
      decidable_of_iff (left = right) (by simp)
  | .integer left, .integer right =>
      decidable_of_iff (left = right) (by simp)
  | .float left, .float right =>
      decidable_of_iff (left = right) (by simp)
  | .boolean left, .boolean right =>
      decidable_of_iff (left = right) (by simp)
  | .list left, .list right =>
      match decideListEq left right with
      | isTrue equal => isTrue (by rw [equal])
      | isFalse differ => isFalse (by simpa using differ)
  | .symbol _, .integer _ => isFalse (by simp)
  | .symbol _, .float _ => isFalse (by simp)
  | .symbol _, .boolean _ => isFalse (by simp)
  | .symbol _, .list _ => isFalse (by simp)
  | .integer _, .symbol _ => isFalse (by simp)
  | .integer _, .float _ => isFalse (by simp)
  | .integer _, .boolean _ => isFalse (by simp)
  | .integer _, .list _ => isFalse (by simp)
  | .float _, .symbol _ => isFalse (by simp)
  | .float _, .integer _ => isFalse (by simp)
  | .float _, .boolean _ => isFalse (by simp)
  | .float _, .list _ => isFalse (by simp)
  | .boolean _, .symbol _ => isFalse (by simp)
  | .boolean _, .integer _ => isFalse (by simp)
  | .boolean _, .float _ => isFalse (by simp)
  | .boolean _, .list _ => isFalse (by simp)
  | .list _, .symbol _ => isFalse (by simp)
  | .list _, .integer _ => isFalse (by simp)
  | .list _, .float _ => isFalse (by simp)
  | .list _, .boolean _ => isFalse (by simp)

/-- Decide whether two lists of data are equal. -/
def decideListEq : (left right : List Datum) -> Decidable (left = right)
  | [], [] => isTrue rfl
  | [], _ :: _ => isFalse (by simp)
  | _ :: _, [] => isFalse (by simp)
  | left :: lefts, right :: rights =>
      match decideEq left right, decideListEq lefts rights with
      | isTrue heads, isTrue tails => isTrue (by rw [heads, tails])
      | isFalse differ, _ => isFalse (by simp [differ])
      | _, isFalse differ => isFalse (by simp [differ])

end

instance : DecidableEq Datum :=
  decideEq

mutual

/-- Whether two data agree, numbers being compared arithmetically. -/
def sameValue : Datum -> Datum -> Bool
  | .symbol left, .symbol right => left == right
  | .integer left, .integer right => left == right
  | .float left, .float right => left.sameNumber right
  | .boolean left, .boolean right => left == right
  | .list left, .list right => sameValues left right
  | _, _ => false

/-- Whether two lists of data agree element by element. -/
def sameValues : List Datum -> List Datum -> Bool
  | [], [] => true
  | left :: lefts, right :: rights =>
      left.sameValue right && sameValues lefts rights
  | _, _ => false

end

@[simp] theorem sameValue_list
    (left right : List Datum) :
    (Datum.list left).sameValue (.list right) = sameValues left right := rfl

@[simp] theorem sameValue_integer_float
    (left : Int64)
    (right : Binary64) :
    (Datum.integer left).sameValue (.float right) = false := rfl

end Datum
end SExpr
