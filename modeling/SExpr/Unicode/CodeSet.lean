/-!
# Sets of code points

A set of code points is kept as the increasing list of the places where
membership changes: the first place starts a range of members, the second ends
it, and so on. A code point is a member when an odd number of places are not
above it.
-/

namespace SExpr
namespace Unicode

/-- A set of code points, given by the places where membership changes. -/
structure CodeSet where
  changes : List Nat

namespace CodeSet

/-- Membership after the given places, counted from the given membership. -/
def containsFrom
    (code : Nat) : (inside : Bool) -> List Nat -> Bool
  | inside, [] => inside
  | inside, place :: places =>
      if code < place then inside else containsFrom code (!inside) places

/-- Whether a code point is in the set. -/
def contains
    (codes : CodeSet)
    (code : Nat) : Bool :=
  containsFrom code false codes.changes

end CodeSet
end Unicode
end SExpr
