import SExpr.Change.Search
import SExpr.Error

/-!
# Change

All ways to make up a total from denominations. A way lists its coins in the
order of the denominations, and ways with more copies of an earlier
denomination come first. Denominations that are given twice count as two. A
total of zero has no ways.
-/

namespace SExpr
namespace Change

/-- All ways to make change for a total. A negative total is refused first, and
then the first denomination that is not positive. -/
def listWays
    (total : Int64)
    (denominations : List Int64) : Except Error (List (List Int64)) :=
  if total < 0 then
    .error (.negativeTotal total)
  else
    match denominations.find? fun denomination => denomination ≤ 0 with
    | some denomination => .error (.nonPositiveDenomination denomination)
    | none =>
        if total = 0 then
          .ok []
        else
          .ok ((Search.start total).run denominations [])

/-- A way as a list datum. -/
def wayDatum (way : List Int64) : Datum :=
  .list (way.map Datum.integer)

end Change
end SExpr
