import SExpr.Binary64.Text
import SExpr.Datum.Basic

/-!
# The printed form of data

Lists are printed in parentheses with one blank between elements, booleans as
`#t` and `#f`, symbols as their names. `writtenBefore` puts the printed form in
front of a text that follows it, which is how the form of a list is put
together from the forms of its elements.
-/

namespace SExpr
namespace Datum

mutual

/-- The printed form of a datum, in front of a text. -/
def writtenBefore : Datum -> List Char -> List Char
  | .symbol name, rest => name.toList ++ rest
  | .integer value, rest => Decimal.wholeNumber value.toInt ++ rest
  | .float value, rest => value.written ++ rest
  | .boolean true, rest => '#' :: 't' :: rest
  | .boolean false, rest => '#' :: 'f' :: rest
  | .list [], rest => '(' :: ')' :: rest
  | .list (first :: others), rest =>
      '(' :: first.writtenBefore (othersBefore others rest)

/-- The printed forms of the elements after the first and the closing
parenthesis, in front of a text. -/
def othersBefore : List Datum -> List Char -> List Char
  | [], rest => ')' :: rest
  | item :: items, rest => ' ' :: item.writtenBefore (othersBefore items rest)

end

/-- The printed form of a datum. -/
def written (datum : Datum) : List Char :=
  datum.writtenBefore []

/-- The printed form of a datum as a string. -/
def text (datum : Datum) : String :=
  String.ofList datum.written

mutual

/-- The printed form stands in front of the text unchanged. -/
theorem writtenBefore_eq_append : (datum : Datum) -> (rest : List Char) ->
    datum.writtenBefore rest = datum.written ++ rest
  | .symbol _, _ => by simp [writtenBefore, written]
  | .integer _, _ => by simp [writtenBefore, written]
  | .float _, _ => by simp [writtenBefore, written]
  | .boolean true, _ => by simp [writtenBefore, written]
  | .boolean false, _ => by simp [writtenBefore, written]
  | .list [], _ => by simp [writtenBefore, written]
  | .list (first :: others), rest => by
      simp only [writtenBefore, written, List.cons_append]
      rw [writtenBefore_eq_append first, writtenBefore_eq_append first,
        othersBefore_eq_append others rest]
      simp

/-- The rest of a list stands in front of the text unchanged. -/
theorem othersBefore_eq_append : (items : List Datum) -> (rest : List Char) ->
    othersBefore items rest = othersBefore items [] ++ rest
  | [], _ => by simp [othersBefore]
  | item :: items, rest => by
      simp only [othersBefore, List.cons_append]
      rw [writtenBefore_eq_append item, writtenBefore_eq_append item,
        othersBefore_eq_append items rest]
      simp

end

end Datum
end SExpr
