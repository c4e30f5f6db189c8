import SExpr.Binary64.Shortest
import SExpr.Numeral

/-!
# The text of binary64 numbers

A finite number is written with its shortest digits. From `1e-4` up to but not
including `1e16` the digits are positional, with at least one digit on each
side of the point; other sizes have one digit before the point, no point after
a single digit, and an exponent. Zero is positional.

The exceptional values are written `NaN`, `inf` and `-inf`.
-/

namespace SExpr
namespace Decimal

/-- The digits of a decimal, the first one not being zero unless it is zero. -/
def digitChars (decimal : Decimal) : List Char :=
  Nat.toDigits 10 decimal.digits

/-- The exponent of the power of ten that the decimal is below and that has its
first digit next to it: `0.digits` times ten to this power is the value. -/
def pointPlace (decimal : Decimal) : Int :=
  decimal.digitChars.length + decimal.exponent

/-- The digits with a point among, before or after them. -/
def positional (decimal : Decimal) : List Char :=
  let digits := decimal.digitChars
  let place := decimal.pointPlace
  if place ≤ 0 then
    '0' :: '.' :: (List.replicate (-place).toNat '0' ++ digits)
  else if place < digits.length then
    digits.take place.toNat ++ '.' :: digits.drop place.toNat
  else
    digits ++ List.replicate (place - digits.length).toNat '0' ++ ['.', '0']

/-- The text of a whole number. -/
def wholeNumber : Int -> List Char
  | .ofNat size => Nat.toDigits 10 size
  | .negSucc below => '-' :: Nat.toDigits 10 (below + 1)

/-- One digit, the others after a point, and an exponent. -/
def scientific (decimal : Decimal) : List Char :=
  let exponent := 'e' :: wholeNumber (decimal.pointPlace - 1)
  match decimal.digitChars with
  | first :: second :: others =>
      first :: '.' :: second :: others ++ exponent
  | digits => digits ++ exponent

/-- A decimal as binary64 numbers are written: positional when the point is at
most three places before the digits and at most sixteen after their start. -/
def written (decimal : Decimal) : List Char :=
  if decimal.digits = 0 then
    ['0', '.', '0']
  else if -3 ≤ decimal.pointPlace ∧ decimal.pointPlace ≤ 16 then
    decimal.positional
  else
    decimal.scientific

end Decimal

namespace Binary64

/-- The text of a number. -/
def written : Binary64 -> List Char
  | .nan => ['N', 'a', 'N']
  | .infinite negative => (if negative then ['-'] else []) ++ ['i', 'n', 'f']
  | .finite negative magnitude =>
      (if negative then ['-'] else []) ++ magnitude.shortest.written

/-- The number that a whole text spells: a numeral, or one of the words `inf`,
`infinity` and `nan` in any case, with an optional sign. -/
def read? (text : List Char) : Option Binary64 :=
  let (negative, unsigned) := Numeral.splitSign text
  let word := String.ofList (unsigned.map Char.toLower)
  if word = "inf" ∨ word = "infinity" then
    some (.infinite negative)
  else if word = "nan" then
    some .nan
  else
    match Numeral.scan text with
    | .numeral numeral [] => some numeral.binary64
    | _ => none

end Binary64
end SExpr
