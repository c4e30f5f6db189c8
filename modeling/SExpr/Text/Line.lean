import SExpr.Text.Utf8

/-!
# Lines of input

Input comes as bytes and is cut into lines at line feeds. A line is its text
without the line feed and without one carriage return before it; a last line
that no line feed ends keeps its carriage return. A line whose bytes are no
UTF-8 is malformed.
-/

namespace SExpr

/-- One line of input. -/
inductive Line
  | text (content : List Char)
  | malformed

namespace Line

/-- The bytes without a carriage return at their end. -/
def withoutReturn (bytes : List UInt8) : List UInt8 :=
  if bytes.getLast? = some 13 then bytes.dropLast else bytes

/-- The line with the given bytes. -/
def ofBytes (bytes : List UInt8) : Line :=
  match Utf8.text? bytes with
  | some content => .text content
  | none => .malformed

/-- The lines of the input, the bytes of the line that is being read standing
apart in reverse. -/
def splitAfter (current : List UInt8) : List UInt8 -> List Line
  | [] => if current = [] then [] else [ofBytes current.reverse]
  | byte :: bytes =>
      if byte = 10 then
        ofBytes (withoutReturn current.reverse) :: splitAfter [] bytes
      else
        splitAfter (byte :: current) bytes

/-- The lines of a sequence of bytes. -/
def split (bytes : List UInt8) : List Line :=
  splitAfter [] bytes

end Line
end SExpr
