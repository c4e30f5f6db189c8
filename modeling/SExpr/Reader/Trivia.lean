import SExpr.Text.Utf8

/-!
# Trivia

Blanks and comments, which may stand anywhere between data. The blanks are
space, tab, carriage return and line feed. A comment starts at a semicolon and
ends before the first carriage return or line feed, or with the text. A
carriage return that no line feed follows is not a line end, and a semicolon
whose first line end character is one starts no comment.
-/

namespace SExpr
namespace Reader

/-- The characters that separate data. -/
def isBlank (character : Char) : Bool :=
  character == ' ' || character == '\t' || character == '\r' ||
    character == '\n'

/-- The characters at which the search for the end of a comment stops. -/
def isLineEnd (character : Char) : Bool :=
  character == '\r' || character == '\n'

/-- The text after the comment that the given text is the inside of, if the
comment is ended by a line feed, by both line end characters, or by the end of
the text. -/
def afterComment? (text : List Char) : Option (List Char) :=
  match text.dropWhile fun character => !isLineEnd character with
  | [] => some []
  | '\n' :: rest => some ('\n' :: rest)
  | '\r' :: '\n' :: rest => some ('\r' :: '\n' :: rest)
  | _ => none

/-- What is after a comment is no longer than its inside. -/
theorem length_afterComment?_le
    {text rest : List Char}
    (found : afterComment? text = some rest) :
    rest.length ≤ text.length := by
  have bound := (List.dropWhile_sublist
    (fun character => !isLineEnd character) (l := text)).length_le
  unfold afterComment? at found
  split at found <;> grind

/-- The text without the blanks and comments at its start. -/
def skip : List Char -> List Char
  | [] => []
  | character :: rest =>
      if isBlank character then
        skip rest
      else if character = ';' then
        match _found : afterComment? rest with
        | some after => skip after
        | none => character :: rest
      else
        character :: rest
termination_by text => text.length
decreasing_by
  · simp
  · have := length_afterComment?_le _found
    simp
    omega

/-- Skipping never makes a text longer. -/
theorem length_skip_le (text : List Char) :
    (skip text).length ≤ text.length := by
  fun_induction skip text with
  | case1 => simp
  | case2 character rest blank inductionHypothesis => grind
  | case3 rest after found inductionHypothesis notBlank =>
      have := length_afterComment?_le found
      grind
  | case4 => simp
  | case5 => simp

/-- Whether a text starts with a character that ends an atom, or is empty. -/
def startsDelimiter : List Char -> Bool
  | [] => true
  | character :: _ =>
      isBlank character || character == '(' || character == ')' ||
        character == ';' || character == '\''

/-- The number of bytes before a place in a source, the place being given by
the text that follows it. -/
def offset
    (source place : List Char) : Nat :=
  Utf8.byteLength source - Utf8.byteLength place

end Reader
end SExpr
