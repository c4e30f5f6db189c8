import SExpr.Highlight.Pattern

/-!
# Highlighting a line

A line of code is coloured for terminals: comments, numbers, keywords, literals
and parentheses are put between escape sequences, and everything else is left
as it is. At each place the styles are tried in this order, and where none
matches one character is passed over.
-/

namespace SExpr
namespace Highlight

/-- The styles of highlighted text. -/
inductive Style
  | comment
  | number
  | keyword
  | literal
  | paren
  deriving DecidableEq

namespace Style

/-- The styles in the order in which they are tried. -/
def all : List Style :=
  [.comment, .number, .keyword, .literal, .paren]

/-- The keywords that are highlighted. -/
def keywords : List String :=
  ["let", "lambda", "define", "mu", "quote", "if", "cond", "begin", "and",
    "or", "else"]

/-- An optional sign. -/
def sign : Pattern :=
  .optional (.oneOf ['+', '-'])

/-- One or more decimal digits. -/
def digits : Pattern :=
  .oneOrMore Unicode.isDecimalDigit

/-- A number: digits that start a word, with an optional sign, an optional
fraction and an optional exponent, up to the end of a word. -/
def numberPattern : Pattern :=
  .inOrder
    [sign, .boundary, digits,
      .optional (.both (.character '.') (.many Unicode.isDecimalDigit)),
      .optional (.inOrder [.oneOf ['e', 'E'], sign, digits]),
      .boundary]

/-- A boolean with a number sign up to the end of a word, or the word for a
boolean or for the empty list. -/
def literalPattern : Pattern :=
  .either
    (.inOrder [.character '#', .oneOf ['t', 'f'], .boundary])
    (.inOrder
      [.boundary,
        .oneWord (["true", "false", "nil"].map String.toList),
        .boundary])

/-- What a style is for. -/
def pattern : Style -> Pattern
  | .comment => .both (.character ';') (.many fun found => found != '\n')
  | .number => numberPattern
  | .keyword =>
      .inOrder [.boundary, .oneWord (keywords.map String.toList), .boundary]
  | .literal => literalPattern
  | .paren => .oneOf ['(', ')', '\'']

/-- A terminal escape sequence that selects a rendition. -/
def escape (code : String) : List Char :=
  '\x1b' :: '[' :: (code.toList ++ ['m'])

/-- What is written before text of a style. -/
def opening : Style -> List Char
  | .comment => escape "90"
  | .number => escape "35"
  | .keyword => escape "1" ++ escape "36"
  | .literal => escape "33"
  | .paren => escape "34"

/-- What is written after text of a style. -/
def closing : Style -> List Char
  | .keyword => escape "39" ++ escape "0"
  | _ => escape "39"

end Style

/-- A piece of a line: a character that no style is for, or a styled text. -/
inductive Piece
  | plain (character : Char)
  | styled (style : Style) (text : List Char)
  deriving DecidableEq

namespace Piece

/-- The text of a piece without colours. -/
def text : Piece -> List Char
  | .plain character => [character]
  | .styled _ text => text

/-- The text of a piece with its colours. -/
def painted : Piece -> List Char
  | .plain character => [character]
  | .styled style text => style.opening ++ text ++ style.closing

end Piece

/-- The first style that matches at the start of a text, and by how many
characters the match is longer than one. -/
def firstStyle?
    (previous : Option Char)
    (text : List Char) : Option (Style × Nat) :=
  Style.all.findSome? fun style =>
    match style.pattern.matchLength? previous text with
    | some (length + 1) => some (style, length)
    | _ => none

/-- The pieces of a text, given the character before it. -/
def piecesAfter
    (previous : Option Char) : List Char -> List Piece
  | [] => []
  | character :: rest =>
      match firstStyle? previous (character :: rest) with
      | some (style, length) =>
          let matched := character :: rest.take length
          .styled style matched ::
            piecesAfter matched.getLast? (rest.drop length)
      | none => .plain character :: piecesAfter (some character) rest
termination_by text => text.length
decreasing_by
  · rw [List.length_drop, List.length_cons]
    omega
  · simp

/-- The pieces of a line. -/
def pieces (line : List Char) : List Piece :=
  piecesAfter none line

/-- The pieces of a text put together are the text. -/
theorem flatMap_text_piecesAfter
    (previous : Option Char)
    (text : List Char) :
    (piecesAfter previous text).flatMap Piece.text = text := by
  fun_induction piecesAfter previous text with
  | case1 => rfl
  | case2 previous character rest style length found matched inductionHypothesis =>
      simp [Piece.text, inductionHypothesis, matched]
  | case3 previous character rest found inductionHypothesis =>
      simp [Piece.text, inductionHypothesis]

/-- A line with its colours. -/
def line (text : List Char) : List Char :=
  (pieces text).flatMap Piece.painted

end Highlight
end SExpr
