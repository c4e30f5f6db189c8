import SExpr.Unicode.DefaultIgnorable
import SExpr.Unicode.GraphemeExtend
import SExpr.Unicode.Unprintable

/-!
# Quoted text

Text as error messages quote it: between double quotes, with an escape for
every character that could not be seen or told apart. These are the characters
without a printed form, those that are shown as nothing, and those that are
shown as part of the one before them. The halfwidth sound marks of Japanese
count as extenders of the character before them but are shown on their own, so
they are not escaped, and neither is an apostrophe.
-/

namespace SExpr
namespace Text

/-- Whether a character is a halfwidth sound mark. -/
def isHalfwidthSoundMark (character : Char) : Bool :=
  character.toNat == 0xFF9E || character.toNat == 0xFF9F

/-- Whether a character is not shown as a character of its own. -/
def isHidden (character : Char) : Bool :=
  (Unicode.isGraphemeExtend character && !isHalfwidthSoundMark character) ||
    Unicode.isUnprintable character || Unicode.isDefaultIgnorable character

/-- The escape of a character by its code: a lower-case hexadecimal number
without leading zeros. -/
def codeEscape (character : Char) : List Char :=
  '\\' :: 'u' :: '\x7b' :: (Nat.toDigits 16 character.toNat ++ ['\x7d'])

/-- A character as it stands in quoted text. -/
def escape (character : Char) : List Char :=
  match character with
  | '\x00' => ['\\', '0']
  | '\t' => ['\\', 't']
  | '\n' => ['\\', 'n']
  | '\r' => ['\\', 'r']
  | '"' => ['\\', '"']
  | '\\' => ['\\', '\\']
  | other =>
      if isHidden other then codeEscape other else [other]

/-- A text between double quotes. -/
def quoted (text : List Char) : List Char :=
  '"' :: (text.flatMap escape ++ ['"'])

end Text
end SExpr
