import SExpr.Unicode.Alphabetic
import SExpr.Unicode.DecimalDigit
import SExpr.Unicode.Mark
import SExpr.Unicode.Seventeen

/-!
# Word characters

The characters that words are made of, by the recommendation for regular
expressions over Unicode: alphabetic characters, marks, decimal digits,
connector punctuation such as the low line, and the two join controls, all as
they were in Unicode 16.
-/

namespace SExpr
namespace Unicode

/-- Whether a character is connector punctuation. -/
def isConnector (character : Char) : Bool :=
  let code := character.toNat
  code == 0x5F || code == 0x203F || code == 0x2040 || code == 0x2054 ||
    code == 0xFE33 || code == 0xFE34 || (0xFE4D ≤ code && code ≤ 0xFE4F) ||
    code == 0xFF3F

/-- Whether a character joins or parts its neighbours without being seen. -/
def isJoinControl (character : Char) : Bool :=
  character.toNat == 0x200C || character.toNat == 0x200D

/-- Whether a character can be part of a word. -/
def isWordCharacter (character : Char) : Bool :=
  (isAlphabetic character && !isNewInSeventeen character) ||
    isDecimalDigit character || isMark character || isConnector character ||
    isJoinControl character

end Unicode
end SExpr
