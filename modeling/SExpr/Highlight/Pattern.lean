import SExpr.Unicode.WordCharacter

/-!
# Patterns

Patterns match at a place in a line and look one character back for word
boundaries. A repetition takes as many characters as it can and gives them up
one by one, and of two alternatives the first is preferred; the match is the
first one in this order that lets the whole pattern through.

`matchThen` matches a pattern and then whatever is to come after it, so giving
up a character or going on to another alternative takes what comes after into
account. Its equations are its rules, one for each kind of pattern.
-/

namespace SExpr

/-- Patterns over characters. -/
inductive Pattern
  | empty
  | boundary
  | one (accepts : Char -> Bool)
  | many (accepts : Char -> Bool)
  | both (first second : Pattern)
  | either (preferred other : Pattern)

namespace Pattern

/-- Whether there is a word character on exactly one side of a place. -/
def isBoundary
    (previous next : Option Char) : Bool :=
  previous.any Unicode.isWordCharacter != next.any Unicode.isWordCharacter

/-- Match one character and then what is to come, counting the character. -/
def oneThen
    (accepts : Char -> Bool)
    (text : List Char)
    (andThen : Option Char -> List Char -> Option Nat) : Option Nat :=
  match text with
  | [] => none
  | character :: rest =>
      if accepts character then
        (andThen (some character) rest).map (· + 1)
      else
        none

/-- Match as many characters as possible and then what is to come. -/
def manyThen
    (accepts : Char -> Bool)
    (previous : Option Char)
    (text : List Char)
    (andThen : Option Char -> List Char -> Option Nat) : Option Nat :=
  match text with
  | [] => andThen previous []
  | character :: rest =>
      if accepts character then
        match manyThen accepts (some character) rest andThen with
        | some length => some (length + 1)
        | none => andThen previous (character :: rest)
      else
        andThen previous (character :: rest)

/-- Match a pattern and then what is to come, and count the characters. -/
def matchThen :
    Pattern -> Option Char -> List Char ->
      (Option Char -> List Char -> Option Nat) -> Option Nat
  | .empty, previous, text, andThen => andThen previous text
  | .boundary, previous, text, andThen =>
      if isBoundary previous text.head? then andThen previous text else none
  | .one accepts, _, text, andThen => oneThen accepts text andThen
  | .many accepts, previous, text, andThen =>
      manyThen accepts previous text andThen
  | .both first second, previous, text, andThen =>
      first.matchThen previous text fun before rest =>
        second.matchThen before rest andThen
  | .either preferred other, previous, text, andThen =>
      match preferred.matchThen previous text andThen with
      | some length => some length
      | none => other.matchThen previous text andThen

/-- The length of the match of a pattern at the start of a text, given the
character before it. -/
def matchLength?
    (pattern : Pattern)
    (previous : Option Char)
    (text : List Char) : Option Nat :=
  pattern.matchThen previous text fun _ _ => some 0

/-- One given character. -/
def character (expected : Char) : Pattern :=
  .one fun found => found == expected

/-- One of the given characters. -/
def oneOf (expected : List Char) : Pattern :=
  .one fun found => expected.contains found

/-- Patterns one after the other. -/
def inOrder : List Pattern -> Pattern
  | [] => .empty
  | pattern :: patterns => .both pattern (inOrder patterns)

/-- The given characters in order. -/
def word (characters : List Char) : Pattern :=
  inOrder (characters.map character)

/-- One of the given words, an earlier one being preferred. -/
def oneWord : List (List Char) -> Pattern
  | [] => .one fun _ => false
  | [only] => word only
  | preferred :: others => .either (word preferred) (oneWord others)

/-- A pattern or nothing, the pattern being preferred. -/
def optional (pattern : Pattern) : Pattern :=
  .either pattern .empty

/-- One or more accepted characters, as many as possible. -/
def oneOrMore (accepts : Char -> Bool) : Pattern :=
  .both (.one accepts) (.many accepts)

end Pattern
end SExpr
