import SExpr.Datum.Basic
import SExpr.Numeral
import SExpr.Reader.Basic
import SExpr.Unicode.Alphabetic
import SExpr.Unicode.Numeric

/-!
# Reading atoms

An atom is an integer, a float, a boolean, the word `nil` or a symbol, and a
delimiter must follow it. The spellings are tried in that order, so a text that
could be a number is one: an integer that does not fit in 64 bits fails and is
not read as a float, and an exponent mark after digits fails when no digits
follow it, even where the text would do as a symbol.
-/

namespace SExpr
namespace Reader

/-- The punctuation that a symbol may start with. -/
def symbolPunctuation : List Char :=
  ['!', '$', '%', '&', '*', '/', ':', '<', '=', '>', '?', '@', '^', '_', '~',
    '+', '-']

/-- Whether a symbol may start with a character. -/
def isSymbolInitial (character : Char) : Bool :=
  Unicode.isAlphabetic character || symbolPunctuation.contains character

/-- Whether a symbol may go on with a character. -/
def isSymbolSubsequent (character : Char) : Bool :=
  Unicode.isAlphabetic character || Unicode.isNumeric character ||
    symbolPunctuation.contains character || character == '.' || character == '#'

/-- The value of the decimal integer at the start of a text and the text after
it, if a delimiter follows the digits. -/
def integerToken? (text : List Char) : Option (Int × List Char) :=
  (Numeral.integer? text).filter fun (_, rest) => startsDelimiter rest

/-- The datum that a word of symbol characters stands for. -/
def ofWord (word : List Char) : Datum :=
  if word = ['t', 'r', 'u', 'e'] then .boolean true
  else if word = ['f', 'a', 'l', 's', 'e'] then .boolean false
  else if word = ['n', 'i', 'l'] then .list []
  else .symbol (String.ofList word)

/-- Read a boolean with a number sign, or a word. -/
def readWord : List Char -> Reading Datum
  | [] => .refused []
  | '#' :: 't' :: rest =>
      if startsDelimiter rest then .taken (.boolean true) rest
      else .refused ('#' :: 't' :: rest)
  | '#' :: 'f' :: rest =>
      if startsDelimiter rest then .taken (.boolean false) rest
      else .refused ('#' :: 'f' :: rest)
  | initial :: text =>
      if isSymbolInitial initial then
        let rest := text.dropWhile isSymbolSubsequent
        if startsDelimiter rest then
          .taken (ofWord (initial :: text.takeWhile isSymbolSubsequent)) rest
        else
          .refused rest
      else
        .refused (initial :: text)

/-- Read an atom. -/
def readAtom (text : List Char) : Reading Datum :=
  match integerToken? text with
  | some (value, rest) =>
      match int64? value with
      | some number => .taken (.integer number) rest
      | none => .failed ⟨.integerOutOfRange, text⟩
  | none =>
      match Numeral.scan text with
      | .noExponent place => .failed ⟨.exponentWithoutDigits, place⟩
      | .noNumeral => readWord text
      | .numeral numeral rest =>
          if startsDelimiter rest then
            .taken (.float numeral.binary64) rest
          else
            readWord text

/-- An integer uses up its digits. -/
theorem length_lt_of_integerToken?
    {text rest : List Char}
    {value : Int}
    (found : integerToken? text = some (value, rest)) :
    rest.length < text.length :=
  Numeral.length_lt_of_integer? (Option.filter_eq_some_iff.mp found).1

/-- A word uses up its first character. -/
theorem length_lt_of_readWord
    {text rest : List Char}
    {value : Datum}
    (taken : readWord text = .taken value rest) :
    rest.length < text.length := by
  have shorter (text : List Char) :=
    (List.dropWhile_sublist isSymbolSubsequent (l := text)).length_le
  unfold readWord at taken
  grind

/-- An atom uses up some of the text. -/
theorem length_lt_of_readAtom
    {text rest : List Char}
    {value : Datum}
    (taken : readAtom text = .taken value rest) :
    rest.length < text.length := by
  unfold readAtom at taken
  split at taken
  · next found =>
      have := length_lt_of_integerToken? found
      grind
  · split at taken
    · simp at taken
    · exact length_lt_of_readWord taken
    · next scanned =>
        have := Numeral.length_lt_of_scan scanned
        split at taken
        · grind
        · exact length_lt_of_readWord taken

/-- The reader of atoms. -/
def atom : Reader Datum :=
  ⟨readAtom, length_lt_of_readAtom⟩

end Reader
end SExpr
