import SExpr.Reader.Atom
import Mathlib.Tactic.SplitIfs

/-!
# The spellings of atoms

What stands at the start of a text when an atom is read from it: an integer or a
numeral, a number sign with a letter, or a word. `Spelling` says this in one
place, and what is known of every atom that is read follows from it by cases: a
delimiter comes next, a symbol is spelled by its name, no list has elements, and
no float is anything but a number.
-/

namespace SExpr
namespace Reader

/-- What an atom and the text after it are read from. -/
inductive Spelling
    (text rest : List Char) : Datum -> Prop
  | integer
      {number : Int64}
      (token : integerToken? text = some (number.toInt, rest)) :
      Spelling text rest (.integer number)
  | float
      {numeral : Numeral}
      (scanned : Numeral.scan text = .numeral numeral rest)
      (delimited : startsDelimiter rest = true) :
      Spelling text rest (.float numeral.binary64)
  | boolean
      {truth : Bool}
      (spelled : '#' :: (if truth then 't' else 'f') :: rest = text)
      (delimited : startsDelimiter rest = true) :
      Spelling text rest (.boolean truth)
  | word
      {word : List Char}
      (spelled : word ++ rest = text)
      (delimited : startsDelimiter rest = true) :
      Spelling text rest (ofWord word)

theorem spelling_of_readWord
    {text rest : List Char}
    {value : Datum}
    (taken : readWord text = .taken value rest) :
    Spelling text rest value := by
  unfold readWord at taken
  split at taken
  · cases taken
  · split at taken
    · next delimited =>
        cases taken
        exact @Spelling.boolean _ _ true rfl delimited
    · cases taken
  · split at taken
    · next delimited =>
        cases taken
        exact @Spelling.boolean _ _ false rfl delimited
    · cases taken
  · next initial text _ _ =>
      split at taken
      · dsimp only at taken
        split at taken
        · next delimited =>
            cases taken
            refine .word ?_ delimited
            rw [List.cons_append, List.takeWhile_append_dropWhile]
        · cases taken
      · cases taken

theorem spelling_of_readAtom
    {text rest : List Char}
    {value : Datum}
    (taken : readAtom text = .taken value rest) :
    Spelling text rest value := by
  unfold readAtom at taken
  split at taken
  · next integer after token =>
      split at taken
      · next number inRange =>
          cases taken
          rw [← (int64?_eq_some_iff integer number).mp inRange] at token
          exact .integer token
      · cases taken
  · split at taken
    · cases taken
    · exact spelling_of_readWord taken
    · next scanned =>
        split at taken
        · next delimited =>
            cases taken
            exact .float scanned delimited
        · exact spelling_of_readWord taken

/-- An atom ends where a delimiter starts. -/
theorem startsDelimiter_of_readAtom
    {text rest : List Char}
    {value : Datum}
    (taken : readAtom text = .taken value rest) :
    startsDelimiter rest = true := by
  cases spelling_of_readAtom taken with
  | integer token => exact (Option.filter_eq_some_iff.mp token).2
  | float _ delimited => exact delimited
  | boolean _ delimited => exact delimited
  | word _ delimited => exact delimited

/-- A symbol is read from its name. -/
theorem append_eq_of_readAtom_symbol
    {text rest : List Char}
    {name : String}
    (taken : readAtom text = .taken (.symbol name) rest) :
    name.toList ++ rest = text := by
  generalize symbol : Datum.symbol name = value at taken
  cases spelling_of_readAtom taken with
  | integer _ => cases symbol
  | float _ _ => cases symbol
  | boolean _ _ => cases symbol
  | word spelled _ =>
      unfold ofWord at symbol
      split_ifs at symbol
      obtain rfl := Datum.symbol.inj symbol
      rw [String.toList_ofList]
      exact spelled

/-- An atom that is read is no list with elements. -/
theorem isAtom_of_readAtom
    {text rest : List Char}
    {value : Datum}
    (taken : readAtom text = .taken value rest) :
    value.isAtom = true := by
  cases spelling_of_readAtom taken with
  | integer _ => rfl
  | float _ _ => rfl
  | boolean _ _ => rfl
  | word _ _ =>
      unfold ofWord
      split_ifs <;> rfl

/-- A float that is read is a number. -/
theorem ne_nan_of_readAtom
    {text rest : List Char}
    {value : Datum}
    (taken : readAtom text = .taken value rest) :
    value ≠ .float .nan := by
  cases spelling_of_readAtom taken with
  | integer _ => simp
  | @float numeral _ _ =>
      rw [Numeral.binary64]
      cases numeral.decimal.nearest? <;> simp [Binary64.ofMagnitude?]
  | boolean _ _ => simp
  | word _ _ =>
      unfold ofWord
      split_ifs <;> simp

end Reader
end SExpr
