import SExpr.Form
import SExpr.Reader.Atom

/-!
# Reading data

A datum is a list in parentheses, a quote mark before a datum, or an atom. The
reader knows how many more levels may be opened: an opening parenthesis or a
quote mark past the last level fails, and what is read inside one has a level
less.

A list that is not closed and a quote mark without a datum are refused at their
start, since no other datum starts with their first character.
-/

namespace SExpr
namespace Reader

/-- Read the elements of a list and its closing parenthesis. -/
def readElements
    (element : Reader Datum)
    (text : List Char) : Reading Datum :=
  match element.many text with
  | .error failure => .failed failure
  | .ok (items, after) =>
      match skip after with
      | ')' :: rest => .taken (.list items) rest
      | other => .refused other

/-- Read the datum after a quote mark. -/
def readQuoted
    (element : Reader Datum)
    (text : List Char) : Reading Datum :=
  match element.run text with
  | .taken value rest => .taken value.quoted rest
  | other => other

/-- Refuse at the given place what is refused at another. -/
def refuseAt
    (place : List Char) : Reading Datum -> Reading Datum
  | .refused _ => .refused place
  | other => other

/-- Read a datum, the data inside it with the given reader. Without one no
level may be opened. -/
def readNode
    (inner : Option (Reader Datum))
    (text : List Char) : Reading Datum :=
  match text, inner with
  | '(' :: rest, none => .failed ⟨.nestingTooDeep, rest⟩
  | '(' :: rest, some element => refuseAt text (readElements element rest)
  | '\'' :: rest, none => .failed ⟨.nestingTooDeep, skip rest⟩
  | '\'' :: rest, some element => refuseAt text (readQuoted element (skip rest))
  | _, _ => readAtom text

@[simp] theorem refuseAt_eq_taken_iff
    (place : List Char)
    (reading : Reading Datum)
    (value : Datum)
    (rest : List Char) :
    refuseAt place reading = .taken value rest ↔
      reading = .taken value rest := by
  cases reading <;> simp [refuseAt]

/-- The elements of a list and its closing parenthesis use up some text. -/
theorem length_lt_of_readElements
    {element : Reader Datum}
    {text rest : List Char}
    {value : Datum}
    (taken : readElements element text = .taken value rest) :
    rest.length < text.length := by
  unfold readElements at taken
  split at taken
  · simp at taken
  · next items after read =>
      have := element.length_many_le read
      have := length_skip_le after
      split at taken <;> grind

/-- A quoted datum uses up some text. -/
theorem length_lt_of_readQuoted
    {element : Reader Datum}
    {text rest : List Char}
    {value : Datum}
    (taken : readQuoted element text = .taken value rest) :
    rest.length < text.length := by
  unfold readQuoted at taken
  split at taken
  · next read =>
      have := element.shortens read
      grind
  · next other => exact element.shortens taken

/-- A datum uses up some text. -/
theorem length_lt_of_readNode
    {inner : Option (Reader Datum)}
    {text rest : List Char}
    {value : Datum}
    (taken : readNode inner text = .taken value rest) :
    rest.length < text.length := by
  unfold readNode at taken
  split at taken
  · simp at taken
  · have := length_lt_of_readElements ((refuseAt_eq_taken_iff ..).mp taken)
    simp
    omega
  · simp at taken
  · next after element =>
      have := length_lt_of_readQuoted ((refuseAt_eq_taken_iff ..).mp taken)
      have := length_skip_le after
      simp
      omega
  · exact length_lt_of_readAtom taken

/-- The reader of data whose inner data are read with the given reader. -/
def node (inner : Option (Reader Datum)) : Reader Datum :=
  ⟨readNode inner, length_lt_of_readNode⟩

/-- The reader of data that may open the given number of levels. -/
def datum : (levels : Nat) -> Reader Datum
  | 0 => node none
  | levels + 1 => node (some (datum levels))

@[simp] theorem datum_zero : datum 0 = node none := rfl

@[simp] theorem datum_succ (levels : Nat) :
    datum (levels + 1) = node (some (datum levels)) := rfl

/-- The reader of data at the top level of a text. -/
def topLevel : Reader Datum :=
  datum maxNesting

end Reader
end SExpr
