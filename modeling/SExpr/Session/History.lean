import SExpr.Source
import SExpr.Text.Line

/-!
# History

The lines that were entered in sessions, the oldest first. A line that is empty
or equal to the one before it is not entered, and only the latest hundred lines
are kept.

A history file starts with a version line and has one line for each entry, with
line feeds and backslashes escaped. A file without the version line is taken as
plain lines. A file is written as a whole, and only if there is something in
the history that is not known to be on file.
-/

namespace SExpr

/-- Lines entered in sessions, and whether some of them are not known to be on
file. -/
structure History where
  entries : List (List Char)
  unsaved : Bool
  deriving DecidableEq

namespace History

/-- The history without entries. -/
def empty : History :=
  ⟨[], false⟩

/-- The most entries that are kept. -/
def capacity : Nat :=
  100

/-- The latest entries that are kept. -/
def keepLatest (entries : List (List Char)) : List (List Char) :=
  entries.drop (entries.length - capacity)

/-- No more entries are kept than there is room for. -/
theorem length_keepLatest_le (entries : List (List Char)) :
    (keepLatest entries).length ≤ capacity := by
  simp [keepLatest]
  omega

/-- Enter a line, unless it is empty or equal to the latest entry. -/
def add
    (history : History)
    (line : List Char) : History :=
  if line = [] ∨ history.entries.getLast? = some line then
    history
  else
    ⟨keepLatest (history.entries ++ [line]), true⟩

/-- The first line of a history file. -/
def versionLine : List Char :=
  ['#', 'V', '2']

/-- An entry as it stands in a history file. -/
def escape (entry : List Char) : List Char :=
  entry.flatMap fun character =>
    if character = '\n' then ['\\', 'n']
    else if character = '\\' then ['\\', '\\']
    else [character]

/-- The entry that a line of a history file stands for, if the line has escapes
of line feeds and backslashes only. -/
def unescape? : List Char -> Option (List Char)
  | [] => some []
  | '\\' :: 'n' :: rest => (unescape? rest).map ('\n' :: ·)
  | '\\' :: '\\' :: rest => (unescape? rest).map ('\\' :: ·)
  | '\\' :: _ => none
  | character :: rest => (unescape? rest).map (character :: ·)

/-- Reading an entry of a history file gives the entry that was written. -/
@[simp] theorem unescape?_escape (entry : List Char) :
    unescape? (escape entry) = some entry := by
  induction entry with
  | nil => rfl
  | cons character entry inductionHypothesis =>
      by_cases lineFeed : character = '\n'
      · subst lineFeed
        simpa [escape, unescape?] using inductionHypothesis
      · by_cases backslash : character = '\\'
        · subst backslash
          simpa [escape, unescape?] using inductionHypothesis
        · simpa [escape, unescape?, lineFeed, backslash] using
            inductionHypothesis

/-- Add lines of a history file up to the first malformed one. After the last
line everything is known to be on file; after a malformed one what was read is
not. -/
def addLines
    (escaped : Bool)
    (history : History) : List Line -> History
  | [] => { history with unsaved := false }
  | .malformed :: _ => history
  | .text line :: lines =>
      let entry := if escaped then (unescape? line).getD line else line
      addLines escaped (history.add entry) lines

/-- The history that the lines of a history file hold. -/
def ofLines : List Line -> History
  | [] => empty
  | .malformed :: _ => empty
  | .text first :: lines =>
      if first = versionLine then addLines true empty lines
      else addLines false (empty.add first) lines

/-- The history that a history file holds, if there is a file. -/
def ofFile? : Option (List UInt8) -> History
  | none => empty
  | some bytes => ofLines (Line.split bytes)

/-- The history as the text of a history file. -/
def fileText (history : History) : List Char :=
  unlines (versionLine :: history.entries.map escape)

/-- The history file after a session: written anew if there are entries that
are not known to be on file, and otherwise as it was. -/
def save
    (history : History)
    (file : Option (List UInt8)) : Option (List UInt8) :=
  if history.unsaved then some (Utf8.encode history.fileText) else file

end History
end SExpr
