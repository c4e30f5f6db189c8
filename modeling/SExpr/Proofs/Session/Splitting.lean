import SExpr.Proofs.Session.History
import SExpr.Proofs.Session.Transcript

/-!
# Sessions one after another

Lines can be entered in one session or in two, one after the other: the history file is
the same in the end. The second session starts with what the first one saved. If the
first one had nothing to save, the file is as it was and so is the history. Otherwise
the file has the entries of the first session, and the second one differs from a longer
first one only in what it takes to be on file; where that keeps it from saving, the file
is already what it would save.
-/

namespace SExpr

/-! ## Histories over many lines -/

namespace History

/-- Saved entries are told by the entries alone. -/
theorem fileText_congr
    {first second : History}
    (same : first.entries = second.entries) :
    first.fileText = second.fileText := by
  unfold fileText
  rw [same]

theorem save_of_unsaved
    {history : History}
    (unsaved : history.unsaved = true)
    (file : Option (List UInt8)) :
    history.save file = some (Utf8.encode history.fileText) :=
  if_pos unsaved

end History

namespace Session

open History

section Remember

variable {history : History}

/-- The entries after a line depend on the entries before it alone. -/
theorem entries_remember_congr
    {first second : History}
    (same : first.entries = second.entries)
    (line : List Char) :
    (remember first line).entries = (remember second line).entries := by
  unfold remember
  split
  · exact same
  · exact entries_add_congr same line

/-- A line changes nothing or leaves something to be saved. -/
theorem remember_eq_or_unsaved
    (history : History)
    (line : List Char) :
    remember history line = history ∨ (remember history line).unsaved = true := by
  unfold remember
  split
  · exact .inl rfl
  · exact add_eq_or_unsaved history line

theorem tidy_remember
    {line : List Char}
    (tidy : Tidy history.entries)
    (noReturn : '\r' ∉ line) :
    Tidy (remember history line).entries := by
  unfold remember
  split
  · exact tidy
  · exact tidy.add noReturn

/-- The entries after lines depend on the entries before them alone. -/
theorem entries_foldl_remember_congr
    {first second : History}
    (same : first.entries = second.entries)
    (lines : List (List Char)) :
    (lines.foldl remember first).entries = (lines.foldl remember second).entries := by
  induction lines generalizing first second with
  | nil => exact same
  | cons line lines inductionHypothesis =>
      exact inductionHypothesis (entries_remember_congr same line)

/-- Lines change nothing or leave something to be saved. -/
theorem foldl_remember_eq_or_unsaved
    (history : History)
    (lines : List (List Char)) :
    lines.foldl remember history = history ∨
      (lines.foldl remember history).unsaved = true := by
  induction lines generalizing history with
  | nil => exact .inl rfl
  | cons line lines inductionHypothesis =>
      obtain unchanged | unsaved := inductionHypothesis (remember history line)
      · rw [List.foldl_cons, unchanged]
        exact remember_eq_or_unsaved history line
      · exact .inr unsaved

/-- What is to be saved before lines is to be saved after them. -/
theorem unsaved_foldl_remember
    (unsaved : history.unsaved = true)
    (lines : List (List Char)) :
    (lines.foldl remember history).unsaved = true := by
  obtain unchanged | changed := foldl_remember_eq_or_unsaved history lines
  · rw [unchanged]
    exact unsaved
  · exact changed

theorem tidy_foldl_remember
    {lines : List (List Char)}
    (tidy : Tidy history.entries)
    (noReturn : ∀ line ∈ lines, '\r' ∉ line) :
    Tidy (lines.foldl remember history).entries := by
  induction lines generalizing history with
  | nil => exact tidy
  | cons line lines inductionHypothesis =>
      rw [List.forall_mem_cons] at noReturn
      exact inductionHypothesis (tidy_remember tidy noReturn.1) noReturn.2

/-- Lines after a history that is on file leave a file with their entries, whether or
not there is anything to be saved. -/
theorem save_foldl_remember_of_onFile
    (entries : List (List Char))
    (lines : List (List Char)) :
    (lines.foldl remember ⟨entries, false⟩).save
        (some (Utf8.encode (History.mk entries false).fileText)) =
      some (Utf8.encode (lines.foldl remember ⟨entries, false⟩).fileText) := by
  obtain unchanged | unsaved :=
    foldl_remember_eq_or_unsaved ⟨entries, false⟩ lines
  · rw [unchanged]
    rfl
  · exact save_of_unsaved unsaved _

/-- Saving a history and going on with what is then on file leaves the same file as
going on with the history itself. The history has something to be saved unless it is
the one on file. -/
theorem save_foldl_remember_reload
    {file : Option (List UInt8)}
    (origin : history = ofFile? file ∨ history.unsaved = true)
    (tidy : Tidy history.entries)
    (lines : List (List Char)) :
    (lines.foldl remember (ofFile? (history.save file))).save (history.save file) =
      (lines.foldl remember history).save file := by
  cases unsaved : history.unsaved with
  | true =>
      have onFile : (History.mk history.entries false).entries = history.entries :=
        rfl
      have same := entries_foldl_remember_congr onFile lines
      rw [save_of_unsaved unsaved, ofFile?_fileText tidy,
        save_of_unsaved (unsaved_foldl_remember unsaved lines),
        ← fileText_congr same]
      exact save_foldl_remember_of_onFile history.entries lines
  | false =>
      -- Nothing was entered: the history is still the one on file.
      have notSaved : history.save file = file := by simp [save, unsaved]
      rw [unsaved] at origin
      rw [notSaved, ← origin.resolve_right Bool.false_ne_true]

end Remember

/-! ## Sessions -/

/-- The history file that a session on lines of input leaves. -/
def fileAfter
    (prompting : Bool)
    (file : Option (List UInt8))
    (lines : List Line) : Option (List UInt8) :=
  (run prompting (ofFile? file) lines).history.save file

/-- A session enters the lines up to the one that asks for its end. -/
theorem fileAfter_text
    (prompting : Bool)
    (file : Option (List UInt8))
    (lines : List (List Char)) :
    fileAfter prompting file (lines.map .text) =
      ((reached lines).foldl remember (ofFile? file)).save file := by
  rw [fileAfter, run, runLogged_text]

/-- All lines are reached if none asks for the end, and so are those that follow up to
the first one that does. -/
theorem reached_append
    {first : List (List Char)}
    (notExit : ∀ line ∈ first, Unicode.trim line ∉ exitWords)
    (second : List (List Char)) :
    reached (first ++ second) = first ++ reached second := by
  induction first with
  | nil => rfl
  | cons line first inductionHypothesis =>
      rw [List.forall_mem_cons] at notExit
      rw [List.cons_append, reached_cons_of_not_exit notExit.1,
        inductionHypothesis notExit.2, List.cons_append]

/-- Two sessions leave the history file that one session on the lines of both leaves,
if the lines of the first one do not ask for its end. -/
theorem fileAfter_append
    (prompting : Bool)
    {file : Option (List UInt8)}
    {first : List (List Char)}
    (noReturnInFile : ∀ bytes ∈ file, 13 ∉ bytes)
    (noReturn : ∀ line ∈ first, '\r' ∉ line)
    (notExit : ∀ line ∈ first, Unicode.trim line ∉ exitWords)
    (second : List (List Char)) :
    fileAfter prompting (fileAfter prompting file (first.map .text))
        (second.map .text) =
      fileAfter prompting file ((first ++ second).map .text) := by
  have all : reached first = first := by
    have together := reached_append notExit []
    rwa [List.append_nil, show reached [] = [] from rfl, List.append_nil] at together
  rw [fileAfter_text, fileAfter_text, fileAfter_text, reached_append notExit, all,
    List.foldl_append]
  exact save_foldl_remember_reload
    (foldl_remember_eq_or_unsaved (ofFile? file) first)
    (tidy_foldl_remember (tidy_ofFile? noReturnInFile) noReturn)
    (reached second)

/-- A file without the version line that is not even UTF-8 to its end, a backslash
entered twice, a blank line, and a second session in which the latest entry comes
again. -/
theorem fileAfter_unversioned :
    fileAfter true
        (fileAfter true (some [97, 92, 10, 255])
          (["\\n", " ", "\\n"].map String.toList |>.map .text))
        (["\\n", "b", "(exit)", "c"].map String.toList |>.map .text) =
      some (Utf8.encode "#V2\na\\\\\n\\\\n\nb\n(exit)\n".toList) := by
  have together := @fileAfter_append true (some [97, 92, 10, 255])
    (["\\n", " ", "\\n"].map String.toList) (by decide) (by decide) (by decide)
    (["\\n", "b", "(exit)", "c"].map String.toList)
  rw [together]
  decide +kernel

end Session
end SExpr
