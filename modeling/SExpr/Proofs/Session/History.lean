import SExpr.Proofs.Text.Line
import SExpr.Session.History
import Mathlib.Data.List.Chain

/-!
# The history on file

What is written to a history file is read back as the same entries. The entries of a
history are such that adding them one by one to an empty history leaves none out: none
is empty or equal to the one before it, and there are no more of them than are kept.
Each is on a line of its own in the file, as line feeds are escaped, and comes back as
it was if it has no carriage return, which might be taken for a part of the line end.
-/

namespace SExpr
namespace History

/-- The entries that a history can have, without carriage returns. -/
structure Tidy (entries : List (List Char)) : Prop where
  nonempty : ∀ entry ∈ entries, entry ≠ []
  noRepeat : entries.IsChain (· ≠ ·)
  bounded : entries.length ≤ capacity
  noReturn : ∀ entry ∈ entries, '\r' ∉ entry

theorem tidy_nil : Tidy [] where
  nonempty := by simp
  noRepeat := .nil
  bounded := Nat.zero_le _
  noReturn := by simp

/-! ## Adding lines -/

section Add

variable {history : History} {line : List Char}

theorem add_of_skipped
    (skipped : line = [] ∨ history.entries.getLast? = some line) :
    history.add line = history :=
  if_pos skipped

theorem add_of_not_skipped
    (notSkipped : ¬ (line = [] ∨ history.entries.getLast? = some line)) :
    history.add line = ⟨keepLatest (history.entries ++ [line]), true⟩ :=
  if_neg notSkipped

/-- Adding a line keeps the entries tidy. -/
theorem Tidy.add
    (tidy : Tidy history.entries)
    (noReturn : '\r' ∉ line) :
    Tidy (history.add line).entries := by
  by_cases skipped : line = [] ∨ history.entries.getLast? = some line
  · rw [add_of_skipped skipped]
    exact tidy
  rw [add_of_not_skipped skipped]
  rw [not_or] at skipped
  have noRepeat : (history.entries ++ [line]).IsChain (· ≠ ·) := by
    refine tidy.noRepeat.append (.singleton line) ?_
    rintro latest isLatest _ ⟨⟩ rfl
    exact skipped.2 isLatest
  have among (entry : List Char)
      (member : entry ∈ keepLatest (history.entries ++ [line])) :
      entry ∈ history.entries ∨ entry = line := by
    simpa using List.mem_of_mem_drop member
  exact
    { nonempty := by
        intro entry member
        obtain before | rfl := among entry member
        · exact tidy.nonempty entry before
        · exact skipped.1
      noRepeat := noRepeat.drop _
      bounded := length_keepLatest_le _
      noReturn := by
        intro entry member
        obtain before | rfl := among entry member
        · exact tidy.noReturn entry before
        · exact noReturn }

/-- The entries after adding a line depend on the entries before it alone. -/
theorem entries_add_congr
    {first second : History}
    (same : first.entries = second.entries)
    (line : List Char) :
    (first.add line).entries = (second.add line).entries := by
  unfold add
  rw [same]
  split
  · exact same
  · rfl

/-- Adding a line changes nothing or leaves something to be saved. -/
theorem add_eq_or_unsaved
    (history : History)
    (line : List Char) :
    history.add line = history ∨ (history.add line).unsaved = true := by
  by_cases skipped : line = [] ∨ history.entries.getLast? = some line
  · exact .inl (add_of_skipped skipped)
  · exact .inr (by rw [add_of_not_skipped skipped])

/-- The next one of tidy entries is added as it is. -/
theorem add_of_tidy
    {others : List (List Char)}
    (tidy : Tidy (history.entries ++ line :: others)) :
    history.add line = ⟨history.entries ++ [line], true⟩ := by
  have notSkipped : ¬ (line = [] ∨ history.entries.getLast? = some line) := by
    rintro (empty | repeated)
    · exact tidy.nonempty line (by simp) empty
    · exact (List.isChain_append.mp tidy.noRepeat).2.2 line repeated line rfl rfl
  have fits : (history.entries ++ [line]).length ≤ capacity := by
    have bounded := tidy.bounded
    simp only [List.length_append, List.length_cons, List.length_nil] at bounded ⊢
    omega
  rw [add_of_not_skipped notSkipped, keepLatest, Nat.sub_eq_zero_of_le fits,
    List.drop_zero]

end Add

/-! ## Entries as lines -/

section Escape

variable {entry line : List Char}

theorem feed_not_mem_escape (entry : List Char) : '\n' ∉ escape entry := by
  rw [escape, List.mem_flatMap]
  rintro ⟨character, -, member⟩
  split at member
  · simp at member
  · split at member
    · simp at member
    · next notFeed _ => exact notFeed (List.mem_singleton.mp member).symm

theorem return_not_mem_escape
    (noReturn : '\r' ∉ entry) :
    '\r' ∉ escape entry := by
  rw [escape, List.mem_flatMap]
  rintro ⟨character, inEntry, member⟩
  split at member
  · simp at member
  · split at member
    · simp at member
    · rw [List.mem_singleton.mp member] at noReturn
      exact noReturn inEntry

/-- An escape stands for no carriage return. -/
theorem return_not_mem_of_unescape?
    (read : unescape? line = some entry)
    (noReturn : '\r' ∉ line) :
    '\r' ∉ entry := by
  fun_induction unescape? line generalizing entry with
  | case1 =>
      cases read
      exact noReturn
  | case2 rest inductionHypothesis =>
      obtain ⟨others, restRead, rfl⟩ := Option.map_eq_some_iff.mp read
      have := inductionHypothesis restRead
      simp_all
  | case3 rest inductionHypothesis =>
      obtain ⟨others, restRead, rfl⟩ := Option.map_eq_some_iff.mp read
      have := inductionHypothesis restRead
      simp_all
  | case4 => cases read
  | case5 character rest _ _ _ inductionHypothesis =>
      obtain ⟨others, restRead, rfl⟩ := Option.map_eq_some_iff.mp read
      have := inductionHypothesis restRead
      simp_all

end Escape

/-! ## Files -/

/-- Lines without carriage returns are added as tidy entries. -/
theorem tidy_addLines
    {escaped : Bool}
    {history : History}
    {lines : List Line}
    (tidy : Tidy history.entries)
    (noReturn : ∀ content, .text content ∈ lines -> '\r' ∉ content) :
    Tidy (addLines escaped history lines).entries := by
  induction lines generalizing history with
  | nil => exact tidy
  | cons line lines inductionHypothesis =>
      cases line with
      | malformed => exact tidy
      | text line =>
          have here := noReturn line List.mem_cons_self
          rw [addLines]
          refine inductionHypothesis (tidy.add ?_) fun content member =>
            noReturn content (List.mem_cons_of_mem _ member)
          split
          · cases read : unescape? line with
            | none => exact here
            | some entry => exact return_not_mem_of_unescape? read here
          · exact here

/-- A history file without carriage returns has tidy entries. -/
theorem tidy_ofFile?
    {file : Option (List UInt8)}
    (noReturn : ∀ bytes ∈ file, 13 ∉ bytes) :
    Tidy (ofFile? file).entries := by
  match file with
  | none => exact tidy_nil
  | some bytes =>
      have inLines (content : List Char)
          (member : .text content ∈ Line.split bytes) : '\r' ∉ content :=
        Line.not_mem_of_mem_splitAfter List.not_mem_nil (noReturn bytes rfl) member
      rw [ofFile?]
      match lines : Line.split bytes with
      | [] => exact tidy_nil
      | .malformed :: _ => exact tidy_nil
      | .text first :: others =>
          rw [lines] at inLines
          have inOthers (content : List Char) (member : .text content ∈ others) :=
            inLines content (List.mem_cons_of_mem _ member)
          rw [ofLines]
          split
          · exact tidy_addLines tidy_nil inOthers
          · exact tidy_addLines
              (tidy_nil.add (inLines first List.mem_cons_self)) inOthers

/-- The lines of entries are read as the entries. -/
theorem addLines_escape
    {history : History}
    {others : List (List Char)}
    (tidy : Tidy (history.entries ++ others)) :
    addLines true history (others.map fun entry => .text (escape entry)) =
      ⟨history.entries ++ others, false⟩ := by
  induction others generalizing history with
  | nil =>
      rw [List.append_nil]
      rfl
  | cons entry others inductionHypothesis =>
      have added := add_of_tidy tidy
      have together : history.entries ++ entry :: others =
          (history.add entry).entries ++ others := by
        rw [added, List.append_assoc, List.singleton_append]
      rw [together] at tidy ⊢
      rw [← inductionHypothesis tidy, List.map_cons, addLines]
      simp

/-- The history that is saved is read back from its file, with nothing to be saved. -/
theorem ofFile?_fileText
    {history : History}
    (tidy : Tidy history.entries) :
    ofFile? (some (Utf8.encode history.fileText)) = ⟨history.entries, false⟩ := by
  have noFeed : ∀ line ∈ versionLine :: history.entries.map escape, '\n' ∉ line := by
    rw [List.forall_mem_cons, List.forall_mem_map]
    exact ⟨by decide, fun entry _ => feed_not_mem_escape entry⟩
  have noReturn :
      ∀ line ∈ versionLine :: history.entries.map escape, '\r' ∉ line := by
    rw [List.forall_mem_cons, List.forall_mem_map]
    exact ⟨by decide, fun entry member =>
      return_not_mem_escape (tidy.noReturn entry member)⟩
  rw [ofFile?, fileText, Line.split_encode_unlines noFeed noReturn, List.map_cons,
    ofLines, if_pos rfl, List.map_map]
  exact addLines_escape tidy

end History
end SExpr
