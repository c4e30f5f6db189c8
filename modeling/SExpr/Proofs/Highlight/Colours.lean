import SExpr.Proofs.Highlight.Pieces
import SExpr.Proofs.Text.Slice
import Mathlib.Data.List.Basic

/-!
# Colours taken away again

The escape sequences that colour a text select a rendition by digits and semicolons. A line
that has no escape character of its own is what is left when all of them are deleted from its
coloured form, whatever brackets, digits and letters it has.

The second half is about places. Going through a line by places counted in bytes, one slice of
it for each piece, every slice is there, as no place is inside a character; and a round for
each character is enough to get to the end, where the coloured form is complete.
-/

namespace SExpr
namespace Highlight

open Pattern (lastCharacter)

/-! ## Escape sequences -/

/-- Whether a character can be between the start and the end of an escape sequence. -/
def isParameter (character : Char) : Bool :=
  character.isDigit || character == ';'

/-- The text after the escape sequence at the start of a text, if there is one. -/
def afterEscape? : List Char -> Option (List Char)
  | '\x1b' :: '[' :: rest =>
      match rest.dropWhile isParameter with
      | 'm' :: after => some after
      | _ => none
  | _ => none

theorem length_lt_of_afterEscape?
    {text after : List Char}
    (found : afterEscape? text = some after) :
    after.length < text.length := by
  unfold afterEscape? at found
  split at found
  · next rest =>
      have bound := (List.dropWhile_sublist isParameter (l := rest)).length_le
      split at found
      · next after' dropped =>
          rw [dropped, List.length_cons] at bound
          obtain rfl := Option.some.inj found
          simp only [List.length_cons]
          omega
      · cases found
  · cases found

/-- A text without its escape sequences. -/
def withoutEscapes : List Char -> List Char
  | [] => []
  | character :: rest =>
      match _found : afterEscape? (character :: rest) with
      | some after => withoutEscapes after
      | none => character :: withoutEscapes rest
termination_by text => text.length
decreasing_by
  · exact length_lt_of_afterEscape? _found
  · simp

@[simp] theorem withoutEscapes_nil : withoutEscapes [] = [] := by
  rw [withoutEscapes]

/-- Any character but an escape stays. -/
theorem withoutEscapes_cons
    {character : Char}
    (noEscape : character ≠ '\x1b')
    (rest : List Char) :
    withoutEscapes (character :: rest) = character :: withoutEscapes rest := by
  have none : afterEscape? (character :: rest) = none := by
    unfold afterEscape?
    split
    · next same => exact absurd (List.cons.inj same).1 noEscape
    · rfl
  rw [withoutEscapes]
  split
  · next found => cases none.symm.trans found
  · rfl

theorem withoutEscapes_append
    {text : List Char}
    (noEscape : '\x1b' ∉ text)
    (rest : List Char) :
    withoutEscapes (text ++ rest) = text ++ withoutEscapes rest := by
  induction text with
  | nil => rfl
  | cons character text inductionHypothesis =>
      rw [List.mem_cons, not_or] at noEscape
      rw [List.cons_append, withoutEscapes_cons (Ne.symm noEscape.1),
        inductionHypothesis noEscape.2, List.cons_append]

/-- An escape sequence goes. -/
theorem withoutEscapes_escape
    {code : String}
    (parameters : code.toList.all isParameter = true)
    (rest : List Char) :
    withoutEscapes (Style.escape code ++ rest) = withoutEscapes rest := by
  have dropped :
      (code.toList ++ ['m'] ++ rest).dropWhile isParameter = 'm' :: rest := by
    rw [List.append_assoc, List.dropWhile_append_of_pos (List.all_eq_true.mp parameters)]
    rfl
  have found : afterEscape? (Style.escape code ++ rest) = some rest := by
    rw [Style.escape, List.cons_append, List.cons_append]
    simp only [afterEscape?, dropped]
  rw [Style.escape, List.cons_append, withoutEscapes]
  split
  · next after found' =>
      obtain rfl := Option.some.inj (found.symm.trans found')
      rfl
  · next missing => cases found.symm.trans missing

theorem withoutEscapes_opening
    (style : Style)
    (rest : List Char) :
    withoutEscapes (style.opening ++ rest) = withoutEscapes rest := by
  cases style with
  | keyword =>
      rw [Style.opening, List.append_assoc, withoutEscapes_escape (by decide),
        withoutEscapes_escape (by decide)]
  | _ => exact withoutEscapes_escape (by decide) rest

theorem withoutEscapes_closing
    (style : Style)
    (rest : List Char) :
    withoutEscapes (style.closing ++ rest) = withoutEscapes rest := by
  cases style with
  | keyword =>
      rw [Style.closing, List.append_assoc, withoutEscapes_escape (by decide),
        withoutEscapes_escape (by decide)]
  | _ => exact withoutEscapes_escape (by decide) rest

/-- Of a painted piece its text stays. -/
theorem withoutEscapes_painted_append
    {piece : Piece}
    (noEscape : '\x1b' ∉ piece.text)
    (rest : List Char) :
    withoutEscapes (piece.painted ++ rest) = piece.text ++ withoutEscapes rest := by
  cases piece with
  | plain character => exact withoutEscapes_append noEscape rest
  | styled style text =>
      rw [Piece.text] at noEscape
      rw [Piece.painted, List.append_assoc, List.append_assoc, withoutEscapes_opening,
        withoutEscapes_append noEscape, withoutEscapes_closing, Piece.text]

theorem withoutEscapes_flatMap_painted
    {pieces : List Piece}
    (noEscape : '\x1b' ∉ pieces.flatMap Piece.text) :
    withoutEscapes (pieces.flatMap Piece.painted) = pieces.flatMap Piece.text := by
  induction pieces with
  | nil => exact withoutEscapes_nil
  | cons piece pieces inductionHypothesis =>
      rw [List.flatMap_cons, List.mem_append, not_or] at noEscape
      rw [List.flatMap_cons, List.flatMap_cons, withoutEscapes_painted_append noEscape.1,
        inductionHypothesis noEscape.2]

/-! ## Going through a line by places -/

/-- How far a line has been coloured: the place up to which it has been, and what has been
written for the text before it. -/
structure Progress where
  place : Nat
  written : List Char

/-- One round: the text that the first style at the place matches is written with its colours,
or one character as it is. There is no outcome where one of the slices is not there. -/
def Progress.round?
    (line : List Char)
    (progress : Progress) : Option Progress := do
  let before <- Utf8.slice? line 0 progress.place
  let rest <- Utf8.slice? line progress.place (Utf8.byteLength line)
  match firstStyle? before.getLast? rest with
  | some (style, length) =>
      let stop := progress.place + Utf8.byteLength (rest.take (length + 1))
      let matched <- Utf8.slice? line progress.place stop
      return ⟨stop, progress.written ++ (Piece.styled style matched).painted⟩
  | none =>
      let stop := progress.place + Utf8.byteLength (rest.take 1)
      let passed <- Utf8.slice? line progress.place stop
      return ⟨stop, progress.written ++ passed⟩

/-- A number of rounds, or fewer if the end of the line is reached before. -/
def Progress.rounds?
    (line : List Char) : Nat -> Progress -> Option Progress
  | 0, progress => some progress
  | count + 1, progress =>
      if progress.place < Utf8.byteLength line then
        (progress.round? line).bind (rounds? line count)
      else
        some progress

/-- From a place between two characters a round goes on to another one. -/
theorem round?_append (done rest written : List Char) :
    Progress.round? (done ++ rest) ⟨Utf8.byteLength done, written⟩ =
      match firstStyle? done.getLast? rest with
      | some (style, length) =>
          some ⟨Utf8.byteLength (done ++ rest.take (length + 1)),
            written ++ (Piece.styled style (rest.take (length + 1))).painted⟩
      | none =>
          some ⟨Utf8.byteLength (done ++ rest.take 1), written ++ rest.take 1⟩ := by
  have before :
      Utf8.slice? (done ++ rest) 0 (Utf8.byteLength done) = some done :=
    (Utf8.slice?_eq_some_iff ..).mpr ⟨[], rest, rfl, rfl, Nat.zero_add _⟩
  have after :
      Utf8.slice? (done ++ rest) (Utf8.byteLength done)
        (Utf8.byteLength (done ++ rest)) = some rest := by
    rw [Utf8.slice?_eq_some_iff]
    exact ⟨done, [], by rw [List.append_nil], rfl, (Utf8.byteLength_append ..).symm⟩
  have taken (count : Nat) :
      Utf8.slice? (done ++ rest) (Utf8.byteLength done)
        (Utf8.byteLength done + Utf8.byteLength (rest.take count)) =
          some (rest.take count) := by
    rw [Utf8.slice?_eq_some_iff]
    exact ⟨done, rest.drop count, by rw [List.take_append_drop], rfl, rfl⟩
  simp only [Progress.round?, before, after, Option.bind_eq_bind, Option.bind_some, taken]
  simp only [Utf8.byteLength_append]
  rfl

/-- Where a style is first, a round writes what it matches. -/
theorem round?_of_styleFirst
    {previous : Option Char}
    {style : Style}
    {done matched after : List Char}
    (first : StyleFirst previous style matched after)
    (last : done.getLast? = previous)
    (written : List Char) :
    Progress.round? (done ++ (matched ++ after)) ⟨Utf8.byteLength done, written⟩ =
      some ⟨Utf8.byteLength (done ++ matched),
        written ++ (Piece.styled style matched).painted⟩ := by
  obtain ⟨length, size, found⟩ := first
  have taken : (matched ++ after).take (length + 1) = matched := by
    rw [← size, List.take_left]
  rw [round?_append, last, found]
  simp only [taken]

/-- Where there is no style, a round writes a character. -/
theorem round?_of_noStyle
    {previous : Option Char}
    {done rest : List Char}
    {character : Char}
    (noStyle : firstStyle? previous (character :: rest) = none)
    (last : done.getLast? = previous)
    (written : List Char) :
    Progress.round? (done ++ character :: rest) ⟨Utf8.byteLength done, written⟩ =
      some ⟨Utf8.byteLength (done ++ [character]), written ++ [character]⟩ := by
  rw [round?_append, last, noStyle]
  rfl

/-- A round that moves on before the end of the line is followed by the others. -/
theorem rounds?_succ
    {line : List Char}
    {progress next : Progress}
    (inside : progress.place < Utf8.byteLength line)
    (round : progress.round? line = some next)
    (count : Nat) :
    Progress.rounds? line (count + 1) progress = Progress.rounds? line count next := by
  rw [Progress.rounds?, if_pos inside, round, Option.bind_some]

/-- At the end of the line there are no more rounds. -/
theorem rounds?_of_ended
    {line : List Char}
    {progress : Progress}
    (ended : progress.place = Utf8.byteLength line)
    (count : Nat) :
    Progress.rounds? line count progress = some progress := by
  cases count with
  | zero => rfl
  | succ count => rw [Progress.rounds?, if_neg (by omega)]

/-- Before a character is no end. -/
theorem byteLength_lt
    (done rest : List Char)
    (character : Char) :
    Utf8.byteLength done < Utf8.byteLength (done ++ character :: rest) := by
  have positive := character.utf8Size_pos
  rw [Utf8.byteLength_append, Utf8.byteLength]
  omega

/-- From any place that a line has been coloured up to, as many rounds as there are characters
left write the pieces that are left. -/
theorem rounds?_append
    (previous : Option Char)
    (text : List Char) :
    ∀ done written count, done.getLast? = previous -> text.length ≤ count ->
      Progress.rounds? (done ++ text) count ⟨Utf8.byteLength done, written⟩ =
        some ⟨Utf8.byteLength (done ++ text),
          written ++ (piecesAfter previous text).flatMap Piece.painted⟩ := by
  induction previous, text using pieces_induction with
  | ended previous =>
      intro done written count _ _
      rw [List.append_nil, piecesAfter_nil, List.flatMap_nil, List.append_nil]
      exact rounds?_of_ended rfl count
  | styled previous style matched after first _ inductionHypothesis =>
      intro done written count last enough
      have round := round?_of_styleFirst first last written
      have lastAfter : (done ++ matched).getLast? = lastCharacter previous matched := by
        rw [List.getLast?_append, last]
        rfl
      rw [piecesAfter_of_styleFirst first, List.flatMap_cons]
      obtain ⟨character, others, rfl⟩ := first.exists_cons
      cases count with
      | zero => simp at enough
      | succ count =>
          have fewer : after.length ≤ count := by
            simp only [List.length_append, List.length_cons] at enough
            omega
          have rounds := inductionHypothesis (done ++ character :: others)
            (written ++ (Piece.styled style (character :: others)).painted) count
            lastAfter fewer
          rw [rounds?_succ (byteLength_lt done _ character) round,
            ← List.append_assoc, rounds, List.append_assoc written]
  | plain previous character rest noStyle inductionHypothesis =>
      intro done written count last enough
      rw [piecesAfter_of_noStyle noStyle, List.flatMap_cons]
      cases count with
      | zero => simp at enough
      | succ count =>
          have round := round?_of_noStyle noStyle last written
          have rounds := inductionHypothesis (done ++ [character]) (written ++ [character])
            count List.getLast?_concat (Nat.le_of_succ_le_succ enough)
          rw [List.append_assoc, List.singleton_append] at rounds
          rw [rounds?_succ (byteLength_lt done rest character) round, rounds,
            List.append_assoc written]
          rfl

/-- What has been written after as many rounds as there are characters is the line with its
colours. -/
theorem line_of_rounds?
    {text painted : List Char}
    (rounds :
      (Progress.rounds? text text.length ⟨0, []⟩).map Progress.written = some painted) :
    line text = painted := by
  have whole := rounds?_append none text [] [] text.length rfl Nat.le.refl
  rw [List.nil_append, Utf8.byteLength] at whole
  rw [whole] at rounds
  exact Option.some.inj rounds

/-- The coloured form of a line without escapes is that line once its escape sequences are
deleted; and for every line, going through it by places makes no slice inside a character and
has written its coloured form after as many rounds as it has characters. -/
theorem withoutEscapes_line (text : List Char) :
    ('\x1b' ∉ text -> withoutEscapes (line text) = text) ∧
      ∀ count, text.length ≤ count ->
        Progress.rounds? text count ⟨0, []⟩ =
          some ⟨Utf8.byteLength text, line text⟩ := by
  have together : (pieces text).flatMap Piece.text = text :=
    flatMap_text_piecesAfter none text
  constructor
  · intro noEscape
    rw [← together] at noEscape
    rw [line, withoutEscapes_flatMap_painted noEscape, together]
  · intro count enough
    exact rounds?_append none text [] [] count rfl enough

/-- A line with what escape sequences are made of, and with characters of several bytes. -/
theorem withoutEscapes_line_brackets :
    '\x1b' ∉ "(λ [35m 1;5) ; é[m".toList ∧
      withoutEscapes (line "(λ [35m 1;5) ; é[m".toList) = "(λ [35m 1;5) ; é[m".toList ∧
      "(λ [35m 1;5) ; é[m".toList.length ≤ 20 ∧
      Progress.rounds? "(λ [35m 1;5) ; é[m".toList 20 ⟨0, []⟩ =
        some ⟨20, line "(λ [35m 1;5) ; é[m".toList⟩ :=
  ⟨by decide, (withoutEscapes_line _).1 (by decide), by decide,
    (withoutEscapes_line _).2 20 (by decide)⟩

end Highlight
end SExpr
