import SExpr.Highlight.Line
import SExpr.Proofs.Highlight.Matching

/-!
# The pieces of a line

A line is cut into pieces from its start: the first style that matches takes what it matches,
and where none does one character is a piece of its own. `piecesAfter_of_styleFirst` and
`piecesAfter_of_noStyle` are the two steps, and `pieces_induction` follows them to the end of
the line.

No style matches an empty text, so there is no style at a place exactly when there is no way
to match one there. A line is left as it is if and only if no style matches anywhere in it.
-/

namespace SExpr
namespace Highlight

open Pattern (lastCharacter)

theorem Style.mem_all (style : Style) : style ∈ Style.all := by
  cases style <;> simp [Style.all]

/-- Every style matches at least one character. -/
theorem not_matches_nil
    (style : Style)
    (previous : Option Char)
    (after : List Char) :
    ¬ style.pattern.Matches previous [] after := by
  cases style <;>
    simp [Style.pattern, Style.numberPattern, Style.literalPattern, Style.digits,
      Style.sign, Style.keywords, Pattern.inOrder, Pattern.oneOf, Pattern.character,
      Pattern.optional, Pattern.oneOrMore, Pattern.oneWord, Pattern.word]

/-- A comment starts with a semicolon. -/
theorem ways_comment
    {character : Char}
    (noComment : character ≠ ';')
    (previous : Option Char)
    (rest : List Char) :
    Style.comment.pattern.ways previous (character :: rest) = [] := by
  have refused : (character :: rest).head?.any (· == ';') = false := beq_false_of_ne noComment
  rw [Style.pattern, Pattern.ways, Pattern.character, Pattern.ways,
    Pattern.oneWays_eq_nil refused, List.flatMap_nil]

/-! ## The style at a place -/

/-- A style is the first one that matches at the start of a text, and it matches certain
characters. -/
def StyleFirst
    (previous : Option Char)
    (style : Style)
    (matched after : List Char) : Prop :=
  ∃ length, matched.length = length + 1 ∧
    firstStyle? previous (matched ++ after) = some (style, length)

section

variable {previous : Option Char} {style : Style} {matched after text : List Char}

theorem StyleFirst.exists_cons
    (first : StyleFirst previous style matched after) :
    ∃ character others, matched = character :: others := by
  obtain ⟨length, size, -⟩ := first
  exact List.exists_cons_of_length_eq_add_one size

/-- The style that is found at a place matches what it is found for. -/
theorem exists_styleFirst
    {length : Nat}
    (found : firstStyle? previous text = some (style, length)) :
    ∃ matched after, matched ++ after = text ∧
      StyleFirst previous style matched after ∧
      style.pattern.Matches previous matched after := by
  obtain ⟨candidate, -, chosen⟩ := List.exists_of_findSome?_eq_some found
  split at chosen
  · next length' matchLength =>
      obtain ⟨rfl, rfl⟩ := Prod.mk.inj (Option.some.inj chosen)
      rw [Pattern.matchLength?_eq_head?] at matchLength
      obtain ⟨⟨matched, after⟩, first, size⟩ := Option.map_eq_some_iff.mp matchLength
      obtain ⟨rfl, isMatch⟩ :=
        (Pattern.mem_ways_iff _ text).mp (List.mem_of_head? first)
      exact ⟨matched, after, rfl, ⟨length', size, found⟩, isMatch⟩
  · cases chosen

/-- A style is passed over exactly when there is no way to match it. -/
theorem ways_eq_nil_of_passed
    (passed : ∀ length, style.pattern.matchLength? previous text ≠ some (length + 1)) :
    style.pattern.ways previous text = [] := by
  rw [List.eq_nil_iff_forall_not_mem]
  intro way listed
  obtain ⟨⟨matched, after⟩, others, first⟩ :=
    List.exists_cons_of_ne_nil (List.ne_nil_of_mem listed)
  have isMatch :=
    ((Pattern.mem_ways_iff style.pattern text).mp (first ▸ List.mem_cons_self)).2
  have matchLength := Pattern.matchLength?_eq_head? style.pattern previous text
  rw [first, List.head?_cons, Option.map_some] at matchLength
  cases matched with
  | nil => exact not_matches_nil style previous after isMatch
  | cons character matched => exact passed matched.length matchLength

/-- There is no style at a place exactly when there is no way to match one there. -/
theorem firstStyle?_eq_none_iff
    (previous : Option Char)
    (text : List Char) :
    firstStyle? previous text = none ↔
      ∀ (style : Style) matched after, matched ++ after = text ->
        ¬ style.pattern.Matches previous matched after := by
  simp only [← Pattern.ways_eq_nil_iff]
  rw [firstStyle?, List.findSome?_eq_none_iff]
  constructor
  · intro noStyle style
    apply ways_eq_nil_of_passed
    intro length matchLength
    have chosen := noStyle style (Style.mem_all style)
    simp [matchLength] at chosen
  · intro noWay style _
    rw [Pattern.matchLength?_eq_head?, noWay style]
    rfl

/-- A style is first with its preferred match if there is no way to match those before it. -/
theorem styleFirst_of_prefers
    {earlier later : List Style}
    (order : Style.all = earlier ++ style :: later)
    (noWay : ∀ other ∈ earlier, other.pattern.ways previous (matched ++ after) = [])
    (prefers : style.pattern.Prefers previous matched after) :
    StyleFirst previous style matched after := by
  have isMatch : style.pattern.Matches previous matched after :=
    ((Pattern.mem_ways_iff ..).mp (List.mem_of_head? prefers)).2
  cases matched with
  | nil => exact absurd isMatch (not_matches_nil style previous after)
  | cons character others =>
      refine ⟨others.length, rfl, ?_⟩
      rw [firstStyle?, order, List.findSome?_append, List.findSome?_eq_none_iff.mpr]
      · rw [List.findSome?_cons, Pattern.matchLength?_of_prefers prefers]
        rfl
      · intro other listed
        rw [Pattern.matchLength?_eq_head?, noWay other listed]
        rfl

end

/-! ## The pieces one after the other -/

section

variable {previous : Option Char} {style : Style} {matched after : List Char}

/-- What the first style matches is the first piece. -/
theorem piecesAfter_of_styleFirst
    (first : StyleFirst previous style matched after) :
    piecesAfter previous (matched ++ after) =
      .styled style matched :: piecesAfter (lastCharacter previous matched) after := by
  obtain ⟨character, others, rfl⟩ := first.exists_cons
  obtain ⟨length, size, found⟩ := first
  obtain rfl : others.length = length := Nat.succ.inj size
  have last : (character :: others).getLast? = lastCharacter previous (character :: others) := by
    rw [Pattern.lastCharacter_cons, lastCharacter, List.getLast?_cons]
    cases others.getLast? <;> rfl
  rw [List.cons_append] at found ⊢
  rw [piecesAfter, found]
  simp only [List.take_left, List.drop_left, last]

/-- Where there is no style, the first piece is one character. -/
theorem piecesAfter_of_noStyle
    {character : Char}
    {rest : List Char}
    (noStyle : firstStyle? previous (character :: rest) = none) :
    piecesAfter previous (character :: rest) =
      .plain character :: piecesAfter (some character) rest := by
  rw [piecesAfter, noStyle]

@[simp] theorem piecesAfter_nil (previous : Option Char) :
    piecesAfter previous [] = [] := by
  rw [piecesAfter]

end

/-- What holds at the end of a line and is kept by each piece in front holds of every text
before which any character may stand. -/
theorem pieces_induction
    {motive : Option Char -> List Char -> Prop}
    (ended : ∀ previous, motive previous [])
    (styled : ∀ previous style matched after,
      StyleFirst previous style matched after ->
      style.pattern.Matches previous matched after ->
      motive (lastCharacter previous matched) after ->
      motive previous (matched ++ after))
    (plain : ∀ previous character rest,
      firstStyle? previous (character :: rest) = none ->
      motive (some character) rest ->
      motive previous (character :: rest))
    (previous : Option Char)
    (text : List Char) :
    motive previous text := by
  induction size : text.length using Nat.strongRecOn generalizing previous text with
  | ind size inductionHypothesis =>
      cases found : firstStyle? previous text with
      | some choice =>
          obtain ⟨style, length⟩ := choice
          obtain ⟨matched, after, rfl, first, isMatch⟩ := exists_styleFirst found
          obtain ⟨character, others, rfl⟩ := first.exists_cons
          apply styled _ style _ _ first isMatch
          apply inductionHypothesis after.length _ _ _ rfl
          simp only [List.cons_append, List.length_cons, List.length_append] at size
          omega
      | none =>
          cases text with
          | nil => exact ended previous
          | cons character rest =>
              apply plain _ _ _ found
              apply inductionHypothesis rest.length _ _ _ rfl
              rw [List.length_cons] at size
              omega

/-! ## Lines that are left as they are -/

/-- A piece that is no styled text. -/
def Piece.IsPlain (piece : Piece) : Prop :=
  ∃ character, piece = .plain character

theorem Piece.length_text_le (piece : Piece) :
    piece.text.length ≤ piece.painted.length := by
  cases piece <;> simp [text, painted]
  omega

/-- Colours make a text longer. -/
theorem Piece.length_text_lt
    (style : Style)
    (text : List Char) :
    (styled style text).text.length < (styled style text).painted.length := by
  cases style <;> simp [Piece.text, painted, Style.opening, Style.escape] <;> omega

theorem length_flatMap_text_le (pieces : List Piece) :
    (pieces.flatMap Piece.text).length ≤ (pieces.flatMap Piece.painted).length := by
  induction pieces with
  | nil => exact Nat.le_refl 0
  | cons piece pieces inductionHypothesis =>
      simp only [List.flatMap_cons, List.length_append]
      exact Nat.add_le_add piece.length_text_le inductionHypothesis

theorem flatMap_painted_eq_iff (pieces : List Piece) :
    pieces.flatMap Piece.painted = pieces.flatMap Piece.text ↔
      ∀ piece ∈ pieces, piece.IsPlain := by
  induction pieces with
  | nil => simp
  | cons piece pieces inductionHypothesis =>
      rw [List.forall_mem_cons, List.flatMap_cons, List.flatMap_cons]
      cases piece with
      | plain character =>
          have isPlain : (Piece.plain character).IsPlain := ⟨character, rfl⟩
          rw [Piece.painted, Piece.text, List.append_cancel_left_eq, inductionHypothesis]
          exact (and_iff_right isPlain).symm
      | styled style text =>
          constructor
          · intro same
            have longer := Piece.length_text_lt style text
            have others := length_flatMap_text_le pieces
            have sizes := congrArg List.length same
            rw [List.length_append, List.length_append] at sizes
            omega
          · rintro ⟨⟨_, ⟨⟩⟩, _⟩

theorem firstStyle?_nil (previous : Option Char) : firstStyle? previous [] = none := by
  rw [firstStyle?_eq_none_iff]
  intro style matched after together
  rw [(List.append_eq_nil_iff.mp together).1]
  exact not_matches_nil style previous after

/-- All pieces are plain exactly when there is no style at any place. -/
theorem forall_isPlain_iff
    (previous : Option Char)
    (text : List Char) :
    (∀ piece ∈ piecesAfter previous text, piece.IsPlain) ↔
      ∀ before rest, before ++ rest = text ->
        firstStyle? (lastCharacter previous before) rest = none := by
  induction previous, text using pieces_induction with
  | ended previous =>
      simp only [piecesAfter_nil, List.not_mem_nil, false_implies, implies_true, true_iff]
      intro before rest together
      rw [(List.append_eq_nil_iff.mp together).2]
      exact firstStyle?_nil _
  | styled previous style matched after first isMatch _ =>
      rw [piecesAfter_of_styleFirst first, List.forall_mem_cons]
      constructor
      · rintro ⟨⟨_, ⟨⟩⟩, _⟩
      · intro noStyle
        obtain ⟨length, _, found⟩ := first
        cases (noStyle [] (matched ++ after) rfl).symm.trans found
  | plain previous character rest noStyle inductionHypothesis =>
      rw [piecesAfter_of_noStyle noStyle, List.forall_mem_cons, inductionHypothesis]
      constructor
      · rintro ⟨_, noStyleAfter⟩ before others together
        cases before with
        | nil =>
            obtain rfl := together
            exact noStyle
        | cons first before =>
            obtain ⟨rfl, following⟩ := List.cons.inj together
            rw [Pattern.lastCharacter_cons]
            exact noStyleAfter before others following
      · intro noStyleAt
        refine ⟨⟨character, rfl⟩, ?_⟩
        intro before others together
        rw [← Pattern.lastCharacter_cons previous]
        exact noStyleAt (character :: before) others (congrArg (character :: ·) together)

/-- A line is left as it is exactly when no style matches anywhere in it. -/
theorem line_eq_self_iff (text : List Char) :
    line text = text ↔
      ∀ (style : Style) before matched after, before ++ (matched ++ after) = text ->
        ¬ style.pattern.Matches (lastCharacter none before) matched after := by
  have together : (pieces text).flatMap Piece.text = text :=
    flatMap_text_piecesAfter none text
  have painted := flatMap_painted_eq_iff (pieces text)
  rw [together] at painted
  rw [line, painted, pieces, forall_isPlain_iff]
  simp only [firstStyle?_eq_none_iff]
  constructor
  · rintro noMatch style before matched after rfl
    exact noMatch before _ rfl style matched after rfl
  · rintro noMatch before _ rfl style matched after rfl
    exact noMatch style before matched after rfl

end Highlight
end SExpr
