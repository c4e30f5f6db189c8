import SExpr.Proofs.Highlight.Pieces
import Mathlib.Tactic.Tauto

/-!
# Colours on the two sides of a divider

Blanks, parentheses, the quote mark and the semicolon are in no word and in no number, keyword
or literal. What stands before one of them is therefore matched as if the text ended there
(`Pattern.ways_append`), and what comes after it as if the text began there, since only whether
the character before a place is in a word is ever looked at. A comment is the one thing that
goes past a divider, so the text before it must have none.
-/

namespace SExpr
namespace Pattern

/-! ## What follows -/

/-- Whether a pattern never matches a character. -/
def avoids : Pattern -> Char -> Bool
  | .empty, _ => true
  | .boundary, _ => true
  | .one accepts, character => !accepts character
  | .many accepts, character => !accepts character
  | .both first second, character => first.avoids character && second.avoids character
  | .either preferred other, character =>
      preferred.avoids character && other.avoids character

/-- Whether a pattern can neither match the start of a text nor see that it is there: the text
is empty, or it starts with a character that is in no word and that the pattern avoids. -/
def EndsAt
    (pattern : Pattern)
    (tail : List Char) : Prop :=
  ∀ character ∈ tail.head?,
    Unicode.isWordCharacter character = false ∧ pattern.avoids character = true

theorem EndsAt.of_both
    {first second : Pattern}
    {tail : List Char}
    (ends : (first.both second).EndsAt tail) :
    first.EndsAt tail ∧ second.EndsAt tail := by
  simp only [EndsAt, avoids, Bool.and_eq_true] at ends ⊢
  exact ⟨fun character start => ⟨(ends character start).1, (ends character start).2.1⟩,
    fun character start => ⟨(ends character start).1, (ends character start).2.2⟩⟩

theorem EndsAt.of_either
    {preferred other : Pattern}
    {tail : List Char}
    (ends : (preferred.either other).EndsAt tail) :
    preferred.EndsAt tail ∧ other.EndsAt tail :=
  ends.of_both

/-- A way with more text after it. -/
def Way.before
    (tail : List Char)
    (way : Way) : Way :=
  ⟨way.matched, way.after ++ tail⟩

/-- Two characters before a place, or none, are alike if both or none is in a word. -/
def SameSide (left right : Option Char) : Prop :=
  left.any Unicode.isWordCharacter = right.any Unicode.isWordCharacter

theorem SameSide.lastCharacter
    {left right : Option Char}
    (same : SameSide left right)
    (text : List Char) :
    SameSide (lastCharacter left text) (lastCharacter right text) := by
  cases text with
  | nil => exact same
  | cons character text => rw [lastCharacter_cons, lastCharacter_cons, SameSide]

section

variable {tail : List Char}

theorem oneWays_append
    {accepts : Char -> Bool}
    (ends : (one accepts).EndsAt tail)
    (text : List Char) :
    oneWays accepts (text ++ tail) = (oneWays accepts text).map (Way.before tail) := by
  cases text with
  | nil =>
      cases tail with
      | nil => rfl
      | cons character rest =>
          have avoided := (ends character rfl).2
          simp_all [oneWays, avoids]
  | cons character rest =>
      rw [List.cons_append, oneWays, oneWays]
      split <;> rfl

theorem manyWays_append
    {accepts : Char -> Bool}
    (ends : (many accepts).EndsAt tail)
    (text : List Char) :
    manyWays accepts (text ++ tail) = (manyWays accepts text).map (Way.before tail) := by
  induction text with
  | nil =>
      cases tail with
      | nil => rfl
      | cons character rest =>
          have avoided := (ends character rfl).2
          simp_all [manyWays, avoids, Way.before]
  | cons character rest inductionHypothesis =>
      rw [List.cons_append, manyWays, manyWays]
      split
      · simp [inductionHypothesis, Way.before, Way.andThen]
      · rfl

/-- The ways to match a pattern in front of a text that it ends at are those to match it
without that text. -/
theorem ways_append
    {pattern : Pattern}
    (ends : pattern.EndsAt tail)
    {previous previous' : Option Char}
    (same : SameSide previous previous')
    (text : List Char) :
    pattern.ways previous (text ++ tail) =
      (pattern.ways previous' text).map (Way.before tail) := by
  induction pattern generalizing previous previous' text with
  | empty => rfl
  | boundary =>
      have sameHead :
          (text ++ tail).head?.any Unicode.isWordCharacter =
            text.head?.any Unicode.isWordCharacter := by
        cases text with
        | cons character rest => rfl
        | nil =>
            cases tail with
            | nil => rfl
            | cons character rest => exact (ends character rfl).1
      rw [ways, ways, isBoundary, isBoundary, same, sameHead]
      split <;> rfl
  | one accepts => exact oneWays_append ends text
  | many accepts => exact manyWays_append ends text
  | both first second firstHypothesis secondHypothesis =>
      obtain ⟨firstEnds, secondEnds⟩ := ends.of_both
      simp only [ways, firstHypothesis firstEnds same, List.flatMap_map, List.map_flatMap,
        List.map_map]
      congr 1
      funext way
      simp only [Way.before, secondHypothesis secondEnds (same.lastCharacter way.matched),
        List.map_map]
      rfl
  | either preferred other preferredHypothesis otherHypothesis =>
      obtain ⟨preferredEnds, otherEnds⟩ := ends.of_either
      rw [ways, ways, preferredHypothesis preferredEnds same, otherHypothesis otherEnds same,
        List.map_append]

end

/-- Only whether the character before is in a word is looked at. -/
theorem ways_congr
    (pattern : Pattern)
    {previous previous' : Option Char}
    (same : SameSide previous previous')
    (text : List Char) :
    pattern.ways previous text = pattern.ways previous' text := by
  have ends : pattern.EndsAt [] := by simp [EndsAt]
  have copied : Way.before [] = id := by
    funext way
    rw [Way.before, List.append_nil, id]
  have ways := ways_append ends same text
  rwa [List.append_nil, copied, List.map_id] at ways

end Pattern

namespace Highlight

open Pattern (SameSide lastCharacter)

/-! ## Dividers -/

/-- The characters that no number, keyword or literal goes past. -/
def dividers : List Char :=
  [' ', '\t', '(', ')', '\'', ';']

/-- A text that is divided from any text before it. -/
def IsDivided (tail : List Char) : Prop :=
  ∀ character ∈ tail.head?, character ∈ dividers

theorem isWordCharacter_of_mem_dividers :
    ∀ character ∈ dividers, Unicode.isWordCharacter character = false := by
  have noWord : dividers.all (fun found => !Unicode.isWordCharacter found) = true := by
    decide +kernel
  simpa only [List.all_eq_true, Bool.not_eq_true'] using noWord

/-- A number, keyword or literal ends at a divider. -/
theorem IsDivided.endsAt
    {tail : List Char}
    (divided : IsDivided tail)
    {style : Style}
    (isWord : style = .number ∨ style = .keyword ∨ style = .literal) :
    style.pattern.EndsAt tail := by
  have avoided : dividers.all style.pattern.avoids = true := by
    obtain rfl | rfl | rfl := isWord <;> decide +kernel
  intro character start
  have divider := divided character start
  exact ⟨isWordCharacter_of_mem_dividers character divider,
    List.all_eq_true.mp avoided character divider⟩

section

variable {tail : List Char}

/-- At a character that starts no comment, what a style matches does not go past a divider. -/
theorem matchLength?_append
    (divided : IsDivided tail)
    {character : Char}
    (noComment : character ≠ ';')
    (style : Style)
    (previous : Option Char)
    (rest : List Char) :
    style.pattern.matchLength? previous (character :: rest ++ tail) =
      style.pattern.matchLength? previous (character :: rest) := by
  have words
      (isWord : style = .number ∨ style = .keyword ∨ style = .literal) :
      style.pattern.matchLength? previous (character :: rest ++ tail) =
        style.pattern.matchLength? previous (character :: rest) := by
    rw [Pattern.matchLength?_eq_head?, Pattern.matchLength?_eq_head?,
      Pattern.ways_append (divided.endsAt isWord) rfl, List.head?_map, Option.map_map]
    rfl
  cases style with
  | comment =>
      simp [Style.pattern, Pattern.matchLength?, Pattern.matchThen, Pattern.character,
        Pattern.oneThen, noComment]
  | number => exact words (.inl rfl)
  | keyword => exact words (.inr (.inl rfl))
  | literal => exact words (.inr (.inr rfl))
  | paren => rfl

theorem firstStyle?_append
    (divided : IsDivided tail)
    {character : Char}
    (noComment : character ≠ ';')
    (previous : Option Char)
    (rest : List Char) :
    firstStyle? previous (character :: rest ++ tail) =
      firstStyle? previous (character :: rest) := by
  unfold firstStyle?
  simp only [matchLength?_append divided noComment]

/-- The pieces of a text without comments are the same in front of a divider. -/
theorem piecesAfter_append
    (divided : IsDivided tail)
    (previous : Option Char)
    (text : List Char)
    (noComment : ';' ∉ text) :
    piecesAfter previous (text ++ tail) =
      piecesAfter previous text ++ piecesAfter (lastCharacter previous text) tail := by
  induction previous, text using pieces_induction with
  | ended previous => simp
  | styled previous style matched after first _ inductionHypothesis =>
      rw [List.mem_append, not_or] at noComment
      have firstToo : StyleFirst previous style matched (after ++ tail) := by
        obtain ⟨character, others, rfl⟩ := first.exists_cons
        obtain ⟨length, size, found⟩ := first
        refine ⟨length, size, ?_⟩
        rw [List.mem_cons, not_or] at noComment
        rw [← List.append_assoc, List.cons_append,
          firstStyle?_append divided (Ne.symm noComment.1.1)]
        exact found
      rw [List.append_assoc, piecesAfter_of_styleFirst firstToo,
        piecesAfter_of_styleFirst first, inductionHypothesis noComment.2,
        Pattern.lastCharacter_append, List.cons_append]
  | plain previous character rest noStyle inductionHypothesis =>
      rw [List.mem_cons, not_or] at noComment
      have noStyleToo : firstStyle? previous (character :: (rest ++ tail)) = none := by
        rw [← List.cons_append, firstStyle?_append divided (Ne.symm noComment.1)]
        exact noStyle
      rw [List.cons_append, piecesAfter_of_noStyle noStyleToo,
        piecesAfter_of_noStyle noStyle, inductionHypothesis noComment.2,
        Pattern.lastCharacter_cons, List.cons_append]

end

/-- The pieces after a character that is in no word are those of the text alone. -/
theorem piecesAfter_congr
    {previous previous' : Option Char}
    (same : SameSide previous previous')
    (text : List Char) :
    piecesAfter previous text = piecesAfter previous' text := by
  have sameStyle (text : List Char) :
      firstStyle? previous text = firstStyle? previous' text := by
    unfold firstStyle?
    simp only [Pattern.matchLength?_eq_head?, Pattern.ways_congr _ same]
  cases text with
  | nil => rw [piecesAfter_nil, piecesAfter_nil]
  | cons character rest => rw [piecesAfter, piecesAfter, sameStyle]

/-! ## The divider itself -/

/-- No number, keyword or literal starts with a divider. -/
theorem ways_divider
    {style : Style}
    (isWord : style = .number ∨ style = .keyword ∨ style = .literal)
    {character : Char}
    (divider : character ∈ dividers)
    (previous : Option Char)
    (rest : List Char) :
    style.pattern.ways previous (character :: rest) = [] := by
  have divided : IsDivided (character :: rest) := by
    rintro _ ⟨⟩
    exact divider
  rw [← List.nil_append (character :: rest),
    Pattern.ways_append (divided.endsAt isWord) rfl, List.map_eq_nil_iff,
    Pattern.ways_eq_nil_iff]
  intro matched after together
  rw [(List.append_eq_nil_iff.mp together).1]
  exact not_matches_nil style previous after

/-- The text after a divider is cut like a text of its own. -/
theorem piecesAfter_divider
    {character : Char}
    (divider : character ∈ dividers)
    (rest : List Char) :
    piecesAfter (some character) rest = pieces rest := by
  have noWord : SameSide (some character) none :=
    isWordCharacter_of_mem_dividers character divider
  exact piecesAfter_congr noWord rest

/-- A blank is a piece of its own. -/
theorem piecesAfter_blank
    {character : Char}
    (blank : character = ' ' ∨ character = '\t')
    (previous : Option Char)
    (rest : List Char) :
    piecesAfter previous (character :: rest) = .plain character :: pieces rest := by
  have divider : character ∈ dividers := by
    obtain rfl | rfl := blank <;> decide
  have noComment : character ≠ ';' := by
    obtain rfl | rfl := blank <;> decide
  have noParen : ['(', ')', '\''].contains character = false := by
    obtain rfl | rfl := blank <;> decide
  have noStyle : firstStyle? previous (character :: rest) = none := by
    rw [firstStyle?_eq_none_iff]
    simp only [← Pattern.ways_eq_nil_iff]
    intro style
    cases style with
    | comment => exact ways_comment noComment previous rest
    | number => exact ways_divider (.inl rfl) divider previous rest
    | keyword => exact ways_divider (.inr (.inl rfl)) divider previous rest
    | literal => exact ways_divider (.inr (.inr rfl)) divider previous rest
    | paren =>
        rw [Style.pattern, Pattern.oneOf, Pattern.ways, Pattern.oneWays_eq_nil]
        exact noParen
  rw [piecesAfter_of_noStyle noStyle, piecesAfter_divider divider]

/-- A parenthesis or a quote mark is painted by itself. -/
theorem piecesAfter_paren
    {character : Char}
    (paren : character ∈ ['(', ')', '\''])
    (previous : Option Char)
    (rest : List Char) :
    piecesAfter previous (character :: rest) =
      .styled .paren [character] :: pieces rest := by
  have divider : character ∈ dividers := by
    simp only [List.mem_cons, List.not_mem_nil, or_false] at paren
    obtain rfl | rfl | rfl := paren <;> decide
  have noComment : character ≠ ';' := by
    rintro rfl
    exact absurd paren (by decide)
  have order :
      Style.all = [.comment, .number, .keyword, .literal] ++ .paren :: [] := rfl
  have first : StyleFirst previous .paren [character] rest := by
    apply styleFirst_of_prefers order
    · intro other listed
      simp only [List.mem_cons, List.not_mem_nil, or_false] at listed
      obtain rfl | isWord := listed
      · exact ways_comment noComment previous rest
      · exact ways_divider isWord divider previous rest
    · exact Pattern.prefers_one (List.contains_iff_mem.mpr paren)
  rw [← List.singleton_append, piecesAfter_of_styleFirst first, Pattern.lastCharacter_cons,
    Pattern.lastCharacter_nil, piecesAfter_divider divider]

/-- A comment goes to the end of its line. -/
theorem piecesAfter_comment
    {text : List Char}
    (oneLine : '\n' ∉ text)
    (previous : Option Char) :
    piecesAfter previous (';' :: text) = [.styled .comment (';' :: text)] := by
  have accepted : ∀ character ∈ text, (character != '\n') = true := by
    intro character member
    rw [bne_iff_ne]
    rintro rfl
    exact oneLine member
  have prefers : Style.comment.pattern.Prefers previous ([';'] ++ text) [] := by
    apply Pattern.prefers_both
    · exact Pattern.prefers_one rfl
    · exact Pattern.prefers_many accepted rfl
  have order : Style.all = [] ++ .comment :: [.number, .keyword, .literal, .paren] := rfl
  have first : StyleFirst previous .comment (';' :: text) [] := by
    apply styleFirst_of_prefers order
    · intro other listed
      cases listed
    · exact prefers
  have pieces := piecesAfter_of_styleFirst first
  rwa [List.append_nil, piecesAfter_nil] at pieces

/-! ## Lines with a divider -/

/-- A blank as it is, and a parenthesis or a quote mark painted. -/
def paintedDivider (character : Char) : List Char :=
  if character = ' ' ∨ character = '\t' then
    [character]
  else
    Style.escape "34" ++ [character] ++ Style.escape "39"

/-- What stands before a divider without a comment and what stands after it are coloured
independently of each other, and a comment takes the rest of its line. -/
theorem line_append
    {before : List Char}
    (noComment : ';' ∉ before) :
    (∀ divider ∈ [' ', '\t', '(', ')', '\''], ∀ after,
      line (before ++ divider :: after) =
        line before ++ paintedDivider divider ++ line after) ∧
    (∀ comment, '\n' ∉ comment ->
      line (before ++ ';' :: comment) =
        line before ++ (Style.escape "90" ++ ';' :: comment ++ Style.escape "39")) := by
  constructor
  · intro divider listed after
    have isDivider : divider ∈ dividers :=
      List.mem_append_left [';'] listed
    have divided : IsDivided (divider :: after) := by
      rintro _ ⟨⟩
      exact isDivider
    unfold line paintedDivider
    rw [pieces, piecesAfter_append divided none before noComment, List.flatMap_append,
      List.append_assoc]
    congr 1
    split
    · next blank =>
        rw [piecesAfter_blank blank, List.flatMap_cons]
        rfl
    · next noBlank =>
        have paren : divider ∈ ['(', ')', '\''] := by
          simp only [List.mem_cons] at listed ⊢
          tauto
        rw [piecesAfter_paren paren, List.flatMap_cons]
        rfl
  · intro comment oneLine
    have divided : IsDivided (';' :: comment) := by
      rintro _ ⟨⟩
      decide
    unfold line
    rw [pieces, piecesAfter_append divided none before noComment, List.flatMap_append,
      piecesAfter_comment oneLine, List.flatMap_singleton]
    rfl

/-- A number before a quote mark, a keyword behind it, and a comment with what ends none. -/
theorem line_append_quotedLet :
    ';' ∉ "(x-1.5e3".toList ∧
      '\'' ∈ [' ', '\t', '(', ')', '\''] ∧
      line ("(x-1.5e3".toList ++ '\'' :: "let) ; 'y".toList) =
        line "(x-1.5e3".toList ++ paintedDivider '\'' ++ line "let) ; 'y".toList ∧
      '\n' ∉ " 1 ; (let\r".toList ∧
      line ("(x-1.5e3".toList ++ ';' :: " 1 ; (let\r".toList) =
        line "(x-1.5e3".toList ++
          (Style.escape "90" ++ ';' :: " 1 ; (let\r".toList ++ Style.escape "39") := by
  have noComment : ';' ∉ "(x-1.5e3".toList := by decide
  exact ⟨noComment, by decide, (line_append noComment).1 '\'' (by decide) _, by decide,
    (line_append noComment).2 _ (by decide)⟩

/-- The characters of every colour. -/
example :
    line "(let 1 '#t) ;'".toList =
      ("\x1b[34m(\x1b[39m\x1b[1m\x1b[36mlet\x1b[39m\x1b[0m \x1b[35m1\x1b[39m " ++
        "\x1b[34m'\x1b[39m\x1b[33m#t\x1b[39m\x1b[34m)\x1b[39m " ++
        "\x1b[90m;'\x1b[39m").toList := by
  decide +kernel

end Highlight
end SExpr
