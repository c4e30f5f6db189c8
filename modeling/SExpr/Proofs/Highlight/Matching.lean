import SExpr.Highlight.Pattern

/-!
# The ways to match a pattern

A pattern can match at the start of a text in several ways. `Pattern.ways` lists them in the
order in which they are tried, and matching takes the first one that what is to come lets
through. So the length of a match is that of the first way, and there is no match exactly when
there is no way.

`Pattern.Matches` says what the ways are without their order: which characters a pattern
matches between the character before them and the text after them.
-/

namespace SExpr
namespace Pattern

/-- The last character of a text, or the one before the text if there is none in it. -/
def lastCharacter
    (previous : Option Char)
    (text : List Char) : Option Char :=
  text.getLast?.or previous

@[simp] theorem lastCharacter_nil (previous : Option Char) :
    lastCharacter previous [] = previous := rfl

@[simp] theorem lastCharacter_cons
    (previous : Option Char)
    (character : Char)
    (text : List Char) :
    lastCharacter previous (character :: text) =
      lastCharacter (some character) text := by
  rw [lastCharacter, lastCharacter, List.getLast?_cons]
  cases text.getLast? <;> rfl

@[simp] theorem lastCharacter_append
    (previous : Option Char)
    (left right : List Char) :
    lastCharacter previous (left ++ right) =
      lastCharacter (lastCharacter previous left) right := by
  induction left generalizing previous with
  | nil => rfl
  | cons character left inductionHypothesis => simp [inductionHypothesis]

/-- A way to match at the start of a text: the characters that are matched and the text after
them. -/
structure Way where
  matched : List Char
  after : List Char

/-- One way and then another. -/
def Way.andThen (first second : Way) : Way :=
  ⟨first.matched ++ second.matched, second.after⟩

/-- The way to match one character, if it is accepted. -/
def oneWays (accepts : Char -> Bool) : List Char -> List Way
  | [] => []
  | character :: rest => if accepts character then [⟨[character], rest⟩] else []

/-- There is no way to match one character where the first one is not accepted. -/
theorem oneWays_eq_nil
    {accepts : Char -> Bool}
    {text : List Char}
    (refused : text.head?.any accepts = false) :
    oneWays accepts text = [] := by
  cases text with
  | nil => rfl
  | cons character rest =>
      rw [List.head?_cons, Option.any_some] at refused
      rw [oneWays, refused, if_neg Bool.false_ne_true]

/-- The ways to match accepted characters, from the most of them to none. -/
def manyWays (accepts : Char -> Bool) : List Char -> List Way
  | [] => [⟨[], []⟩]
  | character :: rest =>
      if accepts character then
        (manyWays accepts rest).map (Way.andThen ⟨[character], rest⟩) ++
          [⟨[], character :: rest⟩]
      else
        [⟨[], character :: rest⟩]

/-- The ways to match a pattern, the preferred ones first. -/
def ways : Pattern -> Option Char -> List Char -> List Way
  | .empty, _, text => [⟨[], text⟩]
  | .boundary, previous, text =>
      if isBoundary previous text.head? then [⟨[], text⟩] else []
  | .one accepts, _, text => oneWays accepts text
  | .many accepts, _, text => manyWays accepts text
  | .both first second, previous, text =>
      (first.ways previous text).flatMap fun way =>
        (second.ways (lastCharacter previous way.matched) way.after).map way.andThen
  | .either preferred other, previous, text =>
      preferred.ways previous text ++ other.ways previous text

/-! ## Matching by the ways -/

/-- What is to come after a way, with the characters of the way counted. -/
def Way.lengthThen
    (previous : Option Char)
    (andThen : Option Char -> List Char -> Option Nat)
    (way : Way) : Option Nat :=
  (andThen (lastCharacter previous way.matched) way.after).map (· + way.matched.length)

section

variable (andThen : Option Char -> List Char -> Option Nat)

theorem findSome?_flatMap
    (choices : List α)
    (listed : α -> List β)
    (found : β -> Option γ) :
    (choices.flatMap listed).findSome? found =
      choices.findSome? fun choice => (listed choice).findSome? found := by
  simp only [← List.head?_filterMap, List.filterMap_flatMap, List.head?_flatMap]

/-- The ways that begin with the same one are tried as the ways to go on after it. -/
theorem findSome?_map_andThen
    (previous : Option Char)
    (first : Way)
    (others : List Way) :
    (others.map first.andThen).findSome? (Way.lengthThen previous andThen) =
      (others.findSome?
        (Way.lengthThen (lastCharacter previous first.matched) andThen)).map
          (· + first.matched.length) := by
  rw [List.findSome?_map, List.map_findSome?]
  congr 1
  funext second
  simp only [Function.comp_apply, Way.lengthThen, Way.andThen, lastCharacter_append,
    List.length_append, Option.map_map]
  congr 1
  funext length
  simp only [Function.comp_apply]
  omega

theorem oneThen_eq_findSome?
    (accepts : Char -> Bool)
    (previous : Option Char)
    (text : List Char) :
    oneThen accepts text andThen =
      (oneWays accepts text).findSome? (Way.lengthThen previous andThen) := by
  cases text with
  | nil => rfl
  | cons character rest =>
      rw [oneThen, oneWays]
      split
      · simp [Way.lengthThen]
      · rfl

theorem manyThen_eq_findSome?
    (accepts : Char -> Bool)
    (previous : Option Char)
    (text : List Char) :
    manyThen accepts previous text andThen =
      (manyWays accepts text).findSome? (Way.lengthThen previous andThen) := by
  induction text generalizing previous with
  | nil => simp [manyThen, manyWays, Way.lengthThen]
  | cons character rest inductionHypothesis =>
      rw [manyThen, manyWays]
      split
      · rw [List.findSome?_append, findSome?_map_andThen, lastCharacter_cons,
          lastCharacter_nil, ← inductionHypothesis]
        cases manyThen accepts (some character) rest andThen <;>
          simp [Way.lengthThen]
      · simp [Way.lengthThen]

/-- Matching a pattern takes the first of the ways that what is to come lets through. -/
theorem matchThen_eq_findSome?
    (pattern : Pattern)
    (previous : Option Char)
    (text : List Char) :
    pattern.matchThen previous text andThen =
      (pattern.ways previous text).findSome? (Way.lengthThen previous andThen) := by
  induction pattern generalizing previous text andThen with
  | empty => simp [matchThen, ways, Way.lengthThen]
  | boundary =>
      unfold matchThen ways
      split
      · simp [Way.lengthThen]
      · rfl
  | one accepts => exact oneThen_eq_findSome? andThen accepts previous text
  | many accepts => exact manyThen_eq_findSome? andThen accepts previous text
  | both first second firstHypothesis secondHypothesis =>
      rw [matchThen, ways, firstHypothesis, findSome?_flatMap]
      congr 1
      funext way
      rw [findSome?_map_andThen, ← secondHypothesis, Way.lengthThen]
  | either preferred other preferredHypothesis otherHypothesis =>
      rw [matchThen, ways, List.findSome?_append, ← preferredHypothesis,
        ← otherHypothesis]
      cases preferred.matchThen previous text andThen <;> rfl

end

/-- The match of a pattern is the first way. -/
theorem matchLength?_eq_head?
    (pattern : Pattern)
    (previous : Option Char)
    (text : List Char) :
    pattern.matchLength? previous text =
      (pattern.ways previous text).head?.map fun way => way.matched.length := by
  rw [matchLength?, matchThen_eq_findSome?]
  cases pattern.ways previous text <;> simp [Way.lengthThen]

/-! ## What the ways are -/

/-- Whether a pattern matches characters between the character before them and the text after
them. -/
def Matches : Pattern -> Option Char -> List Char -> List Char -> Prop
  | .empty, _, matched, _ => matched = []
  | .boundary, previous, matched, after =>
      matched = [] ∧ isBoundary previous after.head? = true
  | .one accepts, _, matched, _ =>
      ∃ character, accepts character = true ∧ matched = [character]
  | .many accepts, _, matched, _ =>
      ∀ character ∈ matched, accepts character = true
  | .both first second, previous, matched, after =>
      ∃ left right, matched = left ++ right ∧
        first.Matches previous left (right ++ after) ∧
        second.Matches (lastCharacter previous left) right after
  | .either preferred other, previous, matched, after =>
      preferred.Matches previous matched after ∨ other.Matches previous matched after

section

variable {previous : Option Char} {matched after : List Char}

@[simp] theorem matches_empty :
    empty.Matches previous matched after ↔ matched = [] := Iff.rfl

@[simp] theorem matches_boundary :
    boundary.Matches previous matched after ↔
      matched = [] ∧ isBoundary previous after.head? = true := Iff.rfl

@[simp] theorem matches_one {accepts : Char -> Bool} :
    (one accepts).Matches previous matched after ↔
      ∃ character, accepts character = true ∧ matched = [character] := Iff.rfl

@[simp] theorem matches_many {accepts : Char -> Bool} :
    (many accepts).Matches previous matched after ↔
      ∀ character ∈ matched, accepts character = true := Iff.rfl

@[simp] theorem matches_both {first second : Pattern} :
    (both first second).Matches previous matched after ↔
      ∃ left right, matched = left ++ right ∧
        first.Matches previous left (right ++ after) ∧
        second.Matches (lastCharacter previous left) right after := Iff.rfl

@[simp] theorem matches_either {preferred other : Pattern} :
    (either preferred other).Matches previous matched after ↔
      preferred.Matches previous matched after ∨
        other.Matches previous matched after := Iff.rfl

theorem mem_oneWays_iff
    (accepts : Char -> Bool)
    (text : List Char) :
    ⟨matched, after⟩ ∈ oneWays accepts text ↔
      matched ++ after = text ∧
        ∃ character, accepts character = true ∧ matched = [character] := by
  cases text with
  | nil => grind [oneWays]
  | cons character rest =>
      rw [oneWays]
      split <;> grind

theorem mem_manyWays_iff
    (accepts : Char -> Bool)
    (text : List Char) :
    ⟨matched, after⟩ ∈ manyWays accepts text ↔
      matched ++ after = text ∧
        ∀ character ∈ matched, accepts character = true := by
  induction text generalizing matched with
  | nil =>
      rw [manyWays, List.mem_singleton, Way.mk.injEq, List.append_eq_nil_iff]
      grind
  | cons character rest inductionHypothesis =>
      cases matched with
      | nil =>
          rw [manyWays]
          split <;> grind [Way.andThen]
      | cons first others =>
          have longer :
              ⟨first :: others, after⟩ ∈
                  (manyWays accepts rest).map (Way.andThen ⟨[character], rest⟩) ↔
                character = first ∧ ⟨others, after⟩ ∈ manyWays accepts rest := by
            simp only [List.mem_map, Way.andThen, List.singleton_append, Way.mk.injEq,
              List.cons.injEq]
            constructor
            · rintro ⟨way, listed, ⟨rfl, rfl⟩, rfl⟩
              exact ⟨rfl, listed⟩
            · rintro ⟨rfl, listed⟩
              exact ⟨_, listed, ⟨rfl, rfl⟩, rfl⟩
          rw [manyWays]
          split
          · rw [List.mem_append, longer, inductionHypothesis]
            grind
          · grind

/-- The ways are what the pattern matches at the start of the text. -/
theorem mem_ways_iff
    (pattern : Pattern)
    (text : List Char) :
    ⟨matched, after⟩ ∈ pattern.ways previous text ↔
      matched ++ after = text ∧ pattern.Matches previous matched after := by
  induction pattern generalizing previous text matched after with
  | empty => grind [ways, Matches]
  | boundary =>
      rw [ways]
      split <;> grind [Matches]
  | one accepts => exact mem_oneWays_iff accepts text
  | many accepts => exact mem_manyWays_iff accepts text
  | both first second firstHypothesis secondHypothesis =>
      simp only [ways, List.mem_flatMap, List.mem_map]
      constructor
      · rintro ⟨⟨left, middle⟩, firstWay, ⟨right, after⟩, secondWay, ⟨⟩⟩
        obtain ⟨rfl, firstMatches⟩ := (firstHypothesis text).mp firstWay
        obtain ⟨rfl, secondMatches⟩ := (secondHypothesis middle).mp secondWay
        exact ⟨List.append_assoc left right after, left, right, rfl, firstMatches,
          secondMatches⟩
      · rintro ⟨rfl, left, right, rfl, firstMatches, secondMatches⟩
        refine ⟨⟨left, right ++ after⟩, ?_, ⟨right, after⟩, ?_, rfl⟩
        · exact (firstHypothesis _).mpr ⟨(List.append_assoc left right after).symm, firstMatches⟩
        · exact (secondHypothesis _).mpr ⟨rfl, secondMatches⟩
  | either preferred other preferredHypothesis otherHypothesis =>
      rw [ways, List.mem_append, preferredHypothesis, otherHypothesis, matches_either,
        and_or_left]

theorem ways_eq_nil_iff
    (pattern : Pattern)
    (previous : Option Char)
    (text : List Char) :
    pattern.ways previous text = [] ↔
      ∀ matched after, matched ++ after = text ->
        ¬ pattern.Matches previous matched after := by
  rw [List.eq_nil_iff_forall_not_mem]
  constructor
  · intro noWay matched after together isMatch
    exact noWay _ ((mem_ways_iff pattern text).mpr ⟨together, isMatch⟩)
  · intro noMatch way listed
    obtain ⟨together, isMatch⟩ := (mem_ways_iff pattern text).mp listed
    exact noMatch _ _ together isMatch

end

/-! ## The first way -/

/-- Whether the first way to match a pattern is to match certain characters of a text. -/
def Prefers
    (pattern : Pattern)
    (previous : Option Char)
    (matched after : List Char) : Prop :=
  (pattern.ways previous (matched ++ after)).head? = some ⟨matched, after⟩

section

variable {previous : Option Char} {matched after : List Char}

/-- The match of a pattern is the first way. -/
theorem matchLength?_of_prefers
    {pattern : Pattern}
    (prefers : pattern.Prefers previous matched after) :
    pattern.matchLength? previous (matched ++ after) = some matched.length := by
  rw [matchLength?_eq_head?, prefers]
  rfl

theorem prefers_empty : empty.Prefers previous [] after := rfl

theorem prefers_boundary
    (isBoundary : isBoundary previous after.head? = true) :
    boundary.Prefers previous [] after := by
  simp [Prefers, ways, isBoundary]

theorem prefers_one
    {accepts : Char -> Bool}
    {character : Char}
    (accepted : accepts character = true) :
    (one accepts).Prefers previous [character] after := by
  simp [Prefers, ways, oneWays, accepted]

/-- As many accepted characters as there are come first. -/
theorem prefers_many
    {accepts : Char -> Bool}
    (accepted : ∀ character ∈ matched, accepts character = true)
    (ends : after.head?.any accepts = false) :
    (many accepts).Prefers previous matched after := by
  unfold Prefers ways
  induction matched with
  | nil =>
      cases after with
      | nil => rfl
      | cons character rest =>
          rw [List.head?_cons, Option.any_some] at ends
          simp [manyWays, ends]
  | cons character matched inductionHypothesis =>
      rw [List.forall_mem_cons] at accepted
      have first := inductionHypothesis accepted.2
      rw [List.cons_append, manyWays, if_pos accepted.1, List.head?_append, List.head?_map,
        first]
      rfl

/-- The first way of two patterns is the first way of one and then that of the other. -/
theorem prefers_both
    {first second : Pattern}
    {left right : List Char}
    (firstPrefers : first.Prefers previous left (right ++ after))
    (secondPrefers : second.Prefers (lastCharacter previous left) right after) :
    (both first second).Prefers previous (left ++ right) after := by
  unfold Prefers at firstPrefers secondPrefers ⊢
  obtain ⟨firstOthers, firstWays⟩ := List.head?_eq_some_iff.mp firstPrefers
  rw [ways, List.append_assoc, firstWays, List.flatMap_cons, List.head?_append,
    List.head?_map, secondPrefers]
  rfl

/-- An alternative comes before the other one. -/
theorem prefers_either
    {preferred : Pattern}
    (prefers : preferred.Prefers previous matched after)
    (other : Pattern) :
    (either preferred other).Prefers previous matched after := by
  unfold Prefers at prefers ⊢
  rw [ways, List.head?_append, prefers]
  rfl

/-- The other alternative is taken where there is no way to match the preferred one. -/
theorem prefers_other
    {preferred other : Pattern}
    (noWay : preferred.ways previous (matched ++ after) = [])
    (prefers : other.Prefers previous matched after) :
    (either preferred other).Prefers previous matched after := by
  unfold Prefers at prefers ⊢
  rw [ways, noWay]
  exact prefers

end

/-! ## The ends of words -/

/-- The character next to a place is there and in a word. -/
def InWord (neighbour : Option Char) : Prop :=
  neighbour.any Unicode.isWordCharacter = true

theorem isBoundary_iff (previous next : Option Char) :
    isBoundary previous next = true ↔ (InWord previous ↔ ¬ InWord next) := by
  unfold isBoundary InWord
  cases previous.any Unicode.isWordCharacter <;>
    cases next.any Unicode.isWordCharacter <;> decide

/-- One or more characters of a word. -/
structure IsWord (text : List Char) : Prop where
  nonempty : text ≠ []
  isWordCharacter : ∀ character ∈ text, Unicode.isWordCharacter character = true

instance : DecidablePred IsWord := fun text =>
  decidable_of_iff
    (text ≠ [] ∧ text.all Unicode.isWordCharacter = true)
    ⟨fun ⟨nonempty, isWord⟩ => ⟨nonempty, List.all_eq_true.mp isWord⟩,
      fun ⟨nonempty, isWord⟩ => ⟨nonempty, List.all_eq_true.mpr isWord⟩⟩

namespace IsWord

variable {word : List Char}

theorem inWord_head?
    (isWord : IsWord word)
    (after : List Char) :
    InWord (word ++ after).head? := by
  obtain ⟨first, others, rfl⟩ := List.exists_cons_of_ne_nil isWord.nonempty
  exact isWord.isWordCharacter first List.mem_cons_self

theorem inWord_lastCharacter
    (isWord : IsWord word)
    (previous : Option Char) :
    InWord (lastCharacter previous word) := by
  rw [lastCharacter, List.getLast?_eq_some_getLast isWord.nonempty]
  exact isWord.isWordCharacter _ (List.getLast_mem isWord.nonempty)

/-- A word starts after what is in no word. -/
theorem isBoundary_head?_iff
    (isWord : IsWord word)
    (previous : Option Char)
    (after : List Char) :
    isBoundary previous (word ++ after).head? = true ↔ ¬ InWord previous := by
  simp only [isBoundary_iff, isWord.inWord_head? after, not_true_eq_false, iff_false]

/-- A word ends before what is in no word. -/
theorem isBoundary_lastCharacter_iff
    (isWord : IsWord word)
    (previous next : Option Char) :
    isBoundary (lastCharacter previous word) next = true ↔ ¬ InWord next := by
  simp only [isBoundary_iff, isWord.inWord_lastCharacter previous, true_iff]

end IsWord
end Pattern
end SExpr
