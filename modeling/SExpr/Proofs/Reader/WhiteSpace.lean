import SExpr.Proofs.Reader.Grammar
import SExpr.Unicode.WhiteSpace
import Mathlib.Data.List.DropRight

/-!
# White space around a source

White space in the sense of Unicode is more than the blanks that separate data, but no
datum has any of it in its tokens. So in a source that can be read, white space that is
no blank stands in comments only, and none of them is at the start. At the end it may be
the end of a comment, which is as good a comment without it. Without the white space
around it a source is read as the same data.
-/

namespace SExpr

namespace Unicode

/-- The code points that are white space. -/
def whiteSpaceCodes : List Nat :=
  List.range' 0x9 5 ++ [0x20, 0x85, 0xA0, 0x1680] ++ List.range' 0x2000 11 ++
    [0x2028, 0x2029, 0x202F, 0x205F, 0x3000]

theorem toNat_mem_whiteSpaceCodes
    {character : Char}
    (white : isWhiteSpace character = true) :
    character.toNat ∈ whiteSpaceCodes := by
  simp only [isWhiteSpace, Bool.or_eq_true, Bool.and_eq_true, decide_eq_true_eq,
    beq_iff_eq] at white
  simp only [whiteSpaceCodes, List.mem_append, List.mem_range'_1, List.mem_cons,
    List.not_mem_nil, or_false]
  omega

/-- What no white space has is had by characters that are no white space. -/
theorem isWhiteSpace_eq_false_of_property
    {property : Char -> Bool}
    (none : ∀ code ∈ whiteSpaceCodes, property (Char.ofNat code) = false)
    {character : Char}
    (has : property character = true) :
    isWhiteSpace character = false := by
  by_contra white
  rw [Bool.not_eq_false] at white
  have hasNot := none _ (toNat_mem_whiteSpaceCodes white)
  rw [Char.ofNat_toNat, has] at hasNot
  cases hasNot

end Unicode

namespace Reader

open Numeral (DigitRun SignSpelling IntegerSpelling MantissaSpelling ExponentSpelling
  NumeralSpelling)

/-- A text without white space. -/
def NoWhiteSpace (text : List Char) : Prop :=
  ∀ character ∈ text, Unicode.isWhiteSpace character = false

instance (text : List Char) : Decidable (NoWhiteSpace text) :=
  List.decidableBAll (fun character => Unicode.isWhiteSpace character = false) text

/-! ## Runs -/

section Runs

variable {text : List Char}

theorem NoWhiteSpace.append
    {first second : List Char}
    (inFirst : NoWhiteSpace first)
    (inSecond : NoWhiteSpace second) :
    NoWhiteSpace (first ++ second) :=
  List.forall_mem_append.mpr ⟨inFirst, inSecond⟩

theorem NoWhiteSpace.cons
    {character : Char}
    (notWhite : Unicode.isWhiteSpace character = false)
    (inText : NoWhiteSpace text) :
    NoWhiteSpace (character :: text) :=
  List.forall_mem_cons.mpr ⟨notWhite, inText⟩

/-- A symbol goes on with no white space. -/
theorem isWhiteSpace_eq_false_of_isSymbolSubsequent
    {character : Char}
    (subsequent : isSymbolSubsequent character = true) :
    Unicode.isWhiteSpace character = false :=
  Unicode.isWhiteSpace_eq_false_of_property (by decide +kernel) subsequent

theorem noWhiteSpace_of_isDigit
    (isDigit : ∀ character ∈ text, character.isDigit = true) :
    NoWhiteSpace text :=
  fun character member =>
    Unicode.isWhiteSpace_eq_false_of_property (by decide) (isDigit character member)

theorem noWhiteSpace_of_signSpelling
    {negative : Bool}
    (spelled : SignSpelling negative text) :
    NoWhiteSpace text := by
  cases spelled with
  | absent => decide
  | plus => decide
  | minus => decide

theorem noWhiteSpace_of_integerSpelling
    {value : Int}
    (spelled : IntegerSpelling value text) :
    NoWhiteSpace text := by
  cases spelled with
  | signed signed run =>
      exact (noWhiteSpace_of_signSpelling signed).append
        (noWhiteSpace_of_isDigit run.isDigit)

theorem noWhiteSpace_of_mantissaSpelling
    {whole fraction : List Char}
    (spelled : MantissaSpelling whole fraction text) :
    NoWhiteSpace text := by
  cases spelled with
  | digits run => exact noWhiteSpace_of_isDigit run.isDigit
  | point run isDigit =>
      exact (noWhiteSpace_of_isDigit run.isDigit).append
        (.cons (by decide) (noWhiteSpace_of_isDigit isDigit))
  | leadingPoint run =>
      exact .cons (by decide) (noWhiteSpace_of_isDigit run.isDigit)

theorem noWhiteSpace_of_exponentSpelling
    {exponent : Int}
    (spelled : ExponentSpelling exponent text) :
    NoWhiteSpace text := by
  cases spelled with
  | absent => decide
  | marked isMark spelled =>
      refine .cons ?_ (noWhiteSpace_of_integerSpelling spelled)
      obtain rfl | rfl := isMark <;> decide

/-- There is no white space in a run that denotes a datum. -/
theorem noWhiteSpace_of_denotes
    {value : Datum}
    (denotes : Denotes text value) :
    NoWhiteSpace text := by
  cases denotes with
  | integer spelled => exact noWhiteSpace_of_integerSpelling spelled
  | float _ spelled =>
      cases spelled with
      | parts signed digits scaled =>
          exact (noWhiteSpace_of_signSpelling signed).append
            ((noWhiteSpace_of_mantissaSpelling digits).append
              (noWhiteSpace_of_exponentSpelling scaled))
  | keyword listed =>
      have all : ∀ pair ∈ keywords, NoWhiteSpace pair.1 := by decide
      exact all _ listed
  | symbol _ _ _ isText =>
      obtain ⟨initial, others, rfl, isInitial, isSubsequent⟩ := isText
      have alsoSubsequent : isSymbolSubsequent initial = true := by
        rw [isSymbolInitial, Bool.or_eq_true] at isInitial
        unfold isSymbolSubsequent
        obtain alphabetic | punctuation := isInitial
        · rw [alphabetic]
          rfl
        · rw [punctuation, Bool.or_true]
          rfl
      exact .cons (isWhiteSpace_eq_false_of_isSymbolSubsequent alsoSubsequent)
        fun character member =>
          isWhiteSpace_eq_false_of_isSymbolSubsequent (isSubsequent character member)

end Runs

/-! ## Tokens -/

/-- Tokens without white space in their spellings. -/
def Solid (tokens : List Token) : Prop :=
  ∀ token ∈ tokens, NoWhiteSpace token.spelling

mutual

/-- There is no white space in the tokens that derive a datum. -/
theorem solid_of_derives
    {levels : Nat}
    {tokens : List Token}
    {value : Datum}
    (derives : Derives levels tokens value) :
    Solid tokens := by
  cases derives with
  | run denotes =>
      rw [Solid, List.forall_mem_singleton]
      exact noWhiteSpace_of_denotes denotes
  | list elements =>
      have closing : Solid [.closing] := by
        rw [Solid, List.forall_mem_singleton]
        decide
      exact List.forall_mem_cons.mpr ⟨by decide,
        List.forall_mem_append.mpr ⟨solid_of_derivesAll elements, closing⟩⟩
  | quoted quoted =>
      exact List.forall_mem_cons.mpr ⟨by decide, solid_of_derives quoted⟩

theorem solid_of_derivesAll
    {levels : Nat}
    {tokens : List Token}
    {values : List Datum}
    (derives : DerivesAll levels tokens values) :
    Solid tokens := by
  cases derives with
  | nil => exact List.forall_mem_nil _
  | cons first others =>
      exact List.forall_mem_append.mpr
        ⟨solid_of_derives first, solid_of_derivesAll others⟩

end

section Tokens

variable {text : List Char} {tokens : List Token} {character : Char}

/-- White space before the first token is dropped. -/
theorem tokenizes_of_cons_white
    (white : Unicode.isWhiteSpace character = true)
    (solid : Solid tokens)
    (tokenizes : Tokenizes (character :: text) tokens) :
    Tokenizes text tokens := by
  generalize whole : character :: text = source at tokenizes
  cases tokenizes with
  | done => cases whole
  | blank _ others =>
      obtain ⟨rfl, rfl⟩ := List.cons.inj whole
      exact others
  | comment _ _ _ =>
      obtain ⟨rfl, _⟩ := List.cons.inj whole
      exact absurd white (by decide)
  | @token token _ _ before _ =>
      have here := (List.forall_mem_cons.mp solid).1
      obtain ⟨start, more, spelled⟩ :=
        List.exists_cons_of_ne_nil (spelling_ne_nil before)
      rw [spelled] at whole here
      obtain ⟨rfl, _⟩ := List.cons.inj whole
      rw [here character List.mem_cons_self] at white
      cases white

theorem tokenizes_dropWhile
    (solid : Solid tokens)
    (tokenizes : Tokenizes text tokens) :
    Tokenizes (text.dropWhile Unicode.isWhiteSpace) tokens := by
  induction text with
  | nil => exact tokenizes
  | cons character text inductionHypothesis =>
      rw [List.dropWhile_cons]
      split
      · next white =>
          exact inductionHypothesis (tokenizes_of_cons_white white solid tokenizes)
      · exact tokenizes

/-- A comment that is ended in front of a text is ended without its last character as
well, unless the line end is cut. -/
theorem endsComment_of_append_singleton
    (noReturn : '\r' ∉ text)
    (ended : EndsComment (text ++ [character])) :
    EndsComment text := by
  match text with
  | [] => exact .inl rfl
  | first :: others =>
      obtain nothing | ⟨rest, line⟩ | ⟨rest, line⟩ := ended
      · cases nothing
      · obtain ⟨rfl, _⟩ := List.cons.inj line
        exact .inr (.inl ⟨others, rfl⟩)
      · obtain ⟨rfl, _⟩ := List.cons.inj line
        exact absurd List.mem_cons_self noReturn

/-- A token that may stand before a text may stand before it without its last
character. -/
theorem before_of_append_singleton
    {token : Token}
    (before : token.Before (text ++ [character])) :
    token.Before text := by
  cases token with
  | run characters =>
      obtain ⟨nonempty, undelimited, delimited⟩ := before
      refine ⟨nonempty, undelimited, ?_⟩
      cases text with
      | nil => rfl
      | cons _ _ => exact delimited
  | opening | closing | quoteMark => trivial

/-- The last character is that of the second of two parts, unless there is none. -/
theorem append_singleton_eq_append
    {first second : List Char}
    (same : text ++ [character] = first ++ second) :
    (first = text ++ [character] ∧ second = []) ∨
      ∃ rest, text = first ++ rest ∧ second = rest ++ [character] := by
  obtain rfl | ⟨rest, last, rfl⟩ := List.eq_nil_or_concat' second
  · rw [List.append_nil] at same
    exact .inl ⟨same.symm, rfl⟩
  · rw [← List.append_assoc] at same
    obtain ⟨before, here⟩ := List.append_inj' same rfl
    exact .inr ⟨rest, before, by rw [here]⟩

/-- White space after the last token is dropped or ends a comment. -/
theorem tokenizes_of_append_white
    (noReturn : '\r' ∉ text)
    (white : Unicode.isWhiteSpace character = true)
    (solid : Solid tokens)
    (tokenizes : Tokenizes (text ++ [character]) tokens) :
    Tokenizes text tokens := by
  generalize whole : text ++ [character] = source at tokenizes
  induction tokenizes generalizing text with
  | done => simp at whole
  | @blank blank after _ isBlank others inductionHypothesis =>
      change text ++ [character] = [blank] ++ after at whole
      obtain ⟨only, rfl⟩ | ⟨rest, rfl, rfl⟩ := append_singleton_eq_append whole
      · obtain rfl : text = [] := by simpa using congrArg List.length only
        exact others
      · rw [List.mem_append, not_or] at noReturn
        exact .blank isBlank (inductionHypothesis noReturn.2 solid rfl)
  | @comment line after _ inside ended others inductionHypothesis =>
      rw [← List.cons_append] at whole
      obtain ⟨only, rfl⟩ | ⟨rest, rfl, rfl⟩ := append_singleton_eq_append whole
      · match text with
        | [] =>
            obtain ⟨rfl, _⟩ := List.cons.inj only
            exact absurd white (by decide)
        | first :: text =>
            obtain ⟨rfl, rfl⟩ := List.cons.inj only
            have shorter := (List.forall_mem_append.mp inside).1
            have comment := Tokenizes.comment shorter (.inl rfl) others
            rwa [List.append_nil] at comment
      · rw [List.mem_append, not_or] at noReturn
        exact .comment inside (endsComment_of_append_singleton noReturn.2 ended)
          (inductionHypothesis noReturn.2 solid rfl)
  | @token token after _ before others inductionHypothesis =>
      obtain ⟨here, solid⟩ := List.forall_mem_cons.mp solid
      obtain ⟨only, rfl⟩ | ⟨rest, rfl, rfl⟩ := append_singleton_eq_append whole
      · rw [only] at here
        rw [here character (by simp)] at white
        cases white
      · rw [List.mem_append, not_or] at noReturn
        exact .token (before_of_append_singleton before)
          (inductionHypothesis noReturn.2 solid rfl)

theorem tokenizes_rdropWhile
    (noReturn : '\r' ∉ text)
    (solid : Solid tokens)
    (tokenizes : Tokenizes text tokens) :
    Tokenizes (text.rdropWhile Unicode.isWhiteSpace) tokens := by
  induction text using List.reverseRecOn with
  | nil => exact tokenizes
  | append_singleton text character inductionHypothesis =>
      rw [List.rdropWhile_concat]
      split
      · next white =>
          rw [List.mem_append, not_or] at noReturn
          exact inductionHypothesis noReturn.1
            (tokenizes_of_append_white noReturn.1 white solid tokenizes)
      · exact tokenizes

/-- Without the white space around it, a text is cut into the same tokens. -/
theorem tokenizes_trim
    (noReturn : '\r' ∉ text)
    (solid : Solid tokens)
    (tokenizes : Tokenizes text tokens) :
    Tokenizes (Unicode.trim text) tokens := by
  have noReturnLeft : '\r' ∉ text.dropWhile Unicode.isWhiteSpace :=
    fun member => noReturn ((List.dropWhile_sublist _).mem member)
  exact tokenizes_rdropWhile noReturnLeft solid (tokenizes_dropWhile solid tokenizes)

end Tokens

end Reader

/-- A text without carriage returns that can be read is read as the same data without
the white space around it. -/
theorem readProgram_trim
    {text : List Char}
    {data : List Datum}
    (noReturn : '\r' ∉ text)
    (read : readProgram text = .ok data) :
    readProgram (Unicode.trim text) = .ok data := by
  rw [readProgram_eq_ok_iff_derivesAll] at read ⊢
  obtain ⟨tokens, tokenizes, derives⟩ := read
  exact ⟨tokens, Reader.tokenizes_trim noReturn (Reader.solid_of_derivesAll derives)
    tokenizes, derives⟩

end SExpr
