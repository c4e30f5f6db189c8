import Mathlib.Logic.Relation
import SExpr.Proofs.Reader.Tokens

/-!
# Skipping

What is skipped at the start of a text are blanks and comments, one after the other, for
as long as the text starts with one. So the text that is left is the only one that can be
reached in this way and starts with neither, and from there nothing more is skipped.
-/

namespace SExpr
namespace Reader

open Relation (ReflTransGen)

/-- A text starts with a blank or a comment, and the other text comes after that. -/
inductive SkipsOne : List Char -> List Char -> Prop
  | blank
      {character : Char}
      (isBlank : isBlank character = true)
      (text : List Char) :
      SkipsOne (character :: text) text
  | comment
      {line text : List Char}
      (inside : ∀ character ∈ line, isLineEnd character = false)
      (ended : EndsComment text) :
      SkipsOne (';' :: (line ++ text)) text

/-- A text starts with any number of blanks and comments, and the other text comes after
those. -/
def Skips (text rest : List Char) : Prop :=
  ReflTransGen SkipsOne text rest

/-- A text starts with no blank and no comment. -/
def NothingToSkip (text : List Char) : Prop :=
  ∀ rest, ¬ SkipsOne text rest

section Skips

variable {text rest : List Char}

/-- A blank or a comment makes no difference to what is left. -/
theorem SkipsOne.skip_eq
    (one : SkipsOne text rest) :
    skip text = skip rest := by
  cases one with
  | blank isBlank => exact skip_blank isBlank rest
  | comment inside ended => exact skip_comment inside ended

theorem Skips.skip_eq
    (skips : Skips text rest) :
    skip text = skip rest := by
  induction skips with
  | refl => rfl
  | tail _ one inductionHypothesis => exact inductionHypothesis.trans one.skip_eq

/-- Only blanks and comments are skipped. -/
theorem skips_skip (text : List Char) : Skips text (skip text) := by
  fun_induction skip text with
  | case1 => exact .refl
  | case2 character rest blank inductionHypothesis =>
      exact .head (.blank blank rest) inductionHypothesis
  | case3 rest after found notBlank inductionHypothesis =>
      obtain ⟨line, rfl, inside, ended⟩ := exists_line_of_afterComment? found
      exact .head (.comment inside ended) inductionHypothesis
  | case4 => exact .refl
  | case5 => exact .refl

/-- Skipping goes on for as long as there is a blank or a comment. -/
theorem nothingToSkip_skip (text : List Char) : NothingToSkip (skip text) := by
  fun_induction skip text with
  | case1 =>
      rintro rest ⟨⟩
  | case2 character rest blank inductionHypothesis => exact inductionHypothesis
  | case3 rest after found notBlank inductionHypothesis => exact inductionHypothesis
  | case4 rest notFound notBlank =>
      intro after one
      cases one with
      | blank isBlank => exact notBlank isBlank
      | comment inside ended =>
          rw [afterComment?_append inside ended] at notFound
          cases notFound
  | case5 character rest notBlank notComment =>
      intro after one
      cases one with
      | blank isBlank => exact notBlank isBlank
      | comment inside ended => exact notComment rfl

theorem NothingToSkip.skip_eq
    (nothing : NothingToSkip text) :
    skip text = text := by
  obtain same | ⟨rest, one, _⟩ := (skips_skip text).cases_head
  · exact same.symm
  · exact absurd one (nothing rest)

/-- The text that is left is the one after all the blanks and comments that a text starts
with. -/
theorem skip_eq_iff :
    skip text = rest ↔ Skips text rest ∧ NothingToSkip rest := by
  constructor
  · rintro rfl
    exact ⟨skips_skip text, nothingToSkip_skip text⟩
  · rintro ⟨skips, nothing⟩
    rw [skips.skip_eq, nothing.skip_eq]

/-- There is nothing left to skip. -/
@[simp] theorem skip_skip (text : List Char) : skip (skip text) = skip text :=
  (nothingToSkip_skip text).skip_eq

/-- There is nothing in a text but blanks and comments when nothing is left of it. -/
theorem skips_nil_iff : Skips text [] ↔ skip text = [] := by
  rw [skip_eq_iff]
  refine ⟨fun skips => ⟨skips, ?_⟩, fun skips => skips.1⟩
  rintro rest ⟨⟩

end Skips
end Reader
end SExpr
