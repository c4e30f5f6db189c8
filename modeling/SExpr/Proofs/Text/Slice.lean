import SExpr.Text.Utf8

/-!
# Slices of a text

A text can be cut at a place counted in bytes if no character is on both sides of it. A slice
is what is between two such places. It is the part of the text between a text of as many bytes
as there are before the first place and the rest, so a slice that there is never has a part of
a character.
-/

namespace SExpr
namespace Utf8

/-- The two parts of a text before and after a number of bytes, if these are all the bytes of
some characters at its start. -/
def cut? : List Char -> Nat -> Option (List Char × List Char)
  | text, 0 => some ([], text)
  | [], _ + 1 => none
  | character :: text, place + 1 =>
      if character.utf8Size ≤ place + 1 then
        (cut? text (place + 1 - character.utf8Size)).map fun (before, after) =>
          (character :: before, after)
      else
        none

/-- The part of a text from one place to another. -/
def slice?
    (text : List Char)
    (start stop : Nat) : Option (List Char) := do
  let (_, after) <- cut? text start
  if start ≤ stop then
    let (inside, _) <- cut? after (stop - start)
    return inside
  else
    none

/-- A text is cut after the characters that have as many bytes as there are before the
place. -/
theorem cut?_append (before after : List Char) :
    cut? (before ++ after) (byteLength before) = some (before, after) := by
  induction before with
  | nil => rw [byteLength, List.nil_append, cut?]
  | cons character before inductionHypothesis =>
      have positive := character.utf8Size_pos
      obtain ⟨place, size⟩ : ∃ place, byteLength (character :: before) = place + 1 :=
        Nat.exists_eq_add_one_of_ne_zero (by rw [byteLength]; omega)
      rw [byteLength] at size
      have following : place + 1 - character.utf8Size = byteLength before := by
        omega
      rw [byteLength, size, List.cons_append, cut?, if_pos (by omega), following,
        inductionHypothesis]
      rfl

/-- A text is cut nowhere else. -/
theorem eq_of_cut?
    {text before after : List Char}
    {place : Nat}
    (cut : cut? text place = some (before, after)) :
    before ++ after = text ∧ byteLength before = place := by
  fun_induction cut? text place generalizing before with
  | case1 text =>
      obtain ⟨rfl, rfl⟩ := Prod.mk.inj (Option.some.inj cut)
      exact ⟨rfl, rfl⟩
  | case2 => cases cut
  | case3 character text place fits inductionHypothesis =>
      obtain ⟨⟨others, rest⟩, found, same⟩ := Option.map_eq_some_iff.mp cut
      obtain ⟨rfl, rfl⟩ := Prod.mk.inj same
      obtain ⟨rfl, size⟩ := inductionHypothesis found
      refine ⟨rfl, ?_⟩
      rw [byteLength, size]
      omega
  | case4 => cases cut

/-- A slice is a part of the text with as many bytes before it as there are before the first
place, and as many in it as there are between the places. -/
theorem slice?_eq_some_iff
    (text inside : List Char)
    (start stop : Nat) :
    slice? text start stop = some inside ↔
      ∃ before after, before ++ (inside ++ after) = text ∧
        byteLength before = start ∧ start + byteLength inside = stop := by
  simp only [slice?, Option.bind_eq_bind, Option.bind_eq_some_iff]
  constructor
  · rintro ⟨⟨before, rest⟩, first, sliced⟩
    obtain ⟨rfl, rfl⟩ := eq_of_cut? first
    split at sliced
    · next ordered =>
        obtain ⟨⟨inside', after⟩, second, same⟩ := Option.bind_eq_some_iff.mp sliced
        obtain rfl : inside' = inside := Option.some.inj same
        obtain ⟨rfl, size⟩ := eq_of_cut? second
        exact ⟨before, after, rfl, rfl, by omega⟩
    · cases sliced
  · rintro ⟨before, after, rfl, rfl, rfl⟩
    refine ⟨_, cut?_append before (inside ++ after), ?_⟩
    simp only [Nat.le_add_right, if_true, Nat.add_sub_cancel_left, cut?_append]
    rfl

end Utf8
end SExpr
