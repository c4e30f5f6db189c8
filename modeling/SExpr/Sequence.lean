import SExpr.Error

/-!
# Sequences

Operations on sequences of anything, and the numbering of list data: every item
gets its position, counted from zero, in front of it.
-/

namespace SExpr
namespace Sequence

/-- Every item with its position. -/
def numbered (items : List α) : List (Nat × α) :=
  items.zipIdx.map Prod.swap

@[simp] theorem length_numbered (items : List α) :
    (numbered items).length = items.length := by
  simp [numbered]

/-- Numbering keeps the items and their order. -/
@[simp] theorem map_snd_numbered (items : List α) :
    (numbered items).map Prod.snd = items := by
  simp [numbered, Function.comp_def]

/-- Every sequence with the same value in front of it. -/
def consAll
    (value : α)
    (sequences : List (List α)) : List (List α) :=
  sequences.map fun sequence => value :: sequence

@[simp] theorem consAll_nil (value : α) : consAll value [] = [] := rfl

@[simp] theorem consAll_cons
    (value : α)
    (sequence : List α)
    (sequences : List (List α)) :
    consAll value (sequence :: sequences) =
      (value :: sequence) :: consAll value sequences := rfl

/-- The first and the second components of a sequence of pairs. -/
def split (pairs : List (α × β)) : List α × List β :=
  (pairs.map Prod.fst, pairs.map Prod.snd)

/-- Transform items in order up to the first failure, and count how many items
were transformed or tried. -/
def mapCounting
    (transform : α -> Except ε β) : List α -> Except ε (List β) × Nat
  | [] => (.ok [], 0)
  | item :: items =>
      match transform item with
      | .error failure => (.error failure, 1)
      | .ok value =>
          let others := mapCounting transform items
          (others.1.map fun values => value :: values, others.2 + 1)

/-- Apart from the count this is the transformation of all items in order. -/
theorem mapCounting_fst
    (transform : α -> Except ε β)
    (items : List α) :
    (mapCounting transform items).1 = items.mapM transform := by
  induction items with
  | nil => rfl
  | cons item items inductionHypothesis =>
      rw [List.mapM_cons, ← inductionHypothesis, mapCounting]
      cases transform item with
      | error failure => rfl
      | ok value =>
          change (mapCounting transform items).1.map _ = _
          cases (mapCounting transform items).1 <;> rfl

end Sequence

namespace Datum

/-- The list of the two-element lists of position and element of a list. -/
def enumerate : Datum -> Except Error Datum
  | .list items =>
      .ok (.list ((Sequence.numbered items).map fun (position, item) =>
        .list [.integer (Int64.ofNat position), item]))
  | other => .error (.kindMismatch .list other.kind)

@[simp] theorem enumerate_list_nil :
    (Datum.list []).enumerate = .ok (.list []) := rfl

end Datum
end SExpr
