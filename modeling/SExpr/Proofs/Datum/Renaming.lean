import Mathlib.Logic.Function.Basic
import SExpr.Datum.Basic

/-!
# Renaming symbols

A datum can have its symbols renamed, everything else in it being kept. A renaming that
keeps different names different keeps different data different.
-/

namespace SExpr
namespace Datum

mutual

/-- A datum with every symbol in it renamed. -/
def rename (names : String -> String) : Datum -> Datum
  | .symbol name => .symbol (names name)
  | .list items => .list (renameAll names items)
  | datum => datum

/-- Data with every symbol in them renamed. -/
def renameAll (names : String -> String) : List Datum -> List Datum
  | [] => []
  | item :: items => item.rename names :: renameAll names items

end

section

variable {names : String -> String}

theorem renameAll_eq_map (items : List Datum) :
    renameAll names items = items.map (rename names) := by
  induction items with
  | nil => rw [renameAll, List.map_nil]
  | cons item items inductionHypothesis =>
      rw [renameAll, inductionHypothesis, List.map_cons]

@[simp] theorem rename_symbol (name : String) :
    (Datum.symbol name).rename names = .symbol (names name) := rfl

@[simp] theorem rename_integer (value : Int64) :
    (Datum.integer value).rename names = .integer value := rfl

@[simp] theorem rename_float (value : Binary64) :
    (Datum.float value).rename names = .float value := rfl

@[simp] theorem rename_boolean (value : Bool) :
    (Datum.boolean value).rename names = .boolean value := rfl

@[simp] theorem rename_list (items : List Datum) :
    (Datum.list items).rename names = .list (items.map (rename names)) := by
  rw [rename, renameAll_eq_map]

/-- Atoms are renamed to atoms, and combinations to combinations. -/
theorem isAtom_rename (datum : Datum) :
    (datum.rename names).isAtom = datum.isAtom := by
  match datum with
  | .symbol _ | .integer _ | .float _ | .boolean _ | .list [] => rfl
  | .list (head :: operands) => rw [rename_list, List.map_cons]; rfl

mutual

/-- A renaming is undone by renaming back. -/
theorem rename_rename_of_leftInverse
    {back : String -> String}
    (inverse : Function.LeftInverse back names) : (datum : Datum) ->
    (datum.rename names).rename back = datum
  | .symbol name => congrArg Datum.symbol (inverse name)
  | .integer _ | .float _ | .boolean _ => rfl
  | .list items => by
      rw [rename, rename, renameAll_renameAll_of_leftInverse inverse items]

theorem renameAll_renameAll_of_leftInverse
    {back : String -> String}
    (inverse : Function.LeftInverse back names) : (items : List Datum) ->
    renameAll back (renameAll names items) = items
  | [] => rfl
  | item :: items => by
      rw [renameAll, renameAll, rename_rename_of_leftInverse inverse item,
        renameAll_renameAll_of_leftInverse inverse items]

end

/-- Different data are renamed to different data. -/
theorem rename_injective (injective : Function.Injective names) :
    Function.Injective (rename names) := by
  obtain ⟨back, inverse⟩ := injective.hasLeftInverse
  exact Function.LeftInverse.injective (rename_rename_of_leftInverse inverse)

end

end Datum
end SExpr
