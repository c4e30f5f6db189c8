import SExpr.Datum.Printer

/-!
# Nesting and leaves of data

The nesting of a datum is the largest number of lists around one place in it, an
empty list being one level. Its leaves are the data in it that are not lists.

Reading the printed form of a datum cannot give back a float that is not finite,
since such a float is printed as a word. `reread` is what the printed form
denotes instead.
-/

namespace SExpr
namespace Datum

mutual

/-- The levels of lists in a datum. -/
def nesting : Datum -> Nat
  | .list items => nestingOfAll items + 1
  | _ => 0

/-- The levels of lists in the deepest one of some data. -/
def nestingOfAll : List Datum -> Nat
  | [] => 0
  | item :: items => max item.nesting (nestingOfAll items)

end

@[simp] theorem nesting_list (items : List Datum) :
    (Datum.list items).nesting = nestingOfAll items + 1 := by
  rw [nesting]

@[simp] theorem nestingOfAll_nil : nestingOfAll [] = 0 := by
  rw [nestingOfAll]

@[simp] theorem nestingOfAll_cons
    (item : Datum)
    (items : List Datum) :
    nestingOfAll (item :: items) = max item.nesting (nestingOfAll items) := by
  rw [nestingOfAll]

mutual

/-- The data in a datum that are not lists, itself included. -/
def leaves : Datum -> List Datum
  | .list items => leavesOfAll items
  | datum => [datum]

/-- The data in some data that are not lists. -/
def leavesOfAll : List Datum -> List Datum
  | [] => []
  | item :: items => item.leaves ++ leavesOfAll items

end

@[simp] theorem leaves_symbol (name : String) :
    (Datum.symbol name).leaves = [.symbol name] := rfl

@[simp] theorem leaves_integer (value : Int64) :
    (Datum.integer value).leaves = [.integer value] := rfl

@[simp] theorem leaves_float (value : Binary64) :
    (Datum.float value).leaves = [.float value] := rfl

@[simp] theorem leaves_boolean (value : Bool) :
    (Datum.boolean value).leaves = [.boolean value] := rfl

@[simp] theorem leaves_list (items : List Datum) :
    (Datum.list items).leaves = leavesOfAll items := by
  rw [leaves]

@[simp] theorem leavesOfAll_nil : leavesOfAll [] = [] := by
  rw [leavesOfAll]

@[simp] theorem leavesOfAll_cons
    (item : Datum)
    (items : List Datum) :
    leavesOfAll (item :: items) = item.leaves ++ leavesOfAll items := by
  rw [leavesOfAll]

/-- The leaves of some data are those of each one. -/
theorem mem_leavesOfAll_iff
    {leaf : Datum}
    {items : List Datum} :
    leaf ∈ leavesOfAll items ↔ ∃ item ∈ items, leaf ∈ item.leaves := by
  induction items with
  | nil => simp
  | cons item items inductionHypothesis => simp [inductionHypothesis]

/-- A datum in a number of lists, one around the other. -/
def inLists
    (datum : Datum) : (count : Nat) -> Datum
  | 0 => datum
  | count + 1 => .list [datum.inLists count]

@[simp] theorem leaves_inLists
    (datum : Datum)
    (count : Nat) :
    (datum.inLists count).leaves = datum.leaves := by
  induction count with
  | zero => rfl
  | succ count inductionHypothesis =>
      rw [inLists, leaves_list, leavesOfAll_cons, leavesOfAll_nil,
        List.append_nil, inductionHypothesis]

@[simp] theorem nesting_inLists
    (datum : Datum)
    (count : Nat) :
    (datum.inLists count).nesting = datum.nesting + count := by
  induction count with
  | zero => rfl
  | succ count inductionHypothesis =>
      rw [inLists, nesting_list, nestingOfAll_cons, nestingOfAll_nil,
        Nat.max_zero, inductionHypothesis, Nat.add_assoc]

/-! ## What printed data denote -/

mutual

/-- The datum that the printed form of a datum denotes: a float that is not
finite is printed as a symbol. -/
def reread : Datum -> Datum
  | .float number =>
      if number.IsFinite then .float number
      else .symbol (String.ofList number.written)
  | .list items => .list (rereadAll items)
  | datum => datum

/-- The data that the printed forms of some data denote. -/
def rereadAll : List Datum -> List Datum
  | [] => []
  | item :: items => item.reread :: rereadAll items

end

@[simp] theorem reread_symbol (name : String) :
    (Datum.symbol name).reread = .symbol name := rfl

@[simp] theorem reread_integer (value : Int64) :
    (Datum.integer value).reread = .integer value := rfl

@[simp] theorem reread_boolean (value : Bool) :
    (Datum.boolean value).reread = .boolean value := rfl

@[simp] theorem reread_list (items : List Datum) :
    (Datum.list items).reread = .list (rereadAll items) := by
  rw [reread]

@[simp] theorem rereadAll_nil : rereadAll [] = [] := by
  rw [rereadAll]

@[simp] theorem rereadAll_cons
    (item : Datum)
    (items : List Datum) :
    rereadAll (item :: items) = item.reread :: rereadAll items := by
  rw [rereadAll]

theorem rereadAll_eq_map (items : List Datum) :
    rereadAll items = items.map reread := by
  induction items with
  | nil => rw [rereadAll_nil, List.map_nil]
  | cons item items inductionHypothesis =>
      rw [rereadAll_cons, inductionHypothesis, List.map_cons]

mutual

/-- What a printed datum denotes is printed as the datum is. -/
theorem writtenBefore_reread : (datum : Datum) -> (rest : List Char) ->
    datum.reread.writtenBefore rest = datum.writtenBefore rest
  | .symbol _, _ => rfl
  | .integer _, _ => rfl
  | .boolean _, _ => rfl
  | .float number, rest => by
      rw [reread]
      split
      · rfl
      · rw [writtenBefore, writtenBefore, String.toList_ofList]
  | .list [], _ => by rw [reread_list, rereadAll_nil]
  | .list (first :: others), rest => by
      rw [reread_list, rereadAll_cons, writtenBefore, writtenBefore,
        othersBefore_rereadAll others, writtenBefore_reread first]

theorem othersBefore_rereadAll : (items : List Datum) -> (rest : List Char) ->
    othersBefore (rereadAll items) rest = othersBefore items rest
  | [], _ => by rw [rereadAll_nil]
  | item :: items, rest => by
      rw [rereadAll_cons, othersBefore, othersBefore,
        othersBefore_rereadAll items, writtenBefore_reread item]

end

theorem written_reread (datum : Datum) :
    datum.reread.written = datum.written :=
  writtenBefore_reread datum []

/-- A float denotes itself exactly when it is finite. -/
theorem reread_float_eq_iff (number : Binary64) :
    (Datum.float number).reread = .float number ↔ number.IsFinite := by
  rw [reread]
  split <;> simp [*]

/-- A datum whose floats are all finite. -/
def FloatsFinite (datum : Datum) : Prop :=
  ∀ number, .float number ∈ datum.leaves -> number.IsFinite

mutual

/-- A printed datum denotes that datum exactly when its floats are finite. -/
theorem reread_eq_iff : (datum : Datum) ->
    (datum.reread = datum ↔ datum.FloatsFinite)
  | .symbol _ => by simp [FloatsFinite]
  | .integer _ => by simp [FloatsFinite]
  | .boolean _ => by simp [FloatsFinite]
  | .float number => by
      rw [reread_float_eq_iff]
      simp [FloatsFinite]
  | .list items => by
      rw [reread_list, Datum.list.injEq, rereadAll_eq_iff items]
      simp only [FloatsFinite, leaves_list, mem_leavesOfAll_iff]
      grind

/-- Printed data denote the same data exactly when the floats of each are
finite. -/
theorem rereadAll_eq_iff : (items : List Datum) ->
    (rereadAll items = items ↔ ∀ item ∈ items, item.FloatsFinite)
  | [] => by simp
  | item :: items => by
      rw [rereadAll_cons, List.cons.injEq, reread_eq_iff item,
        rereadAll_eq_iff items, List.forall_mem_cons]

end

end Datum
end SExpr
