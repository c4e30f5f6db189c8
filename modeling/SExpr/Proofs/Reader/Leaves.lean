import SExpr.Proofs.Reader.Data
import SExpr.Proofs.Reader.PrintedAtom

/-!
# Leaves that are read

The leaves of a datum that is read are leaves of the atoms that are read for it,
or the symbol that a quote mark stands for. A property that these have is thus a
property of every leaf. Two such properties are that the name of a symbol is
read as that symbol on its own, and that a float is a number.
-/

namespace SExpr
namespace Reader

/-- A property of each value that a reader takes is a property of all values that
its repetition takes. -/
theorem forall_mem_of_many
    {reader : Reader α}
    {property : α -> Prop}
    (each : ∀ {text value rest},
      reader.run text = .taken value rest -> property value)
    {text : List Char}
    {values : List α}
    {rest : List Char}
    (read : reader.many text = .ok (values, rest)) :
    ∀ value ∈ values, property value := by
  refine many_induction
    (motive := fun _ values _ => ∀ value ∈ values, property value) ?_ ?_ read
  · simp
  · intro text value after values rest taken others
    exact List.forall_mem_cons.mpr ⟨each taken, others⟩

/-! ## From atoms to data -/

section Leaves

/-- A reader of data whose leaves have a property. -/
def TakesLeaves
    (property : Datum -> Prop)
    (reader : Reader Datum) : Prop :=
  ∀ {text value rest}, reader.run text = .taken value rest ->
    ∀ leaf ∈ value.leaves, property leaf

variable {property : Datum -> Prop} {element : Reader Datum}
variable {text rest : List Char} {value : Datum}

theorem leaves_of_readElements
    (each : TakesLeaves property element)
    (taken : readElements element text = .taken value rest) :
    ∀ leaf ∈ value.leaves, property leaf := by
  unfold readElements at taken
  split at taken
  · cases taken
  · next items after read =>
      split at taken
      · cases taken
        intro leaf member
        rw [Datum.leaves_list, Datum.mem_leavesOfAll_iff] at member
        obtain ⟨item, inItems, inItem⟩ := member
        exact forall_mem_of_many each read item inItems leaf inItem
      · cases taken

theorem leaves_of_readQuoted
    (quote : property Form.quote.head)
    (each : TakesLeaves property element)
    (taken : readQuoted element text = .taken value rest) :
    ∀ leaf ∈ value.leaves, property leaf := by
  unfold readQuoted at taken
  split at taken
  · next quoted after read =>
      cases taken
      have keyword : Form.quote.head.leaves = [Form.quote.head] := rfl
      intro leaf member
      simp only [Datum.quoted, Datum.leaves_list, Datum.leavesOfAll_cons,
        Datum.leavesOfAll_nil, keyword, List.append_nil, List.cons_append,
        List.nil_append, List.mem_cons] at member
      obtain rfl | inQuoted := member
      · exact quote
      · exact each read leaf inQuoted
  · exact each taken

/-- One level more adds no leaves but those of atoms and quote marks. -/
theorem takesLeaves_node
    {inner : Option (Reader Datum)}
    (atoms : TakesLeaves property atom)
    (quote : property Form.quote.head)
    (each : ∀ element ∈ inner, TakesLeaves property element) :
    TakesLeaves property (node inner) := by
  intro text value rest taken
  change readNode inner text = .taken value rest at taken
  unfold readNode at taken
  split at taken
  · cases taken
  · exact leaves_of_readElements (each _ rfl)
      ((refuseAt_eq_taken_iff ..).mp taken)
  · cases taken
  · exact leaves_of_readQuoted quote (each _ rfl)
      ((refuseAt_eq_taken_iff ..).mp taken)
  · exact atoms taken

theorem takesLeaves_datum
    (atoms : TakesLeaves property atom)
    (quote : property Form.quote.head)
    (levels : Nat) :
    TakesLeaves property (datum levels) :=
  datum_induction (motive := TakesLeaves property)
    (takesLeaves_node atoms quote) levels

end Leaves
end Reader

/-- A property of the leaves of atoms that are read, and of the symbol that a
quote mark stands for, is one of all leaves that are read from a source. -/
theorem leaves_of_readProgram
    {property : Datum -> Prop}
    (atoms : Reader.TakesLeaves property Reader.atom)
    (quote : property Form.quote.head)
    {source : List Char}
    {data : List Datum}
    (read : readProgram source = .ok data) :
    ∀ value ∈ data, ∀ leaf ∈ value.leaves, property leaf := by
  unfold readProgram at read
  split at read
  · cases read
  · next all =>
      split at read
      · cases read
        exact Reader.forall_mem_of_many
          (Reader.takesLeaves_datum atoms quote maxNesting) all
      · cases read

/-! ## The leaves of atoms -/

namespace Reader

/-- A leaf of an atom that is read is the atom itself. -/
theorem eq_of_mem_leaves_of_readAtom
    {text rest : List Char}
    {value leaf : Datum}
    (taken : readAtom text = .taken value rest)
    (member : leaf ∈ value.leaves) :
    leaf = value := by
  have isAtom := isAtom_of_readAtom taken
  match value with
  | .symbol name => exact List.mem_singleton.mp member
  | .integer number => exact List.mem_singleton.mp member
  | .float number => exact List.mem_singleton.mp member
  | .boolean truth => exact List.mem_singleton.mp member
  | .list [] => cases member
  | .list (_ :: _) => cases isAtom

/-- The one name in a symbol is its own. -/
theorem namesReadable_symbol_iff (name : String) :
    NamesReadable (.symbol name) ↔ IsName name := by
  simp [NamesReadable]

end Reader

/-- The names in all data of a source are read as symbols. -/
theorem namesReadable_of_readProgram
    {source : List Char}
    {data : List Datum}
    (read : readProgram source = .ok data) :
    ∀ value ∈ data, Reader.NamesReadable value := by
  have atoms : Reader.TakesLeaves
      (fun leaf => ∀ name, leaf = .symbol name -> Reader.IsName name)
      Reader.atom := by
    intro text value rest taken leaf member name symbol
    obtain rfl := Reader.eq_of_mem_leaves_of_readAtom taken member
    subst symbol
    exact Reader.isName_of_readAtom taken
  have quote (name : String) (symbol : Form.quote.head = .symbol name) :
      Reader.IsName name := by
    obtain rfl := Datum.symbol.inj symbol
    decide
  intro value member name inLeaves
  exact leaves_of_readProgram atoms quote read value member _ inLeaves name rfl

/-- No float in the data of a source is not-a-number. -/
theorem nan_not_mem_leaves_of_readProgram
    {source : List Char}
    {data : List Datum}
    (read : readProgram source = .ok data) :
    ∀ value ∈ data, .float .nan ∉ value.leaves := by
  have atoms : Reader.TakesLeaves (fun leaf => leaf ≠ .float .nan)
      Reader.atom := by
    intro text value rest taken leaf member
    obtain rfl := Reader.eq_of_mem_leaves_of_readAtom taken member
    exact Reader.ne_nan_of_readAtom taken
  have quote : Form.quote.head ≠ .float .nan := by
    simp [Form.head]
  intro value member inLeaves
  exact leaves_of_readProgram atoms quote read value member _ inLeaves rfl

end SExpr
