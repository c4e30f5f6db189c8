import SExpr.Datum.Equality
import SExpr.Proofs.Binary64.RoundTrip
import SExpr.Proofs.Datum.Leaves
import SExpr.Proofs.Reader.Delimited
import SExpr.Proofs.Reader.Spelling

/-!
# Reading printed atoms

The printed form of an atom is read to its end as what it denotes: an integer, a
finite float or a boolean as itself, a float that is not finite as a symbol. The
name of a symbol is read back as the symbol if the reader can produce it at all,
from whatever text.
-/

namespace SExpr
namespace Reader

/-! ## Names -/

/-- A name that is read as the symbol of that name. -/
def IsName (name : String) : Prop :=
  readAtom name.toList = .taken (.symbol name) []

instance : DecidablePred IsName := fun name =>
  inferInstanceAs
    (Decidable (readAtom name.toList = .taken (.symbol name) []))

/-- The name of every symbol that is read from a text is read as that symbol. -/
theorem isName_of_readAtom
    {text rest : List Char}
    {name : String}
    (taken : readAtom text = .taken (.symbol name) rest) :
    IsName name := by
  -- A delimiter follows the name, so without what follows it the same is read.
  have delimited := startsDelimiter_of_readAtom taken
  have alone := readAtom_append_delimited delimited name.toList
  rw [append_eq_of_readAtom_symbol taken, taken] at alone
  obtain ⟨left, reading, together⟩ := taken_of_before alone.symm
  rw [IsName, reading, List.append_left_eq_self.mp together]

/-! ## Numbers and booleans -/

/-- A written integer is read as it. -/
theorem readAtom_integer (value : Int64) :
    readAtom (Decimal.wholeNumber value.toInt) = .taken (.integer value) [] := by
  have token :
      integerToken? (Decimal.wholeNumber value.toInt) =
        some (value.toInt, []) := by
    rw [integerToken?, Numeral.integer?_wholeNumber]
    rfl
  have inRange : int64? value.toInt = some value :=
    (int64?_eq_some_iff value.toInt value).mpr rfl
  unfold readAtom
  simp only [token, inRange]

/-- A written finite float is read as it. -/
theorem readAtom_float
    {number : Binary64}
    (finite : number.IsFinite) :
    readAtom number.written = .taken (.float number) [] := by
  obtain ⟨⟨numeral, scanned, value⟩, ⟨integer, mark, rest, found, marked⟩⟩ :=
    Binary64.scan_written finite
  have noToken : integerToken? number.written = none := by
    rw [integerToken?, found]
    obtain rfl | rfl := marked <;> rfl
  unfold readAtom
  simp only [noToken, scanned, value]
  rfl

/-- A written float that is not finite is read as a symbol. -/
theorem isName_of_not_isFinite
    {number : Binary64}
    (notFinite : ¬ number.IsFinite) :
    IsName (String.ofList number.written) := by
  match number with
  | .nan => decide
  | .infinite true => decide
  | .infinite false => decide
  | .finite _ _ => exact absurd trivial notFinite

/-- The names of all symbols in a datum are read as those symbols. -/
def NamesReadable (datum : Datum) : Prop :=
  ∀ name, .symbol name ∈ datum.leaves -> IsName name

/-- A printed datum that is no list is read to its end as what it denotes. -/
theorem readAtom_written
    {value : Datum}
    (noList : value.asList? = none)
    (readable : NamesReadable value) :
    readAtom value.written = .taken value.reread [] := by
  match value, noList with
  | .symbol name, _ =>
      have isName : IsName name := readable name (by simp)
      rw [Datum.written, Datum.writtenBefore, List.append_nil]
      exact isName
  | .integer number, _ =>
      rw [Datum.written, Datum.writtenBefore, List.append_nil]
      exact readAtom_integer number
  | .float number, _ =>
      rw [Datum.written, Datum.writtenBefore, List.append_nil, Datum.reread]
      split
      · next finite => exact readAtom_float finite
      · next notFinite =>
          have isName := isName_of_not_isFinite notFinite
          rw [IsName, String.toList_ofList] at isName
          exact isName
  | .boolean true, _ => rfl
  | .boolean false, _ => rfl

end Reader
end SExpr
