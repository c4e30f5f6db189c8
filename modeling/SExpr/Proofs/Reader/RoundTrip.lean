import SExpr.Proofs.Reader.Data
import SExpr.Proofs.Reader.Leaves

/-!
# Reading printed data

The printed form of a datum is read back with the levels that the datum has, and
with fewer levels reading fails as too deeply nested. The induction is on the
datum and says what is read in front of every text that starts with a
delimiter, as the elements of a list are read in front of each other.
-/

namespace SExpr
namespace Reader

/-! ## One datum, one list -/

/-- What reading a printed datum with a number of levels leads to. -/
structure ReadsBack
    (levels : Nat)
    (value : Datum)
    (rest : List Char) : Prop where
  taken : value.nesting ≤ levels ->
    (datum levels).run (value.writtenBefore rest) = .taken value.reread rest
  tooDeep : levels < value.nesting -> ∃ place,
    (datum levels).run (value.writtenBefore rest) =
      .failed ⟨.nestingTooDeep, place⟩

/-- What reading the elements of a printed list with a number of levels leads
to, from a text in which they stand. -/
structure AllReadBack
    (levels : Nat)
    (items : List Datum)
    (text rest : List Char) : Prop where
  taken : Datum.nestingOfAll items ≤ levels ->
    (datum levels).many text = .ok (Datum.rereadAll items, ')' :: rest)
  tooDeep : levels < Datum.nestingOfAll items -> ∃ place,
    (datum levels).many text = .error ⟨.nestingTooDeep, place⟩

/-- An atom that is read from its printed form is read with any levels. -/
theorem readsBack_of_readAtom
    {value : Datum}
    {rest : List Char}
    (flat : value.nesting = 0)
    (taken : readAtom value.written = .taken value.reread [])
    (delimited : startsDelimiter rest = true)
    (levels : Nat) :
    ReadsBack levels value rest where
  taken _ := by
    have undelimited := startsDelimiter_append_of_not
      (startsDelimiter_eq_false_of_readAtom taken) rest
    rw [Datum.writtenBefore_eq_append, datum_run_of_not_delimited undelimited,
      readAtom_append_delimited delimited, taken]
    rfl
  tooDeep deep := by
    rw [flat] at deep
    exact absurd deep (Nat.not_lt_zero levels)

/-- A printed list starts with its parenthesis. -/
theorem exists_writtenBefore_list
    (items : List Datum)
    (rest : List Char) :
    ∃ text, (Datum.list items).writtenBefore rest = '(' :: text := by
  cases items with
  | nil => exact ⟨')' :: rest, by rw [Datum.writtenBefore]⟩
  | cons first others =>
      exact ⟨first.writtenBefore (Datum.othersBefore others rest),
        by rw [Datum.writtenBefore]⟩

/-- No printed list is read without a level. -/
theorem readsBack_list_zero
    (items : List Datum)
    (rest : List Char) :
    ReadsBack 0 (.list items) rest where
  taken shallow := by
    rw [Datum.nesting_list] at shallow
    omega
  tooDeep _ := by
    obtain ⟨text, written⟩ := exists_writtenBefore_list items rest
    rw [written]
    exact ⟨text, rfl⟩

/-- A printed list is read with a level more than its elements. -/
theorem readsBack_list
    {levels : Nat}
    {items : List Datum}
    {text rest : List Char}
    (written : (Datum.list items).writtenBefore rest = '(' :: text)
    (elements : AllReadBack levels items text rest) :
    ReadsBack (levels + 1) (.list items) rest where
  taken shallow := by
    rw [Datum.nesting_list, Nat.add_le_add_iff_right] at shallow
    rw [written, Datum.reread_list]
    exact datum_run_list (elements.taken shallow)
  tooDeep deep := by
    rw [Datum.nesting_list, Nat.add_lt_add_iff_right] at deep
    obtain ⟨place, failed⟩ := elements.tooDeep deep
    rw [written]
    exact ⟨place, datum_run_list_of_failed failed⟩

/-- The first element of a printed list is read before the others. -/
theorem allReadBack_cons
    {levels : Nat}
    {item : Datum}
    {items : List Datum}
    {text between rest : List Char}
    (start : skip text = item.writtenBefore between)
    (first : ReadsBack levels item between)
    (others : AllReadBack levels items between rest) :
    AllReadBack levels (item :: items) text rest where
  taken shallow := by
    rw [Datum.nestingOfAll_cons, Nat.max_le] at shallow
    have read := first.taken shallow.1
    rw [← start] at read
    rw [many_of_taken read, others.taken shallow.2]
    rfl
  tooDeep deep := by
    rw [Datum.nestingOfAll_cons] at deep
    by_cases firstDeep : levels < item.nesting
    · obtain ⟨place, failed⟩ := first.tooDeep firstDeep
      rw [← start] at failed
      exact ⟨place, many_of_failed failed⟩
    · have read := first.taken (Nat.le_of_not_lt firstDeep)
      obtain ⟨place, failed⟩ := others.tooDeep (by omega)
      rw [← start] at read
      refine ⟨place, ?_⟩
      rw [many_of_taken read, failed]
      rfl

/-- There are no more elements at a closing parenthesis. -/
theorem allReadBack_nil
    (levels : Nat)
    (rest : List Char) :
    AllReadBack levels [] (')' :: rest) rest where
  taken _ := many_closing levels rest
  tooDeep deep := absurd deep (Nat.not_lt_zero levels)

/-! ## All data -/

theorem namesReadable_of_mem
    {item : Datum}
    {items : List Datum}
    (readable : NamesReadable (.list items))
    (member : item ∈ items) :
    NamesReadable item := by
  intro name leaf
  apply readable name
  rw [Datum.leaves_list, Datum.mem_leavesOfAll_iff]
  exact ⟨item, member, leaf⟩

/-- No printed datum starts with trivia. -/
theorem skip_writtenBefore
    {value : Datum}
    (readable : NamesReadable value)
    (rest : List Char) :
    skip (value.writtenBefore rest) = value.writtenBefore rest := by
  cases elements : value.asList? with
  | none =>
      rw [Datum.writtenBefore_eq_append]
      have taken := readAtom_written elements readable
      have undelimited := startsDelimiter_eq_false_of_readAtom taken
      exact skip_of_not_delimited
        (startsDelimiter_append_of_not undelimited rest)
  | some items =>
      match value, elements with
      | .list items, _ =>
          obtain ⟨text, written⟩ := exists_writtenBefore_list items rest
          rw [written]
          exact skip_cons (by decide) (by decide) text

/-- What stands after an element of a printed list starts with a delimiter. -/
theorem startsDelimiter_othersBefore
    (items : List Datum)
    (rest : List Char) :
    startsDelimiter (Datum.othersBefore items rest) = true := by
  cases items with
  | nil => rfl
  | cons item items => rfl

theorem skip_othersBefore_cons
    {item : Datum}
    (readable : NamesReadable item)
    (items : List Datum)
    (rest : List Char) :
    skip (Datum.othersBefore (item :: items) rest) =
      item.writtenBefore (Datum.othersBefore items rest) := by
  rw [Datum.othersBefore, skip, if_pos (by decide),
    skip_writtenBefore readable]

mutual

/-- A printed datum is read back in front of every delimiter with the levels that
it has, and with no fewer. -/
theorem readsBack : (value : Datum) -> NamesReadable value ->
    (levels : Nat) -> {rest : List Char} -> startsDelimiter rest = true ->
    ReadsBack levels value rest
  | .symbol name, readable, levels, _, delimited =>
      readsBack_of_readAtom rfl (readAtom_written rfl readable) delimited levels
  | .integer value, readable, levels, _, delimited =>
      readsBack_of_readAtom rfl (readAtom_written rfl readable) delimited levels
  | .float value, readable, levels, _, delimited =>
      readsBack_of_readAtom rfl (readAtom_written rfl readable) delimited levels
  | .boolean value, readable, levels, _, delimited =>
      readsBack_of_readAtom rfl (readAtom_written rfl readable) delimited levels
  | .list items, _, 0, rest, _ => readsBack_list_zero items rest
  | .list [], _, levels + 1, rest, _ =>
      readsBack_list (by rw [Datum.writtenBefore]) (allReadBack_nil levels rest)
  | .list (first :: others), readable, levels + 1, rest, _ => by
      -- No blank stands before the first element, so the statement about all
      -- elements is used for the others only.
      have firstReadable := namesReadable_of_mem readable List.mem_cons_self
      have start := skip_writtenBefore firstReadable
        (Datum.othersBefore others rest)
      refine readsBack_list (by rw [Datum.writtenBefore]) ?_
      refine allReadBack_cons start ?_ ?_
      · exact readsBack first firstReadable levels
          (startsDelimiter_othersBefore others rest)
      · exact allReadBack others
          (fun item member =>
            namesReadable_of_mem readable (List.mem_cons_of_mem first member))
          levels rest

/-- The printed elements of a list are read back up to the closing parenthesis
with the levels that the deepest one has, and with no fewer. -/
theorem allReadBack : (items : List Datum) ->
    (∀ item ∈ items, NamesReadable item) -> (levels : Nat) ->
    (rest : List Char) ->
    AllReadBack levels items (Datum.othersBefore items rest) rest
  | [], _, levels, rest => allReadBack_nil levels rest
  | item :: items, readable, levels, rest => by
      have firstReadable := readable item List.mem_cons_self
      refine allReadBack_cons (skip_othersBefore_cons firstReadable items rest)
        ?_ ?_
      · exact readsBack item firstReadable levels
          (startsDelimiter_othersBefore items rest)
      · exact allReadBack items
          (fun other member => readable other (List.mem_cons_of_mem item member))
          levels rest

end

end Reader

/-- A printed datum is read as what it denotes if it is not too deeply nested. -/
theorem readSingle_eq_reread
    {value : Datum}
    (readable : Reader.NamesReadable value) :
    readSingle value.written =
      if value.nesting ≤ maxNesting then .ok value.reread
      else .error .nestingTooDeep := by
  have reads : Reader.ReadsBack maxNesting value [] :=
    Reader.readsBack value readable maxNesting rfl
  have start := Reader.skip_writtenBefore readable []
  split_ifs with shallow
  · have taken := reads.taken shallow
    rw [← start] at taken
    exact readSingle_of_taken taken
  · obtain ⟨place, failed⟩ := reads.tooDeep (Nat.lt_of_not_le shallow)
    rw [← start] at failed
    exact readSingle_of_failed failed

/-- A text is read as the symbol of that name exactly when the reader of atoms
takes all of it as that symbol. -/
theorem readSingle_name_iff (name : String) :
    readSingle name.toList = .ok (.symbol name) ↔ Reader.IsName name := by
  rw [← Reader.namesReadable_symbol_iff]
  constructor
  · intro read
    have program := readProgram_of_readSingle read
    exact namesReadable_of_readProgram program _ List.mem_cons_self
  · intro readable
    have read := readSingle_eq_reread readable
    rw [Datum.written, Datum.writtenBefore, List.append_nil] at read
    exact read

/-- Reading undoes printing up to the nesting limit, and past it reading fails
for that reason: for every datum whose floats are finite and whose symbols have
names that are read as those symbols. -/
theorem readSingle_written
    {value : Datum}
    (names : ∀ name, .symbol name ∈ value.leaves ->
      readSingle name.toList = .ok (.symbol name))
    (floats : value.FloatsFinite) :
    readSingle value.written =
      if value.nesting ≤ maxNesting then .ok value
      else .error .nestingTooDeep := by
  have readable : Reader.NamesReadable value := by
    intro name member
    exact (readSingle_name_iff name).mp (names name member)
  rw [readSingle_eq_reread readable, (Datum.reread_eq_iff value).mpr floats]

/-- The magnitude of one half. -/
def Magnitude.half : Magnitude :=
  ⟨Nat.pow 2 52, 1021, by decide, .inr (by decide), by decide⟩

/-- A list with an element of every kind. -/
def Datum.everyKind : Datum :=
  .list [.symbol "f", .integer (-12), .float (.finite true .half), .boolean true,
    .list []]

/-- The list is read back, also at the limit of nesting, and one level past the
limit it is not. -/
theorem readSingle_everyKind :
    Datum.everyKind.written = "(f -12 -0.5 #t ())".toList ∧
      readSingle Datum.everyKind.written = .ok Datum.everyKind ∧
      readSingle (Datum.everyKind.inLists 126).written =
        .ok (Datum.everyKind.inLists 126) ∧
      readSingle (Datum.everyKind.inLists 127).written =
        .error .nestingTooDeep := by
  have leaves : Datum.everyKind.leaves =
      [.symbol "f", .integer (-12), .float (.finite true .half),
        .boolean true] := by
    decide
  have names (count : Nat) (name : String)
      (member : .symbol name ∈ (Datum.everyKind.inLists count).leaves) :
      readSingle name.toList = .ok (.symbol name) := by
    rw [Datum.leaves_inLists, leaves] at member
    obtain rfl : name = "f" := by simpa using member
    exact (readSingle_name_iff "f").mpr (by decide)
  have floats (count : Nat) : (Datum.everyKind.inLists count).FloatsFinite := by
    intro number member
    rw [Datum.leaves_inLists, leaves] at member
    obtain rfl : number = .finite true .half := by simpa using member
    exact trivial
  have nesting : Datum.everyKind.nesting = 2 := by decide
  have reads (count : Nat) :
      readSingle (Datum.everyKind.inLists count).written =
        if (Datum.everyKind.inLists count).nesting ≤ maxNesting then
          .ok (Datum.everyKind.inLists count)
        else .error .nestingTooDeep :=
    readSingle_written (names count) (floats count)
  simp only [Datum.nesting_inLists, nesting] at reads
  exact ⟨by decide +kernel, reads 0, reads 126, reads 127⟩

end SExpr
