import SExpr.Proofs.Numeral.Spelling
import SExpr.Proofs.Reader.Data

/-!
# Places in a text

Every place that reading names, where a value ends or where a fault is, is given by
the text from there on, and that is an end of the text that was read. So the number
of bytes before a place is a difference of lengths that does not stop at zero, and a
text in front of the source adds its own length to it.
-/

namespace SExpr

/-- The place that reading names: where the value ends or where the fault is. -/
def Reading.place : Reading α -> List Char
  | .taken _ rest => rest
  | .refused place => place
  | .failed failure => failure.place

namespace Reader

/-! ## Trivia and atoms -/

/-- What is not skipped is an end of the text. -/
theorem isSuffix_skip (text : List Char) : skip text <:+ text := by
  fun_induction skip text with
  | case1 => exact List.suffix_rfl
  | case2 character rest blank inductionHypothesis =>
      exact inductionHypothesis.trans (List.suffix_cons character rest)
  | case3 rest after found notBlank inductionHypothesis =>
      have inside : after <:+ rest := by
        unfold afterComment? at found
        have dropped :=
          rest.dropWhile_suffix fun character => !isLineEnd character
        split at found <;> simp_all
      exact inductionHypothesis.trans
        (inside.trans (List.suffix_cons _ rest))
  | case4 => exact List.suffix_rfl
  | case5 => exact List.suffix_rfl

theorem isSuffix_place_readWord (text : List Char) :
    (readWord text).place <:+ text := by
  have sign (letter : Char) (rest : List Char) :
      rest <:+ '#' :: letter :: rest :=
    (List.suffix_cons letter rest).trans (List.suffix_cons '#' _)
  unfold readWord
  split
  · exact List.suffix_rfl
  · split
    · exact sign 't' _
    · exact List.suffix_rfl
  · split
    · exact sign 'f' _
    · exact List.suffix_rfl
  · next initial text _ _ =>
      have after : text.dropWhile isSymbolSubsequent <:+ initial :: text :=
        (List.dropWhile_suffix _).trans (List.suffix_cons initial text)
      split
      · dsimp only
        split
        · exact after
        · exact after
      · exact List.suffix_rfl

theorem isSuffix_place_readAtom (text : List Char) :
    (readAtom text).place <:+ text := by
  unfold readAtom
  split
  · next value rest token =>
      split
      · obtain ⟨spelling, _, together⟩ :=
          Numeral.exists_integerSpelling (Option.filter_eq_some_iff.mp token).1
        exact ⟨spelling, together⟩
      · exact List.suffix_rfl
  · split
    · next scanned =>
        exact Numeral.isSuffix_of_place? (by rw [scanned]; rfl)
    · exact isSuffix_place_readWord text
    · next scanned =>
        split
        · exact Numeral.isSuffix_of_scan scanned
        · exact isSuffix_place_readWord text

/-- What an atom leaves is the end of the text. -/
theorem isSuffix_of_readAtom
    {text rest : List Char}
    {value : Datum}
    (taken : readAtom text = .taken value rest) :
    rest <:+ text := by
  have place := isSuffix_place_readAtom text
  rw [taken] at place
  exact place

/-! ## Data -/

/-- A reader whose places are ends of the text that it is given. -/
def KeepsPlace (reader : Reader α) : Prop :=
  ∀ text, (reader.run text).place <:+ text

section Repetition

variable {reader : Reader α} {text : List Char}

theorem KeepsPlace.of_run_skip
    (keeps : KeepsPlace reader)
    {reading : Reading α}
    (outcome : reader.run (skip text) = reading) :
    reading.place <:+ text := by
  rw [← outcome]
  exact (keeps (skip text)).trans (isSuffix_skip text)

/-- What repetition leaves is an end of the text. -/
theorem KeepsPlace.many
    (keeps : KeepsPlace reader)
    {values : List α}
    {rest : List Char}
    (read : reader.many text = .ok (values, rest)) :
    rest <:+ text := by
  refine many_induction
    (motive := fun text _ rest => rest <:+ text) ?_ ?_ read
  · intro text
    exact List.suffix_rfl
  · intro text value after values rest taken others
    exact others.trans (keeps.of_run_skip taken)

/-- A failure of repetition is at an end of the text. -/
theorem KeepsPlace.many_failed
    (keeps : KeepsPlace reader)
    {failure : Failure}
    (failed : reader.many text = .error failure) :
    failure.place <:+ text := by
  fun_induction Reader.many reader text with
  | case1 text value after taken inductionHypothesis =>
      refine (inductionHypothesis ?_).trans (keeps.of_run_skip taken)
      cases others : reader.many after with
      | error failure' =>
          rw [others] at failed
          exact failed
      | ok _ =>
          rw [others] at failed
          cases failed
  | case2 text place refused => cases failed
  | case3 text failure' outcome =>
      cases failed
      exact keeps.of_run_skip outcome

/-- What is left after the data of a text is an end of the text. -/
theorem KeepsPlace.all
    (keeps : KeepsPlace reader)
    {values : List α}
    {place : List Char}
    (read : reader.all text = .ok (values, place)) :
    place <:+ text := by
  obtain ⟨after, many, rfl⟩ := all_eq_ok_iff.mp read
  exact (isSuffix_skip after).trans (keeps.many many)

theorem KeepsPlace.all_failed
    (keeps : KeepsPlace reader)
    {failure : Failure}
    (failed : reader.all text = .error failure) :
    failure.place <:+ text :=
  keeps.many_failed (all_eq_error_iff.mp failed)

end Repetition

section Data

variable {element : Reader Datum}

theorem isSuffix_place_refuseAt
    {text : List Char}
    {reading : Reading Datum}
    (inside : reading.place <:+ text) :
    (refuseAt text reading).place <:+ text := by
  cases reading with
  | refused place => exact List.suffix_rfl
  | taken _ _ | failed _ => exact inside

theorem isSuffix_place_readElements
    (keeps : KeepsPlace element)
    (text : List Char) :
    (readElements element text).place <:+ text := by
  unfold readElements
  split
  · next failed => exact keeps.many_failed failed
  · next items after read =>
      have rest := (isSuffix_skip after).trans (keeps.many read)
      split
      · next closed =>
          rw [closed] at rest
          exact (List.suffix_cons _ _).trans rest
      · exact rest

theorem isSuffix_place_readQuoted
    (keeps : KeepsPlace element)
    (text : List Char) :
    (readQuoted element text).place <:+ text := by
  have place := keeps text
  unfold readQuoted
  split
  · next taken =>
      rw [taken] at place
      exact place
  · exact place

/-- A level more keeps the places. -/
theorem keepsPlace_node
    {inner : Option (Reader Datum)}
    (each : ∀ element ∈ inner, KeepsPlace element) :
    KeepsPlace (node inner) := by
  intro text
  change (readNode inner text).place <:+ text
  unfold readNode
  split
  · exact List.suffix_cons _ _
  · next rest element =>
      exact isSuffix_place_refuseAt
        ((isSuffix_place_readElements (each element rfl) rest).trans
          (List.suffix_cons _ rest))
  · next rest => exact (isSuffix_skip rest).trans (List.suffix_cons _ rest)
  · next rest element =>
      exact isSuffix_place_refuseAt
        ((isSuffix_place_readQuoted (each element rfl) (skip rest)).trans
          ((isSuffix_skip rest).trans (List.suffix_cons _ rest)))
  · exact isSuffix_place_readAtom text

theorem keepsPlace_datum (levels : Nat) : KeepsPlace (datum levels) :=
  datum_induction keepsPlace_node levels

theorem keepsPlace_topLevel : KeepsPlace topLevel :=
  keepsPlace_datum maxNesting

end Data

/-! ## Bytes before a place -/

/-- A text in front of a source adds its bytes to those before a place. -/
theorem offset_append
    {source place : List Char}
    (isSuffix : place <:+ source)
    (before : List Char) :
    offset (before ++ source) place =
      offset source place + Utf8.byteLength before := by
  obtain ⟨start, rfl⟩ := isSuffix
  unfold offset
  simp only [Utf8.byteLength_append]
  omega

/-- The bytes before a place are those of the text in front of it. -/
theorem offset_append_self (before place : List Char) :
    offset (before ++ place) place = Utf8.byteLength before := by
  rw [offset_append List.suffix_rfl, offset, Nat.sub_self, Nat.zero_add]

/-- The bytes before a place and those from there on are all the bytes of a source. -/
theorem offset_add_byteLength
    {source place : List Char}
    (isSuffix : place <:+ source) :
    offset source place + Utf8.byteLength place = Utf8.byteLength source := by
  obtain ⟨before, rfl⟩ := isSuffix
  rw [offset_append_self, Utf8.byteLength_append]

end Reader
end SExpr
