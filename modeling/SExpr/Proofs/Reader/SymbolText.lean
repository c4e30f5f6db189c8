import SExpr.Proofs.Reader.Run

/-!
# Symbols as they are spelled

The characters of a symbol that are no number and no keyword are read as that symbol,
however much of them the readers of numbers and booleans could take, with one exception.
Where they begin with a sign, digits and an exponent mark, the number that this would be is
not given up any more. If its exponent has no digits reading ends there, and the symbol is
not read.
-/

namespace SExpr

open Numeral (IntegerSpelling LacksExponent NumeralSpelling)

namespace Reader

variable {text : List Char}

instance : DecidablePred IsSymbolText := fun text =>
  match text with
  | [] => .isFalse (by simp [IsSymbolText])
  | initial :: others =>
      decidable_of_iff
        (isSymbolInitial initial = true ∧ others.all isSymbolSubsequent = true)
        (by simp [IsSymbolText])

/-- No delimiter is among the characters of a symbol. -/
theorem IsSymbolText.isUndelimited
    (isText : IsSymbolText text) :
    IsUndelimited text := by
  obtain ⟨initial, others, rfl, isInitial, isSubsequent⟩ := isText
  have notInitial : delimiters.any isSymbolInitial = false := by decide
  have notSubsequent : delimiters.any isSymbolSubsequent = false := by decide
  intro character member delimiter
  obtain rfl | member := List.mem_cons.mp member
  · exact List.any_eq_false.mp notInitial character delimiter isInitial
  · exact List.any_eq_false.mp notSubsequent character delimiter
      (isSubsequent character member)

/-- The words among the keywords are the only ones with the characters of a symbol. -/
theorem IsSymbolText.not_mem_keywords
    (isText : IsSymbolText text)
    (noWord : text ∉ ["true".toList, "false".toList, "nil".toList])
    (value : Datum) :
    (text, value) ∉ keywords := by
  obtain ⟨initial, others, rfl, isInitial, -⟩ := isText
  have notSign : initial ≠ '#' := by
    rintro rfl
    exact absurd isInitial (by decide +kernel)
  simp_all [keywords]

/-- A run that begins like a number without its exponent is a failure where the digits of
the exponent are missing. -/
theorem exists_failed_of_lacksExponent
    (undelimited : IsUndelimited text)
    (noInteger : ∀ value, ¬ IntegerSpelling value text)
    (lacks : LacksExponent text) :
    ∃ place, place <:+ text ∧ readAtom text = .failed ⟨.exponentWithoutDigits, place⟩ := by
  obtain ⟨place, scanned⟩ := (Numeral.scan_eq_noExponent_iff text).mpr lacks
  have noToken := (integerToken?_eq_none_iff undelimited).mpr noInteger
  refine ⟨place, Numeral.isSuffix_of_place? (by rw [scanned, NumeralScan.place?]), ?_⟩
  unfold readAtom
  simp only [noToken, scanned]

end Reader

/-- The characters of a symbol that are no integer, no float and no keyword as a whole are
read as that symbol, unless they begin like a number without its exponent. Those are
unreadable at some place among them. -/
theorem readSingle_symbolText
    {text : List Char}
    (isText : Reader.IsSymbolText text)
    (noInteger : ∀ value, ¬ IntegerSpelling value text)
    (noFloat : ∀ numeral, ¬ NumeralSpelling numeral text)
    (noWord : text ∉ ["true".toList, "false".toList, "nil".toList]) :
    (¬ LacksExponent text -> readSingle text = .ok (.symbol (String.ofList text))) ∧
    (LacksExponent text ->
      ∃ before place, before ++ place = text ∧
        readSingle text =
          .error (.unreadable
            (.unexpected (Utf8.byteLength before) (place.take snippetLength)))) := by
  have undelimited := isText.isUndelimited
  constructor
  · intro complete
    have denotes : Reader.Denotes text (.symbol (String.ofList text)) :=
      .symbol ⟨noInteger, complete⟩ noFloat (isText.not_mem_keywords noWord) isText
    exact readSingle_of_readAtom
      ((Reader.readAtom_eq_taken_nil_iff undelimited _).mpr denotes)
  · intro lacks
    obtain ⟨place, ⟨before, rfl⟩, failed⟩ :=
      Reader.exists_failed_of_lacksExponent undelimited noInteger lacks
    have fault := readSingle_of_readAtom_failed failed
    simp only [Failure.error, unexpectedAt, Reader.offset_append_self] at fault
    exact ⟨before, place, rfl, fault⟩

/-- A symbol with a number and punctuation at its start, and one that would be a number if
its exponent had digits. -/
theorem readSingle_symbolText_twoNumbers :
    readSingle "+1x-2.#".toList = .ok (.symbol "+1x-2.#") ∧
      ∃ before place, before ++ place = "-.5E+λ".toList ∧
        readSingle "-.5E+λ".toList =
          .error (.unreadable
            (.unexpected (Utf8.byteLength before) (place.take snippetLength))) := by
  have symbol : Numeral.scan "+1x-2.#".toList =
      .numeral ⟨false, ['1'], [], 0⟩ "x-2.#".toList := by
    rfl
  have number : Numeral.scan "-.5E+λ".toList = .noExponent ['λ'] := by
    rfl
  have complete : ¬ LacksExponent "+1x-2.#".toList := by
    rw [← Numeral.scan_eq_noExponent_iff, symbol]
    rintro ⟨place, ⟨⟩⟩
  have isText : Reader.IsSymbolText "+1x-2.#".toList := by decide +kernel
  have isTextToo : Reader.IsSymbolText "-.5E+λ".toList := by decide +kernel
  constructor
  · refine (readSingle_symbolText isText ?_ ?_ (by decide)).1 complete
    · exact (Reader.integerToken?_eq_none_iff isText.isUndelimited).mp (by decide +kernel)
    · intro numeral spelled
      cases symbol.symm.trans ((Numeral.scan_eq_numeral_iff ..).mpr spelled)
  · refine (readSingle_symbolText isTextToo ?_ ?_ (by decide)).2
      ((Numeral.scan_eq_noExponent_iff _).mp ⟨_, number⟩)
    · exact (Reader.integerToken?_eq_none_iff isTextToo.isUndelimited).mp (by decide +kernel)
    · intro numeral spelled
      cases number.symm.trans ((Numeral.scan_eq_numeral_iff ..).mpr spelled)

/-- The characters of a symbol are not always read as one: with an exponent mark after its
digit a text is unreadable that is a symbol with another letter there. -/
theorem readSingle_symbolText_lackingExponent :
    Reader.IsSymbolText "-1e".toList ∧
      (∀ value, ¬ IntegerSpelling value "-1e".toList) ∧
      (∀ numeral, ¬ NumeralSpelling numeral "-1e".toList) ∧
      "-1e".toList ∉ ["true".toList, "false".toList, "nil".toList] ∧
      readSingle "-1e".toList = .error (.unreadable (.unexpected 3 [])) ∧
      readSingle "-1x".toList = .ok (.symbol "-1x") := by
  have isText : Reader.IsSymbolText "-1e".toList := by decide +kernel
  have number : Numeral.scan "-1e".toList = .noExponent [] := by
    rfl
  refine ⟨isText, ?_, ?_, by decide, by decide +kernel, by decide +kernel⟩
  · exact (Reader.integerToken?_eq_none_iff isText.isUndelimited).mp (by decide +kernel)
  · intro numeral spelled
    cases number.symm.trans ((Numeral.scan_eq_numeral_iff ..).mpr spelled)

end SExpr
