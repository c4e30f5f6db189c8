import SExpr.Text.Utf8

/-!
# Texts as bytes and back

The bytes of a text are decoded as the text, one character after another. An ASCII
character is one byte, and that byte stands for nothing else: it is in the bytes of a
text only for the character itself, and a decoded text has the character only for the
byte. So a text can be searched for line ends in its bytes.
-/

namespace SExpr
namespace Utf8

/-! ## Sequences of bytes -/

/-- A byte after the first one of a sequence, with the last six bits of a number. -/
def continuation (number : Nat) : UInt8 :=
  UInt8.ofNat (number % 64 + 128)

theorem toNat_continuation (number : Nat) :
    (continuation number).toNat = number % 64 + 128 := by
  simp [continuation]
  omega

section Pending

variable {low high gathered number : Nat}

/-- The last byte of a sequence gives its character. -/
theorem decodeAfter_last
    (atLeast : low ≤ number % 64 + 128)
    (atMost : number % 64 + 128 ≤ high)
    (bytes : List UInt8) :
    decodeAfter (some ⟨low, high, 0, gathered⟩) (continuation number :: bytes) =
      some (Char.ofNat (gathered * 64 + number % 64)) :: decodeAfter none bytes := by
  rw [decodeAfter]
  simp only [toNat_continuation, atLeast, atMost, and_self, if_true]
  congr 3
  omega

/-- A byte of a sequence that is not the last one adds its bits. -/
theorem decodeAfter_inner
    (atLeast : low ≤ number % 64 + 128)
    (atMost : number % 64 + 128 ≤ high)
    (following : Nat)
    (bytes : List UInt8) :
    decodeAfter (some ⟨low, high, following + 1, gathered⟩)
        (continuation number :: bytes) =
      decodeAfter (some ⟨0x80, 0xBF, following, gathered * 64 + number % 64⟩)
        bytes := by
  rw [decodeAfter]
  simp only [toNat_continuation, atLeast, atMost, and_self, if_true]
  congr 4
  omega

/-- The first byte of a sequence of two starts one with a byte to follow. -/
theorem start_two
    (atLeast : 0x80 ≤ number)
    (atMost : number ≤ 0x7FF) :
    start (number / 64 + 0xC0) = ([], some ⟨0x80, 0xBF, 0, number / 64⟩) := by
  unfold start
  rw [if_neg (by omega), if_neg (by omega), if_pos (by omega), Nat.add_sub_cancel]

/-- The first byte of a sequence of three leaves room for the second one, as the
code is neither too small for three bytes nor that of a surrogate. -/
theorem start_three
    (atLeast : 0x800 ≤ number)
    (atMost : number ≤ 0xFFFF)
    (noSurrogate : number < 0xD800 ∨ 0xDFFF < number) :
    ∃ low high,
      start (number / 4096 + 0xE0) = ([], some ⟨low, high, 1, number / 4096⟩) ∧
      low ≤ number / 64 % 64 + 128 ∧ number / 64 % 64 + 128 ≤ high := by
  unfold start
  rw [if_neg (by omega), if_neg (by omega), if_neg (by omega)]
  by_cases smallest : number / 4096 = 0
  · exact ⟨0xA0, 0xBF, by rw [if_pos (by omega), smallest], by omega, by omega⟩
  by_cases surrogates : number / 4096 = 0xD
  · exact ⟨0x80, 0x9F, by rw [if_neg (by omega), if_pos (by omega), surrogates],
      by omega, by omega⟩
  refine ⟨0x80, 0xBF, ?_, by omega, by omega⟩
  rw [if_neg (by omega), if_neg (by omega), if_pos (by omega), Nat.add_sub_cancel]

/-- The first byte of a sequence of four leaves room for the second one, as the code
is neither too small for four bytes nor past the last one. -/
theorem start_four
    (atLeast : 0x10000 ≤ number)
    (atMost : number ≤ 0x10FFFF) :
    ∃ low high,
      start (number / 262144 + 0xF0) = ([], some ⟨low, high, 2, number / 262144⟩) ∧
      low ≤ number / 4096 % 64 + 128 ∧ number / 4096 % 64 + 128 ≤ high := by
  unfold start
  rw [if_neg (by omega), if_neg (by omega), if_neg (by omega), if_neg (by omega),
    if_neg (by omega), if_neg (by omega)]
  by_cases smallest : number / 262144 = 0
  · exact ⟨0x90, 0xBF, by rw [if_pos (by omega), smallest], by omega, by omega⟩
  by_cases largest : number / 262144 = 4
  · refine ⟨0x80, 0x8F, ?_, by omega, by omega⟩
    rw [if_neg (by omega), if_neg (by omega), if_pos (by omega), largest]
  refine ⟨0x80, 0xBF, ?_, by omega, by omega⟩
  rw [if_neg (by omega), if_pos (by omega), Nat.add_sub_cancel]

end Pending

/-! ## Characters -/

/-- The code of a character is that of no surrogate and not past the last one. -/
theorem code_bounds (character : Char) :
    (character.toNat < 0xD800 ∨ 0xDFFF < character.toNat) ∧
      character.toNat ≤ 0x10FFFF := by
  have valid : character.toNat < 0xD800 ∨
      0xDFFF < character.toNat ∧ character.toNat < 0x110000 := character.valid
  omega

theorem decodeAfter_first
    {byte : UInt8}
    {pending : Pending}
    (begun : start byte.toNat = ([], some pending))
    (bytes : List UInt8) :
    decodeAfter none (byte :: bytes) = decodeAfter (some pending) bytes := by
  rw [decodeAfter, begun]
  rfl

/-- The bytes of a character are decoded as it, whatever follows them. -/
theorem decodeAfter_character
    (character : Char)
    (bytes : List UInt8) :
    decodeAfter none (String.utf8EncodeChar character ++ bytes) =
      some character :: decodeAfter none bytes := by
  obtain ⟨noSurrogate, last⟩ := code_bounds character
  have lead (number : Nat) (small : number < 256) :
      (UInt8.ofNat number).toNat = number := by
    simp
    omega
  have same : Char.ofNat character.toNat = character := Char.ofNat_toNat character
  unfold String.utf8EncodeChar
  rw [show character.val.toNat = character.toNat from rfl]
  generalize character.toNat = number at *
  dsimp only
  by_cases one : number ≤ 127
  · rw [if_pos one, List.singleton_append, decodeAfter, lead number (by omega), start,
      if_pos (by omega), same]
    rfl
  by_cases two : number ≤ 2047
  · rw [if_neg one, if_pos two]
    have begun : start (UInt8.ofNat (number / 64 % 32 + 192)).toNat =
        ([], some ⟨0x80, 0xBF, 0, number / 64⟩) := by
      rw [lead _ (by omega), Nat.mod_eq_of_lt (by omega)]
      exact start_two (by omega) two
    change decodeAfter none (_ :: continuation number :: bytes) = _
    rw [decodeAfter_first begun, decodeAfter_last (by omega) (by omega),
      show number / 64 * 64 + number % 64 = number by omega, same]
  by_cases three : number ≤ 65535
  · rw [if_neg one, if_neg two, if_pos three]
    obtain ⟨low, high, begun, atLeast, atMost⟩ :=
      start_three (by omega) three noSurrogate
    rw [← lead (number / 4096 + 0xE0) (by omega),
      ← Nat.mod_eq_of_lt (show number / 4096 < 16 by omega)] at begun
    change decodeAfter none
      (_ :: continuation (number / 64) :: continuation number :: bytes) = _
    rw [decodeAfter_first begun, decodeAfter_inner atLeast atMost,
      decodeAfter_last (by omega) (by omega),
      show (number / 4096 % 16 * 64 + number / 64 % 64) * 64 + number % 64 = number by
        omega, same]
  · rw [if_neg one, if_neg two, if_neg three]
    obtain ⟨low, high, begun, atLeast, atMost⟩ := start_four (by omega) last
    rw [← lead (number / 262144 + 0xF0) (by omega),
      ← Nat.mod_eq_of_lt (show number / 262144 < 8 by omega)] at begun
    change decodeAfter none (_ :: continuation (number / 4096) ::
      continuation (number / 64) :: continuation number :: bytes) = _
    rw [decodeAfter_first begun, decodeAfter_inner atLeast atMost,
      decodeAfter_inner (by omega) (by omega), decodeAfter_last (by omega) (by omega),
      show ((number / 262144 % 8 * 64 + number / 4096 % 64) * 64 + number / 64 % 64) *
          64 + number % 64 = number by omega, same]

/-! ## Texts -/

/-- The bytes of a text are decoded as its characters. -/
theorem decode_encode (text : List Char) :
    decode (encode text) = text.map some := by
  induction text with
  | nil => rfl
  | cons character text inductionHypothesis =>
      have first :=
        decodeAfter_character character (text.flatMap String.utf8EncodeChar)
      rw [encode, List.flatMap_cons, decode, first, List.map_cons,
        ← inductionHypothesis]
      rfl

/-- The text of the bytes of a text is the text. -/
@[simp] theorem text?_encode (text : List Char) :
    text? (encode text) = some text := by
  rw [text?, decode_encode, List.mapM_map]
  exact (List.mapM_pure (f := id)).trans (by simp)

/-! ## ASCII characters -/

/-- A byte below those of longer sequences is the code of its character. -/
theorem toNat_of_mem_character
    {character : Char}
    {byte : UInt8}
    (member : byte ∈ String.utf8EncodeChar character)
    (ascii : byte.toNat < 0x80) :
    character.toNat = byte.toNat := by
  have tooLarge (number : Nat) (atLeast : 0x80 ≤ number % 256) :
      byte ≠ UInt8.ofNat number := by
    rintro rfl
    rw [UInt8.toNat_ofNat'] at ascii
    omega
  unfold String.utf8EncodeChar at member
  rw [show character.val.toNat = character.toNat from rfl] at member
  generalize character.toNat = number at *
  dsimp only at member
  split at member
  · rw [List.mem_singleton.mp member, UInt8.toNat_ofNat']
    omega
  · exfalso
    split at member
    · grind
    · grind

/-- The byte of an ASCII character is in the bytes of a text only for it. -/
theorem mem_of_mem_encode
    {text : List Char}
    {character : Char}
    (ascii : character.toNat < 0x80)
    (member : UInt8.ofNat character.toNat ∈ encode text) :
    character ∈ text := by
  obtain ⟨other, inText, inBytes⟩ := List.mem_flatMap.mp member
  have byte : (UInt8.ofNat character.toNat).toNat = character.toNat := by
    rw [UInt8.toNat_ofNat']
    omega
  have same := toNat_of_mem_character inBytes (by omega)
  rw [byte] at same
  rw [Char.toNat_inj.mp same] at inText
  exact inText

/-- A pending sequence that leads to no ASCII character: no byte that it takes is one,
and when its last byte comes the bits gathered make the code too large. -/
structure Pending.PastAscii (pending : Pending) : Prop where
  atLeast : 0x80 ≤ pending.low
  atMost : pending.high ≤ 0xBF
  last : pending.following = 0 -> 2 ≤ pending.gathered
  inner : 0 < pending.following ->
    2 ≤ pending.gathered * 64 + (pending.low - 0x80)

/-- Every sequence of more than one byte is past the ASCII codes. -/
theorem pastAscii_of_start
    {byte : Nat}
    {pending : Pending}
    (begun : (start byte).2 = some pending) :
    pending.PastAscii := by
  unfold start at begun
  repeat' split at begun
  all_goals cases begun
  all_goals constructor <;> dsimp only <;> omega

/-- A byte that is a character at once is that character. -/
theorem eq_of_mem_start
    {byte : Nat}
    {character : Char}
    (member : some character ∈ (start byte).1) :
    character = Char.ofNat byte := by
  unfold start at member
  repeat' split at member
  all_goals simp at member
  exact member

/-- A code past the ASCII codes is that of no ASCII character, except that the first
one stands for what is no code. -/
theorem toNat_ofNat_of_le
    {code : Nat}
    (atLeast : 0x80 ≤ code) :
    (Char.ofNat code).toNat = 0 ∨ 0x80 ≤ (Char.ofNat code).toNat := by
  by_cases valid : code.isValidChar
  · rw [Char.ofNat, dif_pos valid]
    exact .inr atLeast
  · rw [Char.ofNat, dif_neg valid]
    exact .inl rfl

/-- With a byte more and bytes to follow a sequence is still past the ASCII codes. -/
theorem Pending.PastAscii.next
    {pending : Pending}
    (past : pending.PastAscii)
    {following : Nat}
    (more : pending.following = following + 1)
    {byte : UInt8}
    (atLeast : pending.low ≤ byte.toNat)
    (atMost : byte.toNat ≤ pending.high) :
    (⟨0x80, 0xBF, following, pending.gathered * 64 + byte.toNat % 64⟩ :
      Pending).PastAscii := by
  have low := past.atLeast
  have high := past.atMost
  have inner := past.inner (by omega)
  constructor <;> dsimp only <;> omega

section Decoded

variable {bytes : List UInt8} {character : Char}

/-- A character that is decoded from a byte at the start of a sequence is that byte, or
is decoded from the bytes after it. -/
theorem mem_of_mem_start_append
    {byte : UInt8}
    (others : some character ∈ decodeAfter (start byte.toNat).2 bytes ->
      UInt8.ofNat character.toNat ∈ bytes)
    (member : some character ∈
      (start byte.toNat).1 ++ decodeAfter (start byte.toNat).2 bytes) :
    UInt8.ofNat character.toNat ∈ byte :: bytes := by
  obtain here | after := List.mem_append.mp member
  · have small := byte.toNat_lt
    have valid : byte.toNat.isValidChar := .inl (by omega)
    have code : character.toNat = byte.toNat := by
      rw [eq_of_mem_start here, Char.ofNat, dif_pos valid]
      rfl
    rw [code, UInt8.ofNat_toNat]
    exact List.mem_cons_self
  · exact List.mem_cons_of_mem _ (others after)

/-- An ASCII character is decoded only from its byte. -/
theorem mem_of_mem_decodeAfter
    {pending : Option Pending}
    (past : ∀ sequence ∈ pending, sequence.PastAscii)
    (notNul : 0 < character.toNat)
    (ascii : character.toNat < 0x80)
    (member : some character ∈ decodeAfter pending bytes) :
    UInt8.ofNat character.toNat ∈ bytes := by
  have atStart {byte : Nat} (sequence : Pending)
      (begun : sequence ∈ (start byte).2) : sequence.PastAscii :=
    pastAscii_of_start begun
  induction bytes generalizing pending with
  | nil =>
      cases pending with
      | none => cases member
      | some sequence => simp [decodeAfter] at member
  | cons byte bytes inductionHypothesis =>
      cases pending with
      | none => exact mem_of_mem_start_append (inductionHypothesis atStart) member
      | some sequence =>
          have sequencePast := past sequence rfl
          rw [decodeAfter] at member
          split at member
          · next inRange =>
              obtain ⟨atLeast, atMost⟩ := inRange
              dsimp only at member
              split at member
              · next last =>
                  obtain here | after := List.mem_cons.mp member
                  · have bits := sequencePast.last last
                    have code := toNat_ofNat_of_le
                      (show 0x80 ≤ sequence.gathered * 64 + byte.toNat % 64 by omega)
                    rw [← Option.some.inj here] at code
                    omega
                  · exact List.mem_cons_of_mem _ (inductionHypothesis (by simp) after)
              · next following more =>
                  refine List.mem_cons_of_mem _ (inductionHypothesis ?_ member)
                  rintro _ ⟨⟩
                  exact sequencePast.next more atLeast atMost
          · obtain here | after := List.mem_cons.mp member
            · cases here
            · exact mem_of_mem_start_append (inductionHypothesis atStart) after

/-- Bytes that are all decoded are decoded as the characters of their text. -/
theorem decode_eq_of_text?
    {text : List Char}
    (decoded : text? bytes = some text) :
    decode bytes = text.map some := by
  rw [text?] at decoded
  generalize decode bytes = characters at decoded
  induction characters generalizing text with
  | nil =>
      cases decoded
      rfl
  | cons first others inductionHypothesis =>
      simp only [List.mapM_cons, id, Option.bind_eq_bind, Option.bind_eq_some_iff]
        at decoded
      obtain ⟨character, rfl, more, rest, decoded⟩ := decoded
      cases decoded
      rw [inductionHypothesis rest, List.map_cons]

/-- A text that is decoded has an ASCII character only from its byte. -/
theorem mem_of_text?
    {text : List Char}
    (decoded : text? bytes = some text)
    (notNul : 0 < character.toNat)
    (ascii : character.toNat < 0x80)
    (member : character ∈ text) :
    UInt8.ofNat character.toNat ∈ bytes := by
  have nothingPending : ∀ sequence ∈ (none : Option Pending), sequence.PastAscii := by
    simp
  apply mem_of_mem_decodeAfter nothingPending notNul ascii
  rw [← decode, decode_eq_of_text? decoded]
  exact List.mem_map_of_mem member

end Decoded
end Utf8
end SExpr
