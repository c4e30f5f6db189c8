/-!
# UTF-8

Reading bytes as characters. The decoder goes through the bytes once and gives,
in order, a character for every well-formed sequence and nothing for every
malformed one, a malformed sequence being as long as the start of a well-formed
one can be.
-/

namespace SExpr
namespace Utf8

/-- A sequence that has been begun: the range that the next byte must be in,
how many bytes are to follow that one, and the bits gathered. -/
structure Pending where
  low : Nat
  high : Nat
  following : Nat
  gathered : Nat

/-- What a byte at the start of a sequence gives: a character or a malformed
sequence at once, or a sequence to go on with. The ranges of the second byte
leave out overlong forms, surrogates, and codes past the last one. -/
def start (byte : Nat) : List (Option Char) × Option Pending :=
  if byte < 0x80 then ([some (Char.ofNat byte)], none)
  else if byte < 0xC2 then ([none], none)
  else if byte < 0xE0 then ([], some ⟨0x80, 0xBF, 0, byte - 0xC0⟩)
  else if byte = 0xE0 then ([], some ⟨0xA0, 0xBF, 1, 0⟩)
  else if byte = 0xED then ([], some ⟨0x80, 0x9F, 1, 0xD⟩)
  else if byte < 0xF0 then ([], some ⟨0x80, 0xBF, 1, byte - 0xE0⟩)
  else if byte = 0xF0 then ([], some ⟨0x90, 0xBF, 2, 0⟩)
  else if byte < 0xF4 then ([], some ⟨0x80, 0xBF, 2, byte - 0xF0⟩)
  else if byte = 0xF4 then ([], some ⟨0x80, 0x8F, 2, 4⟩)
  else ([none], none)

/-- Decode bytes after the beginning of a sequence, if one is pending. -/
def decodeAfter : Option Pending -> List UInt8 -> List (Option Char)
  | none, [] => []
  | some _, [] => [none]
  | none, byte :: bytes =>
      let (decoded, next) := start byte.toNat
      decoded ++ decodeAfter next bytes
  | some pending, byte :: bytes =>
      if pending.low ≤ byte.toNat ∧ byte.toNat ≤ pending.high then
        let gathered := pending.gathered * 64 + byte.toNat % 64
        match pending.following with
        | 0 => some (Char.ofNat gathered) :: decodeAfter none bytes
        | following + 1 =>
            decodeAfter (some ⟨0x80, 0xBF, following, gathered⟩) bytes
      else
        let (decoded, next) := start byte.toNat
        none :: (decoded ++ decodeAfter next bytes)

/-- The characters of a sequence of bytes, nothing standing for each malformed
sequence. -/
def decode (bytes : List UInt8) : List (Option Char) :=
  decodeAfter none bytes

/-- The text of a sequence of bytes, if all of it is well formed. -/
def text? (bytes : List UInt8) : Option (List Char) :=
  (decode bytes).mapM id

/-- The text of a sequence of bytes, with the replacement character for each
malformed sequence. -/
def textWithReplacements (bytes : List UInt8) : List Char :=
  (decode bytes).map fun decoded => decoded.getD '\uFFFD'

/-- The bytes of a text. -/
def encode (text : List Char) : List UInt8 :=
  text.flatMap String.utf8EncodeChar

/-- The number of bytes of a text. -/
def byteLength : List Char -> Nat
  | [] => 0
  | character :: text => character.utf8Size + byteLength text

@[simp] theorem byteLength_append
    (left right : List Char) :
    byteLength (left ++ right) = byteLength left + byteLength right := by
  induction left with
  | nil => simp [byteLength]
  | cons character left inductionHypothesis =>
      simp [byteLength, inductionHypothesis, Nat.add_assoc]

end Utf8
end SExpr
