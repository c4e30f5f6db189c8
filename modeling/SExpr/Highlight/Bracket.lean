/-!
# Brackets at the cursor

After a movement of the cursor a line must be shown anew if a bracket is at the
cursor or just before it, so that its partner can be marked. Places are counted
in bytes.
-/

namespace SExpr
namespace Highlight

/-- Whether a byte is an opening bracket. -/
def isOpeningBracket (byte : UInt8) : Bool :=
  byte == 40 || byte == 91 || byte == 123

/-- Whether a byte is a closing bracket. -/
def isClosingBracket (byte : UInt8) : Bool :=
  byte == 41 || byte == 93 || byte == 125

/-- Whether the byte at a place is a bracket that can have a partner: none
before the first byte and none after the last. There is no answer for a byte
that is not a bracket. -/
def canHavePartner?
    (bytes : List UInt8)
    (place : Nat) : Option Bool :=
  match bytes[place]? with
  | none => none
  | some byte =>
      if isClosingBracket byte then some (place != 0)
      else if isOpeningBracket byte then some (place + 1 != bytes.length)
      else none

/-- Whether a line must be shown anew with the cursor at a place. Behind the
last byte it must be after a closing bracket; otherwise the byte at the cursor
decides if it is a bracket, and the byte before the cursor if it is not. A
refresh that is forced in any case needs no other. -/
def needsRefresh
    (bytes : List UInt8)
    (cursor : Nat)
    (forced : Bool) : Bool :=
  if forced then
    false
  else if bytes.length ≤ cursor then
    bytes.getLast?.any isClosingBracket
  else
    match canHavePartner? bytes cursor with
    | some answer => answer
    | none =>
        match cursor with
        | 0 => false
        | before + 1 => (canHavePartner? bytes before).getD false

end Highlight
end SExpr
