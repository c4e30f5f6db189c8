import SExpr.Error
import SExpr.Reader.Datum

/-!
# Reading programs

A program is any number of data with blanks and comments around them. What
cannot be read is reported with the place of the first datum that no reading
was found for, or with the place of the failure that ended the reading.
-/

namespace SExpr

/-- A text from which one datum was read: the datum and the text after it. -/
structure FirstDatum where
  datum : Datum
  rest : List Char

/-- Why no datum could be read from the start of a text. -/
inductive FirstDatumFault
  | refused (place : List Char)
  | failed (failure : Failure)
  deriving DecidableEq

/-- Read the first datum of a text, with the blanks and comments on both sides
of it. -/
def readFirst (text : List Char) : Except FirstDatumFault FirstDatum :=
  match Reader.topLevel.run (Reader.skip text) with
  | .taken datum rest => .ok ⟨datum, Reader.skip rest⟩
  | .refused place => .error (.refused place)
  | .failed failure => .error (.failed failure)

/-- The most characters of the text that an error quotes. -/
def snippetLength : Nat :=
  20

/-- The error for input that is no datum, found at a place in a source. -/
def unexpectedAt
    (source place : List Char) : Error :=
  .unreadable (.unexpected (Reader.offset source place)
    (place.take snippetLength))

/-- The error for a failure to read a source. -/
def Failure.error
    (source : List Char)
    (failure : Failure) : Error :=
  match failure.cause with
  | .nestingTooDeep => .nestingTooDeep
  | .integerOutOfRange =>
      .unreadable (.integerOutOfRange (Reader.offset source failure.place))
  | .exponentWithoutDigits => unexpectedAt source failure.place

/-- Read all data of a source. -/
def readProgram (source : List Char) : Except Error (List Datum) :=
  match Reader.topLevel.many source with
  | .error failure => .error (failure.error source)
  | .ok (data, after) =>
      match Reader.skip after with
      | [] => .ok data
      | place => .error (unexpectedAt source place)

/-- Read a source that holds exactly one datum. -/
def readSingle (source : List Char) : Except Error Datum :=
  match readProgram source with
  | .error error => .error error
  | .ok [datum] => .ok datum
  | .ok data => .error (.unreadable (.notOneDatum data.length))

end SExpr
