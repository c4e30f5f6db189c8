import SExpr.Numeral

/-!
# Arguments

Arguments are read from left to right. An argument with two leading hyphens, or
with one and more characters, names an option or a flag; every other one is a
value, for the option just named or for the next position. After an argument of
two hyphens all arguments are values for positions. A word that is a negative
number is a value where the next position takes numbers.

The values of an option or a position are checked when the next one begins, so
of two faults the earlier is reported, except that an unknown name is a fault
at once.
-/

namespace SExpr

/-- Why arguments are not accepted. Requests for help or for the version, and
the absence of all arguments, are among the reasons. -/
inductive UsageFault
  | helpRequested
  | versionRequested
  | nothingRequested
  | missingArgument
  | unknownArgument
  | unknownCommand
  | invalidNumber
  | missingValue
  | unexpectedValue
  | conflict
  deriving DecidableEq

namespace Arguments

/-- What values a parameter takes. -/
inductive ValueKind
  | anything
  | number
  | path
  deriving DecidableEq

/-- The 64-bit integer that a whole argument spells. -/
def number? (argument : List Char) : Option Int64 :=
  match Numeral.integer? argument with
  | some (value, []) => int64? value
  | _ => none

/-- What is wrong with a value of the given kind. -/
def ValueKind.fault? : ValueKind -> List Char -> Option UsageFault
  | .anything, _ => none
  | .number, value =>
      if (number? value).isSome then none else some .invalidNumber
  | .path, value => if value = [] then some .missingValue else none

/-- An option or a position, and whether it takes values more than once. -/
structure Parameter where
  name : String
  kind : ValueKind
  repeated : Bool

/-- Something that arguments can name: an option when it has a parameter, and
otherwise a flag. -/
structure Named where
  long : String
  short : Option Char
  parameter : Option Parameter

/-- The arguments that a command knows. Every command knows the flags for help
as well. -/
structure Signature where
  named : List Named
  positions : List Parameter

/-- Names with the values that were given for them, in order. -/
abbrev Given :=
  List (String × List (List Char))

namespace Given

/-- Whether anything was given under a name. -/
def has
    (given : Given)
    (name : String) : Bool :=
  given.any fun entry => entry.1 == name

/-- All values that were given under a name. -/
def values
    (given : Given)
    (name : String) : List (List Char) :=
  given.flatMap fun entry => if entry.1 = name then entry.2 else []

/-- The first value that was given under a name. -/
def value?
    (given : Given)
    (name : String) : Option (List Char) :=
  (given.values name).head?

end Given

/-- How far the arguments have been read: what was given, the parameter whose
values are being gathered, whether it is an option that the next value is for,
the next position, and whether only values for positions follow. -/
structure Progress where
  given : Given
  pending : Option (Parameter × List (List Char))
  awaiting : Bool
  position : Nat
  onlyPositions : Bool

namespace Progress

/-- The beginning of the arguments. -/
def start : Progress :=
  ⟨[], none, false, 0, false⟩

/-- Take down the values of a parameter. -/
def record
    (progress : Progress)
    (parameter : Parameter)
    (values : List (List Char)) : Except UsageFault Progress :=
  if values = [] then
    .error .missingValue
  else if !parameter.repeated && progress.given.has parameter.name then
    .error .conflict
  else
    match values.findSome? parameter.kind.fault? with
    | some fault => .error fault
    | none =>
        .ok { progress with
          given := progress.given ++ [(parameter.name, values)] }

/-- Take down the values that have been gathered. -/
def settle (progress : Progress) : Except UsageFault Progress :=
  let settled := { progress with pending := none, awaiting := false }
  match progress.pending with
  | some (parameter, values) => settled.record parameter values
  | none => .ok settled

/-- Ask for help, once what has been gathered is taken down. -/
def requestHelp (progress : Progress) : Except UsageFault Progress :=
  match progress.settle with
  | .ok _ => .error .helpRequested
  | .error fault => .error fault

/-- Take down something named, with the value attached to the name if there is
one. An option without one gets the next value. -/
def takeNamed
    (progress : Progress)
    (named : Named)
    (attached : Option (List Char)) : Except UsageFault Progress := do
  match named.parameter, attached with
  | some parameter, some value => (<- progress.settle).record parameter [value]
  | some parameter, none =>
      let settled <- progress.settle
      return { settled with pending := some (parameter, []), awaiting := true }
  | none, some _ => .error .unexpectedValue
  | none, none =>
      let settled <- progress.settle
      if settled.given.has named.long then .error .conflict
      else return { settled with given := settled.given ++ [(named.long, [])] }

/-- Read the name, and the value attached to it, of an argument with two
leading hyphens. -/
def readLong
    (signature : Signature)
    (progress : Progress)
    (argument : List Char) : Except UsageFault Progress :=
  let name := String.ofList (argument.takeWhile (· != '='))
  let attached :=
    match argument.dropWhile (· != '=') with
    | [] => none
    | _ :: value => some value
  if name = "help" then
    if attached.isSome then .error .unexpectedValue else progress.requestHelp
  else
    match signature.named.find? fun named => named.long == name with
    | some named => progress.takeNamed named attached
    | none => .error .unknownArgument

/-- Read the letters of an argument with one leading hyphen. What follows the
letter of an option is its value, an equals sign before it being left out. -/
def readShort
    (signature : Signature)
    (progress : Progress) : List Char -> Except UsageFault Progress
  | [] => .ok progress
  | letter :: letters =>
      if letter = 'h' then
        progress.requestHelp
      else
        match signature.named.find? fun named => named.short == some letter with
        | none => .error .unknownArgument
        | some named =>
            match named.parameter, letters with
            | none, _ =>
                match progress.takeNamed named none with
                | .ok progress => readShort signature progress letters
                | .error fault => .error fault
            | some _, [] => progress.takeNamed named none
            | some _, '=' :: value => progress.takeNamed named (some value)
            | some _, value => progress.takeNamed named (some value)

/-- Read a value: for the option that waits for one, or else for the next
position. -/
def readValue
    (signature : Signature)
    (progress : Progress)
    (value : List Char) : Except UsageFault Progress := do
  match progress.pending, progress.awaiting && !progress.onlyPositions with
  | some (parameter, values), true =>
      return { progress with
        pending := some (parameter, values ++ [value]), awaiting := false }
  | pending, _ =>
      match signature.positions[progress.position]? with
      | none => .error .unknownArgument
      | some parameter =>
          match pending, parameter.repeated with
          | some (current, values), true =>
              if current.name = parameter.name then
                return { progress with
                  pending := some (parameter, values ++ [value]) }
              else
                let settled <- progress.settle
                return { settled with pending := some (parameter, [value]) }
          | _, repeated =>
              let settled <- progress.settle
              return { settled with
                pending := some (parameter, [value])
                position :=
                  if repeated then settled.position
                  else settled.position + 1 }

end Progress

/-- Whether the characters after a hyphen make it a negative number: digits,
with at most one point after the first of them and before the exponent mark,
and at most one exponent mark that is neither first nor last. -/
def isNegativeNumber
    (isFirst pointAllowed markAllowed : Bool) : List Char -> Bool
  | [] => true
  | character :: rest =>
      if character.isDigit then
        isNegativeNumber false pointAllowed markAllowed rest
      else if character = '.' then
        !isFirst && pointAllowed && markAllowed &&
          isNegativeNumber false false markAllowed rest
      else if character = 'e' ∨ character = 'E' then
        !isFirst && markAllowed && !rest.isEmpty &&
          isNegativeNumber false pointAllowed false rest
      else
        false

/-- Whether the next position takes numbers. -/
def takesNumber
    (signature : Signature)
    (progress : Progress) : Bool :=
  signature.positions[progress.position]?.any fun parameter =>
    parameter.kind == .number

/-- Read one argument. -/
def readArgument
    (signature : Signature)
    (progress : Progress)
    (argument : List Char) : Except UsageFault Progress :=
  if progress.onlyPositions then
    progress.readValue signature argument
  else
    match argument with
    | ['-', '-'] => .ok { progress with onlyPositions := true }
    | '-' :: '-' :: name => progress.readLong signature name
    | '-' :: letter :: letters =>
        if takesNumber signature progress &&
            isNegativeNumber true true true (letter :: letters) then
          progress.readValue signature argument
        else
          progress.readShort signature (letter :: letters)
    | _ => progress.readValue signature argument

/-- Read all arguments of a command. -/
def read
    (signature : Signature)
    (arguments : List (List Char)) : Except UsageFault Given := do
  let progress <- arguments.foldlM (readArgument signature) .start
  return (<- progress.settle).given

end Arguments
end SExpr
