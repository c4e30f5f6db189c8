import SExpr.Datum.Printer
import SExpr.Form
import SExpr.Numeral

/-!
# Evaluation of code

A small reference semantics for code: integers and booleans with five primitive
procedures, quotation, conditionals, functions and `let`. Evaluation is by value
and scope is lexical. It is given as a relation between code, the frames it is
evaluated in, and its value, so code that has no value, because it fails or
because it does not end, is related to none.

The combinations that the semantics does not know, definitions and functions of
dynamic scope among them, are evaluated as applications.
-/

namespace SExpr
namespace Evaluation

/-- The procedures that are given from the start. -/
inductive Primitive
  | plus
  | minus
  | times
  | less
  | equal
  deriving DecidableEq

namespace Primitive

/-- The name of a primitive. -/
def name : Primitive -> String
  | .plus => "+"
  | .minus => "-"
  | .times => "*"
  | .less => "<"
  | .equal => "="

/-- All primitives. -/
def all : List Primitive :=
  [.plus, .minus, .times, .less, .equal]

/-- The sum of integers from the left, if every sum on the way is in range. -/
def sum? (numbers : List Int64) : Option Int64 :=
  numbers.foldlM (fun total number => int64? (total.toInt + number.toInt)) 0

/-- The product of integers from the left, if every product on the way is in
range. -/
def product? (numbers : List Int64) : Option Int64 :=
  numbers.foldlM (fun total number => int64? (total.toInt * number.toInt)) 1

/-- The result of a primitive for integers. Sums and products take any number of
them, a difference at least one, and a comparison two. -/
def onIntegers? : Primitive -> List Int64 -> Option Datum
  | .plus, numbers => (sum? numbers).map .integer
  | .times, numbers => (product? numbers).map .integer
  | .minus, [number] => (int64? (-number.toInt)).map .integer
  | .minus, first :: others => do
      let total <- sum? others
      let difference <- int64? (first.toInt - total.toInt)
      return .integer difference
  | .less, [left, right] => some (.boolean (left < right))
  | .equal, [left, right] => some (.boolean (left == right))
  | _, _ => none

end Primitive

/-- The values of code: data, primitives, and functions with the frames that they
were made in, the innermost first. A frame binds names to values. -/
inductive Value
  | datum (datum : Datum)
  | primitive (primitive : Primitive)
  | closure
      (parameters : List String)
      (bodies : List Datum)
      (frames : List (List (String × Value)))

/-- Names bound to values, in the order in which they were bound. -/
abbrev Frame := List (String × Value)

namespace Frame

/-- The value of a name in a frame: the one it was bound to last. -/
def find? (name : String) : Frame -> Option Value
  | [] => none
  | (bound, value) :: frame =>
      (find? name frame).or (if bound = name then some value else none)

end Frame

/-- The value of a name in the innermost frame that binds it. -/
def lookup? (name : String) : List Frame -> Option Value
  | [] => none
  | frame :: frames => (Frame.find? name frame).or (lookup? name frames)

/-- The frame of the primitives. -/
def globals : Frame :=
  Primitive.all.map fun primitive => (primitive.name, .primitive primitive)

namespace Value

/-- The only value that a conditional takes for false. -/
def falsehood : Value :=
  .datum (.boolean false)

/-- The value of nothing. -/
def nothing : Value :=
  .datum (.list [])

/-- The integer that a value is. -/
def integer? : Value -> Option Int64
  | .datum (.integer number) => some number
  | _ => none

/-- The last of some values, nothing if there are none. -/
def last (values : List Value) : Value :=
  values.getLast?.getD nothing

end Value

namespace Primitive

/-- The result of a primitive for values, which must all be integers. -/
def result?
    (primitive : Primitive)
    (arguments : List Value) : Option Datum :=
  (arguments.mapM Value.integer?).bind primitive.onIntegers?

end Primitive

/-- The ways in which combinations are evaluated. -/
inductive Rule
  | quote
  | conditional
  | lambda
  | letForm
  | application
  deriving DecidableEq

namespace Rule

/-- How a combination headed by a name is evaluated. -/
def ofName (name : String) : Rule :=
  match Form.ofKeyword? name with
  | some .quote => .quote
  | some .lambda => .lambda
  | some .letForm => .letForm
  | some .mu | some .define => .application
  | none => if name = "if" then .conditional else .application

/-- How a combination with the given head is evaluated. -/
def ofHead : Datum -> Rule
  | .symbol name => ofName name
  | _ => .application

end Rule

/-- The name and the value expression of a binding. A name is the printed form of
whatever stands first. -/
def binding? : Datum -> Option (String × Datum)
  | .list (name :: value :: _) => some (name.text, value)
  | _ => none

mutual

/-- Code has a value in a chain of frames. -/
inductive Evaluates : List Frame -> Datum -> Value -> Prop
  | symbol
      {frames : List Frame}
      {name : String}
      {value : Value}
      (bound : lookup? name frames = some value) :
      Evaluates frames (.symbol name) value
  | constant
      {frames : List Frame}
      {datum : Datum}
      (atom : datum.isAtom = true)
      (noSymbol : datum.asSymbol? = none) :
      Evaluates frames datum (.datum datum)
  | quote
      {frames : List Frame}
      {head operand : Datum}
      {others : List Datum}
      (rule : Rule.ofHead head = .quote) :
      Evaluates frames (.list (head :: operand :: others)) (.datum operand)
  | consequent
      {frames : List Frame}
      {head test chosen : Datum}
      {others : List Datum}
      {outcome value : Value}
      (rule : Rule.ofHead head = .conditional)
      (tested : Evaluates frames test outcome)
      (holds : outcome ≠ .falsehood)
      (result : Evaluates frames chosen value) :
      Evaluates frames (.list (head :: test :: chosen :: others)) value
  | alternative
      {frames : List Frame}
      {head test passed chosen : Datum}
      {others : List Datum}
      {value : Value}
      (rule : Rule.ofHead head = .conditional)
      (tested : Evaluates frames test .falsehood)
      (result : Evaluates frames chosen value) :
      Evaluates frames (.list (head :: test :: passed :: chosen :: others))
        value
  | noAlternative
      {frames : List Frame}
      {head test : Datum}
      {others : List Datum}
      (rule : Rule.ofHead head = .conditional)
      (tested : Evaluates frames test .falsehood)
      (short : others.length ≤ 1) :
      Evaluates frames (.list (head :: test :: others)) .nothing
  | lambda
      {frames : List Frame}
      {head : Datum}
      {parameters bodies : List Datum}
      {names : List String}
      (rule : Rule.ofHead head = .lambda)
      (named : parameters.mapM Datum.asSymbol? = some names) :
      Evaluates frames (.list (head :: .list parameters :: bodies))
        (.closure names bodies frames)
  | letForm
      {frames : List Frame}
      {head : Datum}
      {bindings bodies : List Datum}
      {pairs : List (String × Datum)}
      {values results : List Value}
      (rule : Rule.ofHead head = .letForm)
      (read : bindings.mapM binding? = some pairs)
      (bound : EvaluatesAll frames (pairs.map Prod.snd) values)
      (done : EvaluatesAll ((pairs.map Prod.fst).zip values :: frames) bodies
        results) :
      Evaluates frames (.list (head :: .list bindings :: bodies))
        (.last results)
  | primitive
      {frames : List Frame}
      {head : Datum}
      {operands : List Datum}
      {procedure : Primitive}
      {arguments : List Value}
      {result : Datum}
      (rule : Rule.ofHead head = .application)
      (called : Evaluates frames head (.primitive procedure))
      (given : EvaluatesAll frames operands arguments)
      (applied : procedure.result? arguments = some result) :
      Evaluates frames (.list (head :: operands)) (.datum result)
  | call
      {frames captured : List Frame}
      {head : Datum}
      {operands bodies : List Datum}
      {names : List String}
      {arguments results : List Value}
      (rule : Rule.ofHead head = .application)
      (called : Evaluates frames head (.closure names bodies captured))
      (given : EvaluatesAll frames operands arguments)
      (arity : names.length = arguments.length)
      (done : EvaluatesAll (names.zip arguments :: captured) bodies results) :
      Evaluates frames (.list (head :: operands)) (.last results)

/-- Pieces of code have values in a chain of frames, in order. -/
inductive EvaluatesAll : List Frame -> List Datum -> List Value -> Prop
  | nil
      {frames : List Frame} :
      EvaluatesAll frames [] []
  | cons
      {frames : List Frame}
      {item : Datum}
      {items : List Datum}
      {value : Value}
      {values : List Value}
      (first : Evaluates frames item value)
      (others : EvaluatesAll frames items values) :
      EvaluatesAll frames (item :: items) (value :: values)

end

/-- Code has a datum as its value where nothing but the primitives is bound. -/
def EvaluatesTo
    (code result : Datum) : Prop :=
  Evaluates [globals] code (.datum result)

end Evaluation
end SExpr
