import SExpr.Reader.Trivia

/-!
# Readers

A reader takes a value from the start of a text. It may also refuse the text,
so that something else can be tried at the same place, or fail, which ends all
reading at once. Every value that a reader takes uses up some of the text; with
this the repetition of a reader ends on every text.
-/

namespace SExpr

/-- The faults that end all reading. -/
inductive FailureCause
  | integerOutOfRange
  | nestingTooDeep
  | exponentWithoutDigits
  deriving DecidableEq

/-- A fault that ends all reading, with the text at the place of the fault. -/
structure Failure where
  cause : FailureCause
  place : List Char
  deriving DecidableEq

/-- What reading at the start of a text leads to: a value and the text after
it, a refusal with the text at the place where the last alternative gave up, or
a failure. -/
inductive Reading (α : Type)
  | taken (value : α) (rest : List Char)
  | refused (place : List Char)
  | failed (failure : Failure)
  deriving DecidableEq

/-- A way of reading values that uses up some of the text for each one. -/
structure Reader (α : Type) where
  run : List Char -> Reading α
  shortens : ∀ {text value rest},
    run text = .taken value rest -> rest.length < text.length

namespace Reader

/-- Read as many values as there are, with blanks and comments before each. The
text that is left starts before the blanks and comments that no value follows. -/
def many
    (reader : Reader α)
    (text : List Char) : Except Failure (List α × List Char) :=
  match _outcome : reader.run (skip text) with
  | .taken value rest => do
      let (values, after) <- many reader rest
      return (value :: values, after)
  | .refused _ => .ok ([], text)
  | .failed failure => .error failure
termination_by text.length
decreasing_by
  have := reader.shortens _outcome
  have := length_skip_le text
  omega

/-- When the first value is taken, the others are read from the text after it. -/
theorem many_of_taken
    {reader : Reader α}
    {text : List Char}
    {value : α}
    {rest : List Char}
    (outcome : reader.run (skip text) = .taken value rest) :
    reader.many text =
      (reader.many rest).map fun (values, after) => (value :: values, after) := by
  rw [many]
  split
  · next value' rest' outcome' =>
      obtain ⟨rfl, rfl⟩ : value' = value ∧ rest' = rest := by
        simpa using outcome'.symm.trans outcome
      cases reader.many rest' <;> rfl
  · next outcome' => simp [outcome] at outcome'
  · next outcome' => simp [outcome] at outcome'

/-- When the first value is refused, there are none. -/
theorem many_of_refused
    {reader : Reader α}
    {text place : List Char}
    (outcome : reader.run (skip text) = .refused place) :
    reader.many text = .ok ([], text) := by
  rw [many]
  split <;> simp_all

/-- When reading the first value fails, reading all of them fails. -/
theorem many_of_failed
    {reader : Reader α}
    {text : List Char}
    {failure : Failure}
    (outcome : reader.run (skip text) = .failed failure) :
    reader.many text = .error failure := by
  rw [many]
  split <;> simp_all

/-- What repetition leaves is no longer than the text. -/
theorem length_many_le
    (reader : Reader α)
    {text : List Char}
    {values : List α}
    {rest : List Char}
    (read : reader.many text = .ok (values, rest)) :
    rest.length ≤ text.length := by
  induction size : text.length using Nat.strongRecOn generalizing text values rest with
  | ind size inductionHypothesis =>
      match outcome : reader.run (skip text) with
      | .refused place =>
          rw [many_of_refused outcome] at read
          grind
      | .failed failure =>
          rw [many_of_failed outcome] at read
          simp at read
      | .taken value after =>
          have shorter := reader.shortens outcome
          have skipped := length_skip_le text
          rw [many_of_taken outcome] at read
          match others : reader.many after with
          | .error failure => simp [others, Except.map] at read
          | .ok (values', rest') =>
              have bound := inductionHypothesis after.length (by omega) others rfl
              simp only [others, Except.map, Except.ok.injEq, Prod.mk.injEq] at read
              obtain ⟨_, rfl⟩ := read
              omega

end Reader
end SExpr
