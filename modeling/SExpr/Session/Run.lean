import SExpr.Session.History
import SExpr.Unicode.WhiteSpace

/-!
# Sessions

A session answers lines one by one. A blank line has no answer. Every other
line goes into the history, and its answer is the rewritten data in it, one to
a line of output, or an error. Lines are answered each on its own: nothing but
the history and the number of the next line is carried from one to the next.

The session ends at a line that asks for it, at the end of the lines, or at a
line that cannot be decoded.

What is written goes to a console, which may be a terminal or a record of what
is written. The error output is shared with a logger. A transcript is what a
session leaves on a console that keeps it.
-/

namespace SExpr

/-- What is written to the output and to the errors. -/
structure Written where
  output : List Char
  errors : List Char
  deriving DecidableEq

/-- What is left of a session: the history after it, and its exit status. -/
structure Ending where
  history : History
  status : UInt32
  deriving DecidableEq

/-- What a session writes, and what is left of it. -/
structure Transcript extends Written, Ending
  deriving DecidableEq

/-- Where a session writes to. -/
structure Console (m : Type -> Type) where
  write : List Char -> m Unit
  writeError : List Char -> m Unit

namespace Console

/-- The console that keeps what is written. -/
def keeping : Console (StateM Written) where
  write text :=
    modify fun written => { written with output := written.output ++ text }
  writeError text :=
    modify fun written => { written with errors := written.errors ++ text }

@[simp] theorem run_keeping_write
    (text : List Char)
    (written : Written) :
    (keeping.write text).run written =
      pure ((), ⟨written.output ++ text, written.errors⟩) := rfl

@[simp] theorem run_keeping_writeError
    (text : List Char)
    (written : Written) :
    (keeping.writeError text).run written =
      pure ((), ⟨written.output, written.errors ++ text⟩) := rfl

end Console

/-- What a logger writes to the error output of a session: at zero what it writes
before the first line, and at the number of a line what it writes until this
line is answered. The end of the lines has a number as well. -/
def Log : Type :=
  Nat -> List Char

/-- The logger that is switched off. -/
def Log.off : Log :=
  fun _ => []

namespace Session

/-- The words that end a session. -/
def exitWords : List (List Char) :=
  [".exit".toList, "(exit)".toList]

/-- The line that a session ends with. -/
def farewell : List Char :=
  "Exiting.\n".toList

/-- What is written before the line of the given number is read, if the session
prompts. -/
def prompt
    (prompting : Bool)
    (number : Nat) : List Char :=
  if prompting then
    "analyze (".toList ++ Nat.toDigits 10 number ++ ")> ".toList
  else
    []

/-- A heading for errors, bold and red. -/
def errorHeading (heading : String) : List Char :=
  ("\x1b[1m\x1b[31m" ++ heading ++ ":\x1b[39m\x1b[0m ").toList

/-- The line of the error output for an error. -/
def errorLine (error : Error) : List Char :=
  errorHeading "Error" ++ error.message.toList ++ ['\n']

/-- The line of the error output for a line that cannot be decoded. -/
def malformedLine : List Char :=
  errorHeading "Readline error" ++
    ("Io(Error \x7b kind: InvalidData, message: " ++
      "\"stream did not contain valid UTF-8\" \x7d)\n").toList

/-- What is carried from one line to the next. -/
structure State where
  number : Nat
  history : History
  deriving DecidableEq

/-- What one line leads to: what is written, what is carried on, and whether
the session is finished. -/
structure Turn where
  output : List Char
  errors : List Char
  state : State
  finished : Bool
  deriving DecidableEq

/-- What the answer to entered text writes to the output and to the errors. -/
def answer (entered : List Char) : List Char × List Char :=
  match respond entered with
  | .ok lines => (unlines lines, [])
  | .error error => ([], errorLine error)

/-- The turn of one line. The history gets the line as it is, and the answer is
to the line without the white space around it. -/
def turn
    (state : State) : Line -> Turn
  | .malformed => ⟨[], malformedLine, state, true⟩
  | .text line =>
      let entered := Unicode.trim line
      let next : State := ⟨state.number + 1, state.history.add line⟩
      if entered = [] then
        ⟨[], [], { state with number := state.number + 1 }, false⟩
      else if entered ∈ exitWords then
        ⟨farewell, [], next, true⟩
      else
        ⟨(answer entered).1, (answer entered).2, next, false⟩

/-- The state at the start of a session, with the history of earlier ones. -/
def start (history : History) : State :=
  ⟨1, history⟩

/-- The exit status after a session: success, whatever was answered. -/
def exitStatus : UInt32 :=
  0

section Loop

variable {m : Type -> Type} [Monad m] {ρ : Type} [ForIn m ρ Line]

/-- Go on with a session: a prompt and a turn for each line, and a prompt at the
end of the lines. The lines may be at hand or come as they are asked for. -/
def resume
    (console : Console m)
    (log : Log)
    (prompting : Bool)
    (state : State)
    (lines : ρ) : m Ending := do
  let mut state := state
  console.write (prompt prompting state.number)
  for line in lines do
    let taken := turn state line
    console.writeError (log state.number)
    console.write taken.output
    console.writeError taken.errors
    if taken.finished then
      return ⟨taken.state.history, exitStatus⟩
    state := taken.state
    console.write (prompt prompting state.number)
  console.writeError (log state.number)
  console.write farewell
  return ⟨state.history, exitStatus⟩

/-- Hold a session on lines of input, with the history of earlier ones. -/
def hold
    (console : Console m)
    (log : Log)
    (prompting : Bool)
    (history : History)
    (lines : ρ) : m Ending := do
  console.writeError (log 0)
  resume console log prompting (start history) lines

end Loop

/-- The transcript of a session beside a logger. -/
def runLogged
    (log : Log)
    (prompting : Bool)
    (history : History)
    (lines : List Line) : Transcript :=
  let (ending, written) :=
    (hold Console.keeping log prompting history lines).run ⟨[], []⟩
  ⟨written, ending⟩

/-- The transcript of a session with the logger switched off. -/
def run
    (prompting : Bool)
    (history : History)
    (lines : List Line) : Transcript :=
  runLogged .off prompting history lines

end Session
end SExpr
