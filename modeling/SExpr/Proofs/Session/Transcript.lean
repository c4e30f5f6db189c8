import SExpr.Session.Run

/-!
# What a session writes

A session is a fold over its lines. Each line up to the first one that asks for the end
has one turn, and the turn depends on nothing but the line, its number and the history:
the answers are those of `respond` to what is entered, one after the other, whatever was
entered before. Blank lines enter nothing but are counted, so that the prompts are
numbered one by one. A logger writes between the errors and changes nothing else.
-/

namespace SExpr
namespace Session

/-- The lines before the first one that asks for the end of the session. -/
def answered (lines : List (List Char)) : List (List Char) :=
  lines.takeWhile fun line =>
    Unicode.trim line ≠ ".exit".toList ∧ Unicode.trim line ≠ "(exit)".toList

/-- The lines up to the first one that asks for the end of the session, that one
included. -/
def reached (lines : List (List Char)) : List (List Char) :=
  lines.take ((answered lines).length + 1)

/-- What is entered with lines: their texts without the white space around them, but
nothing with a blank line. -/
def entered (lines : List (List Char)) : List (List Char) :=
  (lines.map Unicode.trim).filter (· ≠ [])

/-- The output for entered text: the lines of its answer, and nothing for an error. -/
def outputOf (text : List Char) : List Char :=
  match respond text with
  | .ok lines => lines.flatMap fun line => line ++ ['\n']
  | .error _ => []

/-- The error output for entered text: nothing for an answer, and for an error one line,
the word before its message bold and red. -/
def errorsOf (text : List Char) : List Char :=
  match respond text with
  | .ok _ => []
  | .error error =>
      "\x1b[1m\x1b[31mError:\x1b[39m\x1b[0m ".toList ++ error.message.toList ++ ['\n']

/-- The history after a line: a blank line is not entered in it. -/
def remember
    (history : History)
    (line : List Char) : History :=
  if Unicode.trim line = [] then history else history.add line

section Answer

variable {text : List Char} {lines : List (List Char)}

theorem outputOf_of_respond
    (answered : respond text = .ok lines) :
    outputOf text = unlines lines := by
  rw [outputOf, answered]
  rfl

theorem errorsOf_of_respond
    (answered : respond text = .ok lines) :
    errorsOf text = [] := by
  rw [errorsOf, answered]

end Answer

theorem answer_eq (text : List Char) :
    answer text = (outputOf text, errorsOf text) := by
  unfold answer outputOf errorsOf
  cases respond text <;> rfl

/-! ## One turn -/

theorem not_mem_exitWords_iff (text : List Char) :
    text ∉ exitWords ↔ text ≠ ".exit".toList ∧ text ≠ "(exit)".toList := by
  simp [exitWords]

/-- A line that does not ask for the end has its answer, and the session goes on with
the next number. -/
theorem turn_of_not_exit
    {line : List Char}
    (notExit : Unicode.trim line ∉ exitWords)
    (state : State) :
    turn state (.text line) =
      ⟨(entered [line]).flatMap outputOf, (entered [line]).flatMap errorsOf,
        ⟨state.number + 1, remember state.history line⟩, false⟩ := by
  unfold turn remember entered
  by_cases blank : Unicode.trim line = []
  · simp [blank]
  · simp [blank, notExit, answer_eq]

/-- A line that asks for the end is entered in the history. -/
theorem turn_of_exit
    {line : List Char}
    (exit : Unicode.trim line ∈ exitWords)
    (state : State) :
    turn state (.text line) =
      ⟨farewell, [], ⟨state.number + 1, remember state.history line⟩, true⟩ := by
  have notBlank : Unicode.trim line ≠ [] := by
    intro blank
    rw [blank] at exit
    exact absurd exit (by decide)
  simp [turn, remember, notBlank, exit]

/-! ## All turns -/

section Lines

variable {line : List Char} {lines : List (List Char)}

@[simp] theorem answered_nil : answered [] = [] := rfl

@[simp] theorem reached_nil : reached [] = [] := rfl

theorem answered_cons_of_not_exit
    (notExit : Unicode.trim line ∉ exitWords) :
    answered (line :: lines) = line :: answered lines := by
  rw [answered, List.takeWhile_cons_of_pos]
  · rfl
  · exact decide_eq_true ((not_mem_exitWords_iff _).mp notExit)

theorem answered_cons_of_exit
    (exit : Unicode.trim line ∈ exitWords) :
    answered (line :: lines) = [] := by
  rw [answered, List.takeWhile_cons_of_neg]
  rw [decide_eq_true_iff, ← not_mem_exitWords_iff]
  exact not_not_intro exit

theorem reached_cons_of_not_exit
    (notExit : Unicode.trim line ∉ exitWords) :
    reached (line :: lines) = line :: reached lines := by
  rw [reached, answered_cons_of_not_exit notExit, List.length_cons, List.take_succ_cons]
  rfl

theorem reached_cons_of_exit
    (exit : Unicode.trim line ∈ exitWords) :
    reached (line :: lines) = [line] := by
  rw [reached, answered_cons_of_exit exit]
  rfl

end Lines

theorem entered_cons
    (line : List Char)
    (lines : List (List Char)) :
    entered (line :: lines) = entered [line] ++ entered lines := by
  rw [entered, entered, entered, ← List.filter_append]
  rfl

/-! ## The loop -/

section Loop

variable {m : Type -> Type} [Monad m] [LawfulMonad m]

/-- At the end of the lines the session prompts once more and says farewell. -/
theorem resume_nil
    (console : Console m)
    (log : Log)
    (prompting : Bool)
    (state : State) :
    resume console log prompting state ([] : List Line) = (do
      console.write (prompt prompting state.number)
      console.writeError (log state.number)
      console.write farewell
      return ⟨state.history, exitStatus⟩) := by
  simp [resume]

/-- A line is prompted for and has its turn, and the others are left to the state after
it if it does not finish the session. -/
theorem resume_cons
    (console : Console m)
    (log : Log)
    (prompting : Bool)
    (state : State)
    (line : Line)
    (lines : List Line) :
    resume console log prompting state (line :: lines) = (do
      console.write (prompt prompting state.number)
      console.writeError (log state.number)
      console.write (turn state line).output
      console.writeError (turn state line).errors
      if (turn state line).finished then
        return ⟨(turn state line).state.history, exitStatus⟩
      else
        resume console log prompting (turn state line).state lines) := by
  unfold resume
  cases finished : (turn state line).finished <;> simp [finished]

end Loop

/-- What the loop writes after what was written before, and what is left in the end. With
each line it writes its prompt and its answer, and at the end one more prompt, for the
line that asks for the end or for the end of the lines. The history has every line up to
the one that asks for the end. -/
theorem resume_text
    (log : Log)
    (prompting : Bool)
    (state : State)
    (lines : List (List Char))
    (written : Written) :
    (resume Console.keeping log prompting state (lines.map Line.text)).run written =
      pure (⟨(reached lines).foldl remember state.history, exitStatus⟩,
        ⟨written.output ++
            (((answered lines).zipIdx state.number).flatMap
                (fun (line, number) =>
                  prompt prompting number ++ (entered [line]).flatMap outputOf) ++
              (prompt prompting (state.number + (answered lines).length) ++ farewell)),
          written.errors ++
            (((answered lines).zipIdx state.number).flatMap
                (fun (line, number) => log number ++ (entered [line]).flatMap errorsOf) ++
              log (state.number + (answered lines).length))⟩) := by
  induction lines generalizing state written with
  | nil =>
      rw [List.map_nil, resume_nil]
      simp
  | cons line lines inductionHypothesis =>
      rw [List.map_cons, resume_cons]
      by_cases exit : Unicode.trim line ∈ exitWords
      · rw [turn_of_exit exit, answered_cons_of_exit exit, reached_cons_of_exit exit]
        simp
      · rw [turn_of_not_exit exit, answered_cons_of_not_exit exit,
          reached_cons_of_not_exit exit]
        simp [inductionHypothesis, Nat.add_assoc, Nat.add_comm 1]

/-- What is written for each line is written for what is entered, one after the other. -/
theorem flatMap_zipIdx_entered
    (write : List Char -> List Char)
    (lines : List (List Char))
    (number : Nat) :
    (lines.zipIdx number).flatMap (fun (line, _) => (entered [line]).flatMap write) =
      (entered lines).flatMap write := by
  induction lines generalizing number with
  | nil => rfl
  | cons line lines inductionHypothesis =>
      rw [List.zipIdx_cons, List.flatMap_cons, inductionHypothesis, entered_cons,
        List.flatMap_append]

/-! ## Transcripts -/

/-- The transcript beside any logger, which writes to the error output before the first
line and before the answer to each line. -/
theorem runLogged_text
    (log : Log)
    (prompting : Bool)
    (history : History)
    (lines : List (List Char)) :
    runLogged log prompting history (lines.map .text) =
      ⟨⟨((answered lines).zipIdx 1).flatMap
            (fun (line, number) =>
              prompt prompting number ++ (entered [line]).flatMap outputOf) ++
          (prompt prompting ((answered lines).length + 1) ++ farewell),
        log 0 ++
          (((answered lines).zipIdx 1).flatMap
              (fun (line, number) => log number ++ (entered [line]).flatMap errorsOf) ++
            log ((answered lines).length + 1))⟩,
      ⟨(reached lines).foldl remember history, exitStatus⟩⟩ := by
  rw [runLogged, hold, StateT.run_bind, Console.run_keeping_writeError, pure_bind,
    resume_text, start, Nat.add_comm 1]
  rfl

section Run

variable (history : History) (lines : List (List Char))

theorem output_runLogged (log : Log) :
    (runLogged log false history (lines.map .text)).output =
      (entered (answered lines)).flatMap outputOf ++ farewell := by
  rw [runLogged_text, ← flatMap_zipIdx_entered outputOf _ 1]
  rfl

theorem errors_run (prompting : Bool) :
    (run prompting history (lines.map .text)).errors =
      (entered (answered lines)).flatMap errorsOf := by
  rw [run, runLogged_text, ← flatMap_zipIdx_entered errorsOf _ 1]
  simp [Log.off]

end Run

/-- A session writes the answers to what is entered with its lines, those before the
first one that asks for the end, one after the other, and then the farewell, and its
status is success. If it prompts, the prompts before its lines and the last one before
the farewell are numbered one by one from one. Its error output has what a logger writes
there, and after that of each line one line for an error: with the logger switched off,
the lines for the errors and nothing else. -/
theorem run_text
    (log : Log)
    (history : History)
    (lines : List (List Char)) :
    (runLogged log false history (lines.map .text)).output =
        (entered (answered lines)).flatMap outputOf ++ "Exiting.\n".toList ∧
      (runLogged log true history (lines.map .text)).output =
        ((answered lines).zipIdx 1).flatMap
            (fun (line, number) =>
              "analyze (".toList ++ Nat.toDigits 10 number ++ ")> ".toList ++
                (entered [line]).flatMap outputOf) ++
          ("analyze (".toList ++ Nat.toDigits 10 ((answered lines).length + 1) ++
              ")> ".toList ++
            "Exiting.\n".toList) ∧
      ∀ prompting,
        (runLogged log prompting history (lines.map .text)).status = 0 ∧
          (runLogged log prompting history (lines.map .text)).errors =
            log 0 ++
              (((answered lines).zipIdx 1).flatMap
                  (fun (line, number) =>
                    log number ++ (entered [line]).flatMap errorsOf) ++
                log ((answered lines).length + 1)) ∧
          (runLogged .off prompting history (lines.map .text)).errors =
            (entered (answered lines)).flatMap errorsOf := by
  refine ⟨output_runLogged history lines log, ?_, fun prompting =>
    ⟨?_, ?_, errors_run history lines prompting⟩⟩
  · rw [runLogged_text]
    rfl
  · rw [runLogged_text]
    rfl
  · rw [runLogged_text]

/-- A blank line, a line that fails, an answer between blanks that are not ASCII, the
line that asks for the end, and a line that is not read. -/
def mixedLines : List (List Char) :=
  ["", "(let ((a)) a)", "\u2003'a\u00a0", "(exit)\t", "b"].map String.toList

/-- A logger that says something before the first line and with the one that fails. -/
def briefLog : Log
  | 0 => "START\n".toList
  | 2 => "ERROR\n".toList
  | _ => []

theorem run_mixedLines :
    (runLogged briefLog false .empty (mixedLines.map .text)).output =
        "(quote a)\nExiting.\n".toList ∧
      (runLogged briefLog true .empty (mixedLines.map .text)).output =
        ("analyze (1)> analyze (2)> analyze (3)> (quote a)\n" ++
          "analyze (4)> Exiting.\n").toList ∧
      ∀ prompting,
        (runLogged briefLog prompting .empty (mixedLines.map .text)).status = 0 ∧
          (runLogged briefLog prompting .empty (mixedLines.map .text)).errors =
            ("START\nERROR\n\x1b[1m\x1b[31mError:\x1b[39m\x1b[0m " ++
              "Malformed 'let' form: bad binding (a)\n").toList ∧
          (runLogged .off prompting .empty (mixedLines.map .text)).errors =
            ("\x1b[1m\x1b[31mError:\x1b[39m\x1b[0m " ++
              "Malformed 'let' form: bad binding (a)\n").toList := by
  obtain ⟨output, prompted, rest⟩ := run_text briefLog .empty mixedLines
  refine ⟨output.trans ?_, prompted.trans ?_, fun prompting => ?_⟩
  · decide +kernel
  · decide +kernel
  · obtain ⟨status, logged, errors⟩ := rest prompting
    refine ⟨status, logged.trans ?_, errors.trans ?_⟩
    · decide +kernel
    · decide +kernel

end Session
end SExpr
