import SExpr.CommandLine.Command
import SExpr.Proofs.Reader.WhiteSpace
import SExpr.Proofs.Session.Transcript
import SExpr.Proofs.Source.Replay
import SExpr.Proofs.Text.Utf8

/-!
# Sessions and source files

Lines that are accepted one by one can be entered in a session or be the lines of a
source file: what is written is the same. The session answers each line without the
white space around it, which changes none of its data, and the file is read as the data
of its lines one after the other.
-/

namespace SExpr

/-! ## Answers to lines -/

section Lines

variable {line : List Char} {lines : List (List Char)} {answer : List (List Char)}

/-- The white space around a line without carriage returns does not matter to its
answer. -/
theorem respond_trim
    (noReturn : '\r' ∉ line)
    (answered : respond line = .ok answer) :
    respond (Unicode.trim line) = .ok answer := by
  obtain ⟨data, results, read, rewritten, printed⟩ := respond_eq_ok_iff.mp answered
  exact respond_eq_ok_iff.mpr
    ⟨data, results, readProgram_trim noReturn read, rewritten, printed⟩

/-- The answer to a line and a text after it is the answer to the line and then the
answer to the text. -/
theorem respond_append_line
    {text : List Char}
    {others : List (List Char)}
    (answered : respond line = .ok answer)
    (answeredNext : respond text = .ok others) :
    respond (line ++ '\n' :: text) = .ok (answer ++ others) := by
  obtain ⟨data, results, read, rewritten, rfl⟩ := respond_eq_ok_iff.mp answered
  obtain ⟨dataNext, resultsNext, readNext, rewrittenNext, rfl⟩ :=
    respond_eq_ok_iff.mp answeredNext
  exact respond_eq_ok_iff.mpr ⟨data ++ dataNext, results ++ resultsNext,
    readProgram_append_line_of_ok read readNext,
    List.rel_append rewritten rewrittenNext, List.map_append.symm⟩

/-- Lines that have answers are together a source that has them all, one after the
other. -/
theorem exists_respond_intercalate
    (accepted : ∀ line ∈ lines, ∃ answer, respond line = .ok answer) :
    ∃ answers, respond (['\n'].intercalate lines) = .ok answers ∧
      unlines answers = lines.flatMap Session.outputOf := by
  induction lines with
  | nil => exact ⟨[], by decide +kernel, rfl⟩
  | cons line lines inductionHypothesis =>
      rw [List.forall_mem_cons] at accepted
      obtain ⟨⟨answer, answered⟩, accepted⟩ := accepted
      have written := Session.outputOf_of_respond answered
      match lines with
      | [] =>
          refine ⟨answer, ?_, ?_⟩
          · rw [List.intercalate_singleton]
            exact answered
          · rw [List.flatMap_singleton, written]
      | second :: lines =>
          obtain ⟨answers, answeredNext, same⟩ := inductionHypothesis accepted
          refine ⟨answer ++ answers, ?_, ?_⟩
          · rw [List.intercalate_cons_cons, List.append_assoc, List.singleton_append]
            exact respond_append_line answered answeredNext
          · rw [unlines_append, List.flatMap_cons, written, same]

end Lines

namespace Session

/-! ## What is entered -/

/-- Blank lines may be taken for entered as well where nothing is written for an empty
text. -/
theorem flatMap_entered
    {write : List Char -> List Char}
    (blank : write [] = [])
    (lines : List (List Char)) :
    (entered lines).flatMap write =
      lines.flatMap fun line => write (Unicode.trim line) := by
  induction lines with
  | nil => rfl
  | cons line lines inductionHypothesis =>
      rw [entered_cons, List.flatMap_append, inductionHypothesis, List.flatMap_cons]
      congr 1
      by_cases isBlank : Unicode.trim line = []
      · simp [entered, isBlank, blank]
      · simp [entered, isBlank]

/-- All lines are answered if none asks for the end. -/
theorem answered_eq_self
    {lines : List (List Char)}
    (notExit : ∀ line ∈ lines, Unicode.trim line ∉ exitWords) :
    answered lines = lines := by
  rw [answered, List.takeWhile_eq_self_iff]
  intro line member
  exact decide_eq_true ((not_mem_exitWords_iff _).mp (notExit line member))

/-- A line that has an answer asks for the end in only one of the two ways, as the word
of the other one is no datum. -/
theorem not_mem_exitWords_of_respond
    {text : List Char}
    {answer : List (List Char)}
    (answered : respond text = .ok answer)
    (notExit : text ≠ "(exit)".toList) :
    text ∉ exitWords := by
  have unanswered : (respond ".exit".toList).isOk = false := by
    decide +kernel
  refine (not_mem_exitWords_iff text).mpr ⟨?_, notExit⟩
  rintro rfl
  rw [answered] at unanswered
  cases unanswered

/-- A session on lines that have answers writes these answers, unless a line is the list
that asks for the end, and there are no errors. -/
theorem run_of_respond
    {lines : List (List Char)}
    (noReturn : ∀ line ∈ lines, '\r' ∉ line)
    (notExit : ∀ line ∈ lines, Unicode.trim line ≠ "(exit)".toList)
    (accepted : ∀ line ∈ lines, ∃ answer, respond line = .ok answer)
    (history : History) :
    (run false history (lines.map .text)).output =
        lines.flatMap outputOf ++ farewell ∧
      ∀ prompting, (run prompting history (lines.map .text)).errors = [] := by
  have respondTrim (line : List Char) (member : line ∈ lines) :
      ∃ answer, respond line = .ok answer ∧
        respond (Unicode.trim line) = .ok answer := by
    obtain ⟨answer, answered⟩ := accepted line member
    exact ⟨answer, answered, respond_trim (noReturn line member) answered⟩
  have noneExits : answered lines = lines := by
    refine answered_eq_self fun line member => ?_
    obtain ⟨answer, -, answered⟩ := respondTrim line member
    exact not_mem_exitWords_of_respond answered (notExit line member)
  have outputs : (entered lines).flatMap outputOf = lines.flatMap outputOf := by
    rw [flatMap_entered (by decide +kernel)]
    refine List.flatMap_congr fun line member => ?_
    obtain ⟨answer, answered, answeredTrim⟩ := respondTrim line member
    rw [outputOf_of_respond answered, outputOf_of_respond answeredTrim]
  have errors : (entered lines).flatMap errorsOf = [] := by
    rw [flatMap_entered (by decide +kernel), List.flatMap_eq_nil_iff]
    intro line member
    obtain ⟨answer, -, answeredTrim⟩ := respondTrim line member
    exact errorsOf_of_respond answeredTrim
  refine ⟨?_, fun prompting => ?_⟩
  · rw [run, output_runLogged, noneExits, outputs]
  · rw [errors_run, noneExits, errors]

/-! ## Source files -/

/-- A source file is answered as a source if its text has an answer. -/
theorem run_rewrite_file
    {readFile : List Char -> Option (List UInt8)}
    {path source : List Char}
    {answers : List (List Char)}
    (onFile : readFile path = some (Utf8.encode source))
    (answered : respond source = .ok answers) :
    Command.run readFile (.rewrite (.file path)) = .ok (unlines answers) := by
  rw [Command.run, onFile, Option.bind_some, Utf8.text?_encode]
  simp only [Command.rewriteText, answered]
  rfl

/-- A session on lines that are accepted one by one, none of which is the list that
asks for the end, writes what is written for a source file of these lines, and nothing
to the error output. -/
theorem output_eq_file_output
    {lines : List (List Char)}
    {readFile : List Char -> Option (List UInt8)}
    {path : List Char}
    (noReturn : ∀ line ∈ lines, '\r' ∉ line)
    (notExit : ∀ line ∈ lines, Unicode.trim line ≠ "(exit)".toList)
    (accepted : ∀ line ∈ lines, ∃ results, rewriteSource line = .ok results)
    (onFile : readFile path = some (Utf8.encode (['\n'].intercalate lines)))
    (history : History) :
    ∃ output,
      Command.run readFile (.rewrite (.file path)) = .ok output ∧
        (run false history (lines.map .text)).output = output ++ farewell ∧
        ∀ prompting, (run prompting history (lines.map .text)).errors = [] := by
  have respondAll : ∀ line ∈ lines, ∃ answer, respond line = .ok answer := by
    intro line member
    obtain ⟨results, rewritten⟩ := accepted line member
    exact ⟨results.map Datum.written, by rw [respond, rewritten]; rfl⟩
  obtain ⟨answers, answered, written⟩ := exists_respond_intercalate respondAll
  obtain ⟨output, errors⟩ := run_of_respond noReturn notExit respondAll history
  refine ⟨unlines answers, run_rewrite_file onFile answered, ?_, errors⟩
  rw [output, written]

/-- A form after a tab and before a comment, a blank line, a comment on its own, and two
data. Both comments end in white space that is no blank. -/
def notedLines : List (List Char) :=
  ["\t(let ((x 'a)) x);now\u00a0", " ", ";more\u2003", "1 '()"].map String.toList

theorem output_notedLines :
    Command.run (fun _ => some (Utf8.encode (['\n'].intercalate notedLines)))
          (.rewrite (.file ['f'])) =
        .ok "((lambda (x) x) (quote a))\n1\n(quote ())\n".toList ∧
      (run false .empty (notedLines.map .text)).output =
        "((lambda (x) x) (quote a))\n1\n(quote ())\n".toList ++ farewell ∧
      ∀ prompting, (run prompting .empty (notedLines.map .text)).errors = [] := by
  have accepted (line : List Char) (member : line ∈ notedLines) :
      ∃ results, rewriteSource line = .ok results := by
    have isOk : ∀ line ∈ notedLines, (rewriteSource line).isOk = true := by
      decide +kernel
    have here := isOk line member
    cases outcome : rewriteSource line with
    | ok results => exact ⟨results, rfl⟩
    | error error =>
        rw [outcome] at here
        cases here
  have computed :
      Command.run (fun _ => some (Utf8.encode (['\n'].intercalate notedLines)))
          (.rewrite (.file ['f'])) =
        .ok "((lambda (x) x) (quote a))\n1\n(quote ())\n".toList := by
    decide +kernel
  obtain ⟨output, fromFile, fromSession, noErrors⟩ :=
    @output_eq_file_output notedLines
      (fun _ => some (Utf8.encode (['\n'].intercalate notedLines))) ['f']
      (by decide) (by decide) accepted rfl .empty
  obtain rfl := Except.ok.inj (fromFile.symm.trans computed)
  exact ⟨computed, fromSession, noErrors⟩

end Session
end SExpr
