import SExpr.Proofs.Datum.Gap
import SExpr.Proofs.Reader.Layout

/-!
# One run replaced by another

A run of characters between two blanks can be replaced by any other one without a change
to what is read on either side of it. If the run stands in a comment, nothing changes at
all. Otherwise it is a datum of its own in the data that are read, and what is read with
another run in its place is the same data with the datum of that run there. A run that
is no atom but a failure ends all reading: the failure is met at the run and goes
through all lists and quotations around it.

The texts with all the different runs in them are read side by side, as a function of the
run. A reader takes them from before the run to before the run again, or past it.
-/

namespace SExpr
namespace Reader

/-- A text that is one token and no parenthesis or quote mark. -/
structure IsRun (characters : List Char) : Prop where
  nonempty : characters ≠ []
  undelimited : IsUndelimited characters

/-- An atom that is read to its end is a run. -/
theorem isRun_of_readAtom
    {text : List Char}
    {value : Datum}
    (taken : readAtom text = .taken value []) :
    IsRun text where
  nonempty nothing := by
    rw [nothing] at taken
    cases taken
  undelimited := isUndelimited_of_readAtom taken

/-- A text with a run between two blanks. -/
def between (before characters after : List Char) : List Char :=
  before ++ ' ' :: (characters ++ ' ' :: after)

/-- The blank in front of a run is one byte. -/
theorem offset_between (before characters after : List Char) :
    offset (between before characters after) (characters ++ ' ' :: after) =
      Utf8.byteLength before + 1 := by
  have blank : Utf8.byteLength (' ' :: (characters ++ ' ' :: after)) =
      1 + Utf8.byteLength (characters ++ ' ' :: after) := rfl
  unfold offset between
  rw [Utf8.byteLength_append, blank]
  omega

/-- Ends of a text with a run between blanks, one for every run: from before the run,
from the run on, or from a place after it, where the run makes no difference. -/
inductive AroundRun (after : List Char) : (List Char -> List Char) -> Prop
  | before (start : List Char) :
      AroundRun after fun characters => between start characters after
  | onward :
      AroundRun after fun characters => characters ++ ' ' :: after
  | past (text : List Char) :
      AroundRun after fun _ => text

/-! ## Comments around a run -/

section Comments

variable {text : List Char}

/-- A comment that ends before a blank ends there whatever follows the blank. -/
theorem afterComment?_append_blank
    (ended : ∃ character ∈ text, isLineEnd character = true)
    (next : List Char) :
    afterComment? (text ++ ' ' :: next) =
      (afterComment? text).map (· ++ ' ' :: next) := by
  obtain ⟨line, lineEnd, rest, rfl, isEnd, inside⟩ := exists_line_of_isLineEnd ended
  rw [List.append_assoc, afterComment?_append_of_inside inside,
    afterComment?_append_of_inside inside, List.cons_append]
  unfold afterComment?
  rw [dropWhile_lineEnd isEnd, dropWhile_lineEnd isEnd]
  -- A carriage return at the end of the text has a blank after it.
  cases rest with
  | nil => grind
  | cons following more => grind

end Comments

section Around

variable {after : List Char}

theorem IsRun.startsDelimiter_append
    {characters : List Char}
    (run : IsRun characters)
    (next : List Char) :
    startsDelimiter (characters ++ next) = false :=
  startsDelimiter_append_of_not
    (startsDelimiter_eq_false_of_isUndelimited run.nonempty run.undelimited) next

/-- A run in a comment is no line end. -/
theorem IsRun.isLineEnd_eq_false
    {characters : List Char}
    (run : IsRun characters) :
    ∀ character ∈ characters, isLineEnd character = false := by
  intro character member
  have apart := run.undelimited character member
  simp only [delimiters, List.mem_cons, not_or] at apart
  simp [isLineEnd, apart]

/-- A run on the line of a semicolon is in a comment or behind a semicolon that starts
none, whatever the run is. -/
theorem exists_skip_semicolon
    {line : List Char}
    (inside : ∀ character ∈ line, isLineEnd character = false) :
    ∃ rests, AroundRun after rests ∧ ∀ characters, IsRun characters ->
      skip (between (';' :: line) characters after) = rests characters := by
  have comment (characters : List Char) (run : IsRun characters) :
      afterComment? (between line characters after) = afterComment? after := by
    have onLine : ∀ character ∈ line ++ ' ' :: (characters ++ [' ']),
        isLineEnd character = false := by
      simp only [List.forall_mem_append, List.forall_mem_cons]
      exact ⟨inside, by decide, run.isLineEnd_eq_false, by decide, by simp⟩
    rw [← afterComment?_append_of_inside onLine after, between]
    simp
  match found : afterComment? after with
  | some rest =>
      exact ⟨_, .past (skip rest), fun characters run =>
        skip_of_afterComment? ((comment characters run).trans found)⟩
  | none =>
      exact ⟨_, .before (';' :: line), fun characters run =>
        skip_of_afterComment?_eq_none ((comment characters run).trans found)⟩

/-- What is skipped at the start of a text goes up to a place before a run in it, up to
the run, or past it, whatever the run is. -/
theorem exists_skip_between (start : List Char) :
    ∃ rests, AroundRun after rests ∧ ∀ characters, IsRun characters ->
      skip (between start characters after) = rests characters := by
  fun_induction skip start with
  | case1 =>
      refine ⟨_, .onward, fun characters run => ?_⟩
      rw [between, List.nil_append, skip_blank (by decide)]
      exact skip_of_not_delimited (run.startsDelimiter_append _)
  | case2 character rest blank inductionHypothesis =>
      obtain ⟨rests, around, skipped⟩ := inductionHypothesis
      refine ⟨rests, around, fun characters run => ?_⟩
      rw [between, List.cons_append, skip_blank blank]
      exact skipped characters run
  | case3 rest following found notBlank inductionHypothesis =>
      by_cases ended : ∃ character ∈ rest, isLineEnd character = true
      · obtain ⟨rests, around, skipped⟩ := inductionHypothesis
        refine ⟨rests, around, fun characters run => ?_⟩
        have foundBefore := afterComment?_append_blank ended (characters ++ ' ' :: after)
        rw [found] at foundBefore
        rw [between, List.cons_append, skip_of_afterComment? foundBefore]
        exact skipped characters run
      · exact exists_skip_semicolon (by simpa using ended)
  | case4 rest notFound notBlank =>
      by_cases ended : ∃ character ∈ rest, isLineEnd character = true
      · refine ⟨_, .before (';' :: rest), fun characters _ => ?_⟩
        have foundBefore := afterComment?_append_blank ended (characters ++ ' ' :: after)
        rw [notFound] at foundBefore
        exact skip_of_afterComment?_eq_none foundBefore
      · exact exists_skip_semicolon (by simpa using ended)
  | case5 character rest notBlank notComment =>
      refine ⟨_, .before (character :: rest), fun characters _ => ?_⟩
      exact skip_cons (by simpa using notBlank) notComment _

/-- What is skipped at the start of texts around a run leaves texts around a run. -/
theorem AroundRun.exists_skip
    {texts : List Char -> List Char}
    (around : AroundRun after texts) :
    ∃ rests, AroundRun after rests ∧ ∀ characters, IsRun characters ->
      skip (texts characters) = rests characters := by
  cases around with
  | before start => exact exists_skip_between start
  | onward =>
      exact ⟨_, .onward, fun characters run =>
        skip_of_not_delimited (run.startsDelimiter_append _)⟩
  | past text => exact ⟨_, .past (skip text), fun _ _ => rfl⟩

/-! ## The first character of a text around a run -/

section First

variable {texts : List Char -> List Char}
variable {one : List Char}

/-- A parenthesis or a quote mark at the start of one text is at the start of all. -/
theorem AroundRun.exists_cons
    (around : AroundRun after texts)
    (run : IsRun one)
    {character : Char}
    {rest : List Char}
    (delimiter : character ∈ delimiters)
    (notBlank : isBlank character = false)
    (start : texts one = character :: rest) :
    ∃ rests, AroundRun after rests ∧ rests one = rest ∧
      ∀ characters, texts characters = character :: rests characters := by
  cases around with
  | before before =>
      match before with
      | [] =>
          obtain ⟨rfl, -⟩ := List.cons.inj start
          cases notBlank
      | head :: more =>
          obtain ⟨rfl, rest⟩ := List.cons.inj start
          exact ⟨_, .before more, rest, fun _ => rfl⟩
  | onward =>
      have undelimited := run.startsDelimiter_append (' ' :: after)
      rw [show one ++ ' ' :: after = character :: rest from start,
        (startsDelimiter_cons_iff character rest).mpr delimiter] at undelimited
      cases undelimited
  | past text => exact ⟨_, .past rest, rfl, fun _ => start⟩

/-- Where nothing is left of one text nothing is left of any. -/
theorem AroundRun.eq_nil
    (around : AroundRun after texts)
    (nothing : texts one = [])
    (characters : List Char) :
    texts characters = [] := by
  cases around with
  | before start => simp [between] at nothing
  | onward => simp at nothing
  | past text => exact nothing

end First

/-! ## Data around a run -/

/-- The outcome of reading a text with a run in it for what the run is as an atom: what
is taken with a value that is taken from the run, or the failure at the run. -/
structure FollowsRun
    (after characters : List Char)
    (taken : Datum -> β)
    (failed : Failure -> β)
    (outcome : β) : Prop where
  ofTaken : ∀ value, readAtom characters = .taken value [] ->
    outcome = taken value
  ofFailed : ∀ failure, readAtom characters = .failed failure ->
    outcome = failed ⟨failure.cause, failure.place ++ ' ' :: after⟩

theorem FollowsRun.imp
    {characters : List Char}
    {taken : Datum -> β}
    {otherTaken : Datum -> γ}
    {failed : Failure -> β}
    {otherFailed : Failure -> γ}
    {outcome : β}
    {other : γ}
    (ifTaken : ∀ value, outcome = taken value -> other = otherTaken value)
    (ifFailed : ∀ failure, outcome = failed failure -> other = otherFailed failure)
    (follows : FollowsRun after characters taken failed outcome) :
    FollowsRun after characters otherTaken otherFailed other where
  ofTaken value read := ifTaken value (follows.ofTaken value read)
  ofFailed failure read := ifFailed _ (follows.ofFailed failure read)

/-- What is read from texts around a run when a value is taken from one of them: the
same value from all of them, up to texts around the run again, or each value with what
the run is in one place, up to a text past the run. -/
inductive TakenAround
    (after one : List Char)
    (readings : List Char -> Reading Datum)
    (value : Datum) : (rest : List Char) -> Prop
  | apart
      {rests : List Char -> List Char}
      (around : AroundRun after rests)
      (each : ∀ characters, IsRun characters ->
        readings characters = .taken value (rests characters)) :
      TakenAround after one readings value (rests one)
  | filled
      {rest : List Char}
      (hole : Hole)
      (each : ∀ characters, IsRun characters ->
        FollowsRun after characters (fun value => .taken (hole.fill value) rest)
          .failed (readings characters)) :
      TakenAround after one readings value rest

theorem TakenAround.congr
    {one rest : List Char}
    {readings others : List Char -> Reading Datum}
    {value : Datum}
    (taken : TakenAround after one readings value rest)
    (same : ∀ characters, IsRun characters -> others characters = readings characters) :
    TakenAround after one others value rest := by
  cases taken with
  | apart around each =>
      exact .apart around fun characters run =>
        (same characters run).trans (each characters run)
  | filled hole each =>
      refine .filled hole fun characters run => ?_
      rw [same characters run]
      exact each characters run

/-- What repetition reads from texts around a run when it reads values from one of
them. -/
inductive AllTakenAround
    (after one : List Char)
    (readings : List Char -> Except Failure (List Datum × List Char))
    (values : List Datum) : (rest : List Char) -> Prop
  | apart
      {rests : List Char -> List Char}
      (around : AroundRun after rests)
      (each : ∀ characters, IsRun characters ->
        readings characters = .ok (values, rests characters)) :
      AllTakenAround after one readings values (rests one)
  | filled
      {rest : List Char}
      (gap : Gap)
      (each : ∀ characters, IsRun characters ->
        FollowsRun after characters (fun value => .ok (gap.fill value, rest))
          .error (readings characters)) :
      AllTakenAround after one readings values rest

/-- A text where no more data are read, at its end or at a closing parenthesis. -/
def IsDataEnd (text : List Char) : Prop :=
  text = [] ∨ ∃ rest, text = ')' :: rest

/-- No datum is read where data end. -/
theorem datum_run_of_isDataEnd
    {text : List Char}
    (ends : IsDataEnd text)
    (levels : Nat) :
    (datum levels).run text = .refused text := by
  obtain rfl | ⟨rest, rfl⟩ := ends
  · exact datum_run_nil levels
  · exact datum_run_closing levels rest

section Pieces

variable {levels : Nat}
variable {one rest : List Char}
variable {texts : List Char -> List Char}

/-- What is taken from around a run and all that is taken after it are taken from around
the run. -/
theorem AllTakenAround.cons
    {value : Datum}
    {values : List Datum}
    {left : List Char}
    (first : TakenAround after one
      (fun characters => (datum levels).run (skip (texts characters))) value left)
    (others : (datum levels).many left = .ok (values, rest))
    (allAround : ∀ texts, AroundRun after texts -> texts one = left ->
      AllTakenAround after one (fun characters => (datum levels).many (texts characters))
        values rest) :
    AllTakenAround after one (fun characters => (datum levels).many (texts characters))
      (value :: values) rest := by
  cases first with
  | apart aroundLeft eachTaken =>
      cases allAround _ aroundLeft rfl with
      | apart aroundRest eachAll =>
          refine .apart aroundRest fun characters replacement => ?_
          rw [many_of_taken (eachTaken characters replacement),
            eachAll characters replacement]
          rfl
      | filled gap eachAll =>
          refine .filled ⟨value :: gap.before, gap.hole, gap.after⟩
            fun characters replacement => ?_
          have taken := eachTaken characters replacement
          refine (eachAll characters replacement).imp ?_ ?_
          · intro value all
            rw [many_of_taken taken, all]
            rfl
          · intro failure failed
            rw [many_of_taken taken, failed]
            rfl
  | filled hole eachTaken =>
      refine .filled ⟨[], hole, values⟩ fun characters replacement => ?_
      refine (eachTaken characters replacement).imp ?_ ?_
      · intro value taken
        rw [many_of_taken taken, others]
        rfl
      · intro failure failed
        exact many_of_failed failed

/-- A list is taken from around a run when its elements are. -/
theorem AllTakenAround.list
    (run : IsRun one)
    {items : List Datum}
    {left : List Char}
    (elements : AllTakenAround after one
      (fun characters => (datum levels).many (texts characters)) items left)
    (closed : skip left = ')' :: rest) :
    TakenAround after one
      (fun characters => (datum (levels + 1)).run ('(' :: texts characters))
      (.list items) rest := by
  cases elements with
  | apart aroundLeft eachElements =>
      obtain ⟨skips, aroundSkip, skipped⟩ := aroundLeft.exists_skip
      rw [skipped one run] at closed
      obtain ⟨rests, aroundRest, rfl, closings⟩ :=
        aroundSkip.exists_cons run (by decide) (by decide) closed
      refine .apart aroundRest fun characters replacement => ?_
      exact datum_run_list_of_skip (eachElements characters replacement)
        ((skipped characters replacement).trans (closings characters))
  | filled gap eachElements =>
      refine .filled (.inside gap.before gap.hole gap.after)
        fun characters replacement => ?_
      refine (eachElements characters replacement).imp ?_ ?_
      · intro value elements
        rw [Hole.fill_inside]
        exact datum_run_list_of_skip elements closed
      · intro failure failed
        exact datum_run_list_of_failed failed

/-- A quotation is taken from around a run when the datum after its quote mark is. -/
theorem TakenAround.quoted
    {value : Datum}
    (taken : TakenAround after one
      (fun characters => (datum levels).run (skip (texts characters))) value rest) :
    TakenAround after one
      (fun characters => (datum (levels + 1)).run ('\'' :: texts characters))
      value.quoted rest := by
  cases taken with
  | apart aroundRest eachTaken =>
      exact .apart aroundRest fun characters replacement =>
        datum_run_quoted (eachTaken characters replacement)
  | filled hole eachTaken =>
      refine .filled (.inside [Form.quote.head] hole [])
        fun characters replacement => ?_
      refine (eachTaken characters replacement).imp ?_ ?_
      · intro value taken
        exact datum_run_quoted taken
      · intro failure failed
        exact datum_run_quoted_of_failed failed

end Pieces

section Data

variable {levels : Nat}
variable {one : List Char} (run : IsRun one)
variable {texts : List Char -> List Char}

include run

/-- An atom is taken from before the run, or is the run. -/
theorem takenAround_of_readAtom
    (around : AroundRun after texts)
    {value : Datum}
    {rest : List Char}
    (taken : readAtom (texts one) = .taken value rest) :
    TakenAround after one (fun characters => (datum levels).run (texts characters))
      value rest := by
  have undelimited := startsDelimiter_eq_false_of_readAtom taken
  cases around with
  | before start =>
      dsimp only [between] at taken ⊢
      rw [readAtom_append_delimited rfl] at taken
      obtain ⟨left, reading, rfl⟩ := taken_of_before taken
      have undelimited := startsDelimiter_eq_false_of_readAtom reading
      refine .apart (.before left) fun characters _ => ?_
      rw [datum_run_of_not_delimited (startsDelimiter_append_of_not undelimited _),
        readAtom_append_delimited rfl, reading]
      rfl
  | onward =>
      rw [readAtom_append_delimited rfl] at taken
      obtain ⟨left, reading, rfl⟩ := taken_of_before taken
      obtain rfl := eq_nil_of_isSuffix run.undelimited
        (isSuffix_of_readAtom reading) (startsDelimiter_of_readAtom reading)
      refine .filled .whole fun characters replacement => ?_
      rw [datum_run_of_not_delimited (replacement.startsDelimiter_append _),
        readAtom_append_delimited rfl]
      refine ⟨fun value read => ?_, fun failure read => ?_⟩
      · rw [read, Hole.fill_whole]
        rfl
      · rw [read]
        rfl
  | past text =>
      refine .apart (.past rest) fun characters _ => ?_
      rw [datum_run_of_not_delimited undelimited]
      exact taken

/-- Where data end in one text they end in all. -/
theorem AroundRun.isDataEnd
    (around : AroundRun after texts)
    (ends : IsDataEnd (texts one))
    (characters : List Char) :
    IsDataEnd (texts characters) := by
  obtain nothing | ⟨rest, closing⟩ := ends
  · exact .inl (around.eq_nil nothing characters)
  · obtain ⟨rests, _, _, closings⟩ :=
      around.exists_cons run (by decide) (by decide) closing
    exact .inr ⟨_, closings characters⟩

/-- If each datum is taken from around the run, so are all data up to where they end. -/
theorem allTakenAround_of_many
    (each : ∀ {texts value rest}, AroundRun after texts ->
      (datum levels).run (texts one) = .taken value rest ->
      TakenAround after one (fun characters => (datum levels).run (texts characters))
        value rest)
    (around : AroundRun after texts)
    {values : List Datum}
    {rest : List Char}
    (read : (datum levels).many (texts one) = .ok (values, rest))
    (ends : IsDataEnd (skip rest)) :
    AllTakenAround after one (fun characters => (datum levels).many (texts characters))
      values rest := by
  -- The data after one that is filled are read from one text only: what is read from it
  -- is part of the induction.
  refine (many_induction
    (motive := fun text values rest => IsDataEnd (skip rest) ->
      (datum levels).many text = .ok (values, rest) ∧
        ∀ texts, AroundRun after texts -> texts one = text ->
          AllTakenAround after one
            (fun characters => (datum levels).many (texts characters)) values rest)
    ?_ ?_ read ends).2 texts around rfl
  · intro text ends
    refine ⟨many_of_refused (datum_run_of_isDataEnd ends levels), ?_⟩
    rintro texts around rfl
    obtain ⟨skips, aroundSkip, skipped⟩ := around.exists_skip
    rw [skipped one run] at ends
    refine .apart around fun characters replacement => ?_
    have refused :=
      datum_run_of_isDataEnd (aroundSkip.isDataEnd run ends characters) levels
    rw [← skipped characters replacement] at refused
    exact many_of_refused refused
  · intro text value left values rest taken inductionHypothesis ends
    obtain ⟨others, allAround⟩ := inductionHypothesis ends
    refine ⟨by rw [many_of_taken taken, others]; rfl, ?_⟩
    rintro texts around rfl
    obtain ⟨skips, aroundSkip, skipped⟩ := around.exists_skip
    rw [skipped one run] at taken
    have first : TakenAround after one
        (fun characters => (datum levels).run (skip (texts characters))) value left :=
      (each aroundSkip taken).congr fun characters replacement => by
        rw [skipped characters replacement]
    exact .cons first others allAround

/-- A datum is taken from around the run: the run is in it, or it ends before or starts
after the run. -/
theorem takenAround_of_datum_run
    {value : Datum}
    {rest : List Char}
    (around : AroundRun after texts)
    (taken : (datum levels).run (texts one) = .taken value rest) :
    TakenAround after one (fun characters => (datum levels).run (texts characters))
      value rest := by
  refine datum_run_induction
    (motive := fun levels text value rest => ∀ texts, AroundRun after texts ->
      texts one = text -> TakenAround after one
        (fun characters => (datum levels).run (texts characters)) value rest)
    ?_ ?_ ?_ taken texts around rfl
  · rintro levels text value rest taken texts around rfl
    exact takenAround_of_readAtom run around taken
  · intro levels items inside left rest each elements closed texts around start
    obtain ⟨insides, aroundInside, rfl, opened⟩ :=
      around.exists_cons run (by decide) (by decide) start
    have ends : IsDataEnd (skip left) := .inr ⟨rest, closed⟩
    have all := allTakenAround_of_many run (fun around taken => each taken _ around rfl)
      aroundInside elements ends
    exact (AllTakenAround.list run all closed).congr fun characters _ => by rw [opened]
  · intro levels value inside rest taken inductionHypothesis texts around start
    obtain ⟨insides, aroundInside, rfl, marked⟩ :=
      around.exists_cons run (by decide) (by decide) start
    obtain ⟨skips, aroundSkip, skipped⟩ := aroundInside.exists_skip
    have quoted : TakenAround after one
        (fun characters => (datum levels).run (skip (insides characters))) value rest :=
      (inductionHypothesis _ aroundSkip (skipped one run).symm).congr
        fun characters replacement => by rw [skipped characters replacement]
    exact quoted.quoted.congr fun characters _ => by rw [marked]

end Data

end Around

end Reader

open Reader (IsRun FollowsRun between)

/-- If a source with a run in it is read, the run makes no difference, or the data have
a gap for what the run is. -/
theorem readProgram_between
    {before one after : List Char}
    (run : IsRun one)
    {data : List Datum}
    (read : readProgram (between before one after) = .ok data) :
    (∀ characters, IsRun characters ->
      readProgram (between before characters after) = .ok data) ∨
    ∃ gap : Gap, ∀ characters, IsRun characters ->
      FollowsRun after characters (fun value => .ok (gap.fill value))
        (fun failure => .error (failure.error (between before characters after)))
        (readProgram (between before characters after)) := by
  obtain ⟨left, all, nothing⟩ := (readProgram_eq_ok_iff ..).mp read
  cases Reader.allTakenAround_of_many run (Reader.takenAround_of_datum_run run)
      (.before before) all (.inl nothing) with
  | apart aroundLeft each =>
      left
      intro characters replacement
      obtain ⟨skips, aroundSkip, skipped⟩ := aroundLeft.exists_skip
      rw [skipped one run] at nothing
      refine (readProgram_eq_ok_iff ..).mpr ⟨_, each characters replacement, ?_⟩
      rw [skipped characters replacement]
      exact aroundSkip.eq_nil nothing characters
  | filled gap each =>
      right
      refine ⟨gap, fun characters replacement => ?_⟩
      refine (each characters replacement).imp ?_ ?_
      · intro value all
        exact (readProgram_eq_ok_iff ..).mpr ⟨_, all, nothing⟩
      · intro failure failed
        unfold readProgram Reader.topLevel
        rw [failed]

/-- If a source is read as different data with two atoms in one place, those are some
data with exactly one gap for the atoms, and what is read with another run in its place
is the same data with what the run is in the gap. -/
theorem exists_gap_of_readProgram_ne
    {before one other after : List Char}
    {first second : Datum}
    {withFirst withSecond : List Datum}
    (atomOne : Reader.readAtom one = .taken first [])
    (atomOther : Reader.readAtom other = .taken second [])
    (readOne : readProgram (between before one after) = .ok withFirst)
    (readOther : readProgram (between before other after) = .ok withSecond)
    (differ : withFirst ≠ withSecond) :
    ∃ gap : Gap,
      (∀ place : Gap,
        withFirst = place.fill first ∧ withSecond = place.fill second ↔ place = gap) ∧
      ∀ characters, IsRun characters ->
        FollowsRun after characters (fun value => .ok (gap.fill value))
          (fun failure => .error (failure.error (between before characters after)))
          (readProgram (between before characters after)) := by
  have runOne := Reader.isRun_of_readAtom atomOne
  have runOther := Reader.isRun_of_readAtom atomOther
  obtain apart | ⟨gap, filled⟩ := readProgram_between runOne readOne
  · have same := readOther.symm.trans (apart other runOther)
    exact absurd (Except.ok.inj same).symm differ
  · have gapFirst : withFirst = gap.fill first :=
      Except.ok.inj (readOne.symm.trans ((filled one runOne).ofTaken first atomOne))
    have gapSecond : withSecond = gap.fill second :=
      Except.ok.inj
        (readOther.symm.trans ((filled other runOther).ofTaken second atomOther))
    have different : first ≠ second := by
      rintro rfl
      exact differ (gapFirst.trans gapSecond.symm)
    refine ⟨gap, fun place => ⟨?_, ?_⟩, filled⟩
    · rintro ⟨placeFirst, placeSecond⟩
      exact Gap.eq_of_fill (Reader.isAtom_of_readAtom atomOne) different
        (placeFirst.symm.trans gapFirst) (placeSecond.symm.trans gapSecond)
    · rintro rfl
      exact ⟨gapFirst, gapSecond⟩

end SExpr
