import SExpr.Proofs.LetElimination.Desugaring

/-!
# Let elimination keeps the meaning of code

Rewritten code evaluates to the same data as the code it was made from. A
function that the code makes on the way holds bodies that are not rewritten,
where the rewritten code makes one with rewritten bodies, and each holds the
frames of its own side. So values are compared by a relation: data and primitives
agree with themselves, and functions agree when their bodies differ by the
elimination of lets and their frames bind agreeing values to the same names.

That evaluation leads from agreeing frames to agreeing values is proved in both
directions, by induction on the evaluation of the one side.
-/

namespace SExpr
namespace Evaluation

mutual

/-- Two values are the same up to the elimination of lets in functions. -/
inductive Agree : Value -> Value -> Prop
  | datum (datum : Datum) : Agree (.datum datum) (.datum datum)
  | primitive (primitive : Primitive) :
      Agree (.primitive primitive) (.primitive primitive)
  | closure
      {names : List String}
      {bodies bodies' : List Datum}
      {frames frames' : List Frame}
      (each : List.Forall₂ Desugars bodies bodies')
      (captured : FramesAgree frames frames') :
      Agree (.closure names bodies frames) (.closure names bodies' frames')

/-- Two frames bind agreeing values to the same names. -/
inductive FrameAgrees : Frame -> Frame -> Prop
  | nil : FrameAgrees [] []
  | cons
      {name : String}
      {value value' : Value}
      {frame frame' : Frame}
      (first : Agree value value')
      (others : FrameAgrees frame frame') :
      FrameAgrees ((name, value) :: frame) ((name, value') :: frame')

/-- Two chains of frames agree frame by frame. -/
inductive FramesAgree : List Frame -> List Frame -> Prop
  | nil : FramesAgree [] []
  | cons
      {frame frame' : Frame}
      {frames frames' : List Frame}
      (first : FrameAgrees frame frame')
      (others : FramesAgree frames frames') :
      FramesAgree (frame :: frames) (frame' :: frames')

end

/-- Choosing the first of two answers keeps them related. -/
theorem rel_or
    {relation : α -> β -> Prop}
    {first second : Option α}
    {first' second' : Option β}
    (firsts : Option.Rel relation first first')
    (seconds : Option.Rel relation second second') :
    Option.Rel relation (first.or second) (first'.or second') := by
  cases firsts with
  | some related => exact .some related
  | none => simpa using seconds

/-- An answer is related to an answer. -/
theorem exists_of_rel_some
    {relation : α -> β -> Prop}
    {value : α}
    {answer : Option β}
    (related : Option.Rel relation (some value) answer) :
    ∃ value', answer = some value' ∧ relation value value' := by
  cases related with
  | some related => exact ⟨_, rfl, related⟩

/-- Only an answer is related to an answer. -/
theorem exists_of_rel_some_right
    {relation : α -> β -> Prop}
    {answer : Option α}
    {value' : β}
    (related : Option.Rel relation answer (some value')) :
    ∃ value, answer = some value ∧ relation value value' := by
  cases related with
  | some related => exact ⟨_, rfl, related⟩

/-- A name bound in one frame is bound to an agreeing value in the other. -/
theorem FrameAgrees.find?
    {frame frame' : Frame}
    (agrees : FrameAgrees frame frame')
    (name : String) :
    Option.Rel Agree (Frame.find? name frame) (Frame.find? name frame') := by
  match agrees with
  | .nil => exact .none
  | .cons first others =>
      apply rel_or (others.find? name)
      split
      · exact .some first
      · exact .none

/-- A name has agreeing values in agreeing chains of frames. -/
theorem FramesAgree.lookup?
    {frames frames' : List Frame}
    (agree : FramesAgree frames frames')
    (name : String) :
    Option.Rel Agree (lookup? name frames) (lookup? name frames') := by
  match agree with
  | .nil => exact .none
  | .cons first others => exact rel_or (first.find? name) (others.lookup? name)

/-- Names bound in order to agreeing values make agreeing frames. -/
theorem frameAgrees_zip
    (names : List String)
    {values values' : List Value}
    (each : List.Forall₂ Agree values values') :
    FrameAgrees (names.zip values) (names.zip values') := by
  induction each generalizing names with
  | nil => cases names <;> exact .nil
  | cons first _ inductionHypothesis =>
      cases names with
      | nil => exact .nil
      | cons name names => exact .cons first (inductionHypothesis names)

/-- The last of agreeing values agree. -/
theorem agree_last
    {values values' : List Value}
    (each : List.Forall₂ Agree values values') :
    Agree (.last values) (.last values') := by
  induction each with
  | nil => exact .datum _
  | cons first others inductionHypothesis =>
      cases others with
      | nil => exact first
      | cons second others =>
          simpa [Value.last] using inductionHypothesis

/-- The frame of the primitives agrees with itself. -/
theorem framesAgree_globals : FramesAgree [globals] [globals] := by
  refine .cons ?_ .nil
  exact .cons (.primitive _) (.cons (.primitive _) (.cons (.primitive _)
    (.cons (.primitive _) (.cons (.primitive _) .nil))))

/-- A value that agrees with an integer is that integer. -/
theorem Agree.integer?_eq
    {value value' : Value}
    (agree : Agree value value') :
    value.integer? = value'.integer? := by
  cases agree <;> rfl

/-- A primitive has the same result for agreeing values. -/
theorem result?_eq_of_agree
    (primitive : Primitive)
    {arguments arguments' : List Value}
    (each : List.Forall₂ Agree arguments arguments') :
    primitive.result? arguments = primitive.result? arguments' := by
  unfold Primitive.result?
  congr 1
  induction each with
  | nil => rfl
  | cons first _ inductionHypothesis =>
      rw [List.mapM_cons, List.mapM_cons, first.integer?_eq,
        inductionHypothesis]

/-- A value agrees with falsehood only if it is that. -/
theorem Agree.falsehood_iff
    {value value' : Value}
    (agree : Agree value value') :
    value = .falsehood ↔ value' = .falsehood := by
  cases agree <;> simp [Value.falsehood]

/-- The names that a `let` binds are the parameters of its function. -/
theorem mapM_asSymbol?_boundNames (pairs : List (String × Datum)) :
    (LetElimination.boundNames pairs).mapM Datum.asSymbol? =
      some (pairs.map Prod.fst) := by
  induction pairs with
  | nil => rfl
  | cons pair pairs inductionHypothesis =>
      rw [LetElimination.boundNames] at inductionHypothesis ⊢
      simp [Datum.asSymbol?, inductionHypothesis]

/-- There are as many values as pieces of code. -/
theorem EvaluatesAll.length_eq
    {frames : List Frame}
    {codes : List Datum}
    {values : List Value}
    (evaluates : EvaluatesAll frames codes values) :
    values.length = codes.length := by
  match evaluates with
  | .nil => rfl
  | .cons _ others => simp [others.length_eq]

/-- A function has a closure over its bodies and its frames as its value. -/
theorem Evaluates.eq_closure
    {frames : List Frame}
    {head : Datum}
    {parameters bodies : List Datum}
    {value : Value}
    (evaluates : Evaluates frames (.list (head :: .list parameters :: bodies))
      value)
    (rule : Rule.ofHead head = .lambda) :
    ∃ names, parameters.mapM Datum.asSymbol? = some names ∧
      value = .closure names bodies frames := by
  cases evaluates with
  | lambda _ named => exact ⟨_, named, rfl⟩
  | constant atom => simp at atom
  | quote rule' | consequent rule' | alternative rule' | noAlternative rule'
  | letForm rule' | primitive rule' | call rule' => simp_all

mutual

/-- Where code has a value, code with lets eliminated has an agreeing one. -/
theorem Evaluates.desugared
    {frames : List Frame}
    {code : Datum}
    {value : Value}
    (evaluates : Evaluates frames code value)
    {code' : Datum}
    {frames' : List Frame}
    (related : Desugars code code')
    (agree : FramesAgree frames frames') :
    ∃ value', Evaluates frames' code' value' ∧ Agree value value' := by
  match evaluates with
  | @Evaluates.symbol _ name _ bound =>
      obtain rfl := related.of_isAtom rfl
      have found := agree.lookup? name
      rw [bound] at found
      obtain ⟨value', bound', values⟩ := exists_of_rel_some found
      exact ⟨value', .symbol bound', values⟩
  | .constant atom noSymbol =>
      obtain rfl := related.of_isAtom atom
      exact ⟨_, .constant atom noSymbol, .datum _⟩
  | .quote rule =>
      obtain rfl := related.of_quote rule
      exact ⟨_, .quote rule, .datum _⟩
  | .consequent rule tested holds result =>
      obtain ⟨head', operands', rfl, heads, each⟩ :=
        related.of_parts (.inl rule)
      obtain _ | ⟨test, _ | ⟨chosen, others⟩⟩ := each
      obtain ⟨outcome', tested', outcomes⟩ := tested.desugared test agree
      obtain ⟨value', result', values⟩ := result.desugared chosen agree
      refine ⟨value', .consequent (heads.ofHead_eq ▸ rule) tested' ?_ result',
        values⟩
      exact fun equal => holds (outcomes.falsehood_iff.mpr equal)
  | .alternative rule tested result =>
      obtain ⟨head', operands', rfl, heads, each⟩ :=
        related.of_parts (.inl rule)
      obtain _ | ⟨test, _ | ⟨passed, _ | ⟨chosen, others⟩⟩⟩ := each
      obtain ⟨outcome', tested', outcomes⟩ := tested.desugared test agree
      obtain ⟨value', result', values⟩ := result.desugared chosen agree
      rw [outcomes.falsehood_iff.mp rfl] at tested'
      exact ⟨value', .alternative (heads.ofHead_eq ▸ rule) tested' result',
        values⟩
  | .noAlternative rule tested short =>
      obtain ⟨head', operands', rfl, heads, each⟩ :=
        related.of_parts (.inl rule)
      obtain _ | ⟨test, others⟩ := each
      obtain ⟨outcome', tested', outcomes⟩ := tested.desugared test agree
      rw [outcomes.falsehood_iff.mp rfl] at tested'
      exact ⟨_, .noAlternative (heads.ofHead_eq ▸ rule) tested'
        (others.length_eq ▸ short), .datum _⟩
  | .lambda rule named =>
      obtain ⟨bodies', rfl, each⟩ := related.of_lambda rule
      exact ⟨_, .lambda rule named, .closure each agree⟩
  | @Evaluates.letForm _ _ _ _ pairs _ _ rule read bound done =>
      obtain rfl | ⟨bodies', values', rfl, eachBody, eachValue⟩ :=
        related.of_letForm rule read
      · obtain ⟨values', bound', values⟩ :=
          bound.desugared (Desugars.sameAll _) agree
        obtain ⟨results', done', results⟩ :=
          done.desugared (Desugars.sameAll _)
            (.cons (frameAgrees_zip (pairs.map Prod.fst) values) agree)
        exact ⟨_, .letForm rule read bound' done', agree_last results⟩
      · obtain ⟨arguments', bound', values⟩ := bound.desugared eachValue agree
        obtain ⟨results', done', results⟩ :=
          done.desugared eachBody
            (.cons (frameAgrees_zip (pairs.map Prod.fst) values) agree)
        have arity : (pairs.map Prod.fst).length = arguments'.length := by
          rw [← values.length_eq, bound.length_eq, List.length_map,
            List.length_map]
        have function : Evaluates frames'
            (.list (Form.lambda.head ::
              .list (LetElimination.boundNames pairs) :: bodies'))
            (.closure (pairs.map Prod.fst) bodies' frames') :=
          .lambda rfl (mapM_asSymbol?_boundNames pairs)
        exact ⟨_, .call rfl function bound' arity done', agree_last results⟩
  | .primitive rule called given applied =>
      obtain ⟨head', operands', rfl, heads, each⟩ :=
        related.of_parts (.inr rule)
      obtain ⟨_, called', procedures⟩ := called.desugared heads agree
      obtain ⟨arguments', given', arguments⟩ := given.desugared each agree
      cases procedures with
      | primitive procedure =>
          rw [result?_eq_of_agree _ arguments] at applied
          exact ⟨_, .primitive (heads.ofHead_eq ▸ rule) called' given' applied,
            .datum _⟩
  | .call rule called given arity done =>
      obtain ⟨head', operands', rfl, heads, each⟩ :=
        related.of_parts (.inr rule)
      obtain ⟨_, called', procedures⟩ := called.desugared heads agree
      obtain ⟨arguments', given', arguments⟩ := given.desugared each agree
      cases procedures with
      | closure eachBody captured =>
          obtain ⟨results', done', results⟩ :=
            done.desugared eachBody
              (.cons (frameAgrees_zip _ arguments) captured)
          exact ⟨_, .call (heads.ofHead_eq ▸ rule) called' given'
            (arity.trans arguments.length_eq) done', agree_last results⟩

/-- Where pieces of code have values, pieces with lets eliminated have agreeing
ones. -/
theorem EvaluatesAll.desugared
    {frames : List Frame}
    {codes : List Datum}
    {values : List Value}
    (evaluates : EvaluatesAll frames codes values)
    {codes' : List Datum}
    {frames' : List Frame}
    (related : List.Forall₂ Desugars codes codes')
    (agree : FramesAgree frames frames') :
    ∃ values', EvaluatesAll frames' codes' values' ∧
      List.Forall₂ Agree values values' := by
  match evaluates, related with
  | .nil, .nil => exact ⟨[], .nil, .nil⟩
  | .cons first others, .cons head tail =>
      obtain ⟨value', first', agrees⟩ := first.desugared head agree
      obtain ⟨values', others', each⟩ := others.desugared tail agree
      exact ⟨value' :: values', .cons first' others', .cons agrees each⟩

end

mutual

/-- Where code with lets eliminated has a value, the code has an agreeing one. -/
theorem Evaluates.undesugared
    {frames' : List Frame}
    {code' : Datum}
    {value' : Value}
    (evaluates : Evaluates frames' code' value')
    {code : Datum}
    {frames : List Frame}
    (related : Desugars code code')
    (agree : FramesAgree frames frames') :
    ∃ value, Evaluates frames code value ∧ Agree value value' := by
  match evaluates with
  | @Evaluates.symbol _ name _ bound =>
      obtain rfl := related.to_isAtom rfl
      have found := agree.lookup? name
      rw [bound] at found
      obtain ⟨value, bound', values⟩ := exists_of_rel_some_right found
      exact ⟨value, .symbol bound', values⟩
  | .constant atom noSymbol =>
      obtain rfl := related.to_isAtom atom
      exact ⟨_, .constant atom noSymbol, .datum _⟩
  | .quote rule =>
      obtain rfl := related.to_quote rule
      exact ⟨_, .quote rule, .datum _⟩
  | .consequent rule tested holds result =>
      obtain ⟨head, operands, rfl, heads, each⟩ := related.to_conditional rule
      obtain _ | ⟨test, _ | ⟨chosen, others⟩⟩ := each
      obtain ⟨outcome, tested', outcomes⟩ := tested.undesugared test agree
      obtain ⟨value, result', values⟩ := result.undesugared chosen agree
      refine ⟨value, .consequent (heads.ofHead_eq.trans rule) tested' ?_ result',
        values⟩
      exact fun equal => holds (outcomes.falsehood_iff.mp equal)
  | .alternative rule tested result =>
      obtain ⟨head, operands, rfl, heads, each⟩ := related.to_conditional rule
      obtain _ | ⟨test, _ | ⟨passed, _ | ⟨chosen, others⟩⟩⟩ := each
      obtain ⟨outcome, tested', outcomes⟩ := tested.undesugared test agree
      obtain ⟨value, result', values⟩ := result.undesugared chosen agree
      rw [outcomes.falsehood_iff.mpr rfl] at tested'
      exact ⟨value, .alternative (heads.ofHead_eq.trans rule) tested' result',
        values⟩
  | .noAlternative rule tested short =>
      obtain ⟨head, operands, rfl, heads, each⟩ := related.to_conditional rule
      obtain _ | ⟨test, others⟩ := each
      obtain ⟨outcome, tested', outcomes⟩ := tested.undesugared test agree
      rw [outcomes.falsehood_iff.mpr rfl] at tested'
      exact ⟨_, .noAlternative (heads.ofHead_eq.trans rule) tested'
        (others.length_eq ▸ short), .datum _⟩
  | .lambda rule named =>
      obtain ⟨bodies, rfl, each⟩ := related.to_lambda rule
      exact ⟨_, .lambda rule named, .closure each agree⟩
  | @Evaluates.letForm _ _ _ _ pairs _ _ rule read bound done =>
      obtain rfl := related.to_letForm rule
      obtain ⟨values, bound', eachValue⟩ :=
        bound.undesugared (Desugars.sameAll _) agree
      obtain ⟨results, done', eachResult⟩ :=
        done.undesugared (Desugars.sameAll _)
          (.cons (frameAgrees_zip (pairs.map Prod.fst) eachValue) agree)
      exact ⟨_, .letForm rule read bound' done', agree_last eachResult⟩
  | .primitive rule called given applied =>
      obtain ⟨head, operands, rfl, heads, each⟩ |
          ⟨_, _, _, _, _, rfl, _, _, rfl, _⟩ := related.to_application rule
      · obtain ⟨_, called', procedures⟩ := called.undesugared heads agree
        obtain ⟨arguments, given', eachArgument⟩ :=
          given.undesugared each agree
        cases procedures with
        | primitive procedure =>
            rw [← result?_eq_of_agree _ eachArgument] at applied
            exact ⟨_, .primitive (heads.ofHead_eq.trans rule) called' given'
              applied, .datum _⟩
      · obtain ⟨_, _, closure⟩ := called.eq_closure rfl
        cases closure
  | @Evaluates.call _ captured _ _ bodies names arguments results
      rule called given arity done =>
      -- Said of all related bodies and frames, since it is not known yet whether
      -- the function that is called comes from an eliminated let.
      have bodiesEvaluate :
          ∀ {codes : List Datum} {inner : List Frame},
            List.Forall₂ Desugars codes bodies ->
            FramesAgree inner (names.zip arguments :: captured) ->
            ∃ values, EvaluatesAll inner codes values ∧
              List.Forall₂ Agree values results :=
        fun each agree => done.undesugared each agree
      obtain ⟨head, operands, rfl, heads, each⟩ |
          ⟨keyword, bindings, pairs, letBodies, bodies', rfl, letRule, read,
            rfl, eachBody, eachValue⟩ := related.to_application rule
      · obtain ⟨_, called', procedures⟩ := called.undesugared heads agree
        obtain ⟨arguments, given', eachArgument⟩ :=
          given.undesugared each agree
        cases procedures with
        | closure eachBody captured =>
            obtain ⟨results, done', eachResult⟩ :=
              bodiesEvaluate eachBody
                (.cons (frameAgrees_zip _ eachArgument) captured)
            exact ⟨_, .call (heads.ofHead_eq.trans rule) called' given'
              (arity.trans eachArgument.length_eq.symm) done',
              agree_last eachResult⟩
      · obtain ⟨values, bound', eachArgument⟩ :=
          given.undesugared eachValue agree
        obtain ⟨names, named, closure⟩ := called.eq_closure rfl
        cases closure
        rw [mapM_asSymbol?_boundNames] at named
        obtain rfl := Option.some.inj named
        obtain ⟨results, done', eachResult⟩ :=
          bodiesEvaluate eachBody
            (.cons (frameAgrees_zip _ eachArgument) agree)
        exact ⟨_, .letForm letRule read bound' done', agree_last eachResult⟩

/-- Where pieces of code with lets eliminated have values, the pieces have
agreeing ones. -/
theorem EvaluatesAll.undesugared
    {frames' : List Frame}
    {codes' : List Datum}
    {values' : List Value}
    (evaluates : EvaluatesAll frames' codes' values')
    {codes : List Datum}
    {frames : List Frame}
    (related : List.Forall₂ Desugars codes codes')
    (agree : FramesAgree frames frames') :
    ∃ values, EvaluatesAll frames codes values ∧
      List.Forall₂ Agree values values' := by
  match evaluates, related with
  | .nil, .nil => exact ⟨[], .nil, .nil⟩
  | .cons first others, .cons head tail =>
      obtain ⟨value, first', agrees⟩ := first.undesugared head agree
      obtain ⟨values, others', each⟩ := others.undesugared tail agree
      exact ⟨value :: values, .cons first' others', .cons agrees each⟩

end

/-- Let elimination keeps the meaning of code: code and its rewritten form
evaluate to the same data. -/
theorem evaluatesTo_iff_withoutLet
    {code rewritten : Datum}
    (accepted : code.withoutLet = .ok rewritten)
    (result : Datum) :
    EvaluatesTo code result ↔ EvaluatesTo rewritten result := by
  have related := desugars_of_eliminate accepted
  constructor
  · intro evaluates
    obtain ⟨value', evaluates', agree⟩ :=
      evaluates.desugared related framesAgree_globals
    cases agree
    exact evaluates'
  · intro evaluates'
    obtain ⟨value, evaluates, agree⟩ :=
      evaluates'.undesugared related framesAgree_globals
    cases agree
    exact evaluates

/-- The sum `(+ a b)`. -/
def sumCode : Datum :=
  .list [.symbol "+", .symbol "a", .symbol "b"]

/-- The sum with a `let` around it, `(let ((b a)) (+ a b))`. -/
def doubleBody : Datum :=
  .list [Form.letForm.head, .list [.list [.symbol "b", .symbol "a"]], sumCode]

/-- The function of `a` with that body. -/
def doubleCode : Datum :=
  .list [Form.lambda.head, .list [.symbol "a"], doubleBody]

/-- The code `(let ((f double)) (f 21))` with the function in the place of its
name. -/
def callCode : Datum :=
  .list
    [Form.letForm.head, .list [.list [.symbol "f", doubleCode]],
      .list [.symbol "f", .integer 21]]

/-- The code `((lambda (f) (f 21)) (lambda (a) ((lambda (b) (+ a b)) a)))`. -/
def callCodeWithoutLet : Datum :=
  .list
    [.list
        [Form.lambda.head, .list [.symbol "f"],
          .list [.symbol "f", .integer 21]],
      .list
        [Form.lambda.head, .list [.symbol "a"],
          .list
            [.list [Form.lambda.head, .list [.symbol "b"], sumCode],
              .symbol "a"]]]

/-- The call evaluates to the double of the number in it. -/
theorem evaluatesTo_callCode : EvaluatesTo callCode (.integer 42) := by
  let number : Value := .datum (.integer 21)
  let double : Value := .closure ["a"] [doubleBody] [globals]
  have sum : Evaluates [[("b", number)], [("a", number)], globals] sumCode
      (.datum (.integer 42)) :=
    .primitive rfl (.symbol rfl)
      (.cons (.symbol rfl) (.cons (.symbol rfl) .nil)) rfl
  have innerBinding :
      [Datum.list [.symbol "b", .symbol "a"]].mapM binding? =
        some [("b", .symbol "a")] := rfl
  have body : Evaluates [[("a", number)], globals] doubleBody
      (.last [.datum (.integer 42)]) :=
    .letForm rfl innerBinding (.cons (.symbol rfl) .nil) (.cons sum .nil)
  have called : Evaluates [[("f", double)], globals] (.symbol "f") double :=
    .symbol rfl
  have call : Evaluates [[("f", double)], globals]
      (.list [.symbol "f", .integer 21]) (.last [.datum (.integer 42)]) :=
    .call rfl called (.cons (.constant rfl rfl) .nil) rfl (.cons body .nil)
  have outerBinding :
      [Datum.list [.symbol "f", doubleCode]].mapM binding? =
        some [("f", doubleCode)] := rfl
  have function : Evaluates [globals] doubleCode double := .lambda rfl rfl
  change Evaluates [globals] callCode (.last [.datum (.integer 42)])
  exact .letForm rfl outerBinding (.cons function .nil) (.cons call .nil)

/-- The call without its lets, in which the function with a `let` in its body is
an argument, evaluates to the same. -/
theorem evaluatesTo_callCodeWithoutLet :
    callCode.withoutLet = .ok callCodeWithoutLet ∧
      EvaluatesTo callCodeWithoutLet (.integer 42) := by
  have accepted : callCode.withoutLet = .ok callCodeWithoutLet := rfl
  exact ⟨accepted,
    (evaluatesTo_iff_withoutLet accepted _).mp evaluatesTo_callCode⟩

end Evaluation
end SExpr
