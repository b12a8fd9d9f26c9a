import Mathlib.Data.Finset.Dedup
import PurrceptCore.Models.Numeric
import PurrceptCore.Models.TurnCalls

set_option relaxedAutoImplicit false
set_option autoImplicit false

/-!
# Decisions

Typed questions and their answers (`decisions/requests.py`, `decisions/responses.py`), and the
check that a response answers a request.

## Main definitions

* `PurrceptCore.DecisionRequest`, `PurrceptCore.DecisionResponse` — questions and answers that
  their constructors accept.
* `PurrceptCore.DecisionResponse.answer`, `PurrceptCore.DecisionResponse.validateFor` — the
  methods of a response.
* `PurrceptCore.DecisionResponse.Answers` — the response answers the request.

## Main results

* `PurrceptCore.DecisionResponse.validateFor_spec` — `validate_for` returns exactly if the
  response answers the request, and raises `DecisionResponseError` otherwise.

## Design

* What a constructor checks is a field of the structure. The constructors that take a number are
  functions as well, since they may raise. Input, metadata, usage and model are left out.
* A typed value is a string with its class, or a boolean, so that equality compares type and
  value.
-/

namespace PurrceptCore

/-! ### Texts -/

/-- `str.isspace`, of one character. -/
def isSpace (c : Char) : Bool :=
  (0x09 ≤ c.toNat && c.toNat ≤ 0x0d) || (0x1c ≤ c.toNat && c.toNat ≤ 0x20) ||
    (0x2000 ≤ c.toNat && c.toNat ≤ 0x200a) ||
    [0x85, 0xa0, 0x1680, 0x2028, 0x2029, 0x202f, 0x205f, 0x3000].contains c.toNat

/-- `not value.strip()`. -/
def isBlank (value : String) : Bool := value.toList.all isSpace

/-- A string that has passed `text`. -/
abbrev Text : Type := { value : String // isBlank value = false }

/-- `text`. -/
def text (value : Attribute) (name : String) : Except ArgumentError Text :=
  match value with
  | .other => .error (.typeError (name ++ " must be a string."))
  | .str value =>
    if h : isBlank value = true then .error (.valueError (name ++ " must not be empty."))
    else .ok ⟨value, Bool.eq_false_iff.2 h⟩

/-- The class of a string. -/
inductive StrClass
  | str
  | subclass (id : ℕ)
  deriving DecidableEq

/-- A value that has passed `choice_value`, with its type. -/
inductive ChoiceValue
  | str (cls : StrClass) (value : String)
  | bool (value : Bool)
  deriving DecidableEq

/-- `choice_value`; `none` is an object of another type. -/
def choiceValue : Option ChoiceValue → Except ArgumentError ChoiceValue
  | none => .error (.typeError "choice value must be a string or boolean.")
  | some value => .ok value

/-! ### Questions -/

/-- `ChoiceOption`. -/
structure ChoiceOption where
  value : ChoiceValue
  description : Option Text

/-- `ScoreLevel`. -/
structure ScoreLevel where
  label : Text
  description : Option Text

/-- `PredicateQuestion`. -/
structure PredicateQuestion where
  name : Text
  instructions : Text

/-- `ChoiceQuestion`. -/
structure ChoiceQuestion where
  name : Text
  instructions : Text
  choices : List ChoiceOption
  two_le : 2 ≤ choices.length
  unique : (choices.map ChoiceOption.value).Nodup

/-- `ScoreQuestion`. -/
structure ScoreQuestion where
  name : Text
  instructions : Text
  levels : List ScoreLevel
  two_le : 2 ≤ levels.length

/-- `DecisionQuestion`. -/
inductive DecisionQuestion
  | predicate (question : PredicateQuestion)
  | choice (question : ChoiceQuestion)
  | score (question : ScoreQuestion)

/-- The name of a question. -/
def DecisionQuestion.name : DecisionQuestion → Text
  | predicate question => question.name
  | choice question => question.name
  | score question => question.name

/-- `DecisionRequest`. -/
structure DecisionRequest where
  questions : List DecisionQuestion
  nonempty : questions ≠ []
  unique : (questions.map DecisionQuestion.name).Nodup

/-! ### Answers -/

/-- `ChoiceProbability`. -/
structure ChoiceProbability where
  value : ChoiceValue
  probability : PyNumber
  in_range : probability.InRange (some 1)

/-- `ScoreProbability`. -/
structure ScoreProbability where
  index : ℕ
  label : Text
  probability : PyNumber
  in_range : probability.InRange (some 1)

/-- `PredicateAnswer`. -/
structure PredicateAnswer where
  name : Text
  probability : PyNumber
  in_range : probability.InRange (some 1)

/-- `ChoiceAnswer`. -/
structure ChoiceAnswer where
  name : Text
  choice : ChoiceValue
  probabilities : List ChoiceProbability
  confidence : PyNumber
  in_range : confidence.InRange (some 1)
  nonempty : probabilities ≠ []
  unique : (probabilities.map ChoiceProbability.value).Nodup

/-- `ScoreAnswer`. -/
structure ScoreAnswer where
  name : Text
  score : PyNumber
  probabilities : List ScoreProbability
  confidence : PyNumber
  score_in_range : score.InRange none
  in_range : confidence.InRange (some 1)
  nonempty : probabilities ≠ []
  unique : (probabilities.map ScoreProbability.index).Nodup

/-- `DecisionAnswer`; a refusal has only the name of its question. -/
inductive DecisionAnswer
  | predicate (answer : PredicateAnswer)
  | choice (answer : ChoiceAnswer)
  | score (answer : ScoreAnswer)
  | refusal (name : Text)

/-- The name of an answer. -/
def DecisionAnswer.name : DecisionAnswer → Text
  | predicate answer => answer.name
  | choice answer => answer.name
  | score answer => answer.name
  | refusal name => name

/-- `DecisionResponse`. -/
structure DecisionResponse where
  answers : List DecisionAnswer
  nonempty : answers ≠ []
  unique : (answers.map DecisionAnswer.name).Nodup

/-! ### Constructors that take a number -/

/-- `number`, of an argument that is kept when it passes. -/
def numberInRange (value : NumberArgument) (name : String) (upper : Option ℤ) :
    Except ArgumentError { x : PyNumber // x.InRange upper } :=
  match value with
  | .number x =>
    match h : number (.number x) name upper with
    | .error e => .error e
    | .ok () => .ok ⟨x, number_eq_ok.1 h⟩
  | _ => .error (.typeError (name ++ " must be a number."))

/-- `ChoiceProbability(value, probability)`. -/
def ChoiceProbability.make (value : Option ChoiceValue) (probability : NumberArgument) :
    Except ArgumentError ChoiceProbability := do
  let value ← choiceValue value
  let probability ← numberInRange probability "probability" (some 1)
  .ok ⟨value, probability.val, probability.property⟩

/-- `ScoreProbability(index, label, probability)`; the index `none` is an object other than an
`int`, or a `bool`. -/
def ScoreProbability.make (index : Option ℤ) (label : Attribute) (probability : NumberArgument) :
    Except ArgumentError ScoreProbability :=
  match index with
  | some (.ofNat index) => do
    let label ← text label "label"
    let probability ← numberInRange probability "probability" (some 1)
    .ok ⟨index, label, probability.val, probability.property⟩
  | _ => .error (.valueError "index must be a nonnegative integer.")

/-- `PredicateAnswer(name, probability)`. -/
def PredicateAnswer.make (name : Attribute) (probability : NumberArgument) :
    Except ArgumentError PredicateAnswer := do
  let name ← text name "name"
  let probability ← numberInRange probability "probability" (some 1)
  .ok ⟨name, probability.val, probability.property⟩

/-- `ChoiceAnswer(name, choice, probabilities, confidence)`. -/
def ChoiceAnswer.make (name : Attribute) (choice : Option ChoiceValue)
    (probabilities : List ChoiceProbability) (confidence : NumberArgument) :
    Except ArgumentError ChoiceAnswer := do
  let name ← text name "name"
  let choice ← choiceValue choice
  let confidence ← numberInRange confidence "confidence" (some 1)
  if hempty : probabilities = [] then
    .error (.valueError "probabilities must not be empty.")
  else if hunique : (probabilities.map ChoiceProbability.value).Nodup then
    .ok ⟨name, choice, probabilities, confidence.val, confidence.property, hempty, hunique⟩
  else
    .error (.valueError "probability values must be unique.")

/-- `ScoreAnswer(name, score, probabilities, confidence)`. -/
def ScoreAnswer.make (name : Attribute) (score : NumberArgument)
    (probabilities : List ScoreProbability) (confidence : NumberArgument) :
    Except ArgumentError ScoreAnswer := do
  let name ← text name "name"
  let score ← numberInRange score "score" none
  let confidence ← numberInRange confidence "confidence" (some 1)
  if hempty : probabilities = [] then
    .error (.valueError "probabilities must not be empty.")
  else if hunique : (probabilities.map ScoreProbability.index).Nodup then
    .ok ⟨name, score.val, probabilities, confidence.val, score.property, confidence.property,
      hempty, hunique⟩
  else
    .error (.valueError "probability indices must be unique.")

/-! ### Validation -/

/-- What the methods of a response raise. -/
inductive DecisionError
  /-- `DecisionResponseError`. -/
  | response (text : String)
  | valueError (text : String)
  | keyError (name : String)

/-- The typed values that a question declares. -/
def ChoiceQuestion.values (question : ChoiceQuestion) : List ChoiceValue :=
  question.choices.map ChoiceOption.value

/-- The levels of a question, with their indices. -/
def ScoreQuestion.indexed (question : ScoreQuestion) : List (ℕ × Text) :=
  question.levels.zipIdx.map fun level => (level.2, level.1.label)

/-- The typed values that an answer lists. -/
def ChoiceAnswer.values (answer : ChoiceAnswer) : List ChoiceValue :=
  answer.probabilities.map ChoiceProbability.value

/-- The levels that an answer lists. -/
def ScoreAnswer.indexed (answer : ScoreAnswer) : List (ℕ × Text) :=
  answer.probabilities.map fun p => (p.index, p.label)

/-- The check of one answer: the body of the loop of `validate_for`. -/
def checkAnswer : DecisionQuestion → DecisionAnswer → Except DecisionError Unit
  | _, .refusal _ => .ok ()
  | .predicate _, .predicate _ => .ok ()
  | .choice question, .choice answer =>
    if answer.values.toFinset ≠ question.values.toFinset ∨
        answer.choice ∉ question.values.toFinset then
      .error (.response "Choice answer does not match declared options.")
    else .ok ()
  | .score question, .score answer =>
    if answer.indexed.toFinset ≠ question.indexed.toFinset ∨
        (question.levels.length : ℚ) - 1 < answer.score.rat then
      .error (.response "Score answer does not match declared levels.")
    else .ok ()
  | _, _ => .error (.response "Answer type does not match its question.")

/-- The loop of `validate_for`, over `zip(questions, answers, strict=True)`. -/
def checkAnswers : List DecisionQuestion → List DecisionAnswer → Except DecisionError Unit
  | [], [] => .ok ()
  | question :: questions, answer :: answers => do
    checkAnswer question answer
    checkAnswers questions answers
  | [], _ :: _ => .error (.valueError "zip() argument 2 is longer than argument 1")
  | _ :: _, [] => .error (.valueError "zip() argument 2 is shorter than argument 1")

namespace DecisionResponse

/-- `answer`. -/
def answer (response : DecisionResponse) (name : String) : Except DecisionError DecisionAnswer :=
  match response.answers.find? fun answer => answer.name.val = name with
  | some answer => .ok answer
  | none => .error (.keyError name)

/-- `validate_for`. -/
def validateFor (response : DecisionResponse) (request : DecisionRequest) :
    Except DecisionError Unit :=
  if response.answers.map DecisionAnswer.name ≠ request.questions.map DecisionQuestion.name then
    .error (.response "Answers must match question names and order.")
  else
    checkAnswers request.questions response.answers

end DecisionResponse

/-! ### What is accepted -/

/-- The answer is one to the question: a refusal, or of its kind and in its domain. -/
inductive AnswersQuestion : DecisionQuestion → DecisionAnswer → Prop
  | refusal (question : DecisionQuestion) (name : Text) :
      AnswersQuestion question (.refusal name)
  | predicate (question : PredicateQuestion) (answer : PredicateAnswer) :
      AnswersQuestion (.predicate question) (.predicate answer)
  | choice (question : ChoiceQuestion) (answer : ChoiceAnswer)
      (covers : answer.values.Perm question.values)
      (declared : answer.choice ∈ question.values) :
      AnswersQuestion (.choice question) (.choice answer)
  | score (question : ScoreQuestion) (answer : ScoreAnswer)
      (covers : answer.indexed.Perm question.indexed)
      (in_range : answer.score.rat ≤ (question.levels.length : ℚ) - 1) :
      AnswersQuestion (.score question) (.score answer)

/-- The response answers the request: the names are those of the questions, in their order, and
each answer is one to its question. -/
structure DecisionResponse.Answers (response : DecisionResponse) (request : DecisionRequest) :
    Prop where
  names : response.answers.map DecisionAnswer.name =
    request.questions.map DecisionQuestion.name
  each : List.Forall₂ AnswersQuestion request.questions response.answers

/-- Lists without duplicates are rearrangements of each other when they have the same members. -/
lemma perm_iff_toFinset_eq {α : Type} [DecidableEq α] {xs ys : List α} (hxs : xs.Nodup)
    (hys : ys.Nodup) : xs.Perm ys ↔ xs.toFinset = ys.toFinset :=
  ⟨List.toFinset_eq_of_perm xs ys, List.perm_of_nodup_nodup_toFinset_eq hxs hys⟩

/-- The levels of a question are listed once each, by their indices. -/
lemma ScoreQuestion.indexed_nodup (question : ScoreQuestion) : question.indexed.Nodup := by
  refine List.Nodup.of_map Prod.fst ?_
  have hindices : question.indexed.map Prod.fst = List.range' 0 question.levels.length := by
    rw [indexed, List.map_map]
    exact List.zipIdx_map_snd 0 question.levels
  rw [hindices]
  exact List.nodup_range'

/-- The levels that an answer lists have different indices. -/
lemma ScoreAnswer.indexed_nodup (answer : ScoreAnswer) : answer.indexed.Nodup := by
  refine List.Nodup.of_map Prod.fst ?_
  rw [indexed, List.map_map]
  exact answer.unique

/-- The check of one answer: it passes exactly if it answers the question. -/
lemma checkAnswer_spec (question : DecisionQuestion) (answer : DecisionAnswer) :
    (checkAnswer question answer = .ok () ∧ AnswersQuestion question answer) ∨
      (∃ text, checkAnswer question answer = .error (.response text)) ∧
        ¬ AnswersQuestion question answer := by
  cases answer with
  | refusal name =>
    refine .inl ⟨?_, .refusal question name⟩
    cases question <;> rfl
  | predicate answer =>
    cases question with
    | predicate question => exact .inl ⟨rfl, .predicate question answer⟩
    | choice question => exact .inr ⟨⟨_, rfl⟩, fun h => by cases h⟩
    | score question => exact .inr ⟨⟨_, rfl⟩, fun h => by cases h⟩
  | choice answer =>
    cases question with
    | predicate question => exact .inr ⟨⟨_, rfl⟩, fun h => by cases h⟩
    | score question => exact .inr ⟨⟨_, rfl⟩, fun h => by cases h⟩
    | choice question =>
      have hperm := @perm_iff_toFinset_eq _ _ answer.values question.values answer.unique
        question.unique
      by_cases hbad : answer.values.toFinset ≠ question.values.toFinset ∨
          answer.choice ∉ question.values.toFinset
      · refine .inr ⟨⟨_, if_pos hbad⟩, fun h => ?_⟩
        cases h with
        | choice _ _ hcovers hdeclared =>
          exact hbad.elim (fun hne => hne (hperm.1 hcovers))
            fun hnot => hnot (List.mem_toFinset.2 hdeclared)
      · simp only [not_or, not_not, List.mem_toFinset] at hbad
        refine .inl ⟨if_neg ?_, .choice question answer (hperm.2 hbad.1) hbad.2⟩
        simp only [not_or, not_not, List.mem_toFinset]
        exact hbad
  | score answer =>
    cases question with
    | predicate question => exact .inr ⟨⟨_, rfl⟩, fun h => by cases h⟩
    | choice question => exact .inr ⟨⟨_, rfl⟩, fun h => by cases h⟩
    | score question =>
      have hperm := perm_iff_toFinset_eq answer.indexed_nodup question.indexed_nodup
      by_cases hbad : answer.indexed.toFinset ≠ question.indexed.toFinset ∨
          (question.levels.length : ℚ) - 1 < answer.score.rat
      · refine .inr ⟨⟨_, if_pos hbad⟩, fun h => ?_⟩
        cases h with
        | score _ _ hcovers hrange =>
          exact hbad.elim (fun hne => hne (hperm.1 hcovers)) fun hlt => absurd hrange hlt.not_ge
      · refine .inl ⟨if_neg hbad, ?_⟩
        simp only [not_or, not_not, not_lt] at hbad
        exact .score question answer (hperm.2 hbad.1) hbad.2

/-- The loop over as many answers as questions: it passes exactly if each one answers its
question. -/
lemma checkAnswers_spec {questions : List DecisionQuestion} {answers : List DecisionAnswer}
    (hlength : answers.length = questions.length) :
    (checkAnswers questions answers = .ok () ∧
        List.Forall₂ AnswersQuestion questions answers) ∨
      (∃ text, checkAnswers questions answers = .error (.response text)) ∧
        ¬ List.Forall₂ AnswersQuestion questions answers := by
  induction questions generalizing answers with
  | nil =>
    rw [List.length_nil, List.length_eq_zero_iff] at hlength
    subst hlength
    exact .inl ⟨rfl, .nil⟩
  | cons question questions ih =>
    cases answers with
    | nil => cases hlength
    | cons answer answers =>
      simp only [checkAnswers, List.forall₂_cons]
      rcases checkAnswer_spec question answer with ⟨hcheck, hanswers⟩ | ⟨⟨text, hcheck⟩, hnot⟩
      · rw [hcheck]
        rcases ih (Nat.succ.inj hlength) with ⟨hrest, heach⟩ | ⟨hrest, hnot⟩
        · exact .inl ⟨hrest, hanswers, heach⟩
        · exact .inr ⟨hrest, fun h => hnot h.2⟩
      · rw [hcheck]
        exact .inr ⟨⟨text, rfl⟩, fun h => hnot h.1⟩

namespace DecisionResponse

variable (response : DecisionResponse) (request : DecisionRequest)

/-- The answer that is found by a name is the one at the position of that name. -/
lemma answer_of_names (h : response.answers.map DecisionAnswer.name =
    request.questions.map DecisionQuestion.name) {i : ℕ} (hq : i < request.questions.length)
    (ha : i < response.answers.length) :
    response.answer request.questions[i].name.val = .ok response.answers[i] := by
  have hname : response.answers[i].name = request.questions[i].name := by
    have hi := List.getElem_of_eq h (by rwa [List.length_map])
    rwa [List.getElem_map, List.getElem_map] at hi
  have hfind : response.answers.find? (fun answer =>
      answer.name.val = request.questions[i].name.val) = some response.answers[i] := by
    rw [List.find?_eq_some_iff_getElem]
    refine ⟨by simp [hname], i, ha, rfl, fun j hj => ?_⟩
    have hlt : j < response.answers.length := hj.trans ha
    have hne : response.answers[j].name ≠ response.answers[i].name :=
      List.pairwise_iff_getElem.1 (List.pairwise_map.1 response.unique) j i hlt ha hj
    rw [← hname]
    simpa [Subtype.ext_iff] using hne
  unfold answer
  rw [hfind]

/-- **What `validate_for` accepts**: it returns exactly if the response answers the request, and
raises `DecisionResponseError` otherwise; the answer of an accepted response to the name of a
question is the one at its position. -/
theorem validateFor_spec :
    (response.validateFor request = .ok () ↔ response.Answers request) ∧
      (¬ response.Answers request →
        ∃ text, response.validateFor request = .error (.response text)) ∧
      (response.validateFor request = .ok () →
        ∀ (i : ℕ) (hq : i < request.questions.length) (ha : i < response.answers.length),
          response.answer request.questions[i].name.val = .ok response.answers[i]) := by
  unfold validateFor
  by_cases hnames : response.answers.map DecisionAnswer.name ≠
      request.questions.map DecisionQuestion.name
  · rw [if_pos hnames]
    exact ⟨⟨(fun h => by cases h), fun h => absurd h.names hnames⟩, fun _ => ⟨_, rfl⟩,
      (fun h => by cases h)⟩
  · rw [if_neg hnames]
    rw [not_not] at hnames
    have hlength : response.answers.length = request.questions.length := by
      have h := congrArg List.length hnames
      rwa [List.length_map, List.length_map] at h
    have hanswer (i : ℕ) (hq : i < request.questions.length) (ha : i < response.answers.length) :=
      answer_of_names response request hnames hq ha
    rcases checkAnswers_spec hlength with ⟨hcheck, heach⟩ | ⟨⟨text, hcheck⟩, hnot⟩
    · exact ⟨iff_of_true hcheck ⟨hnames, heach⟩, fun h => absurd ⟨hnames, heach⟩ h,
        fun _ => hanswer⟩
    · rw [hcheck]
      exact ⟨⟨(fun h => by cases h), fun h => absurd h.each hnot⟩, fun _ => ⟨text, rfl⟩,
        (fun h => by cases h)⟩

end DecisionResponse

end PurrceptCore
