import PurrceptCore.Models.Decisions

set_option relaxedAutoImplicit false
set_option autoImplicit false

/-!
# Numbers at the boundaries

Which numbers the constructors of the package accept, and how they reject the others.

## Main definitions

* `PurrceptCore.NumericParameter` — the parameters that take a number; `construct` calls the
  constructor.
* `PurrceptCore.NumericParameter.Decides` — the number is accepted, or rejected by a `TypeError`
  or a `ValueError`, and it is accepted if it is finite and in range.

## Main results

* `PurrceptCore.NumericParameter.decides_iff` — a parameter decides exactly the numbers that
  `math.isfinite` can convert to a float.
-/

namespace PurrceptCore

/-- The bounds of a `ToolParameter`. -/
inductive ToolBound
  | ge
  | le
  | gt
  | lt

/-- The name of the field of a bound. -/
def ToolBound.fieldName : ToolBound → String
  | ge => "ge"
  | le => "le"
  | gt => "gt"
  | lt => "lt"

/-- The parameters that take a number, with the other arguments of their constructors. -/
inductive NumericParameter
  /-- `PredicateAnswer(name, probability)`. -/
  | predicateProbability (name : Text)
  /-- `ChoiceProbability(value, probability)`. -/
  | choiceProbability (value : ChoiceValue)
  /-- `ScoreProbability(index, label, probability)`. -/
  | scoreProbability (index : ℕ) (label : Text)
  /-- `ChoiceAnswer(name, choice, probabilities, confidence)`. -/
  | choiceConfidence (name : Text) (choice : ChoiceValue) (probabilities : List ChoiceProbability)
      (nonempty : probabilities ≠ [])
      (unique : (probabilities.map ChoiceProbability.value).Nodup)
  /-- `ScoreAnswer(name, score, probabilities, confidence)`, the score. -/
  | score (name : Text) (confidence : PyNumber) (probabilities : List ScoreProbability)
      (in_range : confidence.InRange (some 1)) (nonempty : probabilities ≠ [])
      (unique : (probabilities.map ScoreProbability.index).Nodup)
  /-- `ScoreAnswer(name, score, probabilities, confidence)`, the confidence. -/
  | scoreConfidence (name : Text) (score : PyNumber) (probabilities : List ScoreProbability)
      (in_range : score.InRange none) (nonempty : probabilities ≠ [])
      (unique : (probabilities.map ScoreProbability.index).Nodup)
  /-- `ToolParameter(ge=…)` and the other bounds. -/
  | toolBound (bound : ToolBound)
  /-- `ModelSettings(temperature=…)`. -/
  | temperature
  /-- `ModelRateLimitError(retry_after_seconds=…)`. -/
  | retryAfterSeconds

namespace NumericParameter

/-- Call the constructor with a number. -/
def construct (value : PyNumber) : NumericParameter → Except ArgumentError Unit
  | predicateProbability name => do
    let _ ← PredicateAnswer.make (.str name.val) (.number value)
    .ok ()
  | choiceProbability choice => do
    let _ ← ChoiceProbability.make (some choice) (.number value)
    .ok ()
  | scoreProbability index label => do
    let _ ← ScoreProbability.make (some (.ofNat index)) (.str label.val) (.number value)
    .ok ()
  | choiceConfidence name choice probabilities _ _ => do
    let _ ← ChoiceAnswer.make (.str name.val) (some choice) probabilities (.number value)
    .ok ()
  | score name confidence probabilities _ _ _ => do
    let _ ← ScoreAnswer.make (.str name.val) (.number value) probabilities (.number confidence)
    .ok ()
  | scoreConfidence name level probabilities _ _ _ => do
    let _ ← ScoreAnswer.make (.str name.val) (.number level) probabilities (.number value)
    .ok ()
  | toolBound bound => validateOptionalNumber (.number value) bound.fieldName
  | temperature => do
    let _ ← normalizeTemperature (.number value)
    .ok ()
  | retryAfterSeconds => do
    let _ ← normalizeRetryAfter (.number value)
    .ok ()

/-- The range that the documentation gives for the numbers that `number` and `ToolParameter`
take; no range is promised to be accepted elsewhere. -/
def InDocumentedRange (value : PyNumber) : NumericParameter → Prop
  | predicateProbability _ | choiceProbability _ | scoreProbability _ _
  | choiceConfidence _ _ _ _ _ | scoreConfidence _ _ _ _ _ _ =>
    value.Finite ∧ 0 ≤ value.rat ∧ value.rat ≤ 1
  | score _ _ _ _ _ _ => value.Finite ∧ 0 ≤ value.rat
  | toolBound _ => value.Finite
  | temperature | retryAfterSeconds => False

/-- The number is decided: it is accepted, or rejected by a `TypeError` or a `ValueError`, and
accepted if it is in the documented range. -/
structure Decides (parameter : NumericParameter) (value : PyNumber) : Prop where
  outcome : parameter.construct value = .ok () ∨
    (∃ text, parameter.construct value = .error (.typeError text)) ∨
    ∃ text, parameter.construct value = .error (.valueError text)
  accepts : parameter.InDocumentedRange value → parameter.construct value = .ok ()

/-! ### One check -/

/-- A check of the shape that all of them have: it raises what `math.isfinite` raises, and
otherwise accepts or raises a `ValueError`, and accepts what is in range. -/
structure Checks (value : PyNumber) (inRange : Prop) (outcome : Except ArgumentError Unit) :
    Prop where
  tooLarge : value.TooLarge →
    outcome = .error (.overflowError "int too large to convert to float")
  decided : ¬ value.TooLarge → outcome = .ok () ∨ ∃ text, outcome = .error (.valueError text)
  accepts : ¬ value.TooLarge → inRange → outcome = .ok ()

/-- `number` is such a check. -/
lemma number_checks (value : PyNumber) (name : String) (upper : Option ℤ) :
    Checks value (value.Finite ∧ 0 ≤ value.rat ∧ ∀ u ∈ upper, value.rat ≤ u)
      (number (.number value) name upper) where
  tooLarge h := by
    simp only [number, bind, Except.bind, PyNumber.isfinite_of_tooLarge h]
  decided h := by
    obtain ⟨finite, hfinite, -⟩ := PyNumber.isfinite_of_not_tooLarge h
    simp only [number, bind, Except.bind, hfinite]
    split
    · exact .inr ⟨_, rfl⟩
    · exact .inl rfl
  accepts h := fun ⟨hfin, hnonneg, hle⟩ => by
    obtain ⟨finite, hfinite, hiff⟩ := PyNumber.isfinite_of_not_tooLarge h
    rw [hiff.2 hfin] at hfinite
    exact number_eq_ok.2 ⟨hfinite, hnonneg, hle⟩

/-- `_validate_optional_number` is such a check. -/
lemma validateOptionalNumber_checks (value : PyNumber) (fieldName : String) :
    Checks value value.Finite (validateOptionalNumber (.number value) fieldName) where
  tooLarge h := by
    simp only [validateOptionalNumber, bind, Except.bind, PyNumber.isfinite_of_tooLarge h]
  decided h := by
    obtain ⟨finite, hfinite, -⟩ := PyNumber.isfinite_of_not_tooLarge h
    simp only [validateOptionalNumber, bind, Except.bind, hfinite]
    split
    · exact .inr ⟨_, rfl⟩
    · exact .inl rfl
  accepts h := fun hfin => by
    obtain ⟨finite, hfinite, hiff⟩ := PyNumber.isfinite_of_not_tooLarge h
    rw [hiff.2 hfin] at hfinite
    exact validateOptionalNumber_eq_ok.2 hfinite

/-- The check of a number that is kept as a float is such a check. -/
lemma normalizeNonNegative_checks (value : PyNumber) (fieldName : String) :
    Checks value False
      ((normalizeNonNegative (.number value) fieldName).map fun _ => ()) where
  tooLarge h := by
    simp only [normalizeNonNegative, bind, Except.bind, PyNumber.isfinite_of_tooLarge h,
      Except.map]
  decided h := by
    obtain ⟨finite, hfinite, -⟩ := PyNumber.isfinite_of_not_tooLarge h
    obtain ⟨bits, hbits⟩ := PyNumber.toFloat_of_not_tooLarge h
    simp only [normalizeNonNegative, bind, Except.bind, hfinite]
    split
    · exact .inr ⟨_, rfl⟩
    · split
      · exact .inr ⟨_, rfl⟩
      · rw [hbits]
        exact .inl rfl
  accepts _ h := h.elim

/-! ### The constructors -/

@[simp] lemma text_val (value : Text) (name : String) : text (.str value.val) name = .ok value := by
  have h : ¬ isBlank value.val = true := by simp [value.property]
  rw [text, dif_neg h]

/-- A number that is in range is kept. -/
lemma numberInRange_of_inRange {x : PyNumber} {name : String} {upper : Option ℤ}
    (h : x.InRange upper) : numberInRange (.number x) name upper = .ok ⟨x, h⟩ := by
  rw [numberInRange]
  split
  · next e he => rw [number_eq_ok.2 h] at he; cases he
  · rfl

/-- A constructor that goes on with a number that has passed `number`, and then accepts, raises
what `number` raises. -/
lemma Checks.keep {α : Type} {value : PyNumber} {name : String} {upper : Option ℤ}
    {inRange : Prop} (h : Checks value inRange (number (.number value) name upper))
    {next : { x : PyNumber // x.InRange upper } → Except ArgumentError α}
    (hnext : ∀ y, ∃ a, next y = .ok a) :
    Checks value inRange (do
      let y ← numberInRange (.number value) name upper
      let _ ← next y
      .ok ()) := by
  suffices heq : (do
      let y ← numberInRange (.number value) name upper
      let _ ← next y
      .ok ()) = number (.number value) name upper by
    rw [heq]
    exact h
  by_cases hrange : value.InRange upper
  · obtain ⟨a, ha⟩ := hnext ⟨value, hrange⟩
    rw [numberInRange_of_inRange hrange, number_eq_ok.2 hrange]
    simp only [bind, Except.bind, ha]
  · cases hnumber : number (.number value) name upper with
    | ok u => exact absurd (number_eq_ok.1 hnumber) hrange
    | error e =>
      rw [numberInRange]
      split
      · next e' he => rw [hnumber] at he; cases he; rfl
      · next he => rw [hnumber] at he; cases he

/-- **What a constructor makes of a number** is what its check makes of it. -/
lemma construct_checks (parameter : NumericParameter) (value : PyNumber) :
    Checks value (parameter.InDocumentedRange value) (parameter.construct value) := by
  have hone (name : String) : Checks value (value.Finite ∧ 0 ≤ value.rat ∧ value.rat ≤ 1)
      (number (.number value) name (some 1)) := by
    simpa using number_checks value name (some 1)
  cases parameter with
  | predicateProbability name =>
    simp only [construct, PredicateAnswer.make, text_val, bind_assoc]
    exact (hone "probability").keep fun y => ⟨_, rfl⟩
  | choiceProbability choice =>
    simp only [construct, ChoiceProbability.make, bind_assoc]
    exact (hone "probability").keep fun y => ⟨_, rfl⟩
  | scoreProbability index label =>
    simp only [construct, ScoreProbability.make, text_val, bind_assoc]
    exact (hone "probability").keep fun y => ⟨_, rfl⟩
  | choiceConfidence name choice probabilities hnonempty hunique =>
    simp only [construct, ChoiceAnswer.make, text_val, bind_assoc, dif_neg hnonempty,
      dif_pos hunique]
    exact (hone "confidence").keep fun y => ⟨_, rfl⟩
  | score name confidence probabilities hrange hnonempty hunique =>
    simp only [construct, ScoreAnswer.make, text_val, bind_assoc, dif_neg hnonempty,
      dif_pos hunique, numberInRange_of_inRange hrange]
    have hscore : Checks value (value.Finite ∧ 0 ≤ value.rat)
        (number (.number value) "score" none) := by
      simpa using number_checks value "score" none
    exact hscore.keep fun y => ⟨_, rfl⟩
  | scoreConfidence name level probabilities hrange hnonempty hunique =>
    simp only [construct, ScoreAnswer.make, text_val, bind_assoc, dif_neg hnonempty,
      dif_pos hunique, numberInRange_of_inRange hrange]
    exact (hone "confidence").keep fun y => ⟨_, rfl⟩
  | toolBound bound => exact validateOptionalNumber_checks value bound.fieldName
  | temperature =>
    have h := normalizeNonNegative_checks value "temperature"
    simp only [construct, normalizeTemperature, bind_assoc]
    exact h
  | retryAfterSeconds => exact normalizeNonNegative_checks value "retry_after_seconds"

/-- **Which numbers are decided**: for every parameter those that `math.isfinite` can convert to a
float. An integer that rounds to `2 ^ 1024` or more in magnitude raises an `OverflowError`. -/
theorem decides_iff (parameter : NumericParameter) (value : PyNumber) :
    parameter.Decides value ↔ ¬ ∃ n : ℤ, value = .int n ∧ 2 ^ 1024 - 2 ^ 970 ≤ n.natAbs := by
  have hchecks := construct_checks parameter value
  constructor
  · intro h hlarge
    have houtcome := h.outcome
    rw [hchecks.tooLarge hlarge] at houtcome
    simp at houtcome
  · intro hsmall
    exact ⟨(hchecks.decided hsmall).imp_right .inr, hchecks.accepts hsmall⟩

/-- The bound `ge` of a tool parameter is not decided for `10 ^ 400`, which is finite. -/
theorem tool_bound_overflows :
    (NumericParameter.toolBound .ge).construct (.int (10 ^ 400)) =
        .error (.overflowError "int too large to convert to float") ∧
      ¬ (NumericParameter.toolBound .ge).Decides (.int (10 ^ 400)) := by
  have hlarge : PyNumber.TooLarge (.int (10 ^ 400)) := ⟨10 ^ 400, rfl, by decide +kernel⟩
  have hraises := (construct_checks (.toolBound .ge) _).tooLarge hlarge
  refine ⟨hraises, fun h => ?_⟩
  have haccepts := h.accepts trivial
  rw [hraises] at haccepts
  cases haccepts

end NumericParameter

end PurrceptCore
