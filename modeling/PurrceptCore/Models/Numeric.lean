import PurrceptCore.Numbers.Binary64

set_option relaxedAutoImplicit false
set_option autoImplicit false

/-!
# Checks of numbers

The checks that constructors make of a number: `number` (`decisions/_validation.py`),
`_validate_optional_number` (`tools/values.py`), `_normalize_temperature` (`settings.py`) and
`_normalize_retry_after` (`errors.py`).

## Main definitions

* `PurrceptCore.PyNumber`, `PurrceptCore.NumberArgument` — an `int` or a `float`, and what may be
  passed for one.
* `PurrceptCore.PyNumber.isfinite` — `math.isfinite`, which converts an `int` first.
* `PurrceptCore.number`, `PurrceptCore.validateOptionalNumber`,
  `PurrceptCore.normalizeTemperature`, `PurrceptCore.normalizeRetryAfter` — the checks.

## Main results

* `PurrceptCore.PyNumber.isfinite_int`, `PurrceptCore.PyNumber.isfinite_float` — what
  `math.isfinite` returns.
* `PurrceptCore.number_eq_ok`, `PurrceptCore.validateOptionalNumber_eq_ok` — which numbers pass.

## Design

* A float is its bits. Python compares an `int` and a `float` by the numbers they are, which is
  a comparison of rational numbers for finite floats; none is made before the test of finiteness.
-/

namespace PurrceptCore

/-- The exceptions that a constructor raises about its arguments. -/
inductive ArgumentError
  | typeError (text : String)
  | valueError (text : String)
  | overflowError (text : String)
  deriving DecidableEq

/-- An `int` other than a `bool`, or a `float`. -/
inductive PyNumber
  | int (value : ℤ)
  | float (bits : BitVec 64)
  deriving DecidableEq

/-- What may be passed where a number is expected. -/
inductive NumberArgument
  | none
  | bool (value : Bool)
  | number (value : PyNumber)
  /-- Any other object. -/
  | other

namespace PyNumber

/-- The number, unless it is an infinite float or NaN. -/
def rat : PyNumber → ℚ
  | int value => value
  | float bits => Binary64.value bits

/-- `float(value)`. -/
def toFloat : PyNumber → Except ArgumentError (BitVec 64)
  | int value =>
    match Binary64.ofInt value with
    | none => .error (.overflowError "int too large to convert to float")
    | some bits => .ok bits
  | float bits => .ok bits

/-- `math.isfinite`. -/
def isfinite (value : PyNumber) : Except ArgumentError Bool := do
  .ok (Binary64.isFinite (← value.toFloat))

/-- An integer that is too great for a conversion to a float. -/
def TooLarge (value : PyNumber) : Prop :=
  ∃ n : ℤ, value = int n ∧ 2 ^ 1024 - 2 ^ 970 ≤ n.natAbs

/-- The number is finite: it is an integer, or a float other than an infinity or NaN. -/
def Finite : PyNumber → Prop
  | int _ => True
  | float bits => Binary64.isFinite bits = true

/-- `math.isfinite` of an integer: true, or an `OverflowError`. -/
theorem isfinite_int (n : ℤ) : isfinite (int n) =
    if 2 ^ 1024 - 2 ^ 970 ≤ n.natAbs then
      .error (.overflowError "int too large to convert to float")
    else .ok true := by
  cases h : Binary64.ofInt n with
  | none =>
    simp only [isfinite, toFloat, h, bind, Except.bind]
    rw [if_pos (Binary64.ofInt_eq_none_iff.1 h)]
  | some bits =>
    have hsmall : ¬ 2 ^ 1024 - 2 ^ 970 ≤ n.natAbs := fun hlarge => by
      rw [Binary64.ofInt_eq_none_iff.2 hlarge] at h
      cases h
    simp only [isfinite, toFloat, h, bind, Except.bind]
    rw [if_neg hsmall, Binary64.isFinite_of_ofInt h]

@[simp] theorem isfinite_float (bits : BitVec 64) :
    isfinite (float bits) = .ok (Binary64.isFinite bits) := rfl

/-- `math.isfinite` of a number that is too large. -/
lemma isfinite_of_tooLarge {value : PyNumber} (h : value.TooLarge) :
    value.isfinite = .error (.overflowError "int too large to convert to float") := by
  obtain ⟨n, rfl, hn⟩ := h
  rw [isfinite_int, if_pos hn]

/-- `math.isfinite` of any other number. -/
lemma isfinite_of_not_tooLarge {value : PyNumber} (h : ¬ value.TooLarge) :
    ∃ finite, value.isfinite = .ok finite ∧ (finite = true ↔ value.Finite) := by
  cases value with
  | int n =>
    refine ⟨true, ?_, iff_of_true rfl trivial⟩
    rw [isfinite_int, if_neg fun hn => h ⟨n, rfl, hn⟩]
  | float bits => exact ⟨_, rfl, Iff.rfl⟩

/-- A number that is not too large can be converted. -/
lemma toFloat_of_not_tooLarge {value : PyNumber} (h : ¬ value.TooLarge) :
    ∃ bits, value.toFloat = .ok bits := by
  cases value with
  | int n =>
    rw [toFloat]
    cases hn : Binary64.ofInt n with
    | none => exact absurd ⟨n, rfl, Binary64.ofInt_eq_none_iff.1 hn⟩ h
    | some bits => exact ⟨bits, rfl⟩
  | float bits => exact ⟨bits, rfl⟩

end PyNumber

/-! ### The checks -/

/-- `number`; `upper` is given as an integer wherever it is given. -/
def number (value : NumberArgument) (name : String) (upper : Option ℤ) :
    Except ArgumentError Unit :=
  match value with
  | .number x => do
    if !(← x.isfinite) || x.rat < 0 || upper.any fun (u : ℤ) => (u : ℚ) < x.rat then
      .error (.valueError (name ++ " is outside its finite range."))
    else
      .ok ()
  | _ => .error (.typeError (name ++ " must be a number."))

/-- `_validate_optional_number`. -/
def validateOptionalNumber (value : NumberArgument) (fieldName : String) :
    Except ArgumentError Unit :=
  match value with
  | .none => .ok ()
  | .number x => do
    if !(← x.isfinite) then .error (.valueError (fieldName ++ " must be finite.")) else .ok ()
  | _ => .error (.typeError (fieldName ++ " must be a number."))

/-- The check of a number that is not negative and is kept as a float. -/
def normalizeNonNegative (value : NumberArgument) (fieldName : String) :
    Except ArgumentError (BitVec 64) :=
  match value with
  | .number x => do
    if !(← x.isfinite) then
      .error (.valueError (fieldName ++ " must be finite."))
    else if x.rat < 0 then
      .error (.valueError (fieldName ++ " must be greater than or equal to zero."))
    else
      x.toFloat
  | _ => .error (.typeError (fieldName ++ " must be a number."))

/-- `_normalize_temperature`. -/
def normalizeTemperature : NumberArgument → Except ArgumentError (Option (BitVec 64))
  | .none => .ok none
  | value => do .ok (some (← normalizeNonNegative value "temperature"))

/-- `_normalize_retry_after`. -/
def normalizeRetryAfter (value : NumberArgument) : Except ArgumentError (BitVec 64) :=
  normalizeNonNegative value "retry_after_seconds"

/-- What `number` has checked of a number that passes. -/
structure PyNumber.InRange (value : PyNumber) (upper : Option ℤ) : Prop where
  isfinite : value.isfinite = .ok true
  nonneg : 0 ≤ value.rat
  le_upper : ∀ u ∈ upper, value.rat ≤ u

/-- The numbers that pass `number`. -/
theorem number_eq_ok {value : PyNumber} {name : String} {upper : Option ℤ} :
    number (.number value) name upper = .ok () ↔ value.InRange upper := by
  simp only [number, bind, Except.bind]
  cases hfinite : value.isfinite with
  | error e =>
    refine iff_of_false (by simp) fun h => ?_
    rw [h.isfinite] at hfinite
    cases hfinite
  | ok finite =>
    have hpass : (!finite || decide (value.rat < 0) ||
        upper.any fun (u : ℤ) => decide ((u : ℚ) < value.rat)) = false ↔
          finite = true ∧ 0 ≤ value.rat ∧ ∀ u ∈ upper, value.rat ≤ u := by
      cases upper <;> simp [and_assoc]
    constructor
    · intro h
      dsimp only at h
      split at h
      · cases h
      · next hnot =>
        obtain ⟨hfin, hnonneg, hle⟩ := hpass.1 (Bool.eq_false_iff.2 hnot)
        exact ⟨by rw [hfinite, hfin], hnonneg, hle⟩
    · intro ⟨h, hnonneg, hle⟩
      rw [hfinite] at h
      cases h
      dsimp only
      rw [hpass.2 ⟨rfl, hnonneg, hle⟩]
      rfl

/-- The numbers that pass `_validate_optional_number`. -/
theorem validateOptionalNumber_eq_ok {value : PyNumber} {fieldName : String} :
    validateOptionalNumber (.number value) fieldName = .ok () ↔ value.isfinite = .ok true := by
  simp only [validateOptionalNumber, bind, Except.bind]
  cases hfinite : value.isfinite with
  | error e => simp
  | ok finite => cases finite <;> simp

end PurrceptCore
