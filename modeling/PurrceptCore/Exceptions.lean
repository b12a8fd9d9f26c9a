import Mathlib.Tactic.Common

set_option relaxedAutoImplicit false
set_option autoImplicit false

/-!
# Exception objects

## Main definitions

* `PurrceptCore.ExcClass` — the classes on which control flow depends.
* `PurrceptCore.Exc` — an exception object: an identity, a class, and the texts that are
  formatted into notes.
* `PurrceptCore.Exc.leaving`, `PurrceptCore.leaving` — what leaves a coroutine or a generator;
  `PurrceptCore.HasLeft` is an outcome that can.

## Main results

* `PurrceptCore.Exc.leaving_eq`, `PurrceptCore.Exc.leaving_cls` — a `StopIteration` is replaced, and
  nothing else is.

## Design

* The classes that decide a handler are the constructors of `ExcClass`. They are disjoint: an
  exception is a cancellation, an `EventDispatchError`, a `StopIteration`, another ordinary
  exception, or a `BaseException` outside `Exception`.
* An exception carries the identity `ObjId` of its object, so that two exceptions that look alike
  are still told apart: equality of `Exc` values stands for `is`. Objects the driver creates are
  kept apart from those it is given.
* Formatting an exception into text is total, and so is `add_note`: a class whose `__str__` or whose
  `add_note` raises is not modelled.
-/

namespace PurrceptCore

/-- The classes of exception objects on which control flow depends. -/
inductive ExcClass
  /-- `asyncio.CancelledError`, a `BaseException` outside `Exception`. -/
  | cancelledError
  /-- `EventDispatchError`, an ordinary exception. -/
  | eventDispatchError
  /-- `InvalidRunStateError`, an ordinary exception. -/
  | invalidRunStateError
  /-- `TypeError`, an ordinary exception. -/
  | typeError
  /-- `StopIteration`, an ordinary exception that does not leave a coroutine or a generator. -/
  | stopIteration
  /-- Any other subclass of `Exception`. -/
  | exception
  /-- Any other `BaseException`: `KeyboardInterrupt`, `SystemExit`, `GeneratorExit`. -/
  | baseException
  deriving DecidableEq, Repr

/-- `issubclass(cls, Exception)`. -/
def ExcClass.isException : ExcClass → Bool
  | cancelledError | baseException => false
  | eventDispatchError | invalidRunStateError | typeError | stopIteration | exception => true

/-- The identity of an object: one the driver was given, or one it created itself. -/
inductive ObjId
  | given (n : ℕ)
  | made (n : ℕ)
  deriving DecidableEq, Repr

/-- An exception object. -/
structure Exc where
  /-- `id(error)`. -/
  id : ObjId
  /-- Its class, as far as control flow depends on it. -/
  cls : ExcClass
  /-- `type(error).__module__ + "." + type(error).__qualname__`. -/
  typeName : String
  /-- `str(error)`. -/
  text : String
  deriving DecidableEq, Repr

/-- How a note names an exception. -/
def Exc.describe (error : Exc) : String := error.typeName ++ ": " ++ error.text

/-- `repr` of a string without quotes, backslashes or control characters. -/
def pyRepr (text : String) : String := "'" ++ text ++ "'"

/-! ### Leaving a coroutine or a generator -/

/-- The exception that leaves a coroutine or a generator when `error` is raised in it and not
caught: the interpreter replaces a `StopIteration` by a new `RuntimeError`. -/
def Exc.leaving (routine : String) (id : ObjId) (error : Exc) : Exc :=
  if error.cls = .stopIteration then
    ⟨id, .exception, "builtins.RuntimeError", routine ++ " raised StopIteration"⟩
  else error

/-- How a coroutine or a generator ends whose body has come to an outcome. -/
def leaving {α : Type} (routine : String) (id : ObjId) : Except Exc α → Except Exc α
  | .ok value => .ok value
  | .error error => .error (error.leaving routine id)

/-- An outcome with which a coroutine or a generator may end: no `StopIteration`. -/
def HasLeft {α : Type} (o : Except Exc α) : Prop :=
  ∀ error, o = .error error → error.cls ≠ .stopIteration

section Leaving

variable (routine : String) (id : ObjId) {error : Exc}

/-- Anything but a `StopIteration` leaves as the same object. -/
lemma Exc.leaving_eq (h : error.cls ≠ .stopIteration) : error.leaving routine id = error :=
  if_neg h

/-- A `StopIteration` does not leave. -/
lemma Exc.leaving_cls (error : Exc) : (error.leaving routine id).cls ≠ .stopIteration := by
  unfold leaving
  split
  · exact fun h => by cases h
  · next h => exact h

/-- What has left one coroutine leaves the next one unchanged. -/
lemma leaving_eq {α : Type} {o : Except Exc α} (h : HasLeft o) : leaving routine id o = o := by
  cases o with
  | ok value => rfl
  | error error => exact congrArg Except.error (Exc.leaving_eq routine id (h error rfl))

/-- What leaves has left. -/
lemma hasLeft_leaving {α : Type} (o : Except Exc α) : HasLeft (leaving routine id o) := by
  cases o with
  | ok value => exact fun _ h => by cases h
  | error error =>
    intro _ h
    cases h
    exact error.leaving_cls routine id

/-- A class other than that of a `StopIteration` and of a `RuntimeError` is not made by leaving. -/
lemma Exc.leaving_cls_iff {cls : ExcClass} (hstop : cls ≠ .stopIteration)
    (hruntime : cls ≠ .exception) : (error.leaving routine id).cls = cls ↔ error.cls = cls := by
  unfold leaving
  split
  · next h =>
    rw [h]
    exact iff_of_false (fun h => hruntime h.symm) fun h => hstop h.symm
  · rfl

end Leaving

end PurrceptCore
