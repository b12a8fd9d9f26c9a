import Mathlib.Data.Rat.Defs
import PurrceptCore.Exceptions
import PurrceptCore.Interaction.Routine

set_option relaxedAutoImplicit false
set_option autoImplicit false

/-!
# Lifecycle events and sink results

The values that the agent driver handles: the lifecycle events of `events.py`, and what an event
sink may hand back.

## Main definitions

* `PurrceptCore.RunEvent` — the lifecycle events.
* `PurrceptCore.SinkResult` — what `EventSink.emit` returned.

## Design

* Datetimes are integers and durations rational numbers, so rounding in the subtraction of two
  clock readings is not modelled.
-/

namespace PurrceptCore

/-- A reading of the wall clock. -/
abbrev Instant := ℤ

/-- A reading of the monotonic clock, or a duration. -/
abbrev Seconds := ℚ

/-- The lifecycle events of one run, over the Python objects `V` and the effects `E`. -/
inductive RunEvent (V E : Type)
  | runStarted (runId : String) (occurredAt : Instant) (metadata : List (String × V))
  | effectStarted (runId : String) (occurredAt : Instant) (effectId : String) (stepIndex : ℕ)
      (effect : E)
  | effectProgress (runId : String) (occurredAt : Instant) (effectId : String)
      (stepIndex : ℕ) (effect : E) (payload : V)
  | effectSucceeded (runId : String) (occurredAt : Instant) (effectId : String)
      (stepIndex : ℕ) (effect : E) (result : V) (elapsedSeconds : Seconds)
  | effectFailed (runId : String) (occurredAt : Instant) (effectId : String)
      (stepIndex : ℕ) (effect : E) (error : Exc) (elapsedSeconds : Seconds)
  | runSucceeded (runId : String) (occurredAt : Instant) (result : V)
      (elapsedSeconds : Seconds)
  | runFailed (runId : String) (occurredAt : Instant) (error : Exc) (elapsedSeconds : Seconds)
  | runCancelled (runId : String) (occurredAt : Instant) (elapsedSeconds : Seconds)

namespace RunEvent

variable {V E : Type}

/-- `event.run_id`. -/
def runId : RunEvent V E → String
  | runStarted r .. | effectStarted r .. | effectProgress r .. | effectSucceeded r ..
  | effectFailed r .. | runSucceeded r .. | runFailed r .. | runCancelled r .. => r

/-- `type(event).__qualname__`. -/
def typeName : RunEvent V E → String
  | runStarted .. => "RunStarted"
  | effectStarted .. => "EffectStarted"
  | effectProgress .. => "EffectProgress"
  | effectSucceeded .. => "EffectSucceeded"
  | effectFailed .. => "EffectFailed"
  | runSucceeded .. => "RunSucceeded"
  | runFailed .. => "RunFailed"
  | runCancelled .. => "RunCancelled"

end RunEvent

/-- What a call of `EventSink.emit` returned. -/
inductive SinkResult
  /-- `None`, as the contract asks. -/
  | none
  /-- An awaitable; a coroutine is closed without having run. -/
  | awaitable
  /-- Any other object, of the named type. -/
  | other (typeName : String)
  deriving DecidableEq, Repr

/-- A `TypeError` created by the core. -/
def typeError (n : ℕ) (text : String) : Exc :=
  ⟨.made n, .typeError, "builtins.TypeError", text⟩

/-- `EventDispatchError(event)`. -/
def eventDispatchError {V E : Type} (n : ℕ) (event : RunEvent V E) : Exc :=
  ⟨.made n, .eventDispatchError, "purrcept_core.errors.EventDispatchError",
    "Failed to dispatch purrcept_core.events." ++ event.typeName ++ " for run " ++
      pyRepr event.runId ++ "."⟩

/-- `InvalidRunStateError(text)`. -/
def invalidRunStateError (n : ℕ) (text : String) : Exc :=
  ⟨.made n, .invalidRunStateError, "purrcept_core.errors.InvalidRunStateError", text⟩

end PurrceptCore
