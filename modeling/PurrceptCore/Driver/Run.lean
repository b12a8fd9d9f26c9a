import PurrceptCore.Driver.Events

set_option relaxedAutoImplicit false
set_option autoImplicit false

/-!
# Run states and the generator adapter

The protocol between a driver and an agent run (`run.py`): every advancement yields one effect
or returns the final value. `GeneratorRun` adapts a Python generator to it.

## Main definitions

* `PurrceptCore.RunState` — what an advancement returned.
* `PurrceptCore.GeneratorRun.start`, `send`, `throw`, `close` — the methods of the adapter, as
  routines that call the generator.
-/

namespace PurrceptCore

open Interaction

/-- What `start`, `send` or `throw` of an `AgentRun` returned. -/
inductive RunState (V E : Type)
  | yielded (effect : E)
  | returned (value : V)
  /-- An object that is neither `Yielded` nor `Returned`, of the named type. -/
  | unsupported (typeName : String)

/-- A call of a Python generator. -/
inductive GenCall (V : Type)
  | next
  | send (value : V)
  | throw (error : Exc)
  | close

/-- What a generator does when it is resumed. -/
inductive GenStep (V E : Type)
  | yielded (effect : E)
  /-- `StopIteration`, carrying the returned value. -/
  | stopIteration (value : V)
  /-- An exception other than `StopIteration`. -/
  | raised (error : Exc)

/-- The replies of a generator: a step, or for `close` whether closing raised. -/
abbrev GenReply (V E : Type) : GenCall V → Type
  | .next | .send _ | .throw _ => GenStep V E
  | .close => Except Exc Unit

/-- `_GeneratorRunState`. -/
inductive GeneratorRunState
  | created
  | running
  | returned
  | closed
  deriving DecidableEq, Repr

/-- The value of the enumeration member. -/
def GeneratorRunState.value : GeneratorRunState → String
  | created => "CREATED"
  | running => "RUNNING"
  | returned => "RETURNED"
  | closed => "CLOSED"

namespace GeneratorRun

variable {V E : Type}

/-- Methods of a `GeneratorRun`: they read and write `_state` and call the generator. -/
abbrev Method (V E α : Type) : Type :=
  Routine GeneratorRunState (GenCall V) (GenReply V E) Exc α

/-- Resume the generator. -/
def resume (c : GenCall V) : Method V E (GenReply V E c) := Routine.call c

/-- `_require_state`. The identity of the error is never compared. -/
def requireState (expected : GeneratorRunState) (operation : String) : Method V E Unit := do
  let state ← get
  if state = expected then
    pure ()
  else
    throw (invalidRunStateError 0 ("Cannot " ++ operation ++
      " GeneratorRun while it is in " ++ state.value ++ " state; expected " ++
      expected.value ++ "."))

/-- `_advance`, on what the generator did: the terminal state is recorded before an exception
leaves. -/
def advance (step : GenStep V E) : Method V E (RunState V E) :=
  match step with
  | .stopIteration value => do
    set GeneratorRunState.returned
    pure (.returned value)
  | .raised error => do
    set GeneratorRunState.closed
    throw error
  | .yielded effect => do
    set GeneratorRunState.running
    pure (.yielded effect)

/-- `start`. -/
def start : Method V E (RunState V E) := do
  requireState .created "start"
  advance (← resume .next)

/-- `send`. -/
def send (value : V) : Method V E (RunState V E) := do
  requireState .running "send a value to"
  advance (← resume (.send value))

/-- `throw`. -/
def throw (error : Exc) : Method V E (RunState V E) := do
  requireState .running "throw an error into"
  advance (← resume (.throw error))

/-- `close`: idempotent, and a returned run stays `RETURNED`. -/
def close : Method V E Unit := do
  let state ← get
  if state = .closed ∨ state = .returned then
    pure ()
  else
    Routine.tryFinally
      (do Routine.ofExcept (← resume .close))
      (set GeneratorRunState.closed)

/-! ### The state of the adapter -/

/-- The monitor that allows every call of the generator and assumes nothing of it. -/
def anyGenerator : Monitor (GenCall V) (GenReply V E) Unit where
  allow _ _ := True
  expect _ _ _ := True
  next _ _ _ := ()

lemma anyGenerator_assumed (tr : Trace (GenCall V) (GenReply V E)) :
    anyGenerator.Assumed () tr := by
  induction tr with
  | nil => trivial
  | cons x tr ih => exact ⟨trivial, ih⟩

/-- The adapter is `RUNNING` when an advancement has yielded. -/
def RunningIfYielded (o : Except Exc (RunState V E)) (state : GeneratorRunState) (_ : Unit) :
    Prop :=
  ∀ effect, o = .ok (.yielded effect) → state = .running

lemma wp_advance (step : GenStep V E) (state : GeneratorRunState) :
    Routine.wp anyGenerator (advance step) RunningIfYielded state () := by
  cases step with
  | yielded effect => exact fun _ _ => rfl
  | stopIteration value => exact fun _ h => nomatch h
  | raised error => exact fun _ h => nomatch h

lemma wp_requireState {Q : Except Exc Unit → GeneratorRunState → Unit → Prop}
    {expected state : GeneratorRunState} {operation : String} (hok : Q (.ok ()) state ())
    (herr : ∀ e, Q (.error e) state ()) :
    Routine.wp (anyGenerator (E := E)) (requireState (V := V) expected operation) Q state () := by
  unfold requireState
  rw [Routine.wp_bind, Routine.wp_get, Routine.onOk_ok]
  split
  · exact hok
  · exact herr _

/-- The rule of `start`, `send` and `throw`: whatever the generator does, the adapter is
`RUNNING` when it has yielded. -/
lemma wp_method {expected state : GeneratorRunState} {operation : String} (c : GenCall V)
    (read : GenReply V E c → GenStep V E) :
    Routine.wp anyGenerator (do
      requireState expected operation
      advance (read (← resume c))) RunningIfYielded state () := by
  rw [Routine.wp_bind]
  refine wp_requireState ?_ fun e effect h => nomatch h
  rw [Routine.onOk_ok, Routine.wp_bind]
  exact ⟨trivial, fun r _ => wp_advance (read r) state⟩

/-- What the check of `_require_state` does when it passes. -/
lemma requireState_self (state : GeneratorRunState) (operation : String) :
    requireState (V := V) (E := E) state operation state = .ret (.ok (), state) := by
  rw [requireState, Routine.get_bind, if_pos rfl]
  rfl

end GeneratorRun

end PurrceptCore
