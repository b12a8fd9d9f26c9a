import PurrceptCore.Driver.Run

set_option relaxedAutoImplicit false
set_option autoImplicit false

/-!
# The agent driver

`AgentDriver.run` of `driver.py` as a routine. Its collaborators are the clocks and the id
factory, the event sink, the agent run and the executor; each call of one of them is a call
of the routine. While the executor runs, it may call `progress` on the context it was given or
on one it has kept from an earlier effect: such a call is a reply of the executor, and what
`progress` did is handed back to it by the call `resume`.

## Main definitions

* `PurrceptCore.Call`, `PurrceptCore.Reply` — the calls of the driver and their replies.
* `PurrceptCore.Channel` — the variables that the two closures of a progress channel share.
* `PurrceptCore.AgentDriver.emit`, `reportProgress`, `finishProgress`, `closePreserving` — the
  helpers of `run`.
* `PurrceptCore.AgentDriver.run` — the run of one flow.

## Design

* The loops of the driver have no bound of their own. `fuel` bounds their unrolling; a branch
  that runs out of it is not followed. Statements about the driver are for every `fuel`.
* `progress` and the helpers of `run` are plain functions; of the driver only `run` is a coroutine.
  What an awaited executor raises is what the `await` raises.
* A note added to an exception and a cause set by `raise … from …` change an object that the
  collaborators see as well, so they are calls.
* Progress channels live at addresses, one for each effect, and stay there when the effect
  has finished. An address that has not been given out holds a channel that is not active.
-/

namespace PurrceptCore

open Interaction

/-- `ExecutionContext`: its progress callback is the channel at address `channel`. -/
structure ExecutionContext (V : Type) where
  runId : String
  effectId : String
  stepIndex : ℕ
  host : V
  metadata : List (String × V)
  channel : ℕ

/-- The calls of the driver. -/
inductive Call (V E : Type)
  | idFactory
  | clock
  | monotonic
  /-- `self._event_sink.emit(event)`. -/
  | emit (event : RunEvent V E)
  | start
  | send (value : V)
  | throw (error : Exc)
  | close
  /-- `await self._executor.execute(effect, context)`. -/
  | execute (effect : E) (context : ExecutionContext V)
  /-- `progress` returns to the executor or raises there. -/
  | resume (outcome : Except Exc Unit)
  | addNote (error : Exc) (note : String)
  | setCause (error cause : Exc)

/-- What the executor does next. -/
inductive ExecReply (V : Type)
  /-- It calls `progress(payload)` on the context whose channel is at `channel`. -/
  | progress (channel : ℕ) (payload : V)
  /-- It returns a value or raises. -/
  | done (outcome : Except Exc V)

/-- The replies to the calls of the driver. -/
abbrev Reply (V E : Type) : Call V E → Type
  | .idFactory => Except Exc String
  | .clock => Except Exc Instant
  | .monotonic => Except Exc Seconds
  | .emit _ => Except Exc SinkResult
  | .start | .send _ | .throw _ => Except Exc (RunState V E)
  | .close => Except Exc Unit
  | .execute _ _ | .resume _ => ExecReply V
  | .addNote _ _ | .setCause _ _ => Unit

/-- The variables of one progress channel, with what its closures captured. -/
structure Channel (E : Type) where
  runId : String
  effectId : String
  stepIndex : ℕ
  effect : E
  active : Bool
  dispatchError : Option Exc

/-- The state of a driver run: its progress channels, and how many exception objects it has
created. -/
structure DriverState (E : Type) where
  channels : ℕ → Option (Channel E)
  made : ℕ

namespace AgentDriver

variable {V E : Type}

/-- Parts of a driver run. -/
abbrev DriverM (V E α : Type) : Type :=
  Routine (DriverState E) (Call V E) (Reply V E) Exc α

/-- Make one call. -/
def call (c : Call V E) : DriverM V E (Reply V E c) := Routine.call c

/-- `self._id_factory()`. -/
def idFactory : DriverM V E String := do Routine.ofExcept (← call .idFactory)

/-- `self._clock()`. -/
def clock : DriverM V E Instant := do Routine.ofExcept (← call .clock)

/-- `self._monotonic()`. -/
def monotonic : DriverM V E Seconds := do Routine.ofExcept (← call .monotonic)

/-- `agent_run.start()`. -/
def start : DriverM V E (RunState V E) := do Routine.ofExcept (← call .start)

/-- `agent_run.send(value)`. -/
def send (value : V) : DriverM V E (RunState V E) := do
  Routine.ofExcept (← call (.send value))

/-- `agent_run.throw(error)`. -/
def throwInto (error : Exc) : DriverM V E (RunState V E) := do
  Routine.ofExcept (← call (.throw error))

/-- The number of the next exception object. -/
def newObject : DriverM V E ℕ := do
  let made := (← get).made
  modify fun s => { s with made := made + 1 }
  pure made

/-- What the sink did, checked against its contract: it raised, or it returned `None`, or it
returned something else, which is a `TypeError`. -/
def checkSinkResult (result : SinkResult) : DriverM V E Unit :=
  match result with
  | .none => pure ()
  | .awaitable => do
    throw (typeError (← newObject) "EventSink.emit() must be synchronous and return None.")
  | .other typeName => do
    throw (typeError (← newObject)
      ("EventSink.emit() must return None, got " ++ typeName ++ "."))

/-- `_emit`: an ordinary failure becomes an `EventDispatchError`, whose cause it is; a
`BaseException` outside `Exception` is not caught. -/
def emit (event : RunEvent V E) : DriverM V E Unit :=
  tryCatch (do checkSinkResult (← Routine.ofExcept (← call (.emit event)))) fun error =>
    if error.cls = .eventDispatchError then
      throw error
    else if error.cls.isException then do
      let dispatchError := eventDispatchError (← newObject) event
      call (.setCause dispatchError error)
      throw dispatchError
    else
      throw error

/-- `_make_progress_channel`: a new active channel at address `stepIndex`. -/
def makeProgressChannel (runId effectId : String) (stepIndex : ℕ) (effect : E) :
    DriverM V E Unit :=
  modify fun s => { s with
    channels := Function.update s.channels stepIndex
      (some ⟨runId, effectId, stepIndex, effect, true, none⟩) }

/-- `report_progress` of the channel at `address`. -/
def reportProgress (address : ℕ) (payload : V) : DriverM V E Unit := do
  match (← get).channels address with
  | none => throw (invalidRunStateError (← newObject) "No such progress channel.")
  | some channel =>
    if !channel.active then
      throw (invalidRunStateError (← newObject) ("Cannot report progress after effect " ++
        pyRepr channel.effectId ++ " has finished."))
    else
      match channel.dispatchError with
      | some dispatchError => throw dispatchError
      | none =>
        tryCatch
          (do emit (.effectProgress channel.runId (← clock) channel.effectId
                channel.stepIndex channel.effect payload))
          fun error => do
            if error.cls = .eventDispatchError then
              modify fun s => { s with
                channels := Function.update s.channels address
                  (some { channel with dispatchError := some error }) }
            throw error

/-- `finish_progress` of the channel at `address`: deactivate it and return the dispatch
failure it has latched. -/
def finishProgress (address : ℕ) : DriverM V E (Option Exc) := do
  match (← get).channels address with
  | none => pure none
  | some channel =>
    modify fun s => { s with
      channels := Function.update s.channels address (some { channel with active := false }) }
    pure channel.dispatchError

/-- `close_preserving`: close the run; a failure to close becomes a note of `primaryError`. -/
def closePreserving (primaryError : Exc) : DriverM V E Unit := do
  match ← call .close with
  | .ok () => pure ()
  | .error closeError =>
    call (.addNote primaryError ("AgentRun.close() also raised " ++
      closeError.describe))

/-- The executor at work: it may report progress any number of times before it ends. -/
def awaitExecutor : ℕ → ExecReply V → DriverM V E V
  | _, .done outcome => Routine.ofExcept outcome
  | 0, .progress _ _ => Routine.cut
  | fuel + 1, .progress address payload => do
    let outcome ← Routine.attempt (reportProgress address payload)
    awaitExecutor fuel (← call (.resume outcome))

/-- The inner `try` around the executor: the progress channel is finished before the outcome
of the effect is chosen, and a latched dispatch failure wins over that outcome. -/
def executeEffect (fuel : ℕ) (effect : E) (context : ExecutionContext V) : DriverM V E V := do
  let outcome ← Routine.attempt do
    awaitExecutor fuel (← call (.execute effect context))
  match outcome with
  | .error executionError => do
    let progressError ← finishProgress context.channel
    match progressError with
    | some progressError =>
      if progressError ≠ executionError then
        call (.addNote progressError ("Effect execution also raised " ++
          executionError.describe))
        throw progressError
      else
        throw executionError
    | none => throw executionError
  | .ok value => do
    let progressError ← finishProgress context.channel
    match progressError with
    | some progressError => throw progressError
    | none => pure value

/-- One turn of the main loop after an effect was yielded: announce the effect, execute it, and
feed its success or ordinary failure back into the run. -/
def runEffect (fuel : ℕ) (runId : String) (host : V) (metadata : List (String × V))
    (stepIndex : ℕ) (effect : E) : DriverM V E (RunState V E) := do
  let effectId ← idFactory
  let effectStartedAt ← monotonic
  emit (.effectStarted runId (← clock) effectId stepIndex effect)
  makeProgressChannel runId effectId stepIndex effect
  let outcome ← Routine.attempt
    (executeEffect fuel effect ⟨runId, effectId, stepIndex, host, metadata, stepIndex⟩)
  match outcome with
  | .error error =>
    -- cancellations and dispatch failures are re-raised, and only an ordinary exception is
    -- reported and thrown into the run
    if error.cls = .cancelledError then
      throw error
    else if error.cls = .eventDispatchError then
      throw error
    else if error.cls.isException then do
      emit (.effectFailed runId (← clock) effectId stepIndex effect error
        ((← monotonic) - effectStartedAt))
      throwInto error
    else
      throw error
  | .ok value => do
    emit (.effectSucceeded runId (← clock) effectId stepIndex effect value
      ((← monotonic) - effectStartedAt))
    send value

/-- The main loop. -/
def driveLoop (runId : String) (runStartedAt : Seconds) (host : V)
    (metadata : List (String × V)) : ℕ → RunState V E → ℕ → DriverM V E V
  | _, .returned result, _ => do
    emit (.runSucceeded runId (← clock) result ((← monotonic) - runStartedAt))
    pure result
  | _, .unsupported typeName, _ => do
    throw (typeError (← newObject) ("AgentRun returned an unsupported state " ++ typeName ++
      "."))
  | 0, .yielded _, _ => Routine.cut
  | fuel + 1, .yielded effect, stepIndex => do
    let state ← runEffect fuel runId host metadata stepIndex effect
    driveLoop runId runStartedAt host metadata fuel state (stepIndex + 1)

/-- The handlers around the main loop. -/
def handleFailure (runId : String) (runStartedAt : Seconds) (error : Exc) : DriverM V E V :=
  if error.cls = .cancelledError then do
    closePreserving error
    tryCatch
      (do emit (.runCancelled runId (← clock) ((← monotonic) - runStartedAt)))
      fun dispatchError => do
        if dispatchError.cls = .eventDispatchError then
          call (.addNote error ("Dispatching RunCancelled also failed; the " ++
            "EventDispatchError is attached as this cancellation's cause."))
          call (.setCause error dispatchError)
          throw error
        else
          throw dispatchError
    throw error
  else if error.cls = .eventDispatchError then do
    closePreserving error
    throw error
  else if error.cls.isException then do
    Routine.tryFinally
      (do emit (.runFailed runId (← clock) error ((← monotonic) - runStartedAt)))
      (closePreserving error)
    throw error
  else do
    closePreserving error
    throw error

/-- The values resolved before the first event: the run id and the start time. -/
def preflight (runId : Option String) : DriverM V E (String × Seconds) := do
  let resolvedRunId ← match runId with
    | none => idFactory
    | some runId => pure runId
  pure (resolvedRunId, ← monotonic)

/-- `run` from the first lifecycle event on. -/
def runStarted (fuel : ℕ) (host : V) (metadata : List (String × V)) (runId : String)
    (runStartedAt : Seconds) : DriverM V E V := do
  let outcome ← Routine.attempt do
    emit (.runStarted runId (← clock) metadata)
    driveLoop runId runStartedAt host metadata fuel (← start) 0
  match outcome with
  | .ok result => pure result
  | .error error => handleFailure runId runStartedAt error

/-- The body of `run`: a preflight failure closes the run before any event. -/
def runBody (fuel : ℕ) (host : V) (metadata : List (String × V)) (runId : Option String) :
    DriverM V E V := do
  match ← Routine.attempt (preflight runId) with
  | .error error => do
    closePreserving error
    throw error
  | .ok (resolvedRunId, runStartedAt) =>
    runStarted fuel host metadata resolvedRunId runStartedAt

/-- `run`, which is a coroutine: it does not raise the `StopIteration` that its body raises. -/
def run (fuel : ℕ) (host : V) (metadata : List (String × V)) (runId : Option String) :
    DriverM V E V :=
  tryCatch (runBody fuel host metadata runId) fun error => do
    throw (error.leaving "coroutine" (.made (← newObject)))

/-- A driver run before its first call. -/
def initialState : DriverState E := ⟨fun _ => none, 0⟩

end AgentDriver

end PurrceptCore
