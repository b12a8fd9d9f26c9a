import PurrceptCore.Interaction.Routine
import PurrceptCore.Models.Requests

set_option relaxedAutoImplicit false
set_option autoImplicit false

/-!
# What a turn asks of its surroundings

The code of a turn is synchronous between two yields. It hands effects to the driver
(`input_poll`, `Generate`, `InvokeTool`), and in between it calls objects of the application: a
custom context policy, token counters, reminder sources and the trace sink. Both are calls of a
routine; what comes back is any value or any exception.

## Main definitions

* `PurrceptCore.PromptTraceEvent` — the trace events (`prompt/tracing.py`).
* `PurrceptCore.TurnCall`, `PurrceptCore.TurnReply` — the calls and their replies;
  `PurrceptCore.TurnCall.isEffect` tells yields from callbacks.
* `PurrceptCore.TurnM` — routines over these calls. Their state is the slot `_remaining_state` of
  the prompt session, which outlives an exception.

## Design

* A reply that is not of the documented type is told apart as far as the code looks at it. An
  effect result of another type is an object that raises when the loop first uses it; objects
  that imitate the attributes of a response or a tool result are not modelled.
* Every message, response, reminder, context and result that a reply carries is one that its
  constructor accepts.
-/

namespace PurrceptCore

open Interaction

/-- A reminder source: an object of the application. -/
structure ReminderSource where
  object : ObjId
  deriving DecidableEq

/-- A value read from an attribute that should be a string. -/
inductive Attribute
  | str (value : String)
  | other
  deriving DecidableEq

/-- `ReminderResolutionContext`. -/
structure ReminderResolutionContext where
  model : Model
  conversation : ConversationState
  preparedContext : PreparedContext
  turnIndex : ℕ
  modelRound : ℕ
  turnIndex_pos : 0 < turnIndex
  modelRound_pos : 0 < modelRound

/-- `replace(context, prepared_context=…, model_round=…)`. -/
def ReminderResolutionContext.replace (context : ReminderResolutionContext)
    (preparedContext : PreparedContext) (modelRound : ℕ) :
    Except Failure ReminderResolutionContext :=
  if h : 0 < modelRound then
    .ok { context with preparedContext, modelRound, modelRound_pos := h }
  else
    .error (.valueError "model_round must be greater than zero.")

/-- The events of a prompt trace. -/
inductive PromptTraceEvent
  | promptCompiled (modelRound : ℕ) (promptFingerprint : String)
      (reminderKeys : List (Option NonEmptyString))
      (reminderScopes : List (Option ReminderScope))
      (reminderPlacements : List ReminderPlacement) (reminderPriorities : List ℤ)
      (contentHashes : List String) (dynamicSourceIds : List NonEmptyString)
      (estimatedTokens : Option ℕ) (trimmedTurns : ℕ)
  | reminderConsumed (modelRound : ℕ) (reminderKeys : List (Option NonEmptyString))
  | reminderSourceResolved (modelRound : ℕ) (sourceId : Attribute)
      (reminderKeys : List (Option NonEmptyString))
  | reminderSourceFailed (modelRound : ℕ) (sourceId : NonEmptyString) (errorType : String)

/-- The calls of a turn. -/
inductive TurnCall
  /-- `yield input_poll`. -/
  | inputPoll
  /-- `yield Generate(model, request)`. -/
  | generate (model : Model) (request : ModelRequest)
  /-- `yield InvokeTool(tool, call)`. -/
  | invokeTool (tool : Option FunctionTool) (call : ToolCallBlock)
  /-- `context_policy.prepare(state, model)` of a policy that is not built in. -/
  | prepare (state : ConversationState) (model : Model)
  /-- A `TokenCounter`. -/
  | countTokens (messages : List Message) (model : Model)
  /-- A `RequestTokenCounter`. -/
  | countRequest (request : ModelRequest) (model : Model)
  /-- `source.source_id`. -/
  | sourceId (source : ReminderSource)
  /-- `source.resolve(context)`, with the iteration over its result. -/
  | resolve (source : ReminderSource) (context : ReminderResolutionContext)
  /-- The prompt trace sink. -/
  | trace (event : PromptTraceEvent)

/-- The calls that are yields of the flow: effects, which the driver executes. -/
def TurnCall.isEffect : TurnCall → Bool
  | inputPoll | generate _ _ | invokeTool _ _ => true
  | _ => false

/-- A value that should be an `α`; another object raises when it is used. -/
inductive Answer (α : Type)
  | typed (value : α)
  | other (error : Exc)

/-- An item of what an input poll returned. -/
inductive PolledItem
  | message (message : Message)
  | other

/-- What an input poll returned. -/
inductive Polled
  | tuple (items : List PolledItem)
  | other

/-- What `ContextPolicy.prepare` returned. -/
inductive Prepared
  | context (context : PreparedContext)
  | awaitable
  | other

/-- What a token counter returned. A `bool` is not counted as an `int`. -/
inductive Count
  | int (value : ℤ)
  | awaitable
  | other

/-- An item of what `ReminderSource.resolve` returned. -/
inductive ResolvedItem
  | reminder (reminder : SystemReminder)
  | awaitable
  | other

/-- What `ReminderSource.resolve` returned. -/
inductive Resolved
  | items (items : List ResolvedItem)
  | awaitable
  /-- A string, or an object that is not iterable. -/
  | notIterable

/-- What the trace sink returned. -/
inductive TraceResult
  | none
  | awaitable
  | other

/-- The replies to the calls of a turn. -/
abbrev TurnReply : TurnCall → Type
  | .inputPoll => Except Exc Polled
  | .generate _ _ => Except Exc (Answer ModelResponse)
  | .invokeTool _ _ => Except Exc (Answer ToolResult)
  | .prepare _ _ => Except Exc Prepared
  | .countTokens _ _ | .countRequest _ _ => Except Exc Count
  | .sourceId _ => Except Exc Attribute
  | .resolve _ _ => Except Exc Resolved
  | .trace _ => Except Exc TraceResult

/-- The calls of a turn, with their replies. -/
abbrev TurnTrace : Type := Trace TurnCall TurnReply

/-- Parts of a turn. -/
abbrev TurnM (α : Type) : Type := Routine ReminderState TurnCall TurnReply Failure α

/-- Go on with what came back, or raise the exception that came back. -/
def receive {S C : Type} {R : C → Type} {α : Type} (reply : Except Exc α) :
    Routine S C R Failure α :=
  match reply with
  | .ok value => pure value
  | .error error => throw (.raised error)

/-- Go on with a typed value; another object raises here. -/
def Answer.use {α : Type} (answer : Answer α) : TurnM α :=
  match answer with
  | .typed value => pure value
  | .other error => throw (.raised error)

/-- `require_non_empty_string`. -/
def requireNonEmptyString (value : Attribute) (fieldName : String) :
    Except Failure NonEmptyString :=
  match value with
  | .other => .error (.typeError (fieldName ++ " must be a string."))
  | .str value =>
    if h : value = "" then .error (.valueError (fieldName ++ " must not be empty."))
    else .ok ⟨value, h⟩

/-- `emit_prompt_trace`; `sink` tells whether there is a sink. -/
def emitPromptTrace (sink : Bool) (event : PromptTraceEvent) : TurnM Unit :=
  if !sink then
    pure ()
  else do
    match ← receive (← Routine.call (.trace event)) with
    | .none => pure ()
    | .awaitable => throw (.typeError "PromptTraceSink must be synchronous.")
    | .other => throw (.typeError "PromptTraceSink must return None.")

/-- The validation of a count, for the counter of the given name. -/
def validateCount (counter : String) (count : Count) : TurnM ℕ :=
  match count with
  | .awaitable => throw (.typeError (counter ++ " must be synchronous and return an int."))
  | .other => throw (.typeError (counter ++ " must return an int."))
  | .int value =>
    if value < 0 then throw (.valueError (counter ++ " must return a non-negative count."))
    else pure value.toNat

/-- `_count_tokens`. -/
def countTokens (messages : List Message) (model : Model) : TurnM ℕ := do
  validateCount "TokenCounter" (← receive (← Routine.call (.countTokens messages model)))

/-- `RequestTokenBudget.count`. -/
def countRequest (request : ModelRequest) (model : Model) : TurnM ℕ := do
  validateCount "RequestTokenCounter"
    (← receive (← Routine.call (.countRequest request model)))

end PurrceptCore
