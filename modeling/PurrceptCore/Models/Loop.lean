import PurrceptCore.Models.TurnPromptSession

set_option relaxedAutoImplicit false
set_option autoImplicit false

/-!
# The model loop

`run_model_turn` (`loop.py`): one transaction of a user message, model rounds and tool calls. It
works on a provisional transcript and returns a new state.

## Main definitions

* `PurrceptCore.Conversation` — the configuration that a conversation holds for all its turns.
* `PurrceptCore.ModelTurnResult` — the result of a turn.
* `PurrceptCore.pollInput`, `PurrceptCore.buildRequest`, `PurrceptCore.invokeTools` — the parts
  of one round.
* `PurrceptCore.runModelTurn` — the loop.

## Design

* The local variables of the loop are its arguments. The loop counts down the rounds that
  `range(1, max_model_rounds + 1)` has left, next to the number of the current one.
* The message and the limit are checked again by the loop, as in the source.
-/

namespace PurrceptCore

open Interaction

/-- The slots of a `Conversation` that never change, with what its constructor has checked. -/
structure Conversation where
  model : Model
  instructions : List SystemInstruction
  tools : ToolSet
  settings : ModelSettings
  cache : PromptCachePolicy
  continuationPolicy : ContinuationPolicy
  contextPolicy : ContextPolicy
  reminderSources : List ReminderSource
  promptCompiler : PromptCompiler
  requestBudget : Option RequestTokenBudget
  /-- Whether there is a trace sink. -/
  promptTraceSink : Bool
  maxModelRounds : ℕ
  metadata : JsonObject
  providerOptions : JsonObject
  instruction_keys : Keyed.Unique SystemInstruction.key instructions
  required_tools : settings.toolChoice = .required → tools.specs ≠ []
  rounds_pos : 0 < maxModelRounds

/-- `ModelTurnResult`. -/
structure ModelTurnResult where
  response : ModelResponse
  state : ConversationState
  modelRounds : ℕ
  toolResults : List ToolResult

/-- `ModelTurnResult.messages`. -/
def ModelTurnResult.messages (result : ModelTurnResult) : List Message :=
  let boundaries := result.state.turnBoundaries
  if boundaries.isEmpty then
    []
  else
    let start := if 1 < boundaries.length then boundaries.getD (boundaries.length - 2) 0 else 0
    let stop := boundaries.getD (boundaries.length - 1) 0
    (result.state.messages.take stop).drop start

/-- The provisional values of a turn: `working_messages`, `working_continuation` and
`tool_results`. -/
structure Working where
  messages : List Message
  continuation : Option ModelContinuation
  toolResults : List ToolResult

/-- The user messages among what an input poll returned, if they are all it returned. -/
def userMessages : List PolledItem → Option (List Message)
  | [] => some []
  | .other :: _ => none
  | .message message :: items =>
    if message.role = .user then (userMessages items).map (message :: ·) else none

/-- The messages that an input poll returned, if it returned a tuple of user messages. -/
def Polled.messages? : Polled → Option (List Message)
  | tuple items => userMessages items
  | other => none

/-- `_poll_input`; `poll` tells whether there is an input effect. -/
def pollInput (poll : Bool) : TurnM (List Message) :=
  if !poll then
    pure []
  else do
    let value ← receive (← Routine.call .inputPoll)
    match value.messages? with
    | none => throw (.typeError "input_poll must return a tuple of user Messages.")
    | some messages => pure messages

/-- `_request_continuation`. -/
def requestContinuation (policy : ContinuationPolicy)
    (continuation : Option ModelContinuation) : Option ModelContinuation :=
  if policy = .clientManaged then none else continuation

namespace Conversation

variable (c : Conversation)

/-- The draft of a request over a prepared context. -/
def draft (prepared : PreparedContext) : PromptDraft where
  history := prepared
  instructions := c.instructions
  tools := c.tools.specs
  settings := c.settings
  cache := c.cache
  continuation := requestContinuation c.continuationPolicy prepared.continuation
  metadata := c.metadata
  providerOptions := c.providerOptions

/-- The part of a round between the first poll and the model: select the context, and compile
the request. -/
def buildRequest (session : TurnPromptSession) (state : ConversationState) (w : Working)
    (completed : ℕ) : TurnM CompiledPrompt := do
  let provisional ← Routine.ofExcept
    (ConversationState.make w.messages w.continuation state.turnIndex state.turnBoundaries)
  let prepared ← c.contextPolicy.prepare provisional c.model
  session.compile (c.draft prepared)
    ⟨c.model, provisional, prepared, state.turnIndex + 1, completed + 1,
      Nat.succ_pos _, Nat.succ_pos _⟩ (completed + 1) c.requestBudget

/-- Execute the tool calls of a response one after the other. -/
def invokeTools : List ToolCallBlock → Working → TurnM Working
  | [], w => pure w
  | call :: calls, w => do
    let answer ← receive (← Routine.call (.invokeTool (c.tools.get call.name) call))
    let result ← answer.use
    invokeTools calls { w with
      toolResults := w.toolResults ++ [result]
      messages := w.messages ++ [toolMessage call result] }

/-- The rounds of the loop: `remaining` are left, `completed` are over. -/
def runRounds (session : TurnPromptSession) (state : ConversationState) (maxModelRounds : ℕ)
    (poll : Bool) : (remaining completed : ℕ) → Working → TurnM ModelTurnResult
  | 0, _, _ => throw (.assertionError "unreachable model loop state")
  | remaining + 1, completed, w => do
    let before ← pollInput poll
    let w := { w with messages := w.messages ++ before }
    let compiled ← c.buildRequest session state w completed
    let answer ← receive (← Routine.call (.generate c.model compiled.request))
    let response ← answer.use
    let w := { w with
      messages := w.messages ++ [response.message]
      continuation := response.continuation }
    let calls := response.toolCalls
    let incoming ← pollInput poll
    if calls.isEmpty && incoming.isEmpty then
      let committed ← Routine.ofExcept (ConversationState.make w.messages w.continuation
        (state.turnIndex + 1) (state.turnBoundaries ++ [w.messages.length]))
      return ⟨response, committed, completed + 1, w.toolResults⟩
    else if completed + 1 = maxModelRounds then
      throw (.toolLoopLimit maxModelRounds response)
    else
      let w ← c.invokeTools calls w
      runRounds session state maxModelRounds poll remaining (completed + 1)
        { w with messages := w.messages ++ incoming }

/-- `run_model_turn`. -/
def runModelTurn (session : TurnPromptSession) (state : ConversationState)
    (userMessage : Message) (maxModelRounds : ℕ) (poll : Bool) : TurnM ModelTurnResult :=
  if userMessage.role ≠ .user then
    throw (.valueError "user_message role must be user.")
  else if maxModelRounds = 0 then
    throw (.valueError "max_model_rounds must be greater than zero.")
  else
    c.runRounds session state maxModelRounds poll maxModelRounds 0
      ⟨state.messages ++ [userMessage], state.continuation, []⟩

end Conversation

end PurrceptCore
