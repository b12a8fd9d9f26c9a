import Mathlib.Data.Int.Notation
import Mathlib.Data.List.Basic
import PurrceptCore.Exceptions

set_option relaxedAutoImplicit false
set_option autoImplicit false

/-!
# Messages, responses and tool results

The immutable values that a conversation is made of: content blocks (`content.py`), messages
(`messages.py`), model responses (`responses.py`), continuations (`continuation.py`) and tool
results (`tools/values.py`).

## Main definitions

* `PurrceptCore.ContentBlock`, `PurrceptCore.ToolCallBlock` — typed content.
* `PurrceptCore.Message` — a role and one or more content blocks.
* `PurrceptCore.ModelResponse` — an assistant message with its continuation.
* `PurrceptCore.ToolResult` — what a tool returned.

## Design

* What a constructor checks is a field of the structure, so that no invalid value exists: a
  string that must not be empty is a `NonEmptyString`, a message has content, the message of a
  response is an assistant message.
* Of a response, the usage, the finish reason, the identifiers and the provider metadata are
  left out.
-/

namespace PurrceptCore

/-- A string that has passed `require_non_empty_string`. -/
abbrev NonEmptyString : Type := { s : String // s ≠ "" }

instance NonEmptyString.instLawfulBEq : LawfulBEq NonEmptyString := inferInstance

/-- A frozen JSON value. Floats are kept as their bits. -/
inductive Json
  | null
  | bool (value : Bool)
  | int (value : ℤ)
  | float (bits : BitVec 64)
  | str (value : String)
  | array (items : List Json)
  | object (fields : List (String × Json))

/-- Induction on JSON values: the items of an array and the values of an object come before it. -/
theorem Json.induction {P : Json → Prop} (null : P .null) (bool : ∀ value, P (.bool value))
    (int : ∀ value, P (.int value)) (float : ∀ bits, P (.float bits))
    (str : ∀ value, P (.str value))
    (array : ∀ items, (∀ item ∈ items, P item) → P (.array items))
    (object : ∀ fields, (∀ field ∈ fields, P (Prod.snd field)) → P (.object fields))
    (json : Json) : P json := by
  refine @Json.rec P (fun items => ∀ item ∈ items, P item)
    (fun fields => ∀ field ∈ fields, P field.2) (fun field => P field.2)
    null bool int float str array object ?_ ?_ ?_ ?_ (fun _ _ h => h) json
  · exact fun _ h => absurd h List.not_mem_nil
  · exact fun _ _ hhead htail => List.forall_mem_cons.2 ⟨hhead, htail⟩
  · exact fun _ h => absurd h List.not_mem_nil
  · exact fun _ _ hhead htail => List.forall_mem_cons.2 ⟨hhead, htail⟩

/-- A frozen JSON object, in insertion order. -/
abbrev JsonObject : Type := List (String × Json)

/-- `ToolCallBlock`. -/
structure ToolCallBlock where
  id : NonEmptyString
  name : NonEmptyString
  arguments : JsonObject

/-- The source of an `ImageBlock`: `ImageUrl` or `ImageBytes`. -/
inductive ImageSource
  | url (url : NonEmptyString)
  | bytes (data : List UInt8) (mediaType : NonEmptyString)

/-- The containers `AudioBytes` accepts. -/
inductive AudioMediaType
  | wav
  | mpeg

/-- `AudioBytes`. -/
structure AudioBytes where
  data : { bytes : List UInt8 // bytes ≠ [] }
  mediaType : AudioMediaType

/-- The content blocks of the package; `extension` stands for an instance of any other subclass
of `ContentBlock`, of which only the identity is known. -/
inductive ContentBlock
  | text (text : String)
  | reasoning (text : String)
  | image (source : ImageSource) (altText : Option NonEmptyString)
  | audio (source : AudioBytes) (altText : Option NonEmptyString)
  | toolCall (call : ToolCallBlock)
  | toolResult (toolCallId : NonEmptyString) (content : List ContentBlock) (isError : Bool)
  | extension (object : ObjId)

/-- Induction on content blocks: the content of a tool result comes before it. -/
theorem ContentBlock.induction {P : ContentBlock → Prop} (text : ∀ text, P (.text text))
    (reasoning : ∀ text, P (.reasoning text))
    (image : ∀ source altText, P (.image source altText))
    (audio : ∀ source altText, P (.audio source altText)) (toolCall : ∀ call, P (.toolCall call))
    (toolResult : ∀ toolCallId content isError, (∀ block ∈ content, P block) →
      P (.toolResult toolCallId content isError))
    (extension : ∀ object, P (.extension object)) (block : ContentBlock) : P block := by
  refine @ContentBlock.rec P (fun content => ∀ block ∈ content, P block)
    text reasoning image audio toolCall toolResult extension ?_ ?_ block
  · exact fun _ h => absurd h List.not_mem_nil
  · exact fun _ _ hhead htail => List.forall_mem_cons.2 ⟨hhead, htail⟩

/-- `isinstance(block, ToolCallBlock)`, with the block it is. -/
def ContentBlock.toolCall? : ContentBlock → Option ToolCallBlock
  | toolCall call => some call
  | _ => none

/-- `MessageRole`. -/
inductive MessageRole
  | user
  | assistant
  | tool
  deriving DecidableEq, Repr

/-- `Message`. -/
structure Message where
  role : MessageRole
  content : List ContentBlock
  name : Option NonEmptyString
  metadata : JsonObject
  content_ne : content ≠ []

/-- The tool calls at the top level of the content. -/
def Message.toolCalls (message : Message) : List ToolCallBlock :=
  message.content.filterMap ContentBlock.toolCall?

/-- A single text block is content. -/
lemma ContentBlock.text_ne_nil (text : String) : [ContentBlock.text text] ≠ [] :=
  List.cons_ne_nil _ _

/-- `Message.user(text)`. -/
def Message.user (text : String) : Message :=
  ⟨.user, [.text text], none, [], ContentBlock.text_ne_nil text⟩

/-- `ContinuationPolicy`. -/
inductive ContinuationPolicy
  | clientManaged
  | providerManaged
  | auto
  deriving DecidableEq, Repr

/-- `ModelContinuation`. -/
structure ModelContinuation where
  provider : NonEmptyString
  data : JsonObject

/-- `ModelResponse`. -/
structure ModelResponse where
  message : Message
  continuation : Option ModelContinuation
  role_eq : message.role = .assistant

/-- `ModelResponse.tool_calls`. -/
def ModelResponse.toolCalls (response : ModelResponse) : List ToolCallBlock :=
  response.message.toolCalls

/-- `ToolResult`. -/
structure ToolResult where
  content : List ContentBlock
  isError : Bool

/-- `ToolResult.to_block`. -/
def ToolResult.toBlock (result : ToolResult) (toolCallId : NonEmptyString) : ContentBlock :=
  .toolResult toolCallId result.content result.isError

/-- The message that the model loop appends for the result of a call. -/
def toolMessage (call : ToolCallBlock) (result : ToolResult) : Message :=
  ⟨.tool, [result.toBlock call.id], some call.name, [], List.cons_ne_nil _ _⟩

/-! ### Failures -/

/-- What code of the package raises: one of its own errors, or an exception of a
collaborator. -/
inductive Failure
  /-- An exception that a collaborator raised, or that was thrown into the flow. -/
  | raised (error : Exc)
  | typeError (text : String)
  | valueError (text : String)
  | assertionError (text : String)
  /-- `ConversationBusyError`. -/
  | conversationBusy
  /-- `ToolLoopLimitError`. -/
  | toolLoopLimit (maxModelRounds : ℕ) (lastResponse : ModelResponse)
  /-- `ContextBudgetExceededError`. -/
  | contextBudgetExceeded (maxTokens requiredTokens : ℕ)
  /-- `PromptCompileError`. -/
  | promptCompile (text : String) (reminderKey : Option NonEmptyString)

namespace Failure

/-- `isinstance(error, Exception)`. -/
def isException : Failure → Bool
  | raised error => error.cls.isException
  | _ => true

/-- `type(error).__module__ + "." + type(error).__qualname__`. -/
def typeName : Failure → String
  | raised error => error.typeName
  | typeError _ => "builtins.TypeError"
  | valueError _ => "builtins.ValueError"
  | assertionError _ => "builtins.AssertionError"
  | conversationBusy => "purrcept_core.models.loop.ConversationBusyError"
  | toolLoopLimit _ _ => "purrcept_core.models.loop.ToolLoopLimitError"
  | contextBudgetExceeded _ _ =>
    "purrcept_core.models.context_policy.ContextBudgetExceededError"
  | promptCompile _ _ => "purrcept_core.models.prompt.errors.PromptCompileError"

end Failure

end PurrceptCore
