import PurrceptCore.Models.Histories
import PurrceptCore.Models.Reminders

set_option relaxedAutoImplicit false
set_option autoImplicit false

/-!
# Models, tools and requests

The configuration values that a turn carries into its requests (`instructions.py`,
`settings.py`, `caching.py`, `tools/toolset.py`, `model.py`) and the request itself
(`requests.py`).

## Main definitions

* `PurrceptCore.Model`, `PurrceptCore.SystemInstruction`, `PurrceptCore.ModelSettings`,
  `PurrceptCore.PromptCachePolicy` — configuration.
* `PurrceptCore.ToolSet` — tools with distinct names; `get`, `specs`.
* `PurrceptCore.ModelRequest` — a request that its constructor accepts;
  `PurrceptCore.ModelRequest.make` is the constructor.

## Design

* Of the generation settings only the tool choice decides anything; the other controls are left
  out. A tool is its specification: what it calls belongs to its execution.
-/

namespace PurrceptCore

/-- `Model`: a backend, of which only the identity matters here, and a name. -/
structure Model where
  backend : ObjId
  name : NonEmptyString

/-- `PromptStability`. -/
inductive PromptStability
  | stable
  | growing
  | volatile
  deriving DecidableEq, Repr

/-- `SystemInstruction`. -/
structure SystemInstruction where
  content : List ContentBlock
  key : Option NonEmptyString
  stability : PromptStability
  content_ne : content ≠ []

/-- `ToolChoice`. -/
inductive ToolChoice
  | auto
  | none
  | required
  deriving DecidableEq, Repr

/-- `ModelSettings`. -/
structure ModelSettings where
  toolChoice : ToolChoice

/-- `CacheMode`. -/
inductive CacheMode
  | auto
  | disabled
  | prefer
  | explicit
  deriving DecidableEq, Repr

/-- `PromptCachePolicy`; the time to live is in microseconds. -/
structure PromptCachePolicy where
  mode : CacheMode
  key : Option NonEmptyString
  ttl : Option { n : ℕ // 0 < n }
  strict : Bool

/-- `ToolSpec`. -/
structure ToolSpec where
  name : NonEmptyString
  description : Option NonEmptyString
  parameters : JsonObject

/-- `FunctionTool`. -/
structure FunctionTool where
  spec : ToolSpec

/-- `FunctionTool.name`. -/
def FunctionTool.name (tool : FunctionTool) : NonEmptyString := tool.spec.name

/-- `ToolSet`: tools in registration order, no two of one name. -/
structure ToolSet where
  tools : List FunctionTool
  names_nodup : (tools.map FunctionTool.name).Nodup

namespace ToolSet

/-- `ToolSet.specs`. -/
def specs (tools : ToolSet) : List ToolSpec := tools.tools.map FunctionTool.spec

/-- `ToolSet.get`. -/
def get (tools : ToolSet) (name : NonEmptyString) : Option FunctionTool :=
  tools.tools.find? fun tool => tool.name = name

end ToolSet

/-- `ModelRequest`. -/
structure ModelRequest where
  messages : List Message
  instructions : List SystemInstruction
  reminders : List SystemReminder
  tools : List ToolSpec
  settings : ModelSettings
  cache : PromptCachePolicy
  continuation : Option ModelContinuation
  metadata : JsonObject
  providerOptions : JsonObject
  nonempty : ¬ (messages = [] ∧ instructions = [] ∧ reminders = [])
  tool_names : (tools.map ToolSpec.name).Nodup
  instruction_keys : Keyed.Unique SystemInstruction.key instructions
  reminder_keys : Keyed.Unique SystemReminder.key reminders
  required_tools : settings.toolChoice = .required → tools ≠ []

/-- `len(values) == len(set(values))`. -/
instance {α : Type} [DecidableEq α] {β : Type} (key : β → Option α) (xs : List β) :
    Decidable (Keyed.Unique key xs) :=
  inferInstanceAs (Decidable (xs.filterMap key).Nodup)

/-- `ModelRequest(messages, …)`. -/
def ModelRequest.make (messages : List Message) (instructions : List SystemInstruction)
    (reminders : List SystemReminder) (tools : List ToolSpec) (settings : ModelSettings)
    (cache : PromptCachePolicy) (continuation : Option ModelContinuation)
    (metadata providerOptions : JsonObject) : Except Failure ModelRequest :=
  if hempty : messages.isEmpty ∧ instructions.isEmpty ∧ reminders.isEmpty then
    .error (.valueError
      "at least one message, system instruction, or system reminder is required.")
  else if htools : ¬ (tools.map ToolSpec.name).Nodup then
    .error (.valueError "tools must have unique names.")
  else if hinstructions : ¬ Keyed.Unique SystemInstruction.key instructions then
    .error (.valueError "instructions must have unique non-empty keys.")
  else if hreminders : ¬ Keyed.Unique SystemReminder.key reminders then
    .error (.valueError "reminders must have unique non-empty keys.")
  else if hrequired : settings.toolChoice = .required ∧ tools.isEmpty then
    .error (.valueError "tools must not be empty when tool_choice is required.")
  else
    .ok {
      messages, instructions, reminders, tools, settings, cache, continuation, metadata,
      providerOptions
      nonempty := by simpa only [List.isEmpty_iff] using hempty
      tool_names := not_not.1 htools
      instruction_keys := not_not.1 hinstructions
      reminder_keys := not_not.1 hreminders
      required_tools := by
        simpa only [List.isEmpty_iff, not_and] using hrequired }

/-- **What an accepted request contains**: the values its constructor was given. -/
theorem ModelRequest.make_fields {messages : List Message}
    {instructions : List SystemInstruction} {reminders : List SystemReminder}
    {tools : List ToolSpec} {settings : ModelSettings} {cache : PromptCachePolicy}
    {continuation : Option ModelContinuation} {metadata providerOptions : JsonObject}
    {request : ModelRequest}
    (h : make messages instructions reminders tools settings cache continuation metadata
      providerOptions = .ok request) :
    request.messages = messages ∧ request.instructions = instructions ∧
      request.reminders = reminders ∧ request.tools = tools ∧ request.settings = settings ∧
      request.cache = cache ∧ request.continuation = continuation ∧
      request.metadata = metadata ∧ request.providerOptions = providerOptions := by
  unfold make at h
  split_ifs at h
  cases h
  exact ⟨rfl, rfl, rfl, rfl, rfl, rfl, rfl, rfl, rfl⟩

end PurrceptCore
