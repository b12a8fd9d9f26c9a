import PurrceptCore.Models.FlowSteps
import PurrceptCore.Models.ToolDefinitions

set_option relaxedAutoImplicit false
set_option autoImplicit false

/-!
# Constructing conversations

`Conversation.__init__` (`conversation.py`) with the functions that normalize its arguments, the
constructor of `ToolSet` (`tools/toolset.py`), and `Conversation.fork`.

## Main definitions

* `PurrceptCore.ConversationArguments` — what the constructor is given.
* `PurrceptCore.ToolSet.ofItems` — `ToolSet(tools)`.
* `PurrceptCore.Conversation.construct` — the constructor: a configuration, and a facade.
* `PurrceptCore.Conversation.fork` — a conversation that begins with a checkpoint.

## Main results

* `PurrceptCore.ToolSet.ofItems_tools` — a set of tools is made of its tools.
* `PurrceptCore.Conversation.construct_fork` — the constructor takes the configuration of a
  conversation as it is, and asks its reminder sources once more.

## Design

* An argument that may be text, a template or a value carries the outcome of rendering the template.
  A callable that is given as a tool carries the outcome of `FunctionTool(callable)`; a mapping of
  JSON values carries that of freezing it.
* The compiler that is used when none is given is an argument of its own.
-/

namespace PurrceptCore

open Interaction

/-! ### Arguments -/

/-- What the constructor raises. -/
inductive ConstructionFailure
  | failure (failure : Failure)
  | toolDefinition (error : ToolDefinitionError)

/-- An item of an iterable of instructions or reminders. -/
inductive AuthoredItem (α : Type)
  /-- A `PromptTemplate`, with the outcome of rendering it. -/
  | template (rendered : Except Failure α)
  | value (value : α)
  | other

/-- What is taken for instructions, and for reminders. -/
inductive Authored (α : Type)
  | text (text : String)
  /-- A `PromptTemplate`, with the outcome of rendering it. -/
  | template (rendered : Except Failure α)
  | value (value : α)
  | items (items : List (AuthoredItem α))
  | other

/-- An item of an iterable of tools. -/
inductive ToolItem
  | tool (tool : FunctionTool)
  /-- Another callable, with the outcome of `FunctionTool(callable)`. -/
  | callable (built : Except ConstructionFailure FunctionTool)
  | other

/-- What is taken for tools. -/
inductive ToolsArgument
  | toolSet (tools : ToolSet)
  /-- A `str` or `bytes`. -/
  | text
  | items (items : List ToolItem)
  | other

/-- An argument that may be `None`. -/
inductive OptionalArgument (α : Type)
  | none
  | value (value : α)
  | other

/-- What is taken for a member of a `StrEnum`: a string, or another object with its `repr`. -/
inductive EnumArgument
  | text (value : String)
  | other (repr : String)

/-- What is taken for a cache policy. -/
inductive CacheArgument
  | none
  | policy (policy : PromptCachePolicy)
  | mode (mode : EnumArgument)

/-- What is taken for a mapping of JSON values, with the outcome of freezing it. -/
inductive JsonArgument
  | none
  | given (frozen : Except Failure JsonObject)

/-- The arguments of `Conversation(…)`. -/
structure ConversationArguments where
  /-- `none` is an object of another type. -/
  model : Option Model
  instructions : Authored SystemInstruction
  reminders : Authored SystemReminder
  tools : ToolsArgument
  settings : OptionalArgument ModelSettings
  cache : CacheArgument
  continuationPolicy : EnumArgument
  contextPolicy : OptionalArgument ContextPolicy
  /-- `none` is a `str`, or no iterable. -/
  reminderSources : Option (List ReminderSource)
  promptCompiler : OptionalArgument PromptCompiler
  requestBudget : OptionalArgument RequestTokenBudget
  /-- A value is a callable. -/
  promptTraceSink : OptionalArgument Unit
  /-- `none` is no `int`. -/
  maxModelRounds : Option ℤ
  metadata : JsonArgument
  providerOptions : JsonArgument
  state : OptionalArgument ConversationState

/-! ### Normalization -/

/-- The items, once all are of the right types: templates are rendered in order. -/
def renderItems {α : Type} : List (AuthoredItem α) → Except Failure (List α)
  | [] => .ok []
  | .template rendered :: items => do
    let value ← rendered
    return value :: (← renderItems items)
  | .value value :: items => do
    return value :: (← renderItems items)
  | .other :: items => renderItems items

/-- The types of an item. -/
def AuthoredItem.isAuthored {α : Type} : AuthoredItem α → Bool
  | other => false
  | _ => true

/-- What `_normalize_instructions` and `_normalize_reminders` have in common: the values that are
given, with the value that stands for a text and the two messages of `TypeError`. -/
def Authored.values {α : Type} (ofText : String → α) (itemsText otherText : String) :
    Authored α → Except Failure (List α)
  | text content => .ok [ofText content]
  | template rendered => do return [← rendered]
  | value given => .ok [given]
  | items given =>
    if given.all AuthoredItem.isAuthored then renderItems given
    else .error (.typeError itemsText)
  | other => .error (.typeError otherText)

/-- `SystemInstruction.from_text`. -/
def SystemInstruction.fromText (text : String) : SystemInstruction :=
  ⟨[.text text], none, .stable, ContentBlock.text_ne_nil text⟩

lemma ReminderScope.nextRequest_ne_conversation (h : nextRequest = conversation) :
    (none : Option NonEmptyString) ≠ none := by
  cases h

/-- `SystemReminder((TextBlock(text),))`. -/
def SystemReminder.fromText (text : String) : SystemReminder :=
  ⟨[.text text], none, .nextRequest, .auto, 0, ContentBlock.text_ne_nil text,
    ReminderScope.nextRequest_ne_conversation⟩

/-- `_normalize_instructions`. -/
def normalizeInstructions (value : Authored SystemInstruction) :
    Except Failure { instructions : List SystemInstruction //
      Keyed.Unique SystemInstruction.key instructions } := do
  let instructions ← value.values SystemInstruction.fromText
    "instructions must contain only SystemInstruction or PromptTemplate instances."
    "instructions must be a string, PromptTemplate, SystemInstruction, or iterable."
  if h : Keyed.Unique SystemInstruction.key instructions then .ok ⟨instructions, h⟩
  else .error (.valueError "instructions must have unique non-empty keys.")

/-- `_normalize_reminders`. -/
def normalizeReminders (value : Authored SystemReminder) : Except Failure ReminderState := do
  let reminders ← value.values SystemReminder.fromText
    "reminders must contain only SystemReminder or PromptTemplate instances."
    "reminders must be a string, PromptTemplate, SystemReminder, or iterable."
  return ReminderState.ofList reminders

/-- An error of another function. -/
def ofFailure {α : Type} : Except Failure α → Except ConstructionFailure α :=
  Except.mapError ConstructionFailure.failure

/-- Names stay different when a tool with a new one comes last. -/
lemma nodup_names_concat {tools : List FunctionTool} {tool : FunctionTool}
    (htools : (tools.map FunctionTool.name).Nodup)
    (htool : tool.name ∉ tools.map FunctionTool.name) :
    ((tools ++ [tool]).map FunctionTool.name).Nodup := by
  rw [List.map_append, List.nodup_append]
  refine ⟨htools, List.nodup_singleton _, fun name hname name' hname' => ?_⟩
  rw [List.map_singleton, List.mem_singleton] at hname'
  rintro rfl
  exact htool (hname' ▸ hname)

namespace ToolSet

/-- `by_name[resolved.name] = resolved`, unless the name is taken. -/
def register (tools : ToolSet) (tool : FunctionTool) : Except ConstructionFailure ToolSet :=
  if h : tool.name ∈ tools.tools.map FunctionTool.name then
    .error (.toolDefinition ⟨"Tool name " ++ pyRepr tool.name ++ " is registered more than once.",
      tool.name⟩)
  else
    .ok ⟨tools.tools ++ [tool], nodup_names_concat tools.names_nodup h⟩

/-- The loop of `ToolSet.__init__`, with the tools registered so far. -/
def registerItems (tools : ToolSet) : List ToolItem → Except ConstructionFailure ToolSet
  | [] => .ok tools
  | .tool tool :: items => do registerItems (← tools.register tool) items
  | .callable built :: items => do registerItems (← tools.register (← built)) items
  | .other :: _ => .error (.failure (.typeError
      "tools must contain only FunctionTool or callable values."))

/-- `ToolSet(tools)`. -/
def ofItems (items : List ToolItem) : Except ConstructionFailure ToolSet :=
  registerItems ⟨[], List.nodup_nil⟩ items

end ToolSet

/-- `_normalize_tools`. -/
def normalizeTools : ToolsArgument → Except ConstructionFailure ToolSet
  | .toolSet tools => .ok tools
  | .text => .error (.failure (.typeError
      "tools must be an iterable of FunctionTool or callable values."))
  | .items items => ToolSet.ofItems items
  | .other => .error (.failure (.typeError "tools must be a ToolSet or iterable."))

/-- An argument that may be `None`, with its default and the message of `TypeError`. -/
def OptionalArgument.get {α : Type} (default : α) (text : String) :
    OptionalArgument α → Except Failure α
  | none => .ok default
  | value given => .ok given
  | other => .error (.typeError text)

lemma OptionalArgument.get_value {α : Type} (default : α) (text : String) (given : α) :
    (OptionalArgument.value given).get default text = .ok given := rfl

/-- What a value that was accepted becomes. -/
def OptionalArgument.map {α β : Type} (f : α → β) : OptionalArgument α → OptionalArgument β
  | none => none
  | value given => value (f given)
  | other => other

/-- A value, or `None`. -/
def OptionalArgument.ofOption {α : Type} : Option α → OptionalArgument α
  | .none => none
  | .some given => value given

/-- `CacheMode(value)`: the member with that value. -/
def CacheMode.ofValue? (value : String) : Option CacheMode :=
  if value = "auto" then some auto
  else if value = "disabled" then some disabled
  else if value = "prefer" then some prefer
  else if value = "explicit" then some explicit
  else none

/-- `ContinuationPolicy(value)`: the member with that value. -/
def ContinuationPolicy.ofValue? (value : String) : Option ContinuationPolicy :=
  if value = "client_managed" then some clientManaged
  else if value = "provider_managed" then some providerManaged
  else if value = "auto" then some auto
  else none

/-- The value of a member. -/
def ContinuationPolicy.value : ContinuationPolicy → String
  | clientManaged => "client_managed"
  | providerManaged => "provider_managed"
  | auto => "auto"

/-- A member of a `StrEnum`, with the words for its class in the message of `ValueError`. -/
def EnumArgument.member {α : Type} (ofValue? : String → Option α) (text : String) :
    EnumArgument → Except Failure α
  | .text value =>
    match ofValue? value with
    | some member => .ok member
    | none => .error (.valueError ("Unsupported " ++ text ++ ": " ++ pyRepr value ++ "."))
  | .other repr => .error (.valueError ("Unsupported " ++ text ++ ": " ++ repr ++ "."))

/-- `_normalize_cache`. -/
def normalizeCache : CacheArgument → Except Failure PromptCachePolicy
  | .none => .ok ⟨.auto, .none, .none, false⟩
  | .policy policy => .ok policy
  | .mode mode => do
    return ⟨← mode.member CacheMode.ofValue? "cache mode", .none, .none, false⟩

/-- `_normalize_continuation_policy`. -/
def normalizeContinuationPolicy (value : EnumArgument) : Except Failure ContinuationPolicy :=
  value.member ContinuationPolicy.ofValue? "continuation policy"

/-- `validate_max_model_rounds`. -/
def validateMaxModelRounds : Option ℤ → Except Failure { n : ℕ // 0 < n }
  | none => .error (.typeError "max_model_rounds must be an int.")
  | some value =>
    if h : 0 < value then .ok ⟨value.toNat, Int.pos_iff_toNat_pos.1 h⟩
    else .error (.valueError "max_model_rounds must be greater than zero.")

/-- `freeze_json_object`, of an empty mapping by default. -/
def JsonArgument.freeze : JsonArgument → Except Failure JsonObject
  | none => .ok []
  | given frozen => frozen

/-- `validate_prompt_trace_sink`: whether there is a sink. -/
def validatePromptTraceSink : OptionalArgument Unit → Except Failure Bool
  | .none => .ok false
  | .value () => .ok true
  | .other => .error (.typeError "prompt_trace_sink must be callable or None.")

/-! ### The constructor -/

/-- Parts of the constructor. It reads the reminder sources. -/
abbrev ConstructM (α : Type) : Type :=
  Routine ReminderState SetupCall SetupReply ConstructionFailure α

/-- A part of the set-up of a session, as part of the constructor. -/
def ofSetupM {α : Type} (x : SetupM α) : ConstructM α :=
  fun s => x s >>= fun o => .ret (ofFailure o.1, o.2)

/-- A check that makes no call. -/
def checked {α : Type} (o : Except Failure α) : ConstructM α := Routine.ofExcept (ofFailure o)

/-- A check that passes. -/
lemma checked_ok {α β : Type} (a : α) (f : α → ConstructM β) :
    checked (.ok a) >>= f = f a := rfl

/-- Going on with a value. -/
lemma ofExcept_ok_bind {α β : Type} (a : α) (f : α → ConstructM β) :
    (Routine.ofExcept (.ok a) : ConstructM α) >>= f = f a := rfl

/-- `isinstance(model, Model)`. -/
def requireModelArgument : Option Model → Except Failure Model
  | none => .error (.typeError "model must be a Model.")
  | some model => .ok model

/-- Tools that are required are there. -/
def requireTools (settings : ModelSettings) (tools : ToolSet) :
    Except Failure { tools : ToolSet // settings.toolChoice = .required → tools.specs ≠ [] } :=
  if h : settings.toolChoice = .required ∧ tools.specs = [] then
    .error (.valueError "tools must not be empty when tool_choice is required.")
  else
    .ok ⟨tools, not_and.1 h⟩

/-- `normalize_reminder_sources`, of an argument. -/
def requireReminderSources : Option (List ReminderSource) → ConstructM (List ReminderSource)
  | none => checked (.error (.typeError
      "reminder_sources must be an iterable of ReminderSource instances."))
  | some sources => ofSetupM (normalizeReminderSources [] sources)

namespace Conversation

/-- `Conversation(…)`, with the compiler `PromptCompiler()`. -/
def construct (plainCompiler : PromptCompiler) (arguments : ConversationArguments) :
    ConstructM (Conversation × Facade) := do
  let model ← checked (requireModelArgument arguments.model)
  let instructions ← checked (normalizeInstructions arguments.instructions)
  let reminderState ← checked (normalizeReminders arguments.reminders)
  let tools ← Routine.ofExcept (normalizeTools arguments.tools)
  let settings ← checked (arguments.settings.get ⟨.auto⟩ "settings must be a ModelSettings.")
  let tools ← checked (requireTools settings tools)
  let cache ← checked (normalizeCache arguments.cache)
  let continuationPolicy ← checked (normalizeContinuationPolicy arguments.continuationPolicy)
  let contextPolicy ← checked (arguments.contextPolicy.get .appendOnly
    "context_policy must implement ContextPolicy.")
  let reminderSources ← requireReminderSources arguments.reminderSources
  let promptCompiler ← checked (arguments.promptCompiler.get plainCompiler
    "prompt_compiler must be a PromptCompiler or None.")
  let requestBudget ← checked ((arguments.requestBudget.map some).get none
    "request_budget must be a RequestTokenBudget or None.")
  let promptTraceSink ← checked (validatePromptTraceSink arguments.promptTraceSink)
  let maxModelRounds ← checked (validateMaxModelRounds arguments.maxModelRounds)
  let state ← checked (arguments.state.get .empty "state must be a ConversationState or None.")
  let metadata ← checked arguments.metadata.freeze
  let providerOptions ← checked arguments.providerOptions.freeze
  return ({
    model, settings, cache, continuationPolicy, contextPolicy, reminderSources, promptCompiler,
    requestBudget, promptTraceSink, metadata, providerOptions
    instructions := instructions.1
    tools := tools.1
    maxModelRounds := maxModelRounds.1
    instruction_keys := instructions.2
    required_tools := tools.2
    rounds_pos := maxModelRounds.2 }, ⟨false, state, reminderState⟩)

end Conversation

/-! ### Checkpoints -/

namespace Conversation

variable (c : Conversation)

/-- What `fork` gives to the constructor. -/
def forkArguments (checkpoint : ConversationCheckpoint) : ConversationArguments where
  model := some c.model
  instructions := .items (c.instructions.map .value)
  reminders := .items (checkpoint.reminders.reminders.map .value)
  tools := .toolSet c.tools
  settings := .value c.settings
  cache := .policy c.cache
  continuationPolicy := .text c.continuationPolicy.value
  contextPolicy := .value c.contextPolicy
  reminderSources := some c.reminderSources
  promptCompiler := .value c.promptCompiler
  requestBudget := .ofOption c.requestBudget
  promptTraceSink := if c.promptTraceSink then .value () else .none
  maxModelRounds := some c.maxModelRounds
  metadata := .given (.ok c.metadata)
  providerOptions := .given (.ok c.providerOptions)
  state := .value checkpoint.history

/-- `fork`. -/
def fork (plainCompiler : PromptCompiler) (facade : Facade)
    (checkpoint : OptionalArgument ConversationCheckpoint) :
    ConstructM (Conversation × Facade) := do
  if facade.busy then
    throw (.failure .conversationBusy)
  else do
    let checkpoint ← checked (checkpoint.get ⟨facade.state, facade.reminderState⟩
      "checkpoint must be a ConversationCheckpoint or None.")
    construct plainCompiler (c.forkArguments checkpoint)

end Conversation

/-! ### What the constructor makes of its own values -/

/-- A set of tools is made of its tools. -/
theorem ToolSet.ofItems_tools (tools : ToolSet) :
    ToolSet.ofItems (tools.tools.map .tool) = .ok tools := by
  have hloop (registered : ToolSet) (rest : List FunctionTool)
      (hnodup : ((registered.tools ++ rest).map FunctionTool.name).Nodup) :
      registered.registerItems (rest.map .tool) = .ok ⟨registered.tools ++ rest, hnodup⟩ := by
    induction rest generalizing registered with
    | nil =>
      rw [List.map_nil, registerItems]
      simp only [List.append_nil]
    | cons tool rest ih =>
      have hnew : tool.name ∉ registered.tools.map FunctionTool.name := by
        intro hmem
        rw [List.map_append, List.nodup_append] at hnodup
        exact hnodup.2.2 _ hmem _ (by simp) rfl
      have happend : registered.tools ++ tool :: rest = registered.tools ++ [tool] ++ rest := by
        simp
      have hregister : registered.register tool =
          .ok ⟨registered.tools ++ [tool], nodup_names_concat registered.names_nodup hnew⟩ :=
        dif_neg hnew
      rw [List.map_cons, registerItems, hregister]
      refine (ih _ (by rwa [happend] at hnodup)).trans ?_
      simp only [happend]
  exact hloop ⟨[], List.nodup_nil⟩ tools.tools tools.names_nodup

/-- Values that are given one by one are taken as they are. -/
lemma Authored.values_items {α : Type} (ofText : String → α) (itemsText otherText : String)
    (values : List α) :
    (Authored.items (values.map .value)).values ofText itemsText otherText = .ok values := by
  have hrender : renderItems (values.map AuthoredItem.value) = .ok values := by
    induction values with
    | nil => rfl
    | cons value values ih =>
      rw [List.map_cons, renderItems, ih]
      rfl
  have hall : (values.map AuthoredItem.value).all AuthoredItem.isAuthored = true := by
    simp [AuthoredItem.isAuthored]
  rw [Authored.values, if_pos hall, hrender]

lemma normalizeInstructions_values {instructions : List SystemInstruction}
    (h : Keyed.Unique SystemInstruction.key instructions) :
    normalizeInstructions (.items (instructions.map .value)) = .ok ⟨instructions, h⟩ := by
  rw [normalizeInstructions, Authored.values_items]
  exact dif_pos h

lemma normalizeReminders_values (s : ReminderState) :
    normalizeReminders (.items (s.reminders.map .value)) = .ok s := by
  rw [normalizeReminders, Authored.values_items]
  exact congrArg Except.ok s.ofList_reminders

lemma normalizeContinuationPolicy_value (policy : ContinuationPolicy) :
    normalizeContinuationPolicy (.text policy.value) = .ok policy := by
  cases policy <;> rfl

namespace Conversation

variable (c : Conversation)

/-- **The constructor of a fork** reads the reminder sources once more, and takes the rest of the
configuration and the checkpoint as they are. -/
theorem construct_fork (plainCompiler : PromptCompiler) (checkpoint : ConversationCheckpoint) :
    construct plainCompiler (c.forkArguments checkpoint) =
      ofSetupM (normalizeReminderSources [] c.reminderSources) >>= fun sources =>
        pure ({ c with reminderSources := sources },
          ⟨false, checkpoint.history, checkpoint.reminders⟩) := by
  have hrounds : validateMaxModelRounds (some (c.maxModelRounds : ℤ)) =
      .ok ⟨c.maxModelRounds, c.rounds_pos⟩ := by
    rw [validateMaxModelRounds, dif_pos (Int.natCast_pos.2 c.rounds_pos)]
    rfl
  have htools : requireTools c.settings c.tools = .ok ⟨c.tools, c.required_tools⟩ :=
    dif_neg (not_and.2 c.required_tools)
  have hbudget : ((OptionalArgument.ofOption c.requestBudget).map some).get none
      "request_budget must be a RequestTokenBudget or None." = .ok c.requestBudget := by
    cases c.requestBudget <;> rfl
  have hsink : validatePromptTraceSink (if c.promptTraceSink then .value () else .none) =
      .ok c.promptTraceSink := by
    cases c.promptTraceSink <;> rfl
  unfold construct
  simp only [forkArguments, requireModelArgument, normalizeInstructions_values c.instruction_keys,
    normalizeReminders_values, normalizeTools, OptionalArgument.get_value, htools, normalizeCache,
    normalizeContinuationPolicy_value, hbudget, hsink, hrounds, JsonArgument.freeze, checked_ok,
    ofExcept_ok_bind]
  rfl

/-- **What a fork returns**, of an idle conversation and some checkpoint: the same configuration
with that checkpoint, if the reminder sources read as the validation wants them; otherwise it
raises. -/
theorem fork_exec {plainCompiler : PromptCompiler} {facade : Facade}
    {argument : OptionalArgument ConversationCheckpoint} {checkpoint : ConversationCheckpoint}
    (hidle : facade.busy = false)
    (hargument : argument.get ⟨facade.state, facade.reminderState⟩
      "checkpoint must be a ConversationCheckpoint or None." = .ok checkpoint)
    {s s' : ReminderState} {tr : Trace SetupCall SetupReply}
    {o : Except ConstructionFailure (Conversation × Facade)}
    (h : Exec (c.fork plainCompiler facade argument s) tr (.ret (o, s'))) :
    o = .ok (c, ⟨false, checkpoint.history, checkpoint.reminders⟩) ∧ SetupReadsWell [] tr ∨
      (∃ e, o = .error (.failure e)) ∧ ¬ SetupReadsWell [] tr := by
  have hfork : c.fork plainCompiler facade argument s =
      (normalizeReminderSources [] c.reminderSources s).bind fun o =>
        (Prog.ret (ofFailure o.1, o.2)).bind (Routine.continueWith fun sources =>
          pure ({ c with reminderSources := sources },
            ⟨false, checkpoint.history, checkpoint.reminders⟩)) := by
    unfold fork
    rw [hidle, hargument]
    refine (congrFun (c.construct_fork plainCompiler checkpoint) s).trans ?_
    exact Prog.bind_assoc _ _ _
  rw [hfork] at h
  rcases Exec.bind_inv h with ⟨q, hq, hne, hret⟩ | ⟨tr₁, o₁, tr₂, rfl, h₁, h₂⟩
  · rcases normalizeReminderSources_exec hq with ⟨⟨call, k, rfl⟩ | rfl, -⟩ | ⟨⟨e, rfl⟩, -⟩
    · cases hret
    · exact absurd rfl (hne _)
    · exact absurd rfl (hne _)
  · rcases normalizeReminderSources_exec h₁ with ⟨⟨call, k, hq⟩ | hq, hwell⟩ | ⟨⟨e, hq⟩, hbad⟩
    · cases hq
    · cases hq
      obtain ⟨rfl, ho⟩ := Exec.ret_inv h₂
      cases ho
      exact .inl ⟨rfl, by rwa [List.append_nil]⟩
    · cases hq
      obtain ⟨rfl, ho⟩ := Exec.ret_inv h₂
      cases ho
      exact .inr ⟨⟨e, rfl⟩, by rwa [List.append_nil]⟩

end Conversation

end PurrceptCore
