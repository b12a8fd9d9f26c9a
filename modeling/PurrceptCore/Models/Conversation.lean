import PurrceptCore.Interaction.Handle
import PurrceptCore.Interaction.LabelledRun
import PurrceptCore.Models.Loop

set_option relaxedAutoImplicit false
set_option autoImplicit false

/-!
# Conversations

The mutable facade of `conversation.py`: its three mutable slots, the flow that `ask` returns,
the operations of the application, and the system of one facade with any number of flows.

## Main definitions

* `PurrceptCore.Facade` — the slots `_busy`, `_state` and `_reminder_state`.
* `PurrceptCore.Conversation.askFlow` — `_ask_flow`, the generator of one turn.
* `PurrceptCore.IdleOp`, `PurrceptCore.IdleOp.run` — the operations that need an idle facade.
* `PurrceptCore.Flow`, `PurrceptCore.System` — the flows that `ask` has returned, and the facade
  they share.
* `PurrceptCore.Conversation.Step` — what may happen next: the application calls a method, the
  driver advances or closes a flow, or a callback returns to the flow that called it.
* `PurrceptCore.Conversation.Run` — any sequence of such steps.

## Design

* A flow reads and writes the slots of the facade by calls, which `settle` serves at once: nothing
  else happens between two of them unless the flow yields or calls an object of the application.
* A flow keeps the calls it has made of its surroundings with their replies, so that a statement
  about a system can speak of them.
* While a flow waits for a callback it is executing, and Python refuses to advance or close it.
  Other flows and the facade may be used meanwhile, by that callback.
* Closing a flow raises `GeneratorExit` at the yield where it waits. A flow that was never advanced
  ends without running any of its code when it is closed, or when an exception is thrown into it.
-/

namespace PurrceptCore

open Interaction

/-- The mutable slots of a `Conversation`. -/
structure Facade where
  busy : Bool
  state : ConversationState
  reminderState : ReminderState

/-- The accesses of a flow to the slots of its facade. -/
inductive FacadeCall
  | readBusy
  | setBusy (value : Bool)
  | readState
  | setState (value : ConversationState)
  | readReminderState
  | setReminderState (value : ReminderState)

/-- What an access returns. -/
abbrev FacadeReply : FacadeCall → Type
  | .readBusy => Bool
  | .readState => ConversationState
  | .readReminderState => ReminderState
  | .setBusy _ | .setState _ | .setReminderState _ => Unit

/-- Serve an access. -/
def Facade.serve (facade : Facade) : (call : FacadeCall) → FacadeReply call × Facade
  | .readBusy => (facade.busy, facade)
  | .setBusy value => ((), { facade with busy := value })
  | .readState => (facade.state, facade)
  | .setState value => ((), { facade with state := value })
  | .readReminderState => (facade.reminderState, facade)
  | .setReminderState value => ((), { facade with reminderState := value })

/-- The calls of a flow. -/
inductive FlowCall
  | facade (call : FacadeCall)
  | setup (call : SetupCall)
  | turn (call : TurnCall)

/-- The replies to the calls of a flow. -/
abbrev FlowReply : FlowCall → Type
  | .facade call => FacadeReply call
  | .setup call => SetupReply call
  | .turn call => TurnReply call

/-- Parts of a flow. Their state is the slot `_remaining_state` of the prompt session. -/
abbrev FlowM (α : Type) : Type := Routine ReminderState FlowCall FlowReply Failure α

/-- A flow, from the point it has reached: it ends with an outcome, and the session is left with
the reminders that remain. -/
abbrev FlowProg : Type :=
  Prog FlowCall FlowReply (Except Failure ModelTurnResult × ReminderState)

/-- An access to the facade. -/
def access (call : FacadeCall) : FlowM (FacadeReply call) :=
  Routine.call (FlowCall.facade call)

/-- The set-up of a session, as part of a flow. -/
def ofSetup {α : Type} (x : SetupM α) : FlowM α :=
  fun s => (x s).handle fun call => Prog.perform (.setup call)

/-- A part of a turn, as part of a flow. -/
def ofTurn {α : Type} (x : TurnM α) : FlowM α :=
  fun s => (x s).handle fun call => Prog.perform (.turn call)

/-- What `ask` was given, validated. -/
structure Ask where
  userMessage : Message
  maxModelRounds : ℕ
  inputPoll : Bool

/-- What `ask` takes as a message. -/
inductive UserInput
  | text (text : String)
  /-- A `PromptTemplate`, with the outcome of rendering it. -/
  | template (rendered : Except Failure String)
  | message (message : Message)
  /-- Any other object. -/
  | other

/-- `_normalize_user_message`. -/
def UserInput.normalize : UserInput → Except Failure Message
  | text content => .ok (Message.user content)
  | template rendered => do .ok (Message.user (← rendered))
  | message value =>
    if value.role = .user then .ok value
    else .error (.valueError "message role must be user.")
  | other => .error (.typeError "message must be a string or Message, or a PromptTemplate.")

namespace Conversation

variable (c : Conversation)

/-- `ask`: it returns a flow and does not touch the facade. -/
def ask (input : UserInput) (maxModelRounds : Option ℕ) (inputPoll : Bool) :
    Except Failure Ask := do
  let userMessage ← input.normalize
  let rounds := maxModelRounds.getD c.maxModelRounds
  if rounds = 0 then
    .error (.valueError "max_model_rounds must be greater than zero.")
  else
    .ok ⟨userMessage, rounds, inputPoll⟩

/-- `_ask_flow`: own the busy flag, the prompt session and the commit of one turn. -/
def askFlow (a : Ask) : FlowM ModelTurnResult := do
  if ← access .readBusy then
    throw .conversationBusy
  else do
    access (.setBusy true)
    let reminderState ← access .readReminderState
    let session ← ofSetup (TurnPromptSession.begin reminderState c.promptCompiler
      c.reminderSources c.promptTraceSink)
    Routine.tryFinally
      (do
        let state ← access .readState
        let result ← ofTurn
          (c.runModelTurn session state a.userMessage a.maxModelRounds a.inputPoll)
        access (.setState result.state)
        return result)
      (do
        access (.setReminderState (← get))
        access (.setBusy false))

end Conversation

/-- A conversation with the defaults of the constructor. -/
def Conversation.ofModel (model : Model) (promptCompiler : PromptCompiler) : Conversation where
  model := model
  instructions := []
  tools := ⟨[], List.nodup_nil⟩
  settings := ⟨.auto⟩
  cache := ⟨.auto, none, none, false⟩
  continuationPolicy := .clientManaged
  contextPolicy := .appendOnly
  reminderSources := []
  promptCompiler := promptCompiler
  requestBudget := none
  promptTraceSink := false
  maxModelRounds := 8
  metadata := []
  providerOptions := []
  instruction_keys := List.nodup_nil
  required_tools := nofun
  rounds_pos := by decide

/-- The default conversation of some model. -/
def plainConversation : Conversation :=
  .ofModel ⟨.given 0, "model", by decide⟩ ⟨fun _ => "", fun _ => ""⟩

/-! ### The operations of the application -/

/-- `ConversationCheckpoint`. -/
structure ConversationCheckpoint where
  history : ConversationState
  reminders : ReminderState

/-- What `remind` takes as a reminder, with its keyword options. -/
inductive ReminderInput
  /-- A string. Scope and placement are members or their values. -/
  | text (text : String) (key : Option String) (scope placement : String) (priority : ℤ)
  /-- A `PromptTemplate`, with the outcome of its method `reminder`. -/
  | template (rendered : Except Failure SystemReminder)
  /-- A `SystemReminder`, and whether an option differs from its default. -/
  | reminder (reminder : SystemReminder) (options : Bool)
  /-- Any other object. -/
  | other

/-- `ReminderPlacement(value)`: the member with that value. -/
def ReminderPlacement.ofValue? (value : String) : Option ReminderPlacement :=
  if value = "auto" then some auto
  else if value = "instructions" then some instructions
  else if value = "tail" then some tail
  else none

/-- `SystemReminder((TextBlock(text),), …)`. -/
def SystemReminder.make (text : String) (key : Option String) (scope placement : String)
    (priority : ℤ) : Except Failure SystemReminder := do
  let key ← match key with
    | none => .ok none
    | some key => do .ok (some (← requireNonEmptyString (.str key) "key"))
  match ReminderScope.ofValue? scope with
  | none => .error (.valueError ("Unsupported reminder scope: " ++ pyRepr scope ++ "."))
  | some scope =>
    if h : scope = .conversation ∧ key.isNone then
      .error (.valueError "conversation-scoped reminders must have a non-empty key.")
    else
      match ReminderPlacement.ofValue? placement with
      | none =>
        .error (.valueError ("Unsupported reminder placement: " ++ pyRepr placement ++ "."))
      | some placement =>
        .ok ⟨[.text text], key, scope, placement, priority, ContentBlock.text_ne_nil text, by
          simpa only [Option.isNone_iff_eq_none, not_and] using h⟩

/-- The reminder that `remind` registers. -/
def ReminderInput.normalize : ReminderInput → Except Failure SystemReminder
  | text content key scope placement priority =>
    SystemReminder.make content key scope placement priority
  | template rendered => rendered
  | reminder value options =>
    if options then
      .error (.typeError "reminder options cannot be supplied with a SystemReminder.")
    else
      .ok value
  | other => .error (.typeError
      "reminder must be a string or SystemReminder, or a PromptTemplate.")

/-- The operations that change the facade and need it idle. An argument `none` is an object of
another type. -/
inductive IdleOp
  | restore (checkpoint : Option ConversationCheckpoint)
  | restoreHistory (state : Option ConversationState)
  | clearHistory
  | clearReminders (scope : Option String)
  | reset
  | remind (input : ReminderInput)
  | removeReminder (key : String)

/-- What an operation does to an idle facade. -/
def IdleOp.apply (facade : Facade) : IdleOp → Except Failure Facade
  | restore none => .error (.typeError "checkpoint must be a ConversationCheckpoint.")
  | restore (some checkpoint) =>
    .ok { facade with state := checkpoint.history, reminderState := checkpoint.reminders }
  | restoreHistory none => .error (.typeError "state must be a ConversationState.")
  | restoreHistory (some state) => .ok { facade with state }
  | clearHistory => .ok { facade with state := .empty }
  | clearReminders scope => do
    .ok { facade with reminderState := ← facade.reminderState.clear scope }
  | reset => .ok { facade with state := .empty, reminderState := .empty }
  | remind input => do
    .ok { facade with reminderState := facade.reminderState.upsert (← input.normalize) }
  | removeReminder key => do
    .ok { facade with reminderState := (← facade.reminderState.remove key).1 }

/-- An operation: `_ensure_idle` first. -/
def IdleOp.run (facade : Facade) (op : IdleOp) : Except Failure Facade :=
  if facade.busy then .error .conversationBusy else op.apply facade

/-- An operation of the application leaves the busy flag. -/
lemma IdleOp.apply_busy {op : IdleOp} {facade facade' : Facade}
    (h : op.apply facade = .ok facade') : facade'.busy = facade.busy := by
  cases op with
  | restore checkpoint => cases checkpoint <;> cases h; rfl
  | restoreHistory state => cases state <;> cases h; rfl
  | clearHistory => cases h; rfl
  | clearReminders scope =>
    simp only [IdleOp.apply, bind, Except.bind] at h
    split at h <;> cases h
    rfl
  | reset => cases h; rfl
  | remind input =>
    simp only [IdleOp.apply, bind, Except.bind] at h
    split at h <;> cases h
    rfl
  | removeReminder key =>
    simp only [IdleOp.apply, bind, Except.bind] at h
    split at h <;> cases h
    rfl

/-! ### The system -/

/-- A call that a flow has made of its surroundings. -/
inductive OuterCall
  | setup (call : SetupCall)
  | turn (call : TurnCall)

/-- The same as a call of the flow. -/
abbrev OuterCall.toFlowCall : OuterCall → FlowCall
  | .setup call => .setup call
  | .turn call => .turn call

/-- The reply to such a call. -/
abbrev OuterReply (call : OuterCall) : Type := FlowReply call.toFlowCall

/-- The calls a flow has made of its surroundings. -/
abbrev FlowTrace : Type := Trace OuterCall OuterReply

/-- A generator that `ask` has returned. -/
inductive Flow
  /-- Not advanced yet. -/
  | created (a : Ask)
  /-- Advanced: the calls it has made, and where it stands. -/
  | started (a : Ask) (tr : FlowTrace) (rest : FlowProg)
  /-- Closed, or ended by an exception thrown into it, before it was advanced. -/
  | discarded (a : Ask)

/-- A facade and the flows of its turns, in the order in which they were created. -/
structure System where
  facade : Facade
  flows : List Flow

/-- Serve the accesses of a flow to the facade, until it ends or makes another call. -/
def settle (facade : Facade) : FlowProg → FlowProg × Facade
  | .call (.facade call) k => settle (facade.serve call).2 (k (facade.serve call).1)
  | p => (p, facade)

/-- Flow `i` goes on with `p` and then stands where it makes its next call. -/
def System.proceed (s : System) (i : ℕ) (a : Ask) (tr : FlowTrace) (p : FlowProg) : System where
  facade := (settle s.facade p).2
  flows := s.flows.set i (.started a tr (settle s.facade p).1)

/-- What happens to a system. -/
inductive Event
  /-- `ask` returned a flow. -/
  | asked (a : Ask)
  /-- The first advancement of a flow. -/
  | advanced (i : ℕ)
  /-- A flow that was never advanced was closed, or an exception thrown into it. -/
  | discarded (i : ℕ)
  /-- The call that a flow waits for came back: a callback returned or raised, or the driver sent
  a value or threw an exception. -/
  | resumed (i : ℕ) (call : OuterCall) (reply : OuterReply call)
  /-- A flow that waits at a yield was closed. -/
  | closed (i : ℕ)
  /-- An operation of the application returned. -/
  | operated (op : IdleOp)
  /-- An operation of the application raised. -/
  | refused (op : IdleOp) (error : Failure)

/-- `GeneratorExit`, raised at the yield where a closed flow waits. -/
def generatorExit : Exc := ⟨.made 0, .baseException, "builtins.GeneratorExit", ""⟩

/-- The reply of a yield at which the flow is closed. -/
def TurnCall.exit : (call : TurnCall) → TurnReply call
  | .inputPoll => .error generatorExit
  | .generate _ _ => .error generatorExit
  | .invokeTool _ _ => .error generatorExit
  | .prepare _ _ => .error generatorExit
  | .countTokens _ _ => .error generatorExit
  | .countRequest _ _ => .error generatorExit
  | .sourceId _ => .error generatorExit
  | .resolve _ _ => .error generatorExit
  | .trace _ => .error generatorExit

/-- Flow `i` of the system waits for the reply to a call. -/
def System.Awaits (s : System) (i : ℕ) (a : Ask) (tr : FlowTrace) (call : OuterCall)
    (k : OuterReply call → FlowProg) : Prop :=
  s.flows[i]? = some (.started a tr (.call call.toFlowCall k))

/-- `Conversation.Step c s e t`: the event `e` takes the system from `s` to `t`. -/
inductive Conversation.Step (c : Conversation) (s : System) : Event → System → Prop
  | ask (input : UserInput) (rounds : Option ℕ) (poll : Bool) (a : Ask)
      (h : c.ask input rounds poll = .ok a) :
      Step c s (.asked a) { s with flows := s.flows ++ [.created a] }
  | advance (i : ℕ) (a : Ask) (h : s.flows[i]? = some (.created a)) :
      Step c s (.advanced i) (s.proceed i a [] (c.askFlow a .empty))
  | discard (i : ℕ) (a : Ask) (h : s.flows[i]? = some (.created a)) :
      Step c s (.discarded i) { s with flows := s.flows.set i (.discarded a) }
  | resume (i : ℕ) (a : Ask) (tr : FlowTrace) (call : OuterCall)
      (k : OuterReply call → FlowProg) (reply : OuterReply call)
      (h : s.Awaits i a tr call k) :
      Step c s (.resumed i call reply) (s.proceed i a (tr ++ [⟨call, reply⟩]) (k reply))
  | close (i : ℕ) (a : Ask) (tr : FlowTrace) (call : TurnCall)
      (k : TurnReply call → FlowProg) (hyield : call.isEffect = true)
      (h : s.Awaits i a tr (.turn call) k) :
      Step c s (.closed i) (s.proceed i a (tr ++ [⟨.turn call, call.exit⟩]) (k call.exit))
  | operate (op : IdleOp) (facade : Facade) (h : op.run s.facade = .ok facade) :
      Step c s (.operated op) { s with facade }
  | refuse (op : IdleOp) (error : Failure) (h : op.run s.facade = .error error) :
      Step c s (.refused op error) s

/-- The runs of a system. -/
abbrev Conversation.Run (c : Conversation) : System → List (Move System Event) → System → Prop :=
  LabelledRun c.Step

/-- A conversation that no flow has been asked for yet. -/
def System.Fresh (s : System) : Prop := s.facade.busy = false ∧ s.flows = []

/-- A conversation with an empty history and no reminders. -/
def System.new : System := ⟨⟨false, .empty, .empty⟩, []⟩

/-! ### Executing steps -/

/-- Flow `i` goes on with what the surroundings `f` reply to the call that it waits for. -/
def System.respond (s : System) (i : ℕ) (f : (call : OuterCall) → OuterReply call) :
    Option System :=
  match s.flows[i]? with
  | some (.started a tr (.call (.setup call) k)) =>
    some (s.proceed i a (tr ++ [⟨.setup call, f (.setup call)⟩]) (k (f (.setup call))))
  | some (.started a tr (.call (.turn call) k)) =>
    some (s.proceed i a (tr ++ [⟨.turn call, f (.turn call)⟩]) (k (f (.turn call))))
  | _ => none

/-- A response is a step. -/
lemma System.respond_step {c : Conversation} {s t : System} {i : ℕ}
    {f : (call : OuterCall) → OuterReply call} (h : s.respond i f = some t) :
    ∃ call, c.Step s (.resumed i call (f call)) t := by
  unfold System.respond at h
  split at h
  · next a tr call k hi =>
    cases h
    exact ⟨.setup call, .resume i a tr (.setup call) k _ hi⟩
  · next a tr call k hi =>
    cases h
    exact ⟨.turn call, .resume i a tr (.turn call) k _ hi⟩
  · cases h

/-- A run goes on with a response. -/
theorem Conversation.Run.respond {c : Conversation} {s t : System}
    {moves : List (Move System Event)} (h : c.Run s moves t) (i : ℕ)
    (f : (call : OuterCall) → OuterReply call) (hsome : (t.respond i f).isSome = true) :
    ∃ call, c.Run s (moves ++ [⟨t, .resumed i call (f call), (t.respond i f).get hsome⟩])
      ((t.respond i f).get hsome) := by
  obtain ⟨call, hstep⟩ := System.respond_step (Option.some_get hsome).symm
  exact ⟨call, h.snoc hstep⟩

/-- Surroundings in which the model answers as given, every tool finds something, every source has
an id, and every other callback raises. -/
def answering (response : ModelResponse) : (call : OuterCall) → OuterReply call
  | .setup (.isReminderSource _) => .ok true
  | .setup (.sourceId _) => .ok (.str "source")
  | .turn (.generate _ _) => .ok (.typed response)
  | .turn (.invokeTool _ _) => .ok (.typed ⟨[.text "found"], false⟩)
  | .turn .inputPoll => .error generatorExit
  | .turn (.prepare _ _) => .error generatorExit
  | .turn (.countTokens _ _) => .error generatorExit
  | .turn (.countRequest _ _) => .error generatorExit
  | .turn (.sourceId _) => .error generatorExit
  | .turn (.resolve _ _) => .error generatorExit
  | .turn (.trace _) => .error generatorExit

/-- A call of a tool that nobody has registered. -/
def lookUp : ToolCallBlock := ⟨⟨"call-1", by decide⟩, ⟨"look_up", by decide⟩, []⟩

/-- A response that calls it. -/
def callingResponse : ModelResponse :=
  ⟨⟨.assistant, [.toolCall lookUp], none, [], by decide⟩, none, rfl⟩

/-- A response that ends a turn. -/
def plainAnswer : ModelResponse :=
  ⟨⟨.assistant, [.text "done"], none, [], by decide⟩, none, rfl⟩

end PurrceptCore
