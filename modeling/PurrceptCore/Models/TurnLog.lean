import Mathlib.Data.List.Induction
import PurrceptCore.Interaction.History
import PurrceptCore.Models.Loop

set_option relaxedAutoImplicit false
set_option autoImplicit false

/-!
# The rounds of a turn

What a turn should do, told by the effects that come back to it. A round is a poll, a response, a
second poll and the results of the tool calls. The log of a turn holds the rounds that are over and
how far the current one has come; from it one can read off which effect is due, when the turn is
over, and what it has to commit.

## Main definitions

* `PurrceptCore.Round` — the outcomes of one round, and the messages it adds.
* `PurrceptCore.TurnLog`, `PurrceptCore.TurnLog.next` — the rounds so far, and what an outcome adds
  to them.
* `PurrceptCore.TurnLog.Admits` — the calls that are due.
* `PurrceptCore.TurnLog.Coherent` — what holds of every log.

## Main results

* `PurrceptCore.TurnLog.coherent_of` — every log is coherent.
* `PurrceptCore.TurnLog.effects_of` — the effects of a turn that makes the calls that are due are
  those of its rounds, one after the other.

## Design

* This is a statement of what the loop is for. It knows nothing of working lists and counters, and
  callbacks do not move it.
-/

namespace PurrceptCore

open Interaction

/-! ### Effects and their outcomes -/

/-- What a turn yields. Of a `Generate`, the request is left out. -/
inductive TurnEffect
  | inputPoll
  | generate (model : Model)
  | invokeTool (tool : Option FunctionTool) (call : ToolCallBlock)

/-- The effect that a call yields. -/
def TurnCall.effect? : TurnCall → Option TurnEffect
  | inputPoll => some .inputPoll
  | generate model _ => some (.generate model)
  | invokeTool tool call => some (.invokeTool tool call)
  | _ => none

/-- Callbacks yield nothing. -/
lemma TurnCall.effect?_eq_none {call : TurnCall} (h : call.isEffect = false) :
    call.effect? = none := by
  cases call <;> first | rfl | cases h

/-- The messages that an input poll brought, if it brought a tuple of user messages. -/
def polled? : Except Exc Polled → Option (List Message)
  | .ok polled => polled.messages?
  | .error _ => none

/-- The value of an effect, if it is of the documented type. -/
def typed? {α : Type} : Except Exc (Answer α) → Option α
  | .ok (.typed value) => some value
  | _ => none

/-- An effect has come back with a value of the documented type. Of callbacks nothing is said. -/
def WellTyped : (Σ call, TurnReply call) → Prop
  | ⟨.inputPoll, reply⟩ => (polled? reply).isSome = true
  | ⟨.generate _ _, reply⟩ => (typed? reply).isSome = true
  | ⟨.invokeTool _ _, reply⟩ => (typed? reply).isSome = true
  | _ => True

instance : DecidablePred WellTyped
  | ⟨.inputPoll, reply⟩ => inferInstanceAs (Decidable ((polled? reply).isSome = true))
  | ⟨.generate _ _, reply⟩ => inferInstanceAs (Decidable ((typed? reply).isSome = true))
  | ⟨.invokeTool _ _, reply⟩ => inferInstanceAs (Decidable ((typed? reply).isSome = true))
  | ⟨.prepare _ _, _⟩ => isTrue trivial
  | ⟨.countTokens _ _, _⟩ => isTrue trivial
  | ⟨.countRequest _ _, _⟩ => isTrue trivial
  | ⟨.sourceId _, _⟩ => isTrue trivial
  | ⟨.resolve _ _, _⟩ => isTrue trivial
  | ⟨.trace _, _⟩ => isTrue trivial

/-- Polled messages are user messages. -/
lemma userMessages_role {items : List PolledItem} {messages : List Message}
    (h : userMessages items = some messages) : ∀ m ∈ messages, m.role = .user := by
  induction items generalizing messages with
  | nil => cases h; exact fun m hm => nomatch hm
  | cons item items ih =>
    cases item with
    | other => cases h
    | message message =>
      rw [userMessages] at h
      split at h
      · next hrole =>
        obtain ⟨rest, hrest, rfl⟩ := Option.map_eq_some_iff.1 h
        exact List.forall_mem_cons.2 ⟨hrole, ih hrest⟩
      · cases h

lemma polled?_role {reply : Except Exc Polled} {messages : List Message}
    (h : polled? reply = some messages) : ∀ m ∈ messages, m.role = .user := by
  match reply with
  | .ok (.tuple items) => exact userMessages_role h
  | .ok .other => cases h
  | .error _ => cases h

/-! ### Rounds -/

/-- The outcomes of one round: the batch of the first poll, the response, the batch of the second
poll, and the results of the tool calls. -/
structure Round where
  before : List Message
  response : ModelResponse
  incoming : List Message
  results : List ToolResult

/-- The messages of a round: the first batch, the response, one message for the result of each call
in the order of the calls, and the second batch. -/
def Round.messages (round : Round) : List Message :=
  round.before ++ round.response.message ::
    (List.zipWith toolMessage round.response.toolCalls round.results ++ round.incoming)

/-- A round that another one follows: it has a result for every call, it did not stop the turn, and
its batches are user messages. -/
structure Round.Complete (round : Round) : Prop where
  results_length : round.results.length = round.response.toolCalls.length
  goes_on : ¬ (round.response.toolCalls = [] ∧ round.incoming = [])
  before_user : ∀ m ∈ round.before, m.role = .user
  incoming_user : ∀ m ∈ round.incoming, m.role = .user

/-- The poll, if there is an input effect. -/
def pollEffects (poll : Bool) : List TurnEffect := if poll then [.inputPoll] else []

/-- One invocation for each call, in the order of the calls. -/
def Conversation.toolEffects (c : Conversation) (calls : List ToolCallBlock) : List TurnEffect :=
  calls.map fun call => .invokeTool (c.tools.get call.name) call

/-- The effects of a round up to its second poll. -/
def Conversation.intakeEffects (c : Conversation) (poll : Bool) : List TurnEffect :=
  pollEffects poll ++ .generate c.model :: pollEffects poll

/-- The effects of a round: a poll, the model, a poll, and the tools. -/
def Conversation.roundEffects (c : Conversation) (poll : Bool) (round : Round) : List TurnEffect :=
  c.intakeEffects poll ++ c.toolEffects round.response.toolCalls

/-! ### The log of a turn -/

/-- How far the current round has come. -/
inductive Phase
  /-- Its first poll is due. -/
  | polling
  /-- The request is built and handed to the model. -/
  | requesting (before : List Message)
  /-- Its second poll is due. -/
  | responded (before : List Message) (response : ModelResponse)
  /-- The tool call `call` is due, and `calls` after it. -/
  | invoking (before : List Message) (response : ModelResponse) (incoming : List Message)
      (results : List ToolResult) (call : ToolCallBlock) (calls : List ToolCallBlock)
  /-- It was the last: no calls, and no input. -/
  | stopped (before : List Message) (response : ModelResponse)
  /-- It would go on, but no round is left. -/
  | limited (before : List Message) (response : ModelResponse) (incoming : List Message)
  /-- An effect has raised, or brought something of another type. -/
  | failed

/-- The messages of the current round so far. -/
def Phase.messages : Phase → List Message
  | polling | failed => []
  | requesting before => before
  | responded before response | stopped before response | limited before response _ =>
    before ++ [response.message]
  | invoking before response _ results _ _ =>
    before ++ response.message :: List.zipWith toolMessage response.toolCalls results

/-- The effects of the current round so far. -/
def Conversation.phaseEffects (c : Conversation) (poll : Bool) : Phase → List TurnEffect
  | .polling | .failed => []
  | .requesting _ => pollEffects poll
  | .responded _ _ => pollEffects poll ++ [.generate c.model]
  | .invoking _ response _ results _ _ =>
    c.intakeEffects poll ++ c.toolEffects (response.toolCalls.take results.length)
  | .stopped _ _ | .limited _ _ _ => c.intakeEffects poll

/-- What holds of the current round when `completed` rounds are over. -/
def Phase.Coherent (poll : Bool) (maxRounds completed : ℕ) : Phase → Prop
  | polling => completed < maxRounds ∧ poll = true
  | failed => completed < maxRounds
  | requesting before => completed < maxRounds ∧ ∀ m ∈ before, m.role = .user
  | responded before _ =>
    completed < maxRounds ∧ (∀ m ∈ before, m.role = .user) ∧ poll = true
  | invoking before response incoming results call calls =>
    completed + 1 < maxRounds ∧ (∀ m ∈ before, m.role = .user) ∧
      (∀ m ∈ incoming, m.role = .user) ∧
      ∃ done, response.toolCalls = done ++ call :: calls ∧ done.length = results.length
  | stopped before response =>
    completed < maxRounds ∧ (∀ m ∈ before, m.role = .user) ∧ response.toolCalls = []
  | limited before response incoming =>
    completed + 1 = maxRounds ∧ (∀ m ∈ before, m.role = .user) ∧
      ¬ (response.toolCalls = [] ∧ incoming = [])

/-- The rounds that are over, and the current one. -/
structure TurnLog where
  rounds : List Round
  phase : Phase

namespace TurnLog

section Log

variable (poll : Bool) (maxRounds : ℕ)

/-- A round begins. -/
def begin (rounds : List Round) : TurnLog :=
  ⟨rounds, if poll then .polling else .requesting []⟩

/-- The response and all input are in: the turn stops, or is over the limit, or goes on. -/
def intake (rounds : List Round) (before : List Message) (response : ModelResponse)
    (incoming : List Message) : TurnLog :=
  if response.toolCalls = [] ∧ incoming = [] then ⟨rounds, .stopped before response⟩
  else if rounds.length + 1 = maxRounds then ⟨rounds, .limited before response incoming⟩
  else
    match response.toolCalls with
    | [] => begin poll (rounds ++ [⟨before, response, incoming, []⟩])
    | call :: calls => ⟨rounds, .invoking before response incoming [] call calls⟩

/-- The turn has failed in the current round. -/
def fail (log : TurnLog) : TurnLog := ⟨log.rounds, .failed⟩

/-- A poll came back. -/
def polled (log : TurnLog) (messages : List Message) : TurnLog :=
  match log.phase with
  | .polling => ⟨log.rounds, .requesting messages⟩
  | .responded before response => intake poll maxRounds log.rounds before response messages
  | _ => log.fail

/-- The model came back. -/
def generated (log : TurnLog) (response : ModelResponse) : TurnLog :=
  match log.phase with
  | .requesting before =>
    if poll then ⟨log.rounds, .responded before response⟩
    else intake poll maxRounds log.rounds before response []
  | _ => log.fail

/-- A tool came back. -/
def invoked (log : TurnLog) (result : ToolResult) : TurnLog :=
  match log.phase with
  | .invoking before response incoming results _ [] =>
    begin poll (log.rounds ++ [⟨before, response, incoming, results ++ [result]⟩])
  | .invoking before response incoming results _ (call :: calls) =>
    ⟨log.rounds, .invoking before response incoming (results ++ [result]) call calls⟩
  | _ => log.fail

/-- A call came back. -/
def next (log : TurnLog) : (Σ call, TurnReply call) → TurnLog
  | ⟨.inputPoll, reply⟩ => (polled? reply).elim log.fail (log.polled poll maxRounds)
  | ⟨.generate _ _, reply⟩ => (typed? reply).elim log.fail (log.generated poll maxRounds)
  | ⟨.invokeTool _ _, reply⟩ => (typed? reply).elim log.fail (log.invoked poll)
  | _ => log

/-- The log after the calls of a trace. -/
def of (tr : TurnTrace) : TurnLog := tr.foldl (next poll maxRounds) (begin poll [])

end Log

variable {poll : Bool} {maxRounds : ℕ}

@[simp] lemma of_nil : of poll maxRounds [] = begin poll [] := rfl

@[simp] lemma of_snoc (tr : TurnTrace) (x : Σ call, TurnReply call) :
    of poll maxRounds (tr ++ [x]) = (of poll maxRounds tr).next poll maxRounds x :=
  List.foldl_concat ..

lemma next_inputPoll (log : TurnLog) {reply : TurnReply .inputPoll} {messages : List Message}
    (h : polled? reply = some messages) :
    log.next poll maxRounds ⟨.inputPoll, reply⟩ = log.polled poll maxRounds messages := by
  rw [next, h]
  rfl

lemma next_generate (log : TurnLog) {model : Model} {request : ModelRequest}
    {reply : TurnReply (.generate model request)} {response : ModelResponse}
    (h : typed? reply = some response) :
    log.next poll maxRounds ⟨.generate model request, reply⟩ =
      log.generated poll maxRounds response := by
  rw [next, h]
  rfl

lemma next_invokeTool (log : TurnLog) {tool : Option FunctionTool} {call : ToolCallBlock}
    {reply : TurnReply (.invokeTool tool call)} {result : ToolResult}
    (h : typed? reply = some result) :
    log.next poll maxRounds ⟨.invokeTool tool call, reply⟩ = log.invoked poll result := by
  rw [next, h]
  rfl

/-- A callback does not move the log. -/
lemma next_callback (log : TurnLog) {x : Σ call, TurnReply call} (h : x.1.isEffect = false) :
    log.next poll maxRounds x = log := by
  obtain ⟨call, reply⟩ := x
  cases call <;> first | rfl | cases h

/-- Callbacks do not move the log. -/
lemma of_append_callbacks (tr : TurnTrace) {e : TurnTrace} (h : ∀ x ∈ e, x.1.isEffect = false) :
    of poll maxRounds (tr ++ e) = of poll maxRounds tr := by
  induction e using List.reverseRecOn with
  | nil => rw [List.append_nil]
  | append_singleton e x ih =>
    rw [← List.append_assoc, of_snoc, next_callback _ (h x (by simp)),
      ih fun y hy => h y (List.mem_append_left _ hy)]

/-! ### What a log says -/

/-- The messages that a turn has added to its user message. -/
def transcript (log : TurnLog) : List Message :=
  log.rounds.flatMap Round.messages ++ log.phase.messages

/-- The effects of a turn. -/
def effects (c : Conversation) (poll : Bool) (log : TurnLog) : List TurnEffect :=
  log.rounds.flatMap (c.roundEffects poll) ++ c.phaseEffects poll log.phase

/-- The calls that are due. Callbacks are made only while a request is built. -/
def Admits (c : Conversation) (log : TurnLog) (call : TurnCall) : Prop :=
  match log.phase with
  | .polling | .responded _ _ => call = .inputPoll
  | .requesting _ => call.isEffect = false ∨ ∃ request, call = .generate c.model request
  | .invoking _ _ _ _ toolCall _ => call = .invokeTool (c.tools.get toolCall.name) toolCall
  | .stopped _ _ | .limited _ _ _ | .failed => False

/-- A request is handed to the model of the conversation, when one is built. -/
lemma Admits.of_generate {c : Conversation} {log : TurnLog} {model : Model}
    {request : ModelRequest} (h : log.Admits c (.generate model request)) :
    model = c.model ∧ ∃ before, log.phase = .requesting before := by
  obtain ⟨rounds, phase⟩ := log
  cases phase with
  | requesting before =>
    rcases h with hcall | ⟨request', hcall⟩
    · cases hcall
    · cases hcall
      exact ⟨rfl, before, rfl⟩
  | polling | responded => cases h
  | invoking before response incoming results call calls => cases h
  | stopped | limited | failed => exact h.elim

/-- **The invariant of a log.** -/
structure Coherent (poll : Bool) (maxRounds : ℕ) (log : TurnLog) : Prop where
  complete : ∀ round ∈ log.rounds, round.Complete
  current : log.phase.Coherent poll maxRounds log.rounds.length

namespace Coherent

/-- A round begins. -/
lemma begin {rounds : List Round} (h : ∀ round ∈ rounds, round.Complete)
    (hlt : rounds.length < maxRounds) : Coherent poll maxRounds (begin poll rounds) := by
  refine ⟨h, ?_⟩
  cases poll with
  | true => exact ⟨hlt, rfl⟩
  | false => exact ⟨hlt, fun m hm => nomatch hm⟩

/-- One more round is over. -/
lemma begin_snoc {rounds : List Round} {round : Round} (h : ∀ r ∈ rounds, r.Complete)
    (hround : round.Complete) (hlt : rounds.length + 1 < maxRounds) :
    Coherent poll maxRounds (TurnLog.begin poll (rounds ++ [round])) := by
  refine begin (fun r hr => ?_) (by rwa [List.length_append])
  rcases List.mem_append.1 hr with hr | hr
  · exact h r hr
  · rwa [List.mem_singleton.1 hr]

lemma intake {rounds : List Round} {before incoming : List Message} {response : ModelResponse}
    (h : ∀ round ∈ rounds, round.Complete) (hlt : rounds.length < maxRounds)
    (hbefore : ∀ m ∈ before, m.role = .user) (hincoming : ∀ m ∈ incoming, m.role = .user) :
    Coherent poll maxRounds (intake poll maxRounds rounds before response incoming) := by
  unfold TurnLog.intake
  split
  · next hstop => exact ⟨h, hlt, hbefore, hstop.1⟩
  next hgo =>
  split
  · next hlimit => exact ⟨h, hlimit, hbefore, hgo⟩
  next hmore =>
  split
  · next hcalls =>
    exact begin_snoc h ⟨by rw [hcalls]; rfl, hgo, hbefore, hincoming⟩
      (Nat.lt_of_le_of_ne hlt hmore)
  · next call calls hcalls =>
    exact ⟨h, Nat.lt_of_le_of_ne hlt hmore, hbefore, hincoming, [], hcalls, rfl⟩

/-- Whatever a phase is, there was a round left for it. -/
lemma length_lt {log : TurnLog} (h : Coherent poll maxRounds log) :
    log.rounds.length < maxRounds := by
  obtain ⟨rounds, phase⟩ := log
  have hcurrent := h.current
  cases phase with
  | failed => exact hcurrent
  | polling | requesting | responded | stopped => exact hcurrent.1
  | invoking =>
    have hround := hcurrent.1
    omega
  | limited =>
    have hround := hcurrent.1
    omega

lemma fail {log : TurnLog} (h : Coherent poll maxRounds log) :
    Coherent poll maxRounds log.fail :=
  ⟨h.complete, h.length_lt⟩

/-- **The step lemma.** -/
theorem next {log : TurnLog} (h : Coherent poll maxRounds log) (x : Σ call, TurnReply call) :
    Coherent poll maxRounds (log.next poll maxRounds x) := by
  obtain ⟨call, reply⟩ := x
  obtain ⟨rounds, phase⟩ := log
  cases call with
  | inputPoll =>
    change Coherent _ _ ((polled? reply).elim _ _)
    cases hreply : polled? reply with
    | none => exact h.fail
    | some messages =>
      have hmessages := polled?_role hreply
      cases phase with
      | polling => exact ⟨h.complete, h.current.1, hmessages⟩
      | responded before response =>
        exact intake h.complete h.current.1 h.current.2.1 hmessages
      | requesting | invoking | stopped | limited | failed => exact h.fail
  | generate model request =>
    change Coherent _ _ ((typed? reply).elim _ _)
    cases typed? reply with
    | none => exact h.fail
    | some response =>
      cases phase with
      | requesting before =>
        cases poll with
        | true => exact ⟨h.complete, h.current.1, h.current.2, rfl⟩
        | false =>
          exact intake h.complete h.current.1 h.current.2 fun m hm => nomatch hm
      | polling | responded | invoking | stopped | limited | failed => exact h.fail
  | invokeTool tool call =>
    change Coherent _ _ ((typed? reply).elim _ _)
    cases typed? reply with
    | none => exact h.fail
    | some result =>
      cases phase with
      | invoking before response incoming results call calls =>
        obtain ⟨hlt, hbefore, hincoming, done, hcalls, hlen⟩ := h.current
        cases calls with
        | nil =>
          refine begin_snoc h.complete ⟨?_, ?_, hbefore, hincoming⟩ hlt
          · change (results ++ [result]).length = response.toolCalls.length
            rw [hcalls, List.length_append, List.length_append, hlen]
            rfl
          · rintro ⟨hnil, -⟩
            change response.toolCalls = [] at hnil
            rw [hcalls] at hnil
            exact List.cons_ne_nil _ _ (List.append_eq_nil_iff.1 hnil).2
        | cons call' calls =>
          refine ⟨h.complete, hlt, hbefore, hincoming, done ++ [call], ?_, ?_⟩
          · rw [hcalls, List.append_assoc, List.singleton_append]
          · rw [List.length_append, List.length_append, hlen]
            rfl
      | polling | requesting | responded | stopped | limited | failed => exact h.fail
  | prepare | countTokens | countRequest | sourceId | resolve | trace => exact h

end Coherent

/-- **Every log is coherent.** -/
theorem coherent_of (hpos : 0 < maxRounds) (tr : TurnTrace) :
    Coherent poll maxRounds (of poll maxRounds tr) := by
  induction tr using List.reverseRecOn with
  | nil => exact .begin (fun _ h => nomatch h) hpos
  | append_singleton tr x ih =>
    rw [of_snoc]
    exact ih.next x

/-! ### The effects of a log -/

section Effects

variable (c : Conversation)

lemma effects_begin (rounds : List Round) :
    (begin poll rounds).effects c poll = rounds.flatMap (c.roundEffects poll) := by
  unfold effects begin
  cases poll <;> exact List.append_nil _

lemma flatMap_snoc {α β : Type} (f : α → List β) (xs : List α) (x : α) :
    (xs ++ [x]).flatMap f = xs.flatMap f ++ f x := by
  rw [List.flatMap_append, List.flatMap_singleton]

lemma effects_intake (rounds : List Round) (before : List Message) (response : ModelResponse)
    (incoming : List Message) :
    (intake poll maxRounds rounds before response incoming).effects c poll =
      rounds.flatMap (c.roundEffects poll) ++ c.intakeEffects poll := by
  unfold intake
  split
  · rfl
  split
  · rfl
  split
  · next hcalls =>
    rw [effects_begin, flatMap_snoc]
    unfold Conversation.roundEffects
    rw [hcalls]
    exact congrArg _ (List.append_nil _)
  · exact congrArg _ (List.append_nil _)

/-- One more tool call. -/
lemma toolEffects_snoc (done : List ToolCallBlock) (call : ToolCallBlock) :
    c.toolEffects (done ++ [call]) =
      c.toolEffects done ++ [.invokeTool (c.tools.get call.name) call] :=
  List.map_append

/-- The effects of a turn that waits for a tool call, after the calls `done`. -/
lemma effects_invoking (rounds : List Round) (before : List Message) (response : ModelResponse)
    (incoming : List Message) (results : List ToolResult) (call : ToolCallBlock)
    (calls : List ToolCallBlock) {done : List ToolCallBlock}
    (hcalls : response.toolCalls = done ++ call :: calls) (hlen : done.length = results.length) :
    effects c poll ⟨rounds, .invoking before response incoming results call calls⟩ =
      rounds.flatMap (c.roundEffects poll) ++ (c.intakeEffects poll ++ c.toolEffects done) := by
  have htake : response.toolCalls.take results.length = done := by
    rw [hcalls, ← hlen, List.take_left]
  rw [← htake]
  rfl

/-- **What may come back**, if calls are made when they are due, and bring values of the documented
types. -/
inductive Due (poll : Bool) (maxRounds : ℕ) :
    TurnLog → (Σ call, TurnReply call) → TurnLog → Prop
  | callback (rounds : List Round) (before : List Message) (x : Σ call, TurnReply call)
      (hx : x.1.effect? = none) :
      Due poll maxRounds ⟨rounds, .requesting before⟩ x ⟨rounds, .requesting before⟩
  | firstPoll (rounds : List Round) (messages : List Message) (reply : TurnReply .inputPoll) :
      Due poll maxRounds ⟨rounds, .polling⟩ ⟨.inputPoll, reply⟩ ⟨rounds, .requesting messages⟩
  | response (rounds : List Round) (before : List Message) (request : ModelRequest)
      (reply : TurnReply (.generate c.model request)) (response : ModelResponse) :
      Due poll maxRounds ⟨rounds, .requesting before⟩ ⟨.generate c.model request, reply⟩
        (if poll then ⟨rounds, .responded before response⟩
          else intake poll maxRounds rounds before response [])
  | secondPoll (rounds : List Round) (before : List Message) (response : ModelResponse)
      (messages : List Message) (reply : TurnReply .inputPoll) :
      Due poll maxRounds ⟨rounds, .responded before response⟩ ⟨.inputPoll, reply⟩
        (intake poll maxRounds rounds before response messages)
  | lastResult (rounds : List Round) (before : List Message) (response : ModelResponse)
      (incoming : List Message) (results : List ToolResult) (call : ToolCallBlock)
      (result : ToolResult) (reply : TurnReply (.invokeTool (c.tools.get call.name) call)) :
      Due poll maxRounds ⟨rounds, .invoking before response incoming results call []⟩
        ⟨.invokeTool (c.tools.get call.name) call, reply⟩
        (begin poll (rounds ++ [⟨before, response, incoming, results ++ [result]⟩]))
  | result (rounds : List Round) (before : List Message) (response : ModelResponse)
      (incoming : List Message) (results : List ToolResult) (call call' : ToolCallBlock)
      (calls : List ToolCallBlock) (result : ToolResult)
      (reply : TurnReply (.invokeTool (c.tools.get call.name) call)) :
      Due poll maxRounds ⟨rounds, .invoking before response incoming results call (call' :: calls)⟩
        ⟨.invokeTool (c.tools.get call.name) call, reply⟩
        ⟨rounds, .invoking before response incoming (results ++ [result]) call' calls⟩

variable {c}

/-- A call that is due, and brings a value of the documented type. -/
theorem due_next {log : TurnLog} {x : Σ call, TurnReply call} (hadmits : log.Admits c x.1)
    (htyped : WellTyped x) : Due c poll maxRounds log x (log.next poll maxRounds x) := by
  obtain ⟨call, reply⟩ := x
  obtain ⟨rounds, phase⟩ := log
  cases phase with
  | polling =>
    obtain rfl : call = .inputPoll := hadmits
    obtain ⟨messages, hreply⟩ := Option.isSome_iff_exists.1 htyped
    rw [next_inputPoll _ hreply]
    exact .firstPoll ..
  | requesting before =>
    rcases hadmits with hcall | ⟨request, rfl⟩
    · rw [next_callback _ hcall]
      exact .callback _ _ _ (TurnCall.effect?_eq_none hcall)
    · obtain ⟨response, hreply⟩ := Option.isSome_iff_exists.1 htyped
      rw [next_generate _ hreply]
      exact .response ..
  | responded before response =>
    obtain rfl : call = .inputPoll := hadmits
    obtain ⟨messages, hreply⟩ := Option.isSome_iff_exists.1 htyped
    rw [next_inputPoll _ hreply]
    exact .secondPoll ..
  | invoking before response incoming results toolCall calls =>
    obtain rfl : call = .invokeTool (c.tools.get toolCall.name) toolCall := hadmits
    obtain ⟨result, hreply⟩ := Option.isSome_iff_exists.1 htyped
    rw [next_invokeTool _ hreply]
    cases calls with
    | nil => exact .lastResult ..
    | cons call' calls => exact .result ..
  | stopped | limited | failed => exact hadmits.elim

/-- **The step lemma for effects.** What is due adds its effect. -/
theorem Due.effects_eq {log log' : TurnLog} {x : Σ call, TurnReply call}
    (h : Due c poll maxRounds log x log') (hlog : Coherent poll maxRounds log) :
    log'.effects c poll = log.effects c poll ++ x.1.effect?.toList := by
  cases h with
  | callback rounds before x hx =>
    rw [hx]
    exact (List.append_nil _).symm
  | firstPoll rounds messages reply =>
    obtain rfl : poll = true := hlog.current.2
    exact congrArg (· ++ [TurnEffect.inputPoll]) (List.append_nil _).symm
  | response rounds before request reply response =>
    cases poll with
    | true => exact (List.append_assoc _ _ _).symm
    | false => exact (effects_intake c ..).trans (List.append_assoc _ _ _).symm
  | secondPoll rounds before response messages reply =>
    obtain rfl : poll = true := hlog.current.2.2
    refine (effects_intake c ..).trans ?_
    exact (List.append_assoc _ [TurnEffect.inputPoll, .generate c.model] [.inputPoll]).symm
  | lastResult rounds before response incoming results call result reply =>
    obtain ⟨-, -, -, done, hcalls, hlen⟩ := hlog.current
    rw [effects_invoking c rounds before response incoming results call [] hcalls hlen,
      effects_begin, flatMap_snoc, List.append_assoc, List.append_assoc]
    change _ ++ (_ ++ c.toolEffects response.toolCalls) = _
    rw [hcalls, toolEffects_snoc]
    rfl
  | result rounds before response incoming results call call' calls result reply =>
    obtain ⟨-, -, -, done, hcalls, hlen⟩ := hlog.current
    have hcalls' : response.toolCalls = done ++ [call] ++ call' :: calls := by
      rw [hcalls, List.append_assoc]
      rfl
    rw [effects_invoking c rounds before response incoming results call _ hcalls hlen,
      effects_invoking c rounds before response incoming (results ++ [result]) call' calls hcalls'
        (by rw [List.length_append, List.length_append, hlen]; rfl),
      toolEffects_snoc, List.append_assoc, List.append_assoc]
    rfl

/-- What is due does not make the turn fail. -/
lemma Due.ne_failed {log log' : TurnLog} {x : Σ call, TurnReply call}
    (h : Due c poll maxRounds log x log') : log'.phase ≠ .failed := by
  have hbegin (rounds : List Round) : (begin poll rounds).phase ≠ .failed := by
    unfold begin
    cases poll <;> nofun
  have hintake (rounds : List Round) (before : List Message) (response : ModelResponse)
      (incoming : List Message) :
      (intake poll maxRounds rounds before response incoming).phase ≠ .failed := by
    unfold intake
    split
    · nofun
    split
    · nofun
    split
    · exact hbegin _
    · nofun
  cases h with
  | callback | firstPoll | result => nofun
  | response =>
    split
    · nofun
    · exact hintake _ _ _ _
  | secondPoll => exact hintake _ _ _ _
  | lastResult => exact hbegin _

end Effects

/-- **The effects of a turn.** If a program makes only calls that are due, and effects bring values
of the documented types, its effects are those of its log, and the log does not fail. -/
theorem effects_of {α : Type} {c : Conversation} {p q : Prog TurnCall TurnReply α} {tr : TurnTrace}
    (hpos : 0 < maxRounds) (h : Exec p tr q)
    (hadmits : ∀ tr call k, Exec p tr (.call call k) → (of poll maxRounds tr).Admits c call)
    (htyped : ∀ x ∈ tr, WellTyped x) :
    (of poll maxRounds tr).effects c poll = tr.filterMap (fun x => x.1.effect?) ∧
      (of poll maxRounds tr).phase ≠ .failed := by
  induction tr using List.reverseRecOn generalizing q with
  | nil =>
    refine ⟨effects_begin c [], ?_⟩
    rw [of_nil, begin]
    cases poll <;> nofun
  | append_singleton tr x ih =>
    obtain ⟨k, hk⟩ := h.before
    have hx := hadmits tr x.1 k hk
    obtain ⟨heffects, -⟩ := ih hk fun y hy => htyped y (List.mem_append_left _ hy)
    have hdue : Due c poll maxRounds _ x _ := due_next hx (htyped x (by simp))
    rw [of_snoc, hdue.effects_eq (coherent_of hpos tr), heffects, List.filterMap_append]
    refine ⟨?_, hdue.ne_failed⟩
    cases heffect : x.1.effect? <;> simp [heffect]

end TurnLog

end PurrceptCore
