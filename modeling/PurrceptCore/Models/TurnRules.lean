import PurrceptCore.Models.TurnLog
import PurrceptCore.Models.TurnSpecs

set_option relaxedAutoImplicit false
set_option autoImplicit false

/-!
# The loop follows the log

The model loop makes the calls that are due in its log, whatever comes back. This module says so
for each part of a round, and from that for the rounds.

## Main definitions

* `PurrceptCore.TurnInput` — what a turn is given.
* `PurrceptCore.TurnInput.IsRequest` — what holds of every accepted request.
* `PurrceptCore.TurnInput.Ends` — how a turn ends.

## Main results

* `PurrceptCore.TurnInput.wp_run` — a turn makes only calls that are due, every request is as it
  should be, and the turn ends as it should.
-/

namespace PurrceptCore

open Interaction Routine

/-- What a turn is given. -/
structure TurnInput where
  conversation : Conversation
  session : TurnPromptSession
  state : ConversationState
  user : Message
  maxRounds : ℕ
  poll : Bool
  /-- The reminders that remain when it begins. -/
  acquired : ReminderState

/-- A request was handed to the model. -/
def isGenerate : (Σ call, TurnReply call) → Bool
  | ⟨.generate _ _, _⟩ => true
  | _ => false

/-- A callback is no request. -/
lemma isGenerate_callback {x : Σ call, TurnReply call} (h : IsCallback x.1) :
    isGenerate x = false := by
  obtain ⟨call, reply⟩ := x
  cases call <;> first | rfl | cases h

namespace TurnInput

variable (T : TurnInput)

/-- The turn. -/
def run : Prog TurnCall TurnReply (Except Failure ModelTurnResult × ReminderState) :=
  T.conversation.runModelTurn T.session T.state T.user T.maxRounds T.poll T.acquired

/-- Its log. -/
def log (h : TurnTrace) : TurnLog := TurnLog.of T.poll T.maxRounds h

/-- The reminders that remain: they are consumed by the first request. -/
def remaining (h : TurnTrace) : ReminderState :=
  if h.any isGenerate then T.session.consume T.acquired else T.acquired

/-- What the sources have resolved last. -/
def dynamic (h : TurnTrace) : List SystemReminder :=
  ((resolutions h).rtake T.session.sources.length).flatten

/-- The messages of the turn so far, after the history it began with. -/
def messages (h : TurnTrace) : List Message :=
  T.state.messages ++ T.user :: (T.log h).transcript

/-- **An accepted request**, after the calls `h`. Under a built-in policy it contains the newest
complete turns, and all of the current one. It shows the active reminders, and what each source has
resolved last. -/
structure IsRequest (h : TurnTrace) (request : ModelRequest) : Prop where
  history : T.conversation.contextPolicy.isBuiltin = true →
    ∃ (context : PreparedContext) (continuation : Option ModelContinuation),
      context.Retains (T.messages h) continuation T.state.turnBoundaries ∧
        request.messages = context.messages
  sources : T.session.sources.length ≤ (resolutions h).length
  reminders : request.reminders.Perm
    (T.session.activeReminders (T.remaining h) ++ T.dynamic h)

/-- What the turn may call after the calls `h`. -/
structure Allows (h : TurnTrace) (call : TurnCall) : Prop where
  admits : (T.log h).Admits T.conversation call
  request : ∀ request, call = .generate T.conversation.model request → T.IsRequest h request

/-- The same, with anything that holds of the requests. -/
structure AllowsBy (P : TurnTrace → ModelRequest → Prop) (h : TurnTrace) (call : TurnCall) :
    Prop where
  admits : (T.log h).Admits T.conversation call
  request : ∀ request, call = .generate T.conversation.model request → P h request

/-- **The result of a turn** that has stopped at the given response. -/
structure IsResult (h : TurnTrace) (response : ModelResponse) (result : ModelTurnResult) :
    Prop where
  response_eq : result.response = response
  messages_eq : result.state.messages = T.messages h
  continuation_eq : result.state.continuation = response.continuation
  turnIndex_eq : result.state.turnIndex = T.state.turnIndex + 1
  turnBoundaries_eq :
    result.state.turnBoundaries = T.state.turnBoundaries ++ [result.state.messages.length]
  modelRounds_eq : result.modelRounds = (T.log h).rounds.length + 1
  toolResults_eq : result.toolResults = (T.log h).rounds.flatMap Round.results

/-- **How a turn ends** after the calls `h`. -/
inductive Ends (h : TurnTrace) : Except Failure ModelTurnResult → Prop
  | returned (before : List Message) (response : ModelResponse) (result : ModelTurnResult)
      (hphase : (T.log h).phase = .stopped before response)
      (hresult : T.IsResult h response result) : Ends h (.ok result)
  | limited (before incoming : List Message) (response : ModelResponse)
      (hphase : (T.log h).phase = .limited before response incoming) :
      Ends h (.error (.toolLoopLimit T.maxRounds response))
  /-- The request could not be built. -/
  | notBuilt (before : List Message) (e : Failure)
      (hphase : (T.log h).phase = .requesting before) : Ends h (.error e)
  /-- An effect raised, or brought something of another type. -/
  | failed (e : Failure) (hphase : (T.log h).phase = .failed) : Ends h (.error e)

/-- The loop has made the calls `h`; its log and the reminders that remain are as given. -/
structure At (log : TurnLog) (s : ReminderState) (h : TurnTrace) : Prop where
  log_eq : T.log h = log
  state_eq : s = T.remaining h

/-- `P` holds of every request that is built over the transcript of the turn. -/
def Builds (P : TurnTrace → ModelRequest → Prop) : Prop :=
  ∀ {rounds : List Round} {before : List Message} {s : ReminderState} {h : TurnTrace} {w : Working}
    (completed : ℕ), T.At ⟨rounds, .requesting before⟩ s h → w.messages = T.messages h →
    Spec IsCallback (T.conversation.buildRequest T.session T.state w completed) s fun o s' e =>
      match o with
      | .ok compiled =>
        s' = T.session.consume s ∧
          ((∀ x ∈ e, IsCallback x.1) → P (h ++ e) compiled.request)
      | .error _ => s' = s

variable {T} {P : TurnTrace → ModelRequest → Prop}

/-! ### Polls and other effects -/

lemma At.snoc {log : TurnLog} {s : ReminderState} {h : TurnTrace} (hat : T.At log s h)
    {x : Σ call, TurnReply call} (hx : isGenerate x = false) :
    T.At (log.next T.poll T.maxRounds x) s (h ++ [x]) where
  log_eq := by
    rw [TurnInput.log, TurnLog.of_snoc, ← hat.log_eq]
    rfl
  state_eq := by
    rw [hat.state_eq, remaining, remaining, List.any_append, List.any_cons, hx, List.any_nil,
      Bool.or_false, Bool.or_false]

/-- Effects may be made when they are due. -/
lemma At.allows {log : TurnLog} {s : ReminderState} {h : TurnTrace} {call : TurnCall}
    (hat : T.At log s h) (hadmits : log.Admits T.conversation call)
    (hrequest : ∀ request, call ≠ .generate T.conversation.model request) : T.AllowsBy P h call :=
  ⟨hat.log_eq ▸ hadmits, fun request hcall => absurd hcall (hrequest request)⟩

/-- A poll. -/
lemma wp_pollInput {log : TurnLog} {s : ReminderState} {h : TurnTrace}
    {Q : Except Failure (List Message) → ReminderState → TurnTrace → Prop} (hat : T.At log s h)
    (hadmits : T.poll = true → log.Admits T.conversation .inputPoll)
    (hnone : T.poll = false → Q (.ok []) s h)
    (hok : T.poll = true → ∀ messages h', T.At (log.polled T.poll T.maxRounds messages) s h' →
      Q (.ok messages) s h')
    (herror : ∀ e h', T.At log.fail s h' → Q (.error e) s h') :
    wp (.log (T.AllowsBy P)) (pollInput T.poll) Q s h := by
  unfold pollInput
  cases hpoll : T.poll with
  | false => exact hnone hpoll
  | true =>
    simp only [Bool.not_true, Bool.false_eq_true, ↓reduceIte, wp_bind, wp_call, onOk_ok]
    have hcall (request) : TurnCall.inputPoll ≠ .generate T.conversation.model request := by simp
    refine ⟨hat.allows (hadmits hpoll) hcall, fun reply _ => ?_⟩
    have hat' := hat.snoc (x := ⟨.inputPoll, reply⟩) rfl
    cases reply with
    | error e => exact herror _ _ hat'
    | ok value =>
      simp only [receive, wp_pure, onOk_ok]
      cases hvalue : value.messages? with
      | none =>
        have hreply : polled? (.ok value) = none := hvalue
        rw [TurnLog.next, hreply] at hat'
        exact herror _ _ hat'
      | some messages =>
        have hreply : polled? (.ok value) = some messages := hvalue
        rw [TurnLog.next_inputPoll _ hreply] at hat'
        exact hok hpoll messages _ hat'

/-- A value that should be of some type is used. -/
lemma wp_use {α β : Type} {allow : TurnTrace → TurnCall → Prop} {s : ReminderState}
    {h : TurnTrace} {Q : Except Failure β → ReminderState → TurnTrace → Prop}
    {reply : Except Exc (Answer α)} {f : α → TurnM β}
    (hok : ∀ value, typed? reply = some value → wp (.log allow) (f value) Q s h)
    (herror : ∀ e, typed? reply = none → Q (.error e) s h) :
    wp (.log allow) (receive reply >>= fun answer => answer.use >>= f) Q s h := by
  match reply with
  | .error e => exact herror _ rfl
  | .ok (.other e) => exact herror _ rfl
  | .ok (.typed value) => exact hok value rfl

/-! ### The request -/

/-- The loop has built a request. -/
structure Built (T : TurnInput) (P : TurnTrace → ModelRequest → Prop) (log : TurnLog)
    (compiled : CompiledPrompt) (s : ReminderState) (h : TurnTrace) : Prop where
  log_eq : T.log h = log
  state_eq : s = T.session.consume T.acquired
  isRequest : P h compiled.request

/-- What remains after a request does not depend on the requests before. -/
lemma consume_remaining (h : TurnTrace) :
    T.session.consume (T.remaining h) = T.session.consume T.acquired := by
  unfold remaining
  split
  · exact T.session.consume_consume T.acquired
  · rfl

/-- Callbacks do not consume reminders. -/
lemma remaining_append (h : TurnTrace) {e : TurnTrace} (he : ∀ x ∈ e, IsCallback x.1) :
    T.remaining (h ++ e) = T.remaining h := by
  have hnone : e.any isGenerate = false := by
    refine List.any_eq_false.2 fun x hx => ?_
    rw [isGenerate_callback (he x hx)]
    exact Bool.false_ne_true
  rw [remaining, remaining, List.any_append, hnone, Bool.or_false]

/-- Callbacks add no messages. -/
lemma messages_append (h : TurnTrace) {e : TurnTrace} (he : ∀ x ∈ e, IsCallback x.1) :
    T.messages (h ++ e) = T.messages h := by
  rw [messages, messages, log, TurnLog.of_append_callbacks h he]
  rfl

/-- Requests that are built over the transcript are as they should be. -/
lemma builds_isRequest : T.Builds T.IsRequest := by
  intro rounds before s h w completed hat hw
  refine (T.conversation.buildRequest_spec T.session T.state w completed s).mono fun o s' e ho => ?_
  cases o with
  | error error => exact ho
  | ok compiled =>
    obtain ⟨hs, hhistory, hsources, hreminders⟩ := ho
    refine ⟨hs, fun he => ⟨?_, ?_, ?_⟩⟩
    · intro hbuiltin
      obtain ⟨context, hcontext, hrequest⟩ := hhistory hbuiltin
      have hmessages : T.messages (h ++ e) = w.messages := by
        rw [hw, messages_append h he]
      exact ⟨context, w.continuation, hmessages ▸ hcontext, hrequest⟩
    · rw [resolutions_append, List.length_append]
      exact hsources.trans (Nat.le_add_left _ _)
    · have hdynamic : T.dynamic (h ++ e) =
          ((resolutions e).rtake T.session.sources.length).flatten := by
        rw [dynamic, resolutions_append, rtake_append_of_le hsources]
      rw [remaining_append h he, hdynamic, ← hat.state_eq]
      exact hreminders

/-- Building a request. -/
lemma wp_buildRequest (hP : T.Builds P) {rounds : List Round} {before : List Message}
    {s : ReminderState} {h : TurnTrace} {w : Working}
    {Q : Except Failure CompiledPrompt → ReminderState → TurnTrace → Prop}
    (hat : T.At ⟨rounds, .requesting before⟩ s h) (hw : w.messages = T.messages h) (completed : ℕ)
    (hok : ∀ compiled s' h', T.Built P ⟨rounds, .requesting before⟩ compiled s' h' →
      Q (.ok compiled) s' h')
    (herror : ∀ e h', T.At ⟨rounds, .requesting before⟩ s h' → Q (.error e) s h') :
    wp (.log (T.AllowsBy P)) (T.conversation.buildRequest T.session T.state w completed) Q s h := by
  have hlog (e : TurnTrace) (he : ∀ x ∈ e, IsCallback x.1) :
      T.log (h ++ e) = ⟨rounds, .requesting before⟩ :=
    (TurnLog.of_append_callbacks h he).trans hat.log_eq
  refine wp_spec (hP completed hat hw) ?_ ?_
  · intro e call he hcall
    refine ⟨?_, fun request hrequest => ?_⟩
    · rw [hlog e he]
      exact .inl hcall
    · rw [hrequest] at hcall
      cases hcall
  · intro o s' e he ho
    cases o with
    | error error =>
      obtain rfl : s' = s := ho
      exact herror _ _ ⟨hlog e he, hat.state_eq.trans (remaining_append h he).symm⟩
    | ok compiled =>
      obtain ⟨hs, hrequest⟩ := ho
      refine hok _ _ _ ⟨hlog e he, ?_, hrequest he⟩
      rw [hs, hat.state_eq, consume_remaining]

/-- The model answers the request. -/
lemma wp_generate {α : Type} {rounds : List Round} {before : List Message} {s : ReminderState}
    {h : TurnTrace} {compiled : CompiledPrompt} {f : ModelResponse → TurnM α}
    {Q : Except Failure α → ReminderState → TurnTrace → Prop}
    (hbuilt : T.Built P ⟨rounds, .requesting before⟩ compiled s h)
    (hok : ∀ response h',
      T.At (TurnLog.generated T.poll T.maxRounds ⟨rounds, .requesting before⟩ response) s h' →
        wp (.log (T.AllowsBy P)) (f response) Q s h')
    (herror : ∀ e h', T.At (TurnLog.fail ⟨rounds, .requesting before⟩) s h' → Q (.error e) s h') :
    wp (.log (T.AllowsBy P)) (do
      let answer ← receive (← Routine.call (.generate T.conversation.model compiled.request))
      let response ← answer.use
      f response) Q s h := by
  refine ⟨⟨?_, ?_⟩, fun reply _ => ?_⟩
  · rw [hbuilt.log_eq]
    exact .inr ⟨_, rfl⟩
  · intro request hrequest
    cases hrequest
    exact hbuilt.isRequest
  have hat : T.At
      (TurnLog.next T.poll T.maxRounds ⟨rounds, .requesting before⟩ ⟨.generate _ _, reply⟩) s
      (h ++ [⟨.generate T.conversation.model compiled.request, reply⟩]) := by
    refine ⟨?_, ?_⟩
    · rw [TurnInput.log, TurnLog.of_snoc, ← hbuilt.log_eq]
      rfl
    · rw [hbuilt.state_eq, remaining, if_pos]
      rw [List.any_append]
      exact Bool.or_true _
  refine wp_use (fun response hresponse => hok response _ ?_) fun e hresponse => herror e _ ?_
  · rwa [TurnLog.next_generate _ hresponse] at hat
  · rw [TurnLog.next, hresponse] at hat
    exact hat

/-! ### The tools -/

/-- A tool answers the call that is due. -/
lemma wp_invokeTool {α : Type} {rounds : List Round} {before incoming : List Message}
    {response : ModelResponse} {results : List ToolResult} {call : ToolCallBlock}
    {calls : List ToolCallBlock} {s : ReminderState} {h : TurnTrace} {f : ToolResult → TurnM α}
    {Q : Except Failure α → ReminderState → TurnTrace → Prop}
    (hat : T.At ⟨rounds, .invoking before response incoming results call calls⟩ s h)
    (hok : ∀ result h', T.At (TurnLog.invoked T.poll
      ⟨rounds, .invoking before response incoming results call calls⟩ result) s h' →
        wp (.log (T.AllowsBy P)) (f result) Q s h')
    (herror : ∀ e h', T.At ⟨rounds, .failed⟩ s h' → Q (.error e) s h') :
    wp (.log (T.AllowsBy P)) (do
      let answer ← receive (← Routine.call
        (.invokeTool (T.conversation.tools.get call.name) call))
      let result ← answer.use
      f result) Q s h := by
  refine ⟨hat.allows rfl (fun _ h => by cases h), fun reply _ => ?_⟩
  have hat' := hat.snoc (x := ⟨.invokeTool _ _, reply⟩) rfl
  refine wp_use (fun result hresult => hok result _ ?_) fun e hresult => herror e _ ?_
  · rwa [TurnLog.next_invokeTool _ hresult] at hat'
  · rw [TurnLog.next, hresult] at hat'
    exact hat'

/-- One tool after the other, from the call that is due. -/
lemma wp_invokeTools {rounds : List Round} {before incoming : List Message}
    {response : ModelResponse} {s : ReminderState} {base : List Message}
    {results₀ : List ToolResult} {Q : Except Failure Working → ReminderState → TurnTrace → Prop}
    (hok : ∀ results w h',
      T.At (TurnLog.begin T.poll (rounds ++ [⟨before, response, incoming, results⟩])) s h' →
      w.messages = base ++ List.zipWith toolMessage response.toolCalls results →
      w.toolResults = results₀ ++ results → Q (.ok w) s h')
    (herror : ∀ e h', T.At ⟨rounds, .failed⟩ s h' → Q (.error e) s h')
    (call : ToolCallBlock) (calls : List ToolCallBlock) {done : List ToolCallBlock}
    {results : List ToolResult} {w : Working} {h : TurnTrace}
    (hcalls : response.toolCalls = done ++ call :: calls) (hlen : done.length = results.length)
    (hat : T.At ⟨rounds, .invoking before response incoming results call calls⟩ s h)
    (hmessages : w.messages = base ++ List.zipWith toolMessage done results)
    (hresults : w.toolResults = results₀ ++ results) :
    wp (.log (T.AllowsBy P)) (T.conversation.invokeTools (call :: calls) w) Q s h := by
  induction calls generalizing call done results w h with
  | nil =>
    refine wp_invokeTool hat (fun result h' hat' => ?_) herror
    refine hok (results ++ [result]) _ _ hat' ?_ ?_
    · change w.messages ++ [toolMessage call result] = _
      rw [hmessages, hcalls, List.zipWith_append hlen, List.append_assoc]
      rfl
    · change w.toolResults ++ [result] = _
      rw [hresults, List.append_assoc]
  | cons call' calls ih =>
    refine wp_invokeTool hat (fun result h' hat' => ?_) herror
    have hcalls' : response.toolCalls = done ++ [call] ++ call' :: calls := by
      rw [hcalls, List.append_assoc]
      rfl
    refine ih call' hcalls' ?_ hat' ?_ ?_
    · rw [List.length_append, List.length_append, hlen]
      rfl
    · change w.messages ++ [toolMessage call result] = _
      rw [hmessages, List.zipWith_append hlen, List.append_assoc]
      rfl
    · change w.toolResults ++ [result] = _
      rw [hresults, List.append_assoc]

/-- The tools of a round that goes on, if there are any. -/
lemma wp_tools {rounds : List Round} {before incoming : List Message} {response : ModelResponse}
    {s : ReminderState} {h : TurnTrace} {w : Working}
    {Q : Except Failure Working → ReminderState → TurnTrace → Prop}
    (hat : T.At (TurnLog.intake T.poll T.maxRounds rounds before response incoming) s h)
    (hgo : ¬ (response.toolCalls = [] ∧ incoming = []))
    (hmore : ¬ rounds.length + 1 = T.maxRounds)
    (hok : ∀ results w' h',
      T.At (TurnLog.begin T.poll (rounds ++ [⟨before, response, incoming, results⟩])) s h' →
      w'.messages = w.messages ++ List.zipWith toolMessage response.toolCalls results →
      w'.toolResults = w.toolResults ++ results → Q (.ok w') s h')
    (herror : ∀ e h', T.At ⟨rounds, .failed⟩ s h' → Q (.error e) s h') :
    wp (.log (T.AllowsBy P)) (T.conversation.invokeTools response.toolCalls w) Q s h := by
  rw [TurnLog.intake, if_neg hgo, if_neg hmore] at hat
  cases hcalls : response.toolCalls with
  | nil =>
    simp only [hcalls] at hat
    refine hok [] w h hat ?_ (List.append_nil _).symm
    rw [hcalls]
    exact (List.append_nil _).symm
  | cons call calls =>
    simp only [hcalls] at hat
    have hcalls' : response.toolCalls = [] ++ call :: calls := hcalls
    exact wp_invokeTools hok herror call calls hcalls' rfl hat (List.append_nil _).symm
      (List.append_nil _).symm

/-! ### The rounds -/

/-- What holds when a round begins. -/
structure Begins (T : TurnInput) (rounds : List Round) (w : Working) (s : ReminderState)
    (h : TurnTrace) : Prop where
  here : T.At (TurnLog.begin T.poll rounds) s h
  messages_eq : w.messages = T.state.messages ++ T.user :: rounds.flatMap Round.messages
  results_eq : w.toolResults = rounds.flatMap Round.results

/-- The poll before a request. -/
lemma wp_firstPoll {rounds : List Round} {s : ReminderState} {h : TurnTrace}
    {Q : Except Failure (List Message) → ReminderState → TurnTrace → Prop}
    (hat : T.At (TurnLog.begin T.poll rounds) s h)
    (hok : ∀ before h', T.At ⟨rounds, .requesting before⟩ s h' → Q (.ok before) s h')
    (herror : ∀ e h', T.At ⟨rounds, .failed⟩ s h' → Q (.error e) s h') :
    wp (.log (T.AllowsBy P)) (pollInput T.poll) Q s h := by
  refine wp_pollInput hat (fun hpoll => ?_) (fun hpoll => ?_) (fun hpoll messages h' hat' => ?_)
    herror
  · rw [TurnLog.begin, hpoll]
    rfl
  · rw [TurnLog.begin, hpoll] at hat
    exact hok [] h hat
  · rw [TurnLog.begin, hpoll] at hat'
    exact hok messages h' hat'

/-- The poll after a response. -/
lemma wp_secondPoll {rounds : List Round} {before : List Message} {response : ModelResponse}
    {s : ReminderState} {h : TurnTrace}
    {Q : Except Failure (List Message) → ReminderState → TurnTrace → Prop}
    (hat : T.At (TurnLog.generated T.poll T.maxRounds ⟨rounds, .requesting before⟩ response) s h)
    (hok : ∀ incoming h',
      T.At (TurnLog.intake T.poll T.maxRounds rounds before response incoming) s h' →
        Q (.ok incoming) s h')
    (herror : ∀ e h', T.At ⟨rounds, .failed⟩ s h' → Q (.error e) s h') :
    wp (.log (T.AllowsBy P)) (pollInput T.poll) Q s h := by
  cases hpoll : T.poll with
  | false =>
    change T.At (if T.poll then _ else _) s h at hat
    rw [if_neg (Bool.eq_false_iff.1 hpoll)] at hat
    exact hok [] h hat
  | true =>
    change T.At (if T.poll then _ else _) s h at hat
    rw [if_pos hpoll] at hat
    rw [← hpoll]
    refine wp_pollInput hat (fun _ => rfl) (fun hnone => ?_)
      (fun _ messages h' hat' => hok messages h' hat') herror
    rw [hpoll] at hnone
    cases hnone

/-- A round that stops commits the working transcript. -/
lemma wp_commit {rounds : List Round} {before transcript : List Message}
    {response : ModelResponse} {results : List ToolResult} {completed : ℕ} {s : ReminderState}
    {h : TurnTrace} (hat : T.At ⟨rounds, .stopped before response⟩ s h)
    (hmessages : transcript = T.state.messages ++ T.user ::
      (rounds.flatMap Round.messages ++ (before ++ [response.message])))
    (hresults : results = rounds.flatMap Round.results) (hcompleted : completed = rounds.length) :
    wp (.log (T.AllowsBy P)) (do
      let committed ← Routine.ofExcept (ConversationState.make transcript response.continuation
        (T.state.turnIndex + 1) (T.state.turnBoundaries ++ [transcript.length]))
      return ⟨response, committed, completed + 1, results⟩)
      (fun o s' h' => T.Ends h' o ∧ s' = T.remaining h') s h := by
  obtain ⟨committed, hcommitted⟩ := T.state.make_commit
    (List.cons_ne_nil T.user (rounds.flatMap Round.messages ++ (before ++ [response.message])))
    response.continuation
  rw [← hmessages] at hcommitted
  obtain ⟨hcommits, hcontinuation, hindex, hboundaries⟩ :=
    ConversationState.make_fields hcommitted
  have hlog : T.messages h = committed.messages := by
    rw [hcommits, hmessages, messages, hat.log_eq]
    rfl
  refine (wp_bind _ _ _ _ _).2 ?_
  rw [wp_ofExcept, hcommitted]
  refine ⟨.returned before response _ (by rw [hat.log_eq]) ⟨rfl, hlog.symm, hcontinuation,
    hindex, ?_, ?_, ?_⟩, hat.state_eq⟩
  · rw [hboundaries, hcommits]
  · rw [hat.log_eq, ← hcompleted]
  · rw [hat.log_eq, ← hresults]

/-- **The rounds of the loop.** `remaining` rounds are left, and those that are over are in the log.

**Proof sketch.** Induction on the rounds that are left. Each part of a round takes the loop from
one phase of the log to the next, and the working transcript grows with the log. -/
theorem wp_runRounds (hP : T.Builds P) (hpos : 0 < T.maxRounds) (remaining : ℕ) {completed : ℕ}
    {rounds : List Round} {w : Working} {s : ReminderState} {h : TurnTrace}
    (hbegins : Begins T rounds w s h) (hcompleted : completed = rounds.length)
    (htotal : completed + remaining = T.maxRounds) :
    wp (.log (T.AllowsBy P))
      (T.conversation.runRounds T.session T.state T.maxRounds T.poll remaining completed w)
      (fun o s' h' => T.Ends h' o ∧ s' = T.remaining h') s h := by
  induction remaining generalizing completed rounds w s h with
  | zero =>
    have hlt : (T.log h).rounds.length < T.maxRounds := (TurnLog.coherent_of hpos h).length_lt
    rw [hbegins.here.log_eq] at hlt
    exact absurd htotal (hcompleted ▸ hlt.ne)
  | succ remaining ih =>
    have hfailed {α : Type} {s' : ReminderState} (K : α → ReminderState → TurnTrace → Prop)
        (e : Failure) (h' : TurnTrace) (hat : T.At ⟨rounds, .failed⟩ s' h') :
        onOk K (fun o s' h' => T.Ends h' o ∧ s' = T.remaining h') (.error e) s' h' :=
      ⟨.failed e (by rw [hat.log_eq]), hat.state_eq⟩
    refine (wp_bind _ _ _ _ _).2 (wp_firstPoll hbegins.here (fun before h₁ hat₁ => ?_) (hfailed _))
    have hmessages₁ : ({ w with messages := w.messages ++ before } : Working).messages =
        T.messages h₁ := by
      change w.messages ++ before = _
      rw [hbegins.messages_eq, messages, hat₁.log_eq, List.append_assoc]
      rfl
    rw [onOk_ok]
    refine (wp_bind _ _ _ _ _).2 (wp_buildRequest hP hat₁ hmessages₁ completed
      (fun compiled s₂ h₂ hbuilt => ?_) fun e h₂ hat₂ => ?_)
    swap
    · exact ⟨.notBuilt before e (by rw [hat₂.log_eq]), hat₂.state_eq⟩
    rw [onOk_ok]
    refine wp_generate hbuilt (fun response h₃ hat₃ => ?_) fun e h₃ hat₃ => ?_
    swap
    · exact ⟨.failed e (by rw [hat₃.log_eq]; rfl), hat₃.state_eq⟩
    refine (wp_bind _ _ _ _ _).2 (wp_secondPoll hat₃ (fun incoming h₄ hat₄ => ?_) (hfailed _))
    have hmessages₄ : w.messages ++ before ++ [response.message] = T.state.messages ++ T.user ::
        (rounds.flatMap Round.messages ++ (before ++ [response.message])) := by
      rw [hbegins.messages_eq]
      simp only [List.append_assoc, List.cons_append]
    have hstops : (response.toolCalls.isEmpty && incoming.isEmpty) = true ↔
        response.toolCalls = [] ∧ incoming = [] := by
      rw [Bool.and_eq_true, List.isEmpty_iff, List.isEmpty_iff]
    rw [onOk_ok]
    change wp _ (if (response.toolCalls.isEmpty && incoming.isEmpty) = true then _
      else if completed + 1 = T.maxRounds then _ else _) _ _ _
    by_cases hstop : response.toolCalls = [] ∧ incoming = []
    · rw [if_pos (hstops.2 hstop)]
      rw [TurnLog.intake, if_pos hstop] at hat₄
      exact wp_commit hat₄ hmessages₄ hbegins.results_eq hcompleted
    rw [if_neg fun h => hstop (hstops.1 h)]
    by_cases hlimit : completed + 1 = T.maxRounds
    · rw [if_pos hlimit]
      rw [TurnLog.intake, if_neg hstop, if_pos (hcompleted ▸ hlimit)] at hat₄
      exact ⟨.limited before incoming response (by rw [hat₄.log_eq]), hat₄.state_eq⟩
    rw [if_neg hlimit]
    refine (wp_bind _ _ _ _ _).2 (wp_tools hat₄ hstop (hcompleted ▸ hlimit)
      (fun results w' h₅ hat₅ hmessages hresults => ?_) (hfailed _))
    refine ih ⟨hat₅, ?_, ?_⟩ ?_ ?_
    · change w'.messages ++ incoming = _
      rw [hmessages, TurnLog.flatMap_snoc]
      change w.messages ++ before ++ [response.message] ++ _ ++ incoming = _
      rw [hmessages₄, Round.messages]
      simp only [List.append_assoc, List.cons_append, List.nil_append]
    · rw [TurnLog.flatMap_snoc, ← hbegins.results_eq]
      exact hresults
    · rw [hcompleted, List.length_append]
      rfl
    · omega

/-- A turn makes only calls that are due in its log, `P` holds of its requests, and it ends as it
should. -/
theorem wp_run_by (hP : T.Builds P) (huser : T.user.role = .user) (hpos : 0 < T.maxRounds) :
    Prog.wp (.log (T.AllowsBy P)) (fun o h => T.Ends h o.1 ∧ o.2 = T.remaining h) T.run [] := by
  unfold run Conversation.runModelTurn
  rw [if_neg (not_not.2 huser), if_neg hpos.ne']
  exact wp_runRounds hP hpos T.maxRounds ⟨⟨rfl, rfl⟩, rfl, rfl⟩ rfl (Nat.zero_add _)

/-- **A turn** makes only calls that are due in its log, accepts only requests as they should be,
and ends as it should. -/
theorem wp_run (huser : T.user.role = .user) (hpos : 0 < T.maxRounds) :
    Prog.wp (.log T.Allows) (fun o h => T.Ends h o.1 ∧ o.2 = T.remaining h) T.run [] :=
  Prog.wp_allow (fun _ _ hallows => ⟨hallows.admits, hallows.request⟩)
    (wp_run_by builds_isRequest huser hpos)

/-- A turn whose message or limit is not accepted raises at once. -/
lemma run_unchecked (h : ¬ (T.user.role = .user ∧ 0 < T.maxRounds)) :
    ∃ e, T.run = .ret (.error e, T.acquired) := by
  unfold run Conversation.runModelTurn
  by_cases huser : T.user.role = .user
  · have hpos : T.maxRounds = 0 := by
      rcases Nat.eq_zero_or_pos T.maxRounds with h0 | hpos
      · exact h0
      · exact absurd ⟨huser, hpos⟩ h
    rw [if_neg (not_not.2 huser), if_pos hpos]
    exact ⟨_, rfl⟩
  · rw [if_pos huser]
    exact ⟨_, rfl⟩

/-- Whenever a turn waits for a call, its message and its limit were accepted, and the call is
allowed. -/
theorem run_call {tr : TurnTrace} {call : TurnCall} {k : TurnReply call → Prog TurnCall TurnReply
      (Except Failure ModelTurnResult × ReminderState)} (h : Exec T.run tr (.call call k)) :
    (T.user.role = .user ∧ 0 < T.maxRounds) ∧ T.Allows tr call := by
  have hchecked : T.user.role = .user ∧ 0 < T.maxRounds := by
    by_contra hnot
    obtain ⟨e, he⟩ := run_unchecked hnot
    rw [he] at h
    cases h.ret_inv.2
  have hallowed := Prog.history_call h (wp_run hchecked.1 hchecked.2) fun _ _ => trivial
  rw [kept_true] at hallowed
  exact ⟨hchecked, hallowed⟩

/-- When a turn has ended, it has ended as it should. -/
theorem run_ends (huser : T.user.role = .user) (hpos : 0 < T.maxRounds) {tr : TurnTrace}
    {o : Except Failure ModelTurnResult × ReminderState} (h : Exec T.run tr (.ret o)) :
    T.Ends tr o.1 ∧ o.2 = T.remaining tr := by
  have hends := Prog.history_ret h (wp_run huser hpos) fun _ _ => trivial
  rwa [kept_true] at hends

/-- When a turn has ended, it has ended as it should, or its message or limit was not accepted. -/
theorem run_ret {tr : TurnTrace} {o : Except Failure ModelTurnResult × ReminderState}
    (h : Exec T.run tr (.ret o)) :
    o.2 = T.remaining tr ∧ ((T.user.role = .user ∧ 0 < T.maxRounds) ∧ T.Ends tr o.1 ∨
      ∃ e, o.1 = .error e) := by
  by_cases hchecked : T.user.role = .user ∧ 0 < T.maxRounds
  · have hends := run_ends hchecked.1 hchecked.2 h
    exact ⟨hends.2, .inl ⟨hchecked, hends.1⟩⟩
  · obtain ⟨e, he⟩ := run_unchecked hchecked
    rw [he] at h
    obtain ⟨rfl, ho⟩ := h.ret_inv
    cases ho
    exact ⟨rfl, .inr ⟨e, rfl⟩⟩

end TurnInput

end PurrceptCore
