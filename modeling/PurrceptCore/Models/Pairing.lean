import PurrceptCore.Models.Acceptance

set_option relaxedAutoImplicit false
set_option autoImplicit false

/-!
# Calls and their results

A transcript is paired if each assistant message with tool calls is followed at once by one tool
message for each call, in the order of the calls, and tool messages stand nowhere else. Histories
that consist of turns of the model loop are paired, and so are the requests of the next turn, whose
trimming drops whole turns.

## Main definitions

* `PurrceptCore.Paired` — calls and results match.
* `PurrceptCore.CompleteTurn`, `PurrceptCore.ConversationState.OfTurns` — the messages of a turn,
  and histories made of such turns.
* `PurrceptCore.ProperRequest` — a transcript to be sent to a model.

## Main results

* `PurrceptCore.histories_paired` — in every run from an empty history, with a built-in context
  policy and any budget, every committed history is paired and every request is proper.
-/

namespace PurrceptCore

open Interaction

/-- A tool message whose only content is the result of a call. -/
def Message.Answers (message : Message) (call : ToolCallBlock) : Prop :=
  message.role = .tool ∧
    ∃ content isError, message.content = [.toolResult call.id content isError]

/-- **Calls and results match.** While calls wait for their results, the next message is a tool
message that answers the first of them. Otherwise it is no tool message, and if it is an assistant
message, its calls wait next. In the end no call waits. -/
def Paired : List ToolCallBlock → List Message → Prop
  | [], [] => True
  | _ :: _, [] => False
  | call :: calls, message :: messages => message.Answers call ∧ Paired calls messages
  | [], message :: messages =>
    message.role ≠ .tool ∧
      Paired (if message.role = .assistant then message.toolCalls else []) messages

/-- A transcript that ends with a message for the model to answer. -/
def EndsOpen (messages : List Message) : Prop :=
  ∃ init last, messages = init ++ [last] ∧ last.role ≠ .assistant

/-- **A transcript to be sent to a model**: it is paired, begins with a user message, and does not
end with an assistant message. -/
structure ProperRequest (messages : List Message) : Prop where
  paired : Paired [] messages
  starts : ∃ first rest, messages = first :: rest ∧ first.role = .user
  ends : EndsOpen messages

/-- The messages of a turn. -/
structure CompleteTurn (messages : List Message) : Prop where
  paired : Paired [] messages
  starts : ∃ first rest, messages = first :: rest ∧ first.role = .user

/-- The complete turns of the history are turns of the model loop, and there is nothing else. -/
def ConversationState.OfTurns (state : ConversationState) : Prop :=
  ∃ turns, Segments.Splits state.messages state.turnBoundaries turns [] ∧
    ∀ turn ∈ turns, CompleteTurn turn

/-! ### Paired transcripts -/

/-- Paired transcripts in a row. -/
lemma Paired.append {calls : List ToolCallBlock} {xs ys : List Message} (h : Paired calls xs)
    (h' : Paired [] ys) : Paired calls (xs ++ ys) := by
  induction xs generalizing calls with
  | nil =>
    cases calls with
    | nil => exact h'
    | cons call calls => exact h.elim
  | cons x xs ih =>
    cases calls with
    | nil => exact ⟨h.1, ih h.2⟩
    | cons call calls => exact ⟨h.1, ih h.2⟩

/-- User messages need no results. -/
lemma paired_of_user {messages : List Message} (h : ∀ m ∈ messages, m.role = .user) :
    Paired [] messages := by
  induction messages with
  | nil => trivial
  | cons m ms ih =>
    rw [List.forall_mem_cons] at h
    refine ⟨by rw [h.1]; nofun, ?_⟩
    rw [if_neg (by rw [h.1]; nofun)]
    exact ih h.2

/-- The results of the calls, in their order. -/
lemma paired_results {calls : List ToolCallBlock} {results : List ToolResult}
    (h : results.length = calls.length) :
    Paired calls (List.zipWith toolMessage calls results) := by
  induction calls generalizing results with
  | nil => trivial
  | cons call calls ih =>
    cases results with
    | nil => cases h
    | cons result results => exact ⟨⟨rfl, _, _, rfl⟩, ih (Nat.succ.inj h)⟩

/-- A response, and what follows its calls. -/
lemma paired_response {response : ModelResponse} {messages : List Message}
    (h : Paired response.toolCalls messages) : Paired [] (response.message :: messages) := by
  refine ⟨by rw [response.role_eq]; nofun, ?_⟩
  rwa [if_pos response.role_eq]

lemma paired_flatten {turns : List (List Message)} (h : ∀ turn ∈ turns, Paired [] turn) :
    Paired [] turns.flatten := by
  induction turns with
  | nil => trivial
  | cons turn turns ih =>
    rw [List.forall_mem_cons] at h
    exact h.1.append (ih h.2)

/-! ### The rounds of a turn -/

lemma EndsOpen.append_left {ys : List Message} (h : EndsOpen ys) (xs : List Message) :
    EndsOpen (xs ++ ys) := by
  obtain ⟨init, last, rfl, hlast⟩ := h
  exact ⟨xs ++ init, last, (List.append_assoc _ _ _).symm, hlast⟩

/-- User messages leave a transcript open. -/
lemma endsOpen_user {messages : List Message} (h : ∀ m ∈ messages, m.role = .user)
    (hne : messages ≠ []) : EndsOpen messages := by
  refine ⟨messages.dropLast, messages.getLast hne, (List.dropLast_concat_getLast hne).symm, ?_⟩
  rw [h _ (List.getLast_mem hne)]
  nofun

/-- More user messages leave a transcript open. -/
lemma EndsOpen.append_user {xs ys : List Message} (h : EndsOpen xs)
    (hys : ∀ m ∈ ys, m.role = .user) : EndsOpen (xs ++ ys) := by
  by_cases hne : ys = []
  · rwa [hne, List.append_nil]
  · exact (endsOpen_user hys hne).append_left xs

/-- The results of calls leave a transcript open. -/
lemma endsOpen_results {calls : List ToolCallBlock} {results : List ToolResult}
    (h : results.length = calls.length) (hne : calls ≠ []) :
    EndsOpen (List.zipWith toolMessage calls results) := by
  induction calls generalizing results with
  | nil => exact absurd rfl hne
  | cons call calls ih =>
    cases results with
    | nil => cases h
    | cons result results =>
      cases calls with
      | nil => exact ⟨[], toolMessage call result, by rw [List.zipWith_cons_cons]; rfl, nofun⟩
      | cons call' calls =>
        exact (ih (Nat.succ.inj h) (List.cons_ne_nil _ _)).append_left [toolMessage call result]

namespace Round.Complete

variable {round : Round}

lemma paired (h : round.Complete) : Paired [] round.messages :=
  (paired_of_user h.before_user).append
    (paired_response ((paired_results h.results_length).append (paired_of_user h.incoming_user)))

/-- A round that is over leaves something to answer: new input, or else the result of a call. -/
lemma endsOpen (h : round.Complete) : EndsOpen round.messages := by
  have hopen : EndsOpen
      (List.zipWith toolMessage round.response.toolCalls round.results ++ round.incoming) := by
    by_cases hcalls : round.response.toolCalls = []
    · have hincoming : round.incoming ≠ [] := fun hnil => h.goes_on ⟨hcalls, hnil⟩
      exact (endsOpen_user h.incoming_user hincoming).append_left _
    · exact (endsOpen_results h.results_length hcalls).append_user h.incoming_user
  have hmessages := hopen.append_left (round.before ++ [round.response.message])
  rwa [List.append_assoc] at hmessages

end Round.Complete

/-- The messages of the rounds that are over. -/
lemma paired_rounds {rounds : List Round} (h : ∀ round ∈ rounds, round.Complete) :
    Paired [] (rounds.flatMap Round.messages) := by
  rw [List.flatMap_def]
  refine paired_flatten fun turn hturn => ?_
  obtain ⟨round, hround, rfl⟩ := List.mem_map.1 hturn
  exact (h round hround).paired

/-- A user message and the rounds that are over leave something to answer. -/
lemma endsOpen_rounds {user : Message} (huser : user.role = .user) {rounds : List Round}
    (h : ∀ round ∈ rounds, round.Complete) :
    EndsOpen (user :: rounds.flatMap Round.messages) := by
  rcases List.eq_nil_or_concat rounds with rfl | ⟨init, last, rfl⟩
  · exact ⟨[], user, rfl, by rw [huser]; nofun⟩
  · rw [List.concat_eq_append, TurnLog.flatMap_snoc]
    exact (h last (by simp)).endsOpen.append_left (user :: init.flatMap Round.messages)

/-- A user message, and what follows it. -/
lemma paired_user {user : Message} (huser : user.role = .user) {messages : List Message}
    (h : Paired [] messages) : Paired [] (user :: messages) := by
  refine ⟨by rw [huser]; nofun, ?_⟩
  rwa [if_neg (by rw [huser]; nofun)]

/-! ### Requests and commits -/

namespace ConversationState.OfTurns

lemma empty : ConversationState.empty.OfTurns :=
  ⟨[], ⟨rfl, rfl, fun _ h => nomatch h⟩, fun _ h => nomatch h⟩

/-- A history of turns is paired. -/
lemma paired {state : ConversationState} (h : state.OfTurns) : Paired [] state.messages := by
  obtain ⟨turns, hsplits, hturns⟩ := h
  rw [hsplits.items, List.append_nil]
  exact paired_flatten fun turn hturn => (hturns turn hturn).paired

/-- **One more turn.** -/
lemma commit {state state' : ConversationState} {turn : List Message} (h : state.OfTurns)
    (hturn : CompleteTurn turn) (hmessages : state'.messages = state.messages ++ turn)
    (hboundaries : state'.turnBoundaries = state.turnBoundaries ++ [state'.messages.length]) :
    state'.OfTurns := by
  obtain ⟨turns, hsplits, hturns⟩ := h
  have hne : turn ≠ [] := by
    obtain ⟨first, rest, rfl, -⟩ := hturn.starts
    exact List.cons_ne_nil _ _
  refine ⟨turns ++ [turn], ?_, fun t ht => ?_⟩
  · rw [hboundaries, hmessages]
    exact (hsplits.extend turn).close hne
  · rcases List.mem_append.1 ht with ht | ht
    · exact hturns t ht
    · rwa [List.mem_singleton.1 ht]

end ConversationState.OfTurns

section Turn

variable {c : Conversation} {facade : Facade} {a : Ask}

/-- **Requests.** Over a history of turns, a built-in policy and the budget drop whole turns. -/
theorem Conversation.Accepts.proper (hbuiltin : c.contextPolicy.isBuiltin = true)
    (hstate : facade.state.OfTurns) {x : Acceptance} (h : c.Accepts facade a x) :
    ProperRequest x.request.messages := by
  obtain ⟨before, hphase⟩ := h.requesting
  obtain ⟨context, continuation, hretains, hrequest⟩ := h.isRequest.history hbuiltin
  obtain ⟨turns, hsplits, hturns⟩ := hstate
  have hlog : ((c.turnInput facade a).log x.calls).Coherent a.inputPoll a.maxModelRounds :=
    TurnLog.coherent_of h.rounds_pos x.calls
  have hcurrent := hlog.current
  rw [hphase] at hcurrent
  have hmessages : (c.turnInput facade a).messages x.calls = facade.state.messages ++
      (a.userMessage :: ((c.turnInput facade a).log x.calls).rounds.flatMap Round.messages ++
        before) := by
    rw [TurnInput.messages, TurnLog.transcript, hphase]
    rfl
  have hpaired : Paired [] (a.userMessage ::
      ((c.turnInput facade a).log x.calls).rounds.flatMap Round.messages ++ before) :=
    (paired_user h.user_role (paired_rounds hlog.complete)).append (paired_of_user hcurrent.2)
  have hends := (endsOpen_rounds h.user_role hlog.complete).append_user hcurrent.2
  obtain ⟨k, -, hk⟩ := hretains.turns turns _ (hmessages ▸ hsplits.extend _)
  have hkept (turn : List Message) (hturn : turn ∈ turns.drop k) : CompleteTurn turn :=
    hturns turn (List.mem_of_mem_drop hturn)
  rw [hrequest, hk.items]
  refine ⟨(paired_flatten fun turn ht => (hkept turn ht).paired).append hpaired, ?_,
    hends.append_left _⟩
  cases hdrop : turns.drop k with
  | nil => exact ⟨_, _, rfl, h.user_role⟩
  | cons turn turns' =>
    obtain ⟨first, rest, hfirst, hrole⟩ := (hkept turn (by rw [hdrop]; simp)).starts
    rw [hfirst]
    exact ⟨first, _, rfl, hrole⟩

/-- **Commits.** A turn adds one more turn to a history of turns. -/
theorem Turning.ofTurns {tr : FlowTrace} {result : ModelTurnResult} {remaining : ReminderState}
    (hstate : facade.state.OfTurns)
    (h : Turning c facade a tr (.ret (.ok result, remaining))) : result.state.OfTurns := by
  obtain ⟨huser, hpos, before, response, hphase, hresult⟩ := h.isResult
  have hlog : ((c.turnInput facade a).log (turnCalls tr)).Coherent a.inputPoll a.maxModelRounds :=
    TurnLog.coherent_of hpos _
  have hcurrent := hlog.current
  rw [hphase] at hcurrent
  obtain ⟨-, hbefore, hcalls⟩ := hcurrent
  have hmessages : result.state.messages = facade.state.messages ++ (a.userMessage ::
      (((c.turnInput facade a).log (turnCalls tr)).rounds.flatMap Round.messages ++
        (before ++ [response.message]))) := by
    rw [hresult.messages_eq, TurnInput.messages, TurnLog.transcript, hphase]
    rfl
  have hresponse : Paired [] [response.message] := by
    refine paired_response ?_
    rw [hcalls]
    trivial
  refine hstate.commit ⟨paired_user huser ((paired_rounds hlog.complete).append
    ((paired_of_user hbefore).append hresponse)), _, _, rfl, huser⟩ hmessages ?_
  exact hresult.turnBoundaries_eq

end Turn

/-! ### Runs -/

/-- The history that an operation puts in place of the committed one. -/
def IdleOp.restored? : IdleOp → Option ConversationState
  | restore checkpoint => checkpoint.map ConversationCheckpoint.history
  | restoreHistory state => state
  | _ => none

/-- An operation keeps the history, empties it, or restores another one. -/
lemma IdleOp.apply_ofTurns {op : IdleOp} {facade facade' : Facade}
    (h : op.apply facade = .ok facade') (hstate : facade.state.OfTurns)
    (hrestored : ∀ state, op.restored? = some state → state.OfTurns) : facade'.state.OfTurns := by
  cases op with
  | restore checkpoint =>
    cases checkpoint with
    | none => cases h
    | some checkpoint => cases h; exact hrestored _ rfl
  | restoreHistory state =>
    cases state with
    | none => cases h
    | some state => cases h; exact hrestored _ rfl
  | clearHistory => cases h; exact .empty
  | clearReminders scope =>
    simp only [IdleOp.apply, bind, Except.bind] at h
    split at h <;> cases h
    exact hstate
  | reset => cases h; exact .empty
  | remind input =>
    simp only [IdleOp.apply, bind, Except.bind] at h
    split at h <;> cases h
    exact hstate
  | removeReminder key =>
    simp only [IdleOp.apply, bind, Except.bind] at h
    split at h <;> cases h
    exact hstate

/-- An advancement keeps the history one of turns. -/
lemma Advanced.ofTurns {c : Conversation} {facade facade' : Facade} {a : Ask} {tr : FlowTrace}
    {rest : FlowProg} (h : Advanced c facade a tr rest facade') (hstate : facade.state.OfTurns) :
    facade'.state.OfTurns := by
  cases h with
  | settingUp call k h => exact hstate
  | turning call k h => exact hstate
  | setupRaised e remaining h => exact hstate
  | turnRaised e remaining h => exact hstate
  | turnReturned result remaining h => exact h.ofTurns hstate

/-- **The step lemma.** Every step keeps the committed history one of turns. -/
lemma StepCase.ofTurns {c : Conversation} {s t : System} {e : Event} (h : StepCase c s e t)
    (hstate : s.facade.state.OfTurns)
    (hrestored : ∀ op state, e = .operated op → op.restored? = some state → state.OfTurns) :
    t.facade.state.OfTurns := by
  cases h with
  | quiet he hfacade hstarted => rwa [hfacade]
  | operated op facade he hidle hop ht =>
    subst ht
    exact IdleOp.apply_ofTurns hop hstate fun state => hrestored op state he
  | rejected i a he hbusy hi ht => subst ht; exact hstate
  | acquired i a rest facade he hidle hi hadv ht => subst ht; exact hadv.ofTurns hstate
  | advanced i a tr call k reply rest facade he hi hbusy hadv ht =>
    subst ht
    exact hadv.ofTurns hstate

/-- **Calls and their results.** Start with an empty history, a built-in context policy, and any
budget, and let any flows be asked for, advanced, closed, fail and return, and any operations be
made, where a history that is restored consists of turns as well. Then every committed history is
paired, and every request handed to the model is proper.

**Proof sketch.** The committed history consists of turns (step lemma). A request shows some of
them, whole, and the current turn. Within a turn every round that is over is paired, and leaves
something to answer. -/
theorem histories_paired {c : Conversation} {s t : System} {moves : List (Move System Event)}
    (hbuiltin : c.contextPolicy.isBuiltin = true) (hs : s.Fresh)
    (hempty : s.facade.state = .empty) (hrun : c.Run s moves t)
    (hrestored : ∀ m ∈ moves, ∀ op state, m.label = .operated op → op.restored? = some state →
      state.OfTurns) :
    ∀ m ∈ moves, Paired [] m.after.facade.state.messages ∧
      ∀ x, acceptance? m = some x → ProperRequest x.request.messages := by
  intro m hm
  obtain ⟨hown, hcase⟩ := Conversation.Run.cases hs hrun hm
  obtain ⟨-, before, after, hmoves, hbefore⟩ := hrun.mem_move hm
  have hstate : Ownership c m.before ∧ m.before.facade.state.OfTurns := by
    refine hbefore.invariant (I := fun u => Ownership c u ∧ u.facade.state.OfTurns)
      ⟨.of_fresh hs, hempty ▸ .empty⟩ fun m' hm' hstep' h => ?_
    have hcase' := h.1.cases hstep'
    have hm' : m' ∈ moves := hmoves ▸ List.mem_append_left _ hm'
    exact ⟨h.1.step hcase', hcase'.ofTurns h.2 (hrestored m' hm')⟩
  refine ⟨(hcase.ofTurns hstate.2 (hrestored m hm)).paired, fun x hx => ?_⟩
  obtain ⟨-, a, tr, rest, -, -, -, -, haccepts⟩ := hcase.accepts hx
  refine haccepts.proper hbuiltin ?_
  exact hstate.2

/-- A turn of two rounds, the first of which calls a tool. -/
theorem histories_paired_plain : ∃ moves t, plainConversation.Run .new moves t ∧
    (∀ m ∈ moves, Paired [] m.after.facade.state.messages ∧
      ∀ x, acceptance? m = some x → ProperRequest x.request.messages) ∧
    moves.length = 5 ∧ t.facade.state.messages.length = 4 := by
  have hstart : plainConversation.Run .new [] .new := .refl
  have hwaiting := (hstart.snoc (.ask (.text "hello") none false _ rfl)).snoc (.advance 0 _ rfl)
  obtain ⟨call₁, hcalling⟩ :=
    Conversation.Run.respond hwaiting 0 (answering callingResponse) (by decide +kernel)
  obtain ⟨call₂, hcalled⟩ :=
    Conversation.Run.respond hcalling 0 (answering callingResponse) (by decide +kernel)
  obtain ⟨call₃, hrun⟩ :=
    Conversation.Run.respond hcalled 0 (answering plainAnswer) (by decide +kernel)
  refine ⟨_, _, hrun, histories_paired rfl ⟨rfl, rfl⟩ rfl hrun ?_, rfl, by decide +kernel⟩
  simp only [List.nil_append, List.cons_append, List.forall_mem_cons]
  refine ⟨?_, ?_, ?_, ?_, ?_, fun _ h => nomatch h⟩ <;> intro op state hop <;> cases hop

end PurrceptCore
