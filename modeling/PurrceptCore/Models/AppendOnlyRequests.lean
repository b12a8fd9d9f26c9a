import PurrceptCore.Models.Acceptance
import PurrceptCore.Models.Commit
import PurrceptCore.Models.SentRequests

set_option relaxedAutoImplicit false
set_option autoImplicit false

/-!
# Requests that only grow

A conversation that leaves nothing out sends the same prompt again and again, each time with more
messages at its end: after the messages of a request come the message of its response, and whatever
follows. This holds for the requests of one turn, and from turn to turn for as long as no turn fails
and nobody replaces the history.

## Main definitions

* `PurrceptCore.ModelRequest.ExtendedBy` — the request with a response and more messages.
* `PurrceptCore.AfterResponse` — what a system has made of the response to an accepted request.

## Main results

* `PurrceptCore.TurnLog.transcript_append` — a turn that does not fail only adds messages.
* `PurrceptCore.AfterResponse.step` — what a step makes of the response.
* `PurrceptCore.requests_extend` — a later request extends an earlier one.
-/

namespace PurrceptCore

open Fallible Interaction

/-! ### The transcript of a turn grows -/

namespace TurnLog

variable {poll : Bool} {maxRounds : ℕ}

/-- A turn that has failed stays so. -/
lemma next_failed {log : TurnLog} (h : log.phase = .failed) (x : Σ call, TurnReply call) :
    (log.next poll maxRounds x).phase = .failed := by
  obtain ⟨rounds, phase⟩ := log
  obtain rfl : phase = .failed := h
  obtain ⟨call, reply⟩ := x
  cases call with
  | inputPoll =>
    rw [next]
    cases polled? reply <;> rfl
  | generate model request =>
    rw [next]
    cases typed? reply <;> rfl
  | invokeTool tool call =>
    rw [next]
    cases typed? reply <;> rfl
  | prepare | countTokens | countRequest | sourceId | resolve | trace => rfl

/-- A turn that has failed stays so, whatever comes back. -/
lemma failed_append {tr : TurnTrace} (h : (of poll maxRounds tr).phase = .failed)
    (e : TurnTrace) : (of poll maxRounds (tr ++ e)).phase = .failed := by
  induction e using List.reverseRecOn with
  | nil => rwa [List.append_nil]
  | append_singleton e x ih =>
    rw [← List.append_assoc, of_snoc]
    exact next_failed ih x

lemma transcript_begin (rounds : List Round) :
    (begin poll rounds).transcript = rounds.flatMap Round.messages := by
  rw [begin, transcript]
  cases poll <;> exact List.append_nil _

/-- One more round is over. -/
lemma transcript_begin_snoc (rounds : List Round) (round : Round) :
    (begin poll (rounds ++ [round])).transcript =
      rounds.flatMap Round.messages ++ round.messages := by
  rw [transcript_begin, flatMap_snoc]

/-- When a response is taken in, nothing is lost. -/
lemma transcript_intake (rounds : List Round) (before : List Message) (response : ModelResponse)
    (incoming : List Message) :
    rounds.flatMap Round.messages ++ (before ++ [response.message]) <+:
      (intake poll maxRounds rounds before response incoming).transcript := by
  unfold intake
  split
  · exact List.prefix_rfl
  split
  · exact List.prefix_rfl
  split
  · rw [transcript_begin_snoc, List.prefix_append_right_inj, Round.messages,
      List.prefix_append_right_inj]
    exact List.cons_prefix_cons.2 ⟨rfl, List.nil_prefix⟩
  · rw [transcript, List.prefix_append_right_inj, Phase.messages, List.prefix_append_right_inj]
    exact List.cons_prefix_cons.2 ⟨rfl, List.nil_prefix⟩

/-- The messages of tool results grow with the results. -/
lemma toolMessages_prefix (calls : List ToolCallBlock) (results : List ToolResult)
    (result : ToolResult) :
    List.zipWith toolMessage calls results <+:
      List.zipWith toolMessage calls (results ++ [result]) := by
  induction calls generalizing results with
  | nil => exact List.nil_prefix
  | cons call calls ih =>
    cases results with
    | nil => exact List.nil_prefix
    | cons r rs => exact List.cons_prefix_cons.2 ⟨rfl, ih rs⟩

/-- **The step lemma**: what comes back adds to the transcript, or the turn has failed. -/
theorem transcript_next (poll : Bool) (maxRounds : ℕ) (log : TurnLog) (x : Σ call, TurnReply call) :
    (log.next poll maxRounds x).phase = .failed ∨
      log.transcript <+: (log.next poll maxRounds x).transcript := by
  obtain ⟨call, reply⟩ := x
  obtain ⟨rounds, phase⟩ := log
  have hnothing : transcript ⟨rounds, .polling⟩ <+: rounds.flatMap Round.messages := by
    rw [transcript]
    exact List.append_nil _ ▸ List.prefix_rfl
  cases call with
  | inputPoll =>
    change (Option.elim _ _ _ : TurnLog).phase = _ ∨ _ <+: (Option.elim _ _ _ : TurnLog).transcript
    cases polled? reply with
    | none => exact .inl rfl
    | some messages =>
      cases phase with
      | polling => exact .inr (hnothing.trans (List.prefix_append _ _))
      | responded before response => exact .inr (transcript_intake ..)
      | requesting | invoking | stopped | limited | failed => exact .inl rfl
  | generate model request =>
    change (Option.elim _ _ _ : TurnLog).phase = _ ∨ _ <+: (Option.elim _ _ _ : TurnLog).transcript
    cases typed? reply with
    | none => exact .inl rfl
    | some response =>
      cases phase with
      | requesting before =>
        refine .inr (List.IsPrefix.trans ?_ (?_ :
          rounds.flatMap Round.messages ++ (before ++ [response.message]) <+: _))
        · exact (List.prefix_append_right_inj _).2 (List.prefix_append _ _)
        · cases poll with
          | true => exact List.prefix_rfl
          | false => exact transcript_intake ..
      | polling | responded | invoking | stopped | limited | failed => exact .inl rfl
  | invokeTool tool call =>
    change (Option.elim _ _ _ : TurnLog).phase = _ ∨ _ <+: (Option.elim _ _ _ : TurnLog).transcript
    cases typed? reply with
    | none => exact .inl rfl
    | some result =>
      cases phase with
      | invoking before response incoming results call calls =>
        have hmore := toolMessages_prefix response.toolCalls results result
        have hround : before ++ response.message ::
            List.zipWith toolMessage response.toolCalls results <+: before ++ response.message ::
              List.zipWith toolMessage response.toolCalls (results ++ [result]) :=
          (List.prefix_append_right_inj _).2 (List.cons_prefix_cons.2 ⟨rfl, hmore⟩)
        cases calls with
        | nil =>
          refine .inr (List.IsPrefix.trans ((List.prefix_append_right_inj _).2 hround) ?_)
          change _ <+: (begin poll (rounds ++ [⟨before, response, incoming, _⟩])).transcript
          rw [transcript_begin_snoc, List.prefix_append_right_inj, Round.messages,
            List.prefix_append_right_inj]
          exact List.cons_prefix_cons.2 ⟨rfl, List.prefix_append _ _⟩
        | cons call' calls => exact .inr ((List.prefix_append_right_inj _).2 hround)
      | polling | requesting | responded | stopped | limited | failed => exact .inl rfl
  | prepare | countTokens | countRequest | sourceId | resolve | trace => exact .inr List.prefix_rfl

/-- The response to a request comes after the messages so far. -/
lemma transcript_generate {log : TurnLog} {before : List Message}
    (hphase : log.phase = .requesting before) {model : Model} {request : ModelRequest}
    {reply : TurnReply (.generate model request)} {response : ModelResponse}
    (hreply : typed? reply = some response) :
    log.transcript ++ [response.message] <+:
      (log.next poll maxRounds ⟨.generate model request, reply⟩).transcript := by
  obtain ⟨rounds, phase⟩ := log
  obtain rfl : phase = .requesting before := hphase
  rw [next_generate _ hreply, transcript, List.append_assoc]
  cases poll with
  | true => exact List.prefix_rfl
  | false => exact transcript_intake ..

/-- **The run lemma**: a turn that does not fail only adds messages. -/
theorem transcript_append (poll : Bool) (maxRounds : ℕ) (tr e : TurnTrace) :
    (of poll maxRounds (tr ++ e)).phase = .failed ∨
      (of poll maxRounds tr).transcript <+: (of poll maxRounds (tr ++ e)).transcript := by
  induction e using List.reverseRecOn with
  | nil =>
    rw [List.append_nil]
    exact .inr List.prefix_rfl
  | append_singleton e x ih =>
    rw [← List.append_assoc, of_snoc]
    rcases ih with hfailed | hgrows
    · exact .inl (next_failed hfailed x)
    · rcases transcript_next poll maxRounds (of poll maxRounds (tr ++ e)) x with hfailed | hnext
      · exact .inl hfailed
      · exact .inr (hgrows.trans hnext)

end TurnLog

/-! ### The requests of a run -/

/-- **A request that extends another one.** The configuration is the same; the messages of the first
are followed by that of its response, and by more. -/
structure ModelRequest.ExtendedBy (request : ModelRequest) (response : ModelResponse)
    (request' : ModelRequest) : Prop where
  instructions : request'.instructions = request.instructions
  tools : request'.tools = request.tools
  settings : request'.settings = request.settings
  cache : request'.cache = request.cache
  metadata : request'.metadata = request.metadata
  providerOptions : request'.providerOptions = request.providerOptions
  messages : ∃ more, request'.messages = request.messages ++ response.message :: more

/-- The operation leaves the history. -/
def IdleOp.KeepsHistory : IdleOp → Prop
  | clearReminders _ | remind _ | removeReminder _ => True
  | restore _ | restoreHistory _ | clearHistory | reset => False

/-- In one of the moves the model has answered the accepted request. -/
def Acceptance.AnsweredBy (x : Acceptance) (c : Conversation) (moves : List (Move System Event))
    (response : ModelResponse) : Prop :=
  ∃ m ∈ moves, m.label =
    .resumed x.flow (.turn (.generate c.model x.request)) (.ok (.typed response))

/-- Its response has come back, and the messages of the request and of the response come first in
the given messages. -/
def Acceptance.GrownTo (x : Acceptance) (c : Conversation) (moves : List (Move System Event))
    (messages : List Message) : Prop :=
  ∃ response, x.AnsweredBy c moves response ∧
    x.request.messages ++ [response.message] <+: messages

lemma Acceptance.GrownTo.mono {x : Acceptance} {c : Conversation}
    {moves : List (Move System Event)} {messages messages' : List Message}
    (h : x.GrownTo c moves messages) (m : Move System Event) (hmessages : messages <+: messages') :
    x.GrownTo c (moves ++ [m]) messages' := by
  obtain ⟨response, ⟨m', hm', hlabel⟩, hprefix⟩ := h
  exact ⟨response, ⟨m', List.mem_append_left _ hm', hlabel⟩, hprefix.trans hmessages⟩

/-- The flow of an accepted request still waits for the model, over the given facade. -/
structure Waits (c : Conversation) (x : Acceptance) (a : Ask) (tr : FlowTrace) (facade : Facade)
    (s : System) : Prop where
  facade_eq : s.facade = facade
  flow : ∃ k, s.Awaits x.flow a tr (.turn (.generate c.model x.request)) k
  calls : x.calls = turnCalls tr
  accepts : c.Accepts facade a x
  messages : x.request.messages = (c.turnInput facade a).messages x.calls

/-- **What a system has made of the response** to an accepted request, by the given moves. Its flow
has gone on over the same facade, and has failed or has added the response to its transcript; or the
flow has ended, and if it has returned, the response is in the committed history. -/
inductive AfterResponse (c : Conversation) (x : Acceptance) (a : Ask) (facade : Facade)
    (moves : List (Move System Event)) (s : System) : Prop
  | live (tr : FlowTrace) (rest : FlowProg) (hfacade : s.facade = facade)
      (hi : s.flows[x.flow]? = some (.started a tr rest)) (hlive : ∀ o, rest ≠ .ret o)
      (hlog : ((c.turnInput facade a).log (turnCalls tr)).phase = .failed ∨
        x.GrownTo c moves ((c.turnInput facade a).messages (turnCalls tr)))
  | ended (tr : FlowTrace) (o : Except Failure ModelTurnResult) (remaining : ReminderState)
      (hi : s.flows[x.flow]? = some (.started a tr (.ret (o, remaining))))
      (hstate : ∀ result, o = .ok result → x.GrownTo c moves s.facade.state.messages)

section AfterResponse

variable {c : Conversation} {x : Acceptance} {a : Ask} {facade : Facade}
  {moves : List (Move System Event)} {s t : System} {e : Event}

/-- A turn that has advanced only adds to the committed history. -/
lemma Advanced.state_prefix {facade' : Facade} {tr : FlowTrace} {rest : FlowProg}
    (h : Advanced c facade a tr rest facade') :
    facade.state.messages <+: facade'.state.messages := by
  cases h with
  | settingUp | turning | setupRaised | turnRaised => exact List.prefix_rfl
  | turnReturned result remaining h =>
    obtain ⟨-, -, before, response, -, hresult⟩ := h.isResult
    change _ <+: result.state.messages
    rw [hresult.messages_eq]
    exact List.prefix_append _ _

/-- An operation that leaves the history leaves its messages. -/
lemma IdleOp.KeepsHistory.state_eq {op : IdleOp} (h : op.KeepsHistory) {facade' : Facade}
    (hop : op.apply facade = .ok facade') : facade'.state = facade.state := by
  cases op with
  | restore | restoreHistory | clearHistory | reset => exact h.elim
  | clearReminders scope =>
    obtain ⟨reminderState, -, hop⟩ := bind_eq_ok.1 hop
    cases hop
    rfl
  | remind input =>
    obtain ⟨reminder, -, hop⟩ := bind_eq_ok.1 hop
    cases hop
    rfl
  | removeReminder key =>
    obtain ⟨removed, -, hop⟩ := bind_eq_ok.1 hop
    cases hop
    rfl

/-- The flow has gone on. -/
lemma AfterResponse.of_advanced {facade' : Facade} {tr : FlowTrace} {rest : FlowProg} {f : Flow}
    (hi : s.flows[x.flow]? = some f) (hadv : Advanced c facade a tr rest facade')
    (hlog : ((c.turnInput facade a).log (turnCalls tr)).phase = .failed ∨
      x.GrownTo c moves ((c.turnInput facade a).messages (turnCalls tr))) :
    AfterResponse c x a facade moves ⟨facade', s.flows.set x.flow (.started a tr rest)⟩ := by
  have hset : (s.flows.set x.flow (.started a tr rest))[x.flow]? = some (.started a tr rest) :=
    List.getElem?_set_self (List.getElem?_eq_some_iff.1 hi).1
  cases hadv with
  | settingUp call k h => exact .live tr _ rfl hset (Prog.call_ne_ret _ _) hlog
  | turning call k h => exact .live tr _ rfl hset (Prog.call_ne_ret _ _) hlog
  | setupRaised e remaining h => exact .ended tr _ _ hset fun _ ho => by cases ho
  | turnRaised e remaining h => exact .ended tr _ _ hset fun _ ho => by cases ho
  | turnReturned result remaining h =>
    refine .ended tr _ _ hset fun result' ho => ?_
    obtain ⟨-, -, before, response, hphase, hresult⟩ := h.isResult
    rcases hlog with hfailed | hgrown
    · rw [hfailed] at hphase
      cases hphase
    · change x.GrownTo c moves result.state.messages
      rwa [hresult.messages_eq]

/-- One more call of the turn. -/
lemma turnCalls_snoc (tr : FlowTrace) (y : Σ call, OuterReply call) :
    ∃ e, turnCalls (tr ++ [y]) = turnCalls tr ++ e :=
  ⟨turnCalls [y], turnCalls_append tr [y]⟩

/-- The transcript goes on growing, unless the turn fails. -/
lemma TurnInput.messages_snoc (T : TurnInput) (tr : FlowTrace) (y : Σ call, OuterReply call)
    (m : Move System Event) (h : (T.log (turnCalls tr)).phase = .failed ∨
      x.GrownTo c moves (T.messages (turnCalls tr))) :
    (T.log (turnCalls (tr ++ [y]))).phase = .failed ∨
      x.GrownTo c (moves ++ [m]) (T.messages (turnCalls (tr ++ [y]))) := by
  obtain ⟨e, he⟩ := turnCalls_snoc tr y
  rw [he]
  rcases h with hfailed | hgrown
  · exact .inl (TurnLog.failed_append hfailed e)
  · rcases TurnLog.transcript_append T.poll T.maxRounds (turnCalls tr) e with hfailed | hgrows
    · exact .inl hfailed
    · refine .inr (hgrown.mono m ?_)
      exact (List.prefix_append_right_inj _).2 (List.cons_prefix_cons.2 ⟨rfl, hgrows⟩)

/-- **The step lemma** while the flow waits: another flow runs, or an operation, and it waits on. -/
lemma Waits.quiet {tr : FlowTrace} (h : Waits c x a tr facade s) (hown : Ownership c s)
    (hcase : StepCase c s e t) (he : e.runs? ≠ some x.flow) : Waits c x a tr facade t := by
  obtain ⟨k, hk⟩ := h.flow
  obtain ⟨hbusy, -⟩ := hown.awaits hk
  have hrest (hfacade : t.facade = s.facade)
      (hflow : t.flows[x.flow]? = s.flows[x.flow]?) : Waits c x a tr facade t :=
    ⟨hfacade.trans h.facade_eq, ⟨k, hflow.trans hk⟩, h.calls, h.accepts, h.messages⟩
  cases hcase with
  | quiet he' hfacade hstarted => exact hrest hfacade (((hstarted _ _ _ _).2 hk).trans hk.symm)
  | operated op facade' he' hidle hop ht =>
    rw [hbusy] at hidle
    cases hidle
  | rejected j a' he' hbusy' hj ht =>
    subst ht
    have hne : j ≠ x.flow := by
      rintro rfl
      rw [he'] at he
      exact he rfl
    exact hrest rfl (List.getElem?_set_ne hne)
  | acquired j a' rest facade' he' hidle hj hadv ht =>
    rw [hbusy] at hidle
    cases hidle
  | advanced j a' tr' call k' reply rest facade' he' hj hbusy' hadv ht =>
    have hruns : e.runs? = some j := by
      rcases he' with rfl | ⟨rfl, -⟩ <;> rfl
    have hsame : j = x.flow := hown.live_unique hj.live hk.live
    rw [hsame] at hruns
    exact absurd hruns he

/-- What comes back for the request: the model has answered, or the turn has failed. -/
lemma Waits.replied {tr : FlowTrace} (h : Waits c x a tr facade s)
    (reply : TurnReply (.generate c.model x.request)) {m : Move System Event}
    (hm : ∀ response, reply = .ok (.typed response) → m.label =
      .resumed x.flow (.turn (.generate c.model x.request)) (.ok (.typed response))) :
    ((c.turnInput facade a).log
        (turnCalls (tr ++ [⟨.turn (.generate c.model x.request), reply⟩]))).phase = .failed ∨
      x.GrownTo c (moves ++ [m]) ((c.turnInput facade a).messages
        (turnCalls (tr ++ [⟨.turn (.generate c.model x.request), reply⟩]))) := by
  obtain ⟨before, hphase⟩ := h.accepts.requesting
  rw [turnCalls_append, ← h.calls]
  change (((c.turnInput facade a).log
    (x.calls ++ [⟨.generate c.model x.request, reply⟩])).phase = _) ∨ _
  match hreply : reply with
  | .error error =>
    left
    rw [TurnInput.log, TurnLog.of_snoc]
    rfl
  | .ok (.other error) =>
    left
    rw [TurnInput.log, TurnLog.of_snoc]
    rfl
  | .ok (.typed response) =>
    refine .inr ⟨response, ⟨m, List.mem_append_right _ (List.mem_singleton_self _),
      hm response rfl⟩, ?_⟩
    have hgrows : ((c.turnInput facade a).log x.calls).transcript ++ [response.message] <+:
        ((c.turnInput facade a).log
          (x.calls ++ [⟨.generate c.model x.request, .ok (.typed response)⟩])).transcript := by
      rw [TurnInput.log, TurnInput.log, TurnLog.of_snoc]
      exact TurnLog.transcript_generate hphase rfl
    rw [h.messages, TurnInput.messages, List.append_assoc]
    exact (List.prefix_append_right_inj _).2 (List.cons_prefix_cons.2 ⟨rfl, hgrows⟩)

/-- **The step lemma** when the flow goes on. -/
lemma Waits.runs {tr : FlowTrace} (h : Waits c x a tr facade s) (hown : Ownership c s)
    (hstep : c.Step s e t) (he : e.runs? = some x.flow) :
    AfterResponse c x a facade (moves ++ [⟨s, e, t⟩]) t := by
  obtain ⟨k, hk⟩ := h.flow
  have hadvanced (reply : TurnReply (.generate c.model x.request)) (e : Event)
      (hlabel : ∀ response, reply = .ok (.typed response) → e =
        .resumed x.flow (.turn (.generate c.model x.request)) (.ok (.typed response))) :
      AfterResponse c x a facade
        (moves ++ [⟨s, e, s.proceed x.flow a
          (tr ++ [⟨.turn (.generate c.model x.request), reply⟩]) (k reply)⟩])
        (s.proceed x.flow a (tr ++ [⟨.turn (.generate c.model x.request), reply⟩]) (k reply)) := by
    obtain ⟨-, hadv⟩ := hown.awaits hk
    have hresume := hadv.resume rfl reply
    rw [h.facade_eq] at hresume
    unfold System.proceed
    rw [h.facade_eq]
    exact .of_advanced hk hresume (h.replied reply hlabel)
  cases hstep with
  | ask | discard | operate | refuse => cases he
  | advance i a' hi =>
    cases he
    rw [System.Awaits, hi] at hk
    cases hk
  | resume i a' tr' call k' reply hi =>
    cases he
    rw [System.Awaits, hi, Option.some_inj] at hk
    cases call with
    | setup call => cases hk
    | turn call =>
      cases hk
      refine hadvanced reply _ fun response hreply => ?_
      rw [hreply]
  | close i a' tr' call k' hyield hi =>
    cases he
    rw [System.Awaits, hi, Option.some_inj] at hk
    cases hk
    exact hadvanced _ _ fun response hreply => by cases hreply

/-- Its outcome stays what it was, with one more move, while the history only grows. -/
lemma AfterResponse.ended_mono {tr : FlowTrace} {o : Except Failure ModelTurnResult}
    {remaining : ReminderState}
    (hstate : ∀ result, o = .ok result → x.GrownTo c moves s.facade.state.messages)
    (hi : t.flows[x.flow]? = some (.started a tr (.ret (o, remaining)))) (m : Move System Event)
    (hmessages : s.facade.state.messages <+: t.facade.state.messages) :
    AfterResponse c x a facade (moves ++ [m]) t :=
  .ended tr o remaining hi fun result ho => (hstate result ho).mono m hmessages

/-- **The step lemma** after the flow has gone on. Only its own steps move it while it is live; once
it has ended, the history grows with the turns of others. -/
theorem AfterResponse.step (h : AfterResponse c x a facade moves s) (hown : Ownership c s)
    (hcase : StepCase c s e t) (hkeeps : ∀ op, e = .operated op → op.KeepsHistory) :
    AfterResponse c x a facade (moves ++ [⟨s, e, t⟩]) t := by
  cases h with
  | live tr rest hfacade hi hlive hlog =>
    have hlive' : s.Live x.flow := ⟨_, hi, hlive⟩
    have hlog' : ((c.turnInput facade a).log (turnCalls tr)).phase = .failed ∨
        x.GrownTo c (moves ++ [⟨s, e, t⟩]) ((c.turnInput facade a).messages (turnCalls tr)) :=
      hlog.imp_right fun hgrown => hgrown.mono _ List.prefix_rfl
    have hbusy (hidle : s.facade.busy = false) : False := hown.not_live hidle x.flow hlive'
    cases hcase with
    | quiet he hsame hstarted =>
      exact .live tr rest (hsame.trans hfacade) ((hstarted _ _ _ _).2 hi) hlive hlog'
    | operated op facade' he hidle hop ht => exact (hbusy hidle).elim
    | rejected j a' he _ hj ht =>
      subst ht
      have hne : j ≠ x.flow := by
        rintro rfl
        rw [hi] at hj
        cases hj
      exact .live tr rest hfacade ((List.getElem?_set_ne hne).trans hi) hlive hlog'
    | acquired j a' rest' facade' he hidle hj hadv ht => exact (hbusy hidle).elim
    | advanced j a' tr' call k reply rest' facade' he hj _ hadv ht =>
      obtain rfl := hown.live_unique hj.live hlive'
      rw [System.Awaits, hi, Option.some_inj] at hj
      cases hj
      subst ht
      rw [hfacade] at hadv
      exact .of_advanced hi hadv (TurnInput.messages_snoc _ tr _ _ hlog)
  | ended tr o remaining hi hstate =>
    have hother {j : ℕ} {f f' : Flow} (hj : s.flows[j]? = some f')
        (hf : ∀ a tr o, f' ≠ .started a tr (.ret o)) :
        (s.flows.set j f)[x.flow]? = some (.started a tr (.ret (o, remaining))) := by
      have hne : j ≠ x.flow := by
        rintro rfl
        rw [hi, Option.some_inj] at hj
        exact hf _ _ _ hj.symm
      rw [List.getElem?_set_ne hne, hi]
    cases hcase with
    | quiet he hsame hstarted =>
      have hmessages : t.facade.state.messages = s.facade.state.messages := by rw [hsame]
      exact ended_mono hstate ((hstarted _ _ _ _).2 hi) _ (hmessages ▸ List.prefix_rfl)
    | operated op facade' he hidle hop ht =>
      subst ht
      have hmessages : facade'.state.messages = s.facade.state.messages := by
        rw [(hkeeps op he).state_eq hop]
      exact ended_mono (t := { s with facade := facade' }) hstate hi _ (hmessages ▸ List.prefix_rfl)
    | rejected j a' he hbusy hj ht =>
      subst ht
      exact ended_mono hstate (hother hj (Flow.created_ne_ended a')) _ List.prefix_rfl
    | acquired j a' rest facade' he hidle hj hadv ht =>
      subst ht
      exact ended_mono hstate (hother hj (Flow.created_ne_ended a')) _ hadv.state_prefix
    | advanced j a' tr' call k reply rest facade' he hj hbusy hadv ht =>
      subst ht
      exact ended_mono hstate (hother hj (Flow.awaiting_ne_ended a' tr' call k)) _
        hadv.state_prefix

/-- **The run lemma**: after an accepted request, its flow waits for the model or has gone on. -/
theorem AfterResponse.run {tr : FlowTrace} (h : Waits c x a tr facade s) (hown : Ownership c s)
    (hrun : c.Run s moves t)
    (hkeeps : ∀ m ∈ moves, ∀ op, m.label = .operated op → op.KeepsHistory) :
    Ownership c t ∧ (Waits c x a tr facade t ∨ AfterResponse c x a facade moves t) := by
  induction hrun with
  | refl => exact ⟨hown, .inl h⟩
  | snoc hrun hstep ih =>
    rename_i moves t u e
    obtain ⟨hown', hafter⟩ := ih fun m hm => hkeeps m (List.mem_append_left _ hm)
    have hcase := hown'.cases hstep
    refine ⟨hown'.step hcase, ?_⟩
    rcases hafter with hwaits | hafter
    · by_cases he : e.runs? = some x.flow
      · exact .inr (hwaits.runs hown' hstep he)
      · exact .inl (hwaits.quiet hown' hcase he)
    · refine .inr (hafter.step hown' hcase ?_)
      exact hkeeps _ (List.mem_append_right _ (List.mem_singleton_self _))

/-- A flow that hands a request to the model hands it to that of the conversation, in full. -/
lemma Advanced.sends {facade' : Facade} {tr : FlowTrace} {rest : FlowProg} {i : ℕ}
    (h : Advanced c facade a tr rest facade')
    (hx : (Flow.started a tr rest).acceptance? i = some x) :
    (c.turnInput facade a).IsFull x.calls x.request ∧
      ∃ k, rest = .call (.turn (.generate c.model x.request)) k := by
  cases h with
  | settingUp call k h => cases hx
  | turning call k h =>
    cases call with
    | generate model request =>
      cases hx
      obtain ⟨rfl, -⟩ := (TurnInput.run_call h.exec).2.admits.of_generate
      exact ⟨TurnInput.run_sends h.exec, _, rfl⟩
    | _ => cases hx
  | setupRaised e remaining h => cases hx
  | turnRaised e remaining h => cases hx
  | turnReturned result remaining h => cases hx

/-- **A step that accepts a request** of a conversation that sends all of its history. -/
lemma StepCase.waits (hall : c.SendsAll) {m : Move System Event}
    (h : StepCase c m.before m.label m.after) (hx : acceptance? m = some x) :
    m.label.runs? = some x.flow ∧ m.after.facade = { m.before.facade with busy := true } ∧
      x.request.Configured c ∧ ∃ a tr, Waits c x a tr m.after.facade m.after := by
  obtain ⟨hruns, a, tr, rest, hadv, hflow, hfacade, hcalls, haccepts⟩ := h.accepts hx
  rw [acceptance?_of_runs hruns hflow] at hx
  obtain ⟨hfull, k, rfl⟩ := hadv.sends hx
  refine ⟨hruns, hfacade, hfull.configured, a, tr, rfl, ⟨k, hflow⟩, hcalls, ?_, ?_⟩
  · rw [hfacade]
    exact haccepts
  · rw [hfacade]
    exact hfull.messages hall

end AfterResponse

/-- **Requests only grow.** In any run of a conversation that sends all of its history, under any
interleaving of flows and operations: a later request has the configuration of an earlier one; its
messages are those of the earlier one, then the message of the response that the model has brought
for it, then what has been added since. The two are requests of one turn, or the turn of the first
has returned; in between, no operation has replaced the history.

**Proof sketch.** While the first flow is live, its log holds the response and only grows
(`TurnLog.transcript_append`), and nobody else touches the facade (`Ownership`). When it returns,
the response is committed, and later turns add to what is committed. A request consists of what is
committed and the log of its turn (`TurnInput.run_sends`). -/
theorem requests_extend {c : Conversation} {s t : System}
    {before between after : List (Move System Event)} {m₁ m₂ : Move System Event}
    {x y : Acceptance} (hall : c.SendsAll) (hs : s.Fresh)
    (hrun : c.Run s (before ++ m₁ :: (between ++ m₂ :: after)) t) (hx : acceptance? m₁ = some x)
    (hy : acceptance? m₂ = some y)
    (hkeeps : ∀ m ∈ between, ∀ op, m.label = .operated op → op.KeepsHistory)
    (hflow : y.flow = x.flow ∨ ∃ result, m₂.before.Returned x.flow result) :
    ∃ response, x.AnsweredBy c (between ++ [m₂]) response ∧
      x.request.ExtendedBy response y.request := by
  obtain ⟨hbefore, hstep₁⟩ := hrun.split_move
  have hown₁ := Ownership.reachable hs hbefore
  have hcase₁ := hown₁.cases hstep₁
  obtain ⟨-, -, hconfigured, a, tr, hwaits⟩ := hcase₁.waits hall hx
  have hrun' : c.Run s (before ++ [m₁] ++ (between ++ m₂ :: after)) t := by
    rwa [List.append_assoc]
  obtain ⟨u, hu, hrest⟩ := hrun'.split
  obtain ⟨-, -, rfl⟩ := hu.snoc_inv rfl
  obtain ⟨hbetween, hstep₂⟩ := hrest.split_move
  obtain ⟨hown₂, hafter⟩ := AfterResponse.run hwaits (hown₁.step hcase₁) hbetween hkeeps
  have hcase₂ := hown₂.cases hstep₂
  obtain ⟨hruns, hfacade, hconfigured', a', tr', hwaits'⟩ := hcase₂.waits hall hy
  suffices hgrown : x.GrownTo c (between ++ [m₂]) y.request.messages by
    obtain ⟨response, hanswered, more, hmore⟩ := hgrown
    refine ⟨response, hanswered, ?_, ?_, ?_, ?_, ?_, ?_, more, ?_⟩
    · rw [hconfigured.instructions, hconfigured'.instructions]
    · rw [hconfigured.tools, hconfigured'.tools]
    · rw [hconfigured.settings, hconfigured'.settings]
    · rw [hconfigured.cache, hconfigured'.cache]
    · rw [hconfigured.metadata, hconfigured'.metadata]
    · rw [hconfigured.providerOptions, hconfigured'.providerOptions]
    · rw [← hmore, List.append_assoc]
      rfl
  obtain ⟨k, hk⟩ := hwaits'.flow
  obtain ⟨phase, hphase⟩ := hwaits'.accepts.requesting
  rw [hwaits'.messages, hwaits'.calls]
  rcases eq_or_ne y.flow x.flow with hsame | hother
  · -- The flow of the first request has gone on to the second one.
    rw [hsame] at hruns hk
    have hafter' : AfterResponse c x a m₁.after.facade (between ++ [m₂]) m₂.after := by
      rcases hafter with hwaits | hafter
      · exact hwaits.runs hown₂ hstep₂ hruns
      · refine hafter.step hown₂ hcase₂ fun op hop => ?_
        rw [hop] at hruns
        cases hruns
    cases hafter' with
    | live tr₂ rest hfacade' hi hlive hlog =>
      rw [System.Awaits, hi, Option.some_inj] at hk
      cases hk
      rw [hwaits'.calls, hfacade'] at hphase
      rw [hfacade']
      rcases hlog with hfailed | hgrown
      · rw [hfailed] at hphase
        cases hphase
      · exact hgrown
    | ended tr₂ o remaining hi hstate =>
      rw [System.Awaits, hi, Option.some_inj] at hk
      cases hk
  · -- The first turn has returned, and the second one has begun over the history it has left.
    obtain ⟨result, a₁, tr₁, remaining, hreturned⟩ := hflow.resolve_left hother
    have hgrown : x.GrownTo c between m₂.before.facade.state.messages := by
      rcases hafter with hwaits | hafter
      · obtain ⟨k₁, hk₁⟩ := hwaits.flow
        rw [System.Awaits, hreturned, Option.some_inj] at hk₁
        cases hk₁
      · cases hafter with
        | live tr₂ rest _ hi hlive _ =>
          rw [hreturned, Option.some_inj] at hi
          cases hi
          exact absurd rfl (hlive _)
        | ended tr₂ o remaining₂ hi hstate =>
          rw [hreturned, Option.some_inj] at hi
          cases hi
          exact hstate result rfl
    refine hgrown.mono m₂ ?_
    rw [hfacade]
    exact List.prefix_append _ _

/-- The default conversation sends all of its history. -/
lemma plainConversation_sendsAll : plainConversation.SendsAll := ⟨rfl, rfl⟩

/-- A turn returns, and the request of the next one extends its request. -/
theorem requests_extend_plain : ∃ before m₁ between m₂ t x y response,
    plainConversation.Run .new (before ++ m₁ :: (between ++ [m₂])) t ∧
    m₁.label = .advanced 0 ∧ acceptance? m₁ = some x ∧
    m₂.label = .advanced 1 ∧ acceptance? m₂ = some y ∧
    x.request.ExtendedBy response y.request := by
  have hstart : plainConversation.Run .new [] .new := .refl
  have hwaiting := (hstart.snoc (.ask (.text "hello") none false _ rfl)).snoc (.advance 0 _ rfl)
  obtain ⟨call, hreturned⟩ :=
    Conversation.Run.respond hwaiting 0 (answering plainAnswer) (by decide +kernel)
  have hrun : plainConversation.Run .new ([_] ++ _ :: ([_, _] ++ [_])) _ :=
    (hreturned.snoc (.ask (.text "again") none false _ rfl)).snoc (.advance 1 _ rfl)
  obtain ⟨response, -, hextended⟩ := requests_extend plainConversation_sendsAll ⟨rfl, rfl⟩ hrun
    (Option.some_get (by decide +kernel)).symm (Option.some_get (by decide +kernel)).symm (by simp)
    (.inr ⟨_, _, _, _, rfl⟩)
  exact ⟨_, _, _, _, _, _, _, response, hrun, rfl, (Option.some_get _).symm, rfl,
    (Option.some_get _).symm, hextended⟩

end PurrceptCore
