import PurrceptCore.Models.TurnRules
import PurrceptCore.Models.WholeTurns

set_option relaxedAutoImplicit false
set_option autoImplicit false

/-!
# What a request consists of

Apart from its messages, its reminders and its continuation, a request is made of the slots that a
conversation never changes. Under the append-only policy and without a request budget its messages
are all messages there are.

## Main definitions

* `PurrceptCore.ModelRequest.Configured` — a request with the configuration of a conversation.
* `PurrceptCore.Conversation.SendsAll` — a conversation that leaves nothing out.
* `PurrceptCore.TurnInput.IsFull` — a request with everything that should be in it.

## Main results

* `PurrceptCore.TurnPromptSession.compile_sends` — compiling changes nothing but the history, and
  that only under a budget.
* `PurrceptCore.TurnInput.run_sends` — every request of a turn is full.
-/

namespace PurrceptCore

open Interaction Routine

/-- Instructions, tools, settings, cache policy, metadata and provider options of the request are
those of the conversation. -/
structure ModelRequest.Configured (request : ModelRequest) (c : Conversation) : Prop where
  instructions : request.instructions = c.instructions
  tools : request.tools = c.tools.specs
  settings : request.settings = c.settings
  cache : request.cache = c.cache
  metadata : request.metadata = c.metadata
  providerOptions : request.providerOptions = c.providerOptions

/-- The conversation sends all of its history. -/
structure Conversation.SendsAll (c : Conversation) : Prop where
  policy : c.contextPolicy = .appendOnly
  budget : c.requestBudget = none

/-- The request is made of the draft and some reminders. -/
structure PromptDraft.Makes (draft : PromptDraft) (request : ModelRequest) : Prop where
  messages : request.messages = draft.history.messages
  instructions : request.instructions = draft.instructions
  tools : request.tools = draft.tools
  settings : request.settings = draft.settings
  cache : request.cache = draft.cache
  metadata : request.metadata = draft.metadata
  providerOptions : request.providerOptions = draft.providerOptions

/-- The request is made of the draft over some history, which is its own unless there is a
budget. -/
def PromptDraft.Sends (draft : PromptDraft) (budget : Option RequestTokenBudget)
    (request : ModelRequest) : Prop :=
  ∃ history : PreparedContext, ({ draft with history } : PromptDraft).Makes request ∧
    (budget = none → history = draft.history)

/-- What a compilation that succeeds has built. -/
lemma PromptCompiler.compile_makes {compiler : PromptCompiler} {draft : PromptDraft}
    {stored turn dynamic : List SystemReminder} {ids : List Attribute} {modelRound : ℕ}
    {compiled : CompiledPrompt}
    (h : compiler.compile draft stored turn dynamic ids modelRound = .ok compiled) :
    draft.Makes compiled.request := by
  obtain ⟨hmessages, hinstructions, -, htools, hsettings, hcache, -, hmetadata, hoptions⟩ :=
    ModelRequest.make_fields (PromptCompiler.compile_inv h).1
  exact ⟨hmessages, hinstructions, htools, hsettings, hcache, hmetadata, hoptions⟩

namespace TurnPromptSession

variable (session : TurnPromptSession)

/-- A candidate is compiled. -/
lemma compileCandidate_makes (context : ReminderResolutionContext) (modelRound : ℕ)
    (candidate : PromptDraft) (s : ReminderState) :
    Spec IsCallback (session.compileCandidate context modelRound candidate) s fun o _ _ =>
      ∀ compiled, o = .ok compiled → candidate.Makes compiled.request := by
  refine Spec.bind (P := fun _ _ _ => True) (Spec.ofExcept trivial) ?_ fun _ _ _ _ _ h => by cases h
  intro resolutionContext s' e _
  refine (session.resolveSources_spec _ _ _ _).bind ?_ fun _ _ _ _ _ h => by cases h
  rintro ⟨dynamic, sourceIds⟩ s' e -
  exact Spec.get_bind (Spec.ofExcept fun compiled h => PromptCompiler.compile_makes h)

/-- One candidate, where trying again sends what is left of the history. -/
lemma compileOnce_sends (context : ReminderResolutionContext) (modelRound : ℕ)
    (budget : Option RequestTokenBudget) (candidate : PromptDraft) (trimmedTurns : ℕ)
    {retry : PromptDraft → TurnM CompiledPrompt} (s : ReminderState)
    (hretry : ∀ (history : PreparedContext) (s : ReminderState),
      Spec IsCallback (retry { candidate with history }) s fun o _ _ =>
        ∀ compiled, o = .ok compiled →
          ({ candidate with history } : PromptDraft).Sends budget compiled.request) :
    Spec IsCallback (session.compileOnce context modelRound budget candidate trimmedTurns retry) s
      fun o _ _ => ∀ compiled, o = .ok compiled → candidate.Sends budget compiled.request := by
  have haccept (compiled : CompiledPrompt) (hmakes : candidate.Makes compiled.request)
      (estimatedTokens : Option ℕ) (s : ReminderState) :
      Spec IsCallback (session.accept compiled modelRound estimatedTokens trimmedTurns) s
        fun o _ _ => ∀ accepted, o = .ok accepted →
          candidate.Sends budget accepted.request := by
    refine (session.accept_spec compiled modelRound estimatedTokens trimmedTurns s).mono ?_
    rintro o s' e ⟨-, ho⟩ accepted rfl
    refine ⟨candidate.history, ?_, fun _ => rfl⟩
    rw [ho.1]
    exact hmakes
  refine (session.compileCandidate_makes context modelRound candidate s).bind ?_
    fun _ _ _ _ _ h => by cases h
  intro compiled s' e hcompiled
  have hmakes := hcompiled compiled rfl
  cases hbudget : budget with
  | none =>
    rw [hbudget] at haccept
    exact haccept compiled hmakes none s'
  | some b =>
    rw [hbudget] at haccept hretry
    refine (countRequest_spec _ _ _).bind ?_ fun _ _ _ _ _ h => by cases h
    intro estimatedTokens s'' e' _
    split
    · refine Spec.bind (P := fun _ _ _ => True) (Spec.ofExcept trivial) ?_
        fun _ _ _ _ _ h => by cases h
      intro trimmed s₃ e₃ _
      cases trimmed with
      | none => exact Spec.throw fun _ h => by cases h
      | some history =>
        refine (hretry history s₃).mono fun o _ _ h accepted ho => ?_
        obtain ⟨history', hmakes', -⟩ := h accepted ho
        exact ⟨history', hmakes', fun hnone => by cases hnone⟩
    · exact haccept compiled hmakes _ _

/-- **Compiling changes nothing of a draft** but its history, and that only under a budget. -/
theorem compile_sends (draft : PromptDraft) (context : ReminderResolutionContext) (modelRound : ℕ)
    (budget : Option RequestTokenBudget) (s : ReminderState) :
    Spec IsCallback (session.compile draft context modelRound budget) s fun o _ _ =>
      ∀ compiled, o = .ok compiled → draft.Sends budget compiled.request := by
  have hloop (turns : ℕ) (candidate : PromptDraft) (trimmedTurns : ℕ) (s : ReminderState) :
      Spec IsCallback (session.compileFrom context modelRound budget turns candidate trimmedTurns) s
        fun o _ _ => ∀ compiled, o = .ok compiled → candidate.Sends budget compiled.request := by
    induction turns generalizing candidate trimmedTurns s with
    | zero => exact session.compileOnce_sends _ _ _ _ _ s fun history s => trivial
    | succ turns ih => exact session.compileOnce_sends _ _ _ _ _ s fun history s => ih _ _ s
  exact hloop _ draft 0 s

end TurnPromptSession

namespace TurnInput

variable {T : TurnInput}

/-- **A full request**, after the calls `h`: the configuration of the conversation, and all messages
if the conversation sends all of them. -/
structure IsFull (T : TurnInput) (h : TurnTrace) (request : ModelRequest) : Prop where
  configured : request.Configured T.conversation
  messages : T.conversation.SendsAll → request.messages = T.messages h

/-- What building a request sends. -/
lemma buildRequest_sends (c : Conversation) (session : TurnPromptSession)
    (state : ConversationState) (w : Working) (completed : ℕ) (s : ReminderState) :
    Spec IsCallback (c.buildRequest session state w completed) s fun o _ _ =>
      ∀ compiled, o = .ok compiled → compiled.request.Configured c ∧
        (c.SendsAll → compiled.request.messages = w.messages) := by
  refine Spec.bind (P := fun o s' e => ∀ provisional, o = .ok provisional →
    provisional.messages = w.messages) (Spec.ofExcept fun provisional h => ?_) ?_ ?_
  · exact (ConversationState.make_fields h).1
  · intro provisional s' e hprovisional
    have hprepare : Spec IsCallback (c.contextPolicy.prepare provisional c.model) s' fun o _ _ =>
        ∀ prepared, o = .ok prepared → c.contextPolicy = .appendOnly →
          prepared.messages = w.messages := by
      cases hpolicy : c.contextPolicy with
      | appendOnly =>
        refine Spec.ofExcept fun prepared h _ => ?_
        rw [AppendOnlyContext.prepare_eq] at h
        cases h
        exact hprovisional provisional rfl
      | slidingWindow | tokenBudget | custom =>
        exact (ContextPolicy.prepare_spec _ _ _ _).mono fun _ _ _ _ _ _ h => by cases h
    refine hprepare.bind ?_ fun _ _ _ _ _ h => by cases h
    intro prepared s'' e' hprepared
    refine (session.compile_sends (c.draft prepared) _ _ _ _).mono fun o _ _ h compiled ho => ?_
    obtain ⟨history, hmakes, hhistory⟩ := h compiled ho
    refine ⟨⟨hmakes.instructions, hmakes.tools, hmakes.settings, hmakes.cache, hmakes.metadata,
      hmakes.providerOptions⟩, fun hall => ?_⟩
    rw [hmakes.messages, hhistory hall.budget]
    exact hprepared prepared rfl hall.policy
  · intro _ _ _ _ _ h
    cases h

/-- Requests that are built over the transcript are full. -/
lemma builds_isFull : T.Builds T.IsFull := by
  intro rounds before s h w completed hat hw
  refine ((T.conversation.buildRequest_spec T.session T.state w completed s).and
    (buildRequest_sends T.conversation T.session T.state w completed s)).mono fun o s' e ho => ?_
  cases o with
  | error error => exact ho.1
  | ok compiled =>
    obtain ⟨hconfigured, hmessages⟩ := ho.2 compiled rfl
    refine ⟨ho.1.1, fun he => ⟨hconfigured, fun hall => ?_⟩⟩
    rw [hmessages hall, hw, messages_append h he]

/-- **Every request of a turn** is full. -/
theorem run_sends {tr : TurnTrace} {request : ModelRequest}
    {k : TurnReply (.generate T.conversation.model request) → Prog TurnCall TurnReply
      (Except Failure ModelTurnResult × ReminderState)}
    (h : Exec T.run tr (.call (.generate T.conversation.model request) k)) :
    T.IsFull tr request := by
  have hchecked := (run_call h).1
  have hallowed := Prog.history_call h (wp_run_by builds_isFull hchecked.1 hchecked.2)
    fun _ _ => trivial
  rw [kept_true] at hallowed
  exact hallowed.request request rfl

end TurnInput

end PurrceptCore
