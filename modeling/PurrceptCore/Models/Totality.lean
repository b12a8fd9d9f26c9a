import PurrceptCore.Interaction.Uncut
import PurrceptCore.Models.Conversation

set_option relaxedAutoImplicit false
set_option autoImplicit false

/-!
# The code of a turn never stops on its own

Setting up a session and running a turn go on until they return or raise: none of their branches
is cut, and their loops end.

## Main results

* `PurrceptCore.begin_uncut`, `PurrceptCore.runModelTurn_uncut`.
-/

namespace PurrceptCore

open Interaction Routine

section Replies

variable {S C : Type} {R : C → Type} {α : Type}

lemma receive_uncut (reply : Except Exc α) :
    Uncut (receive reply : Routine S C R Failure α) := by
  cases reply with
  | ok value => exact Uncut.pure value
  | error error => exact Uncut.throw _

/-- Making a call and reading its reply. -/
lemma ask_uncut {β : Type} {x : Routine S C R Failure (Except Exc β)}
    {f : β → Routine S C R Failure α} (hx : Uncut x) (hf : ∀ b, Uncut (f b)) :
    Uncut (do let reply ← x; let b ← receive reply; f b) :=
  hx.bind fun reply => (receive_uncut reply).bind hf

end Replies

lemma Answer.use_uncut {α : Type} (answer : Answer α) : Uncut answer.use := by
  cases answer with
  | typed value => exact Uncut.pure value
  | other error => exact Uncut.throw _

lemma emitPromptTrace_uncut (sink : Bool) (event : PromptTraceEvent) :
    Uncut (emitPromptTrace sink event) := by
  unfold emitPromptTrace
  split
  · exact Uncut.pure ()
  · refine ask_uncut (Uncut.call _) fun result => ?_
    cases result with
    | none => exact Uncut.pure ()
    | awaitable => exact Uncut.throw _
    | other => exact Uncut.throw _

lemma validateCount_uncut (counter : String) (count : Count) :
    Uncut (validateCount counter count) := by
  cases count with
  | awaitable => exact Uncut.throw _
  | other => exact Uncut.throw _
  | int value =>
    change Uncut (if value < 0 then _ else _)
    split
    · exact Uncut.throw _
    · exact Uncut.pure _

lemma countTokens_uncut (messages : List Message) (model : Model) :
    Uncut (countTokens messages model) :=
  ask_uncut (Uncut.call _) (validateCount_uncut _)

lemma countRequest_uncut (request : ModelRequest) (model : Model) :
    Uncut (countRequest request model) :=
  ask_uncut (Uncut.call _) (validateCount_uncut _)

/-! ### Selecting the context -/

lemma TokenBudgetContext.extend_uncut (maxTokens : ℕ) (state : ConversationState)
    (model : Model) (turnIndex : ℕ) (start : ℕ × ℕ) :
    Uncut (extend maxTokens state model turnIndex start) := by
  induction turnIndex generalizing start with
  | zero => exact Uncut.pure start
  | succ turnIndex ih =>
    refine (countTokens_uncut _ _).bind fun count => ?_
    split
    · exact Uncut.pure start
    · exact ih _

lemma TokenBudgetContext.prepare_uncut (maxTokens : ℕ) (state : ConversationState)
    (model : Model) : Uncut (TokenBudgetContext.prepare maxTokens state model) := by
  refine (countTokens_uncut _ _).bind fun count => ?_
  split
  · exact Uncut.throw _
  · exact (extend_uncut _ _ _ _ _).bind fun start => Uncut.ofExcept _

lemma ContextPolicy.prepare_uncut (policy : ContextPolicy) (state : ConversationState)
    (model : Model) : Uncut (policy.prepare state model) := by
  cases policy with
  | appendOnly => exact Uncut.ofExcept _
  | slidingWindow maxTurns => exact Uncut.ofExcept _
  | tokenBudget maxTokens _ => exact TokenBudgetContext.prepare_uncut _ _ _
  | custom =>
    refine ask_uncut (Uncut.call _) fun prepared => ?_
    cases prepared with
    | context context => exact Uncut.pure context
    | awaitable => exact Uncut.throw _
    | other => exact Uncut.throw _

/-! ### The prompt session -/

lemma validateSource_uncut (sourceIds : List NonEmptyString) (source : ReminderSource) :
    Uncut (validateSource sourceIds source) := by
  refine ask_uncut (Uncut.call _) fun isSource => ?_
  split
  · exact Uncut.throw _
  refine ask_uncut (Uncut.call _) fun read => (Uncut.ofExcept _).bind fun sourceId => ?_
  split
  · exact Uncut.throw _
  · exact Uncut.pure _

lemma normalizeReminderSources_uncut (sourceIds : List NonEmptyString)
    (sources : List ReminderSource) : Uncut (normalizeReminderSources sourceIds sources) := by
  induction sources generalizing sourceIds with
  | nil => exact Uncut.pure []
  | cons source sources ih =>
    exact (validateSource_uncut _ _).bind fun sourceId => (ih _).bind fun _ => Uncut.pure _

theorem begin_uncut (state : ReminderState) (compiler : PromptCompiler)
    (sources : List ReminderSource) (traceSink : Bool) :
    Uncut (TurnPromptSession.begin state compiler sources traceSink) :=
  (Uncut.set _).bind fun _ =>
    (normalizeReminderSources_uncut _ _).bind fun _ => Uncut.pure _

lemma resolveReminderSource_uncut (source : ReminderSource)
    (context : ReminderResolutionContext) : Uncut (resolveReminderSource source context) :=
  ask_uncut (Uncut.call _) fun _ => (Uncut.ofExcept _).bind fun _ =>
    ask_uncut (Uncut.call _) fun _ => Uncut.ofExcept _

namespace TurnPromptSession

variable (session : TurnPromptSession)

lemma resolveSource_uncut (context : ReminderResolutionContext) (modelRound : ℕ)
    (source : ReminderSource) : Uncut (session.resolveSource context modelRound source) := by
  refine ask_uncut (Uncut.call _) fun sourceId => Uncut.bind ?_ fun resolved =>
    (emitPromptTrace_uncut _ _).bind fun _ => Uncut.pure _
  refine Uncut.tryCatch (resolveReminderSource_uncut _ _) fun error => ?_
  split
  · exact (Uncut.ofExcept _).bind fun event =>
      (emitPromptTrace_uncut _ _).bind fun _ => Uncut.throw _
  · exact Uncut.throw _

lemma resolveSources_uncut (context : ReminderResolutionContext) (modelRound : ℕ)
    (sources : List ReminderSource) :
    Uncut (session.resolveSources context modelRound sources) := by
  induction sources with
  | nil => exact Uncut.pure _
  | cons source sources ih =>
    exact (session.resolveSource_uncut _ _ _).bind fun _ => ih.bind fun _ => Uncut.pure _

lemma compileCandidate_uncut (context : ReminderResolutionContext) (modelRound : ℕ)
    (candidate : PromptDraft) : Uncut (session.compileCandidate context modelRound candidate) :=
  (Uncut.ofExcept _).bind fun _ => (session.resolveSources_uncut _ _ _).bind fun _ =>
    Uncut.get.bind fun _ => Uncut.ofExcept _

lemma accept_uncut (compiled : CompiledPrompt) (modelRound : ℕ) (estimatedTokens : Option ℕ)
    (trimmedTurns : ℕ) :
    Uncut (session.accept compiled modelRound estimatedTokens trimmedTurns) := by
  refine (emitPromptTrace_uncut _ _).bind fun _ => ?_
  split
  · exact Uncut.get.bind fun _ => (emitPromptTrace_uncut _ _).bind fun _ =>
      (Uncut.modify _).bind fun _ => Uncut.pure _
  · exact Uncut.pure _

/-- One candidate, where trying again is uncut if there is a turn to drop. -/
lemma compileOnce_uncut (context : ReminderResolutionContext) (modelRound : ℕ)
    (budget : Option RequestTokenBudget) (candidate : PromptDraft) (trimmedTurns : ℕ)
    {retry : PromptDraft → TurnM CompiledPrompt}
    (hretry : ∀ history,
      history.turnBoundaries.length + 1 = candidate.history.turnBoundaries.length →
        Uncut (retry { candidate with history })) :
    Uncut (session.compileOnce context modelRound budget candidate trimmedTurns retry) := by
  refine (session.compileCandidate_uncut _ _ _).bind fun compiled => ?_
  cases budget with
  | none => exact session.accept_uncut _ _ _ _
  | some budget =>
    refine (countRequest_uncut _ _).bind fun estimatedTokens => ?_
    split
    · cases hb : candidate.history.turnBoundaries with
      | nil =>
        rw [dropOldestCompleteTurn_nil hb]
        exact Uncut.throw _
      | cons b bs =>
        obtain ⟨history, hdrop, -, hlen⟩ := dropOldestCompleteTurn_cons hb
        rw [hdrop]
        exact hretry history (by rw [hlen, hb, List.length_cons])
    · exact session.accept_uncut _ _ _ _

/-- The loop ends because every further candidate has one complete turn less. -/
lemma compileFrom_uncut (context : ReminderResolutionContext) (modelRound : ℕ)
    (budget : Option RequestTokenBudget) (turns : ℕ) (candidate : PromptDraft)
    (trimmedTurns : ℕ) (hturns : candidate.history.turnBoundaries.length = turns) :
    Uncut (session.compileFrom context modelRound budget turns candidate trimmedTurns) := by
  induction turns generalizing candidate trimmedTurns with
  | zero => exact session.compileOnce_uncut _ _ _ _ _ fun history h => by omega
  | succ turns ih =>
    refine session.compileOnce_uncut _ _ _ _ _ fun history h => ih _ _ ?_
    exact Nat.succ.inj (h.trans hturns)

end TurnPromptSession

/-! ### The model loop -/

lemma pollInput_uncut (poll : Bool) : Uncut (pollInput poll) := by
  unfold pollInput
  split
  · exact Uncut.pure []
  · refine ask_uncut (Uncut.call _) fun value => ?_
    split
    · exact Uncut.throw _
    · exact Uncut.pure _

namespace Conversation

variable (c : Conversation)

lemma buildRequest_uncut (session : TurnPromptSession) (state : ConversationState)
    (w : Working) (completed : ℕ) : Uncut (c.buildRequest session state w completed) :=
  (Uncut.ofExcept _).bind fun _ => (c.contextPolicy.prepare_uncut _ _).bind fun _ =>
    session.compileFrom_uncut _ _ _ _ _ _ rfl

lemma invokeTools_uncut (calls : List ToolCallBlock) (w : Working) :
    Uncut (c.invokeTools calls w) := by
  induction calls generalizing w with
  | nil => exact Uncut.pure w
  | cons call calls ih =>
    exact ask_uncut (Uncut.call _) fun answer =>
      answer.use_uncut.bind fun result => ih _

lemma runRounds_uncut (session : TurnPromptSession) (state : ConversationState)
    (maxModelRounds : ℕ) (poll : Bool) (remaining completed : ℕ) (w : Working) :
    Uncut (c.runRounds session state maxModelRounds poll remaining completed w) := by
  induction remaining generalizing completed w with
  | zero => exact Uncut.throw _
  | succ remaining ih =>
    refine (pollInput_uncut poll).bind fun before => ?_
    refine (c.buildRequest_uncut _ _ _ _).bind fun compiled => ?_
    refine ask_uncut (Uncut.call _) fun answer => answer.use_uncut.bind fun response => ?_
    refine (pollInput_uncut poll).bind fun incoming => ?_
    split
    · exact (Uncut.ofExcept _).bind fun committed => Uncut.pure _
    · split
      · exact Uncut.throw _
      · exact (c.invokeTools_uncut _ _).bind fun w => ih _ _

theorem runModelTurn_uncut (session : TurnPromptSession) (state : ConversationState)
    (userMessage : Message) (maxModelRounds : ℕ) (poll : Bool) :
    Uncut (c.runModelTurn session state userMessage maxModelRounds poll) := by
  unfold runModelTurn
  split
  · exact Uncut.throw _
  · split
    · exact Uncut.throw _
    · exact c.runRounds_uncut _ _ _ _ _ _ _

end Conversation

end PurrceptCore
