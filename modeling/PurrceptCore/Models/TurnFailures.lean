import PurrceptCore.Models.RequestTrimming
import PurrceptCore.Models.TurnRules

set_option relaxedAutoImplicit false
set_option autoImplicit false

/-!
# Why a turn fails

A turn constructs states, contexts, drafts and requests whose constructors make checks. What the
conversation, the tool set and the reminders have checked before, and what the turn keeps of its
transcript, is enough for all of them. So a turn fails only for reasons that lie outside.

## Main definitions

* `PurrceptCore.RequestFailure` — the reasons for which a request is not built.
* `PurrceptCore.TurnFailure` — the reasons for which a turn fails.
* `PurrceptCore.continuationAfter`, `PurrceptCore.Conversation.Continues` — the continuation of the
  last response, and the requests that are made with it.
* `PurrceptCore.ConstructorFailure` — the failures of the constructors that a turn calls.

## Main results

* `PurrceptCore.ModelRequest.make_ok` — what the constructor of a request accepts.
* `PurrceptCore.TurnPromptSession.compile_builds`, `PurrceptCore.Conversation.buildRequest_builds` —
  building a request.
* `PurrceptCore.Conversation.wp_runRounds` — the rounds of a turn.
* `PurrceptCore.turn_failures` — a turn fails for one of these reasons, and no constructor has
  failed.
-/

namespace PurrceptCore

open Fallible Interaction Routine

/-! ### The constructor of a request -/

/-- Values that `ModelRequest` accepts. -/
theorem ModelRequest.make_ok {messages : List Message} {instructions : List SystemInstruction}
    {reminders : List SystemReminder} {tools : List ToolSpec} {settings : ModelSettings}
    {cache : PromptCachePolicy} {continuation : Option ModelContinuation}
    {metadata providerOptions : JsonObject} (hmessages : messages ≠ [])
    (htools : (tools.map ToolSpec.name).Nodup)
    (hinstructions : Keyed.Unique SystemInstruction.key instructions)
    (hreminders : Keyed.Unique SystemReminder.key reminders)
    (hrequired : settings.toolChoice = .required → tools ≠ []) :
    ∃ request, make messages instructions reminders tools settings cache continuation metadata
      providerOptions = .ok request := by
  have hempty : ¬ (messages.isEmpty ∧ instructions.isEmpty ∧ reminders.isEmpty) := by
    intro h
    exact hmessages (List.isEmpty_iff.1 h.1)
  have hnone : ¬ (settings.toolChoice = .required ∧ tools.isEmpty) := by
    intro h
    exact hrequired h.1 (List.isEmpty_iff.1 h.2)
  unfold make
  rw [dif_neg hempty, dif_neg (not_not.2 htools), dif_neg (not_not.2 hinstructions),
    dif_neg (not_not.2 hreminders), dif_neg hnone]
  exact ⟨_, rfl⟩

namespace Conversation

variable (c : Conversation)

/-- The limits of the budgets of a conversation. -/
def limits : List ℕ :=
  (match c.contextPolicy with
    | .tokenBudget maxTokens _ => [maxTokens]
    | _ => []) ++ c.requestBudget.toList.map RequestTokenBudget.maxTokens

/-- A draft of the conversation, over a history with a message in its current turn. -/
structure Drafts (draft : PromptDraft) : Prop where
  instructions : draft.instructions = c.instructions
  tools : draft.tools = c.tools.specs
  settings : draft.settings = c.settings
  current : draft.history.current ≠ []

variable {c}

lemma Drafts.dropTurns {draft : PromptDraft} (h : c.Drafts draft) (d : ℕ) :
    c.Drafts { draft with history := draft.history.dropTurns d } where
  instructions := h.instructions
  tools := h.tools
  settings := h.settings
  current := by
    rw [PreparedContext.current_dropTurns]
    exact h.current

/-- The tools of a conversation have different names. -/
lemma tool_names (c : Conversation) : (c.tools.specs.map ToolSpec.name).Nodup := by
  have hnames : c.tools.specs.map ToolSpec.name = c.tools.tools.map FunctionTool.name := by
    simp [ToolSet.specs, FunctionTool.name, Function.comp_def]
  rw [hnames]
  exact c.tools.names_nodup

/-- The request of such a draft is accepted, if the keys of its reminders are unique. -/
lemma Drafts.make_ok {draft : PromptDraft} (h : c.Drafts draft) {reminders : List SystemReminder}
    (hunique : Keyed.Unique SystemReminder.key reminders) :
    ∃ request, ModelRequest.make draft.history.messages draft.instructions reminders draft.tools
      draft.settings draft.cache draft.continuation draft.metadata draft.providerOptions =
        .ok request := by
  have hmessages : draft.history.messages ≠ [] := by
    intro hnil
    rw [PreparedContext.messages_eq, List.append_eq_nil_iff] at hnil
    exact h.current hnil.2
  apply ModelRequest.make_ok hmessages
  · rw [h.tools]
    exact c.tool_names
  · rw [h.instructions]
    exact c.instruction_keys
  · exact hunique
  · rw [h.settings, h.tools]
    exact c.required_tools

end Conversation

/-! ### Building a request -/

/-- The reasons for which a request is not built: a collaborator has raised or broken its contract,
two sources have equal ids, a source has resolved a key that is taken, or a budget is exceeded. -/
inductive RequestFailure (sources : List ReminderSource) (limits : List ℕ) (e : TurnTrace) :
    Failure → Prop
  | fault (failure : Failure) (h : Blames e failure) : RequestFailure sources limits e failure
  | sourceIds (ids : List Attribute) (reads : List.Forall₂ (HasRead e) sources ids)
      (h : ¬ ids.Nodup) :
      RequestFailure sources limits e (.valueError "dynamic_source_ids must be unique.")
  | reminderKey (key : NonEmptyString)
      (h : key ∈ (resolutions e).flatten.filterMap SystemReminder.key) :
      RequestFailure sources limits e (keyClash key)
  | budget (maxTokens required : ℕ) (h : maxTokens ∈ limits) :
      RequestFailure sources limits e (.contextBudgetExceeded maxTokens required)

section RequestFailure

variable {sources : List ReminderSource} {limits limits' : List ℕ} {e : TurnTrace}
  {failure : Failure}

/-- The reasons stay when more calls come before and after. -/
lemma RequestFailure.append (h : RequestFailure sources limits e failure) (e₁ e₂ : TurnTrace)
    (hlimits : ∀ limit ∈ limits, limit ∈ limits') :
    RequestFailure sources limits' (e₁ ++ (e ++ e₂)) failure := by
  cases h with
  | fault failure h => exact .fault _ ((h.append_right e₂).append_left e₁)
  | sourceIds ids reads h =>
    refine .sourceIds ids (reads.imp fun source id hid => ?_) h
    exact List.mem_append_right _ (List.mem_append_left _ hid)
  | reminderKey key h =>
    refine .reminderKey key ?_
    simp only [resolutions_append, List.flatten_append, List.filterMap_append, List.mem_append]
    exact .inr (.inl h)
  | budget maxTokens required h => exact .budget maxTokens required (hlimits _ h)

lemma RequestFailure.append_left (h : RequestFailure sources limits e failure) (e₁ : TurnTrace) :
    RequestFailure sources limits (e₁ ++ e) failure := by
  have happend := h.append e₁ [] fun _ hlimit => hlimit
  rwa [List.append_nil] at happend

end RequestFailure

/-- The outcome of building a request with a continuation. -/
def Builds (sources : List ReminderSource) (limits : List ℕ)
    (continuation : Option ModelContinuation) (o : Except Failure CompiledPrompt) (e : TurnTrace) :
    Prop :=
  (∀ compiled, o = .ok compiled → compiled.request.continuation = continuation) ∧
    ∀ failure, o = .error failure → RequestFailure sources limits e failure

lemma Builds.append_left {sources : List ReminderSource} {limits : List ℕ}
    {continuation : Option ModelContinuation} {o : Except Failure CompiledPrompt} {e : TurnTrace}
    (h : Builds sources limits continuation o e) (e₁ : TurnTrace) :
    Builds sources limits continuation o (e₁ ++ e) :=
  ⟨h.1, fun failure ho => (h.2 failure ho).append_left e₁⟩

namespace TurnPromptSession

variable {session : TurnPromptSession} {c : Conversation} {limits : List ℕ}

/-- Compiling a candidate of the conversation. -/
lemma compileCandidate_builds
    (hunique : Keyed.Unique SystemReminder.key session.baseReminders) {candidate : PromptDraft}
    (hdraft : c.Drafts candidate) (context : ReminderResolutionContext) (completed : ℕ)
    (s : ReminderState) :
    Spec IsCallback (session.compileCandidate context (completed + 1) candidate) s fun o _ e =>
      Builds session.sources limits candidate.continuation o e := by
  have hcontinuation : Spec IsCallback
      (session.compileCandidate context (completed + 1) candidate) s fun o _ _ =>
        ∀ compiled, o = .ok compiled → compiled.request.continuation = candidate.continuation := by
    refine Spec.bind (P := fun _ _ _ => True) (Spec.ofExcept trivial) ?_
      fun _ _ _ _ _ h => by cases h
    rintro resolutionContext s' e -
    refine (session.resolveSources_spec _ _ _ _).bind ?_ fun _ _ _ _ _ h => by cases h
    rintro ⟨dynamic, sourceIds⟩ s' e -
    refine Spec.get_bind (Spec.ofExcept fun compiled h => ?_)
    exact (ModelRequest.make_fields (PromptCompiler.compile_inv h).1).2.2.2.2.2.2.1
  refine (hcontinuation.and (compileCandidate_fails hunique context (completed + 1) candidate
    s)).mono fun o s' e h => ⟨h.1, fun failure ho => ?_⟩
  cases h.2 failure ho with
  | fault _ hblames => exact .fault _ hblames
  | sourceIds ids reads hdup => exact .sourceIds ids reads hdup
  | reminderKey key hkey => exact .reminderKey key hkey
  | modelRound hround => omega
  | request _ reminders hreminders hmake =>
    obtain ⟨request, hok⟩ := hdraft.make_ok hreminders
    rw [hok] at hmake
    cases hmake

/-- Accepting a candidate. -/
lemma accept_builds {compiled : CompiledPrompt} {continuation : Option ModelContinuation}
    (hcontinuation : compiled.request.continuation = continuation) (modelRound : ℕ)
    (estimatedTokens : Option ℕ) (trimmedTurns : ℕ) (s : ReminderState) :
    Spec IsCallback (session.accept compiled modelRound estimatedTokens trimmedTurns) s
      fun o _ e => Builds session.sources limits continuation o e := by
  refine (session.accept_records _ _ _ _ _).mono ?_
  rintro o s' e ⟨-, hblames, haccepted⟩
  refine ⟨fun accepted ho => ?_, fun failure ho => .fault _ (hblames failure ho)⟩
  rw [(haccepted accepted ho).1, hcontinuation]

/-- One candidate, where trying again builds as well. -/
lemma compileOnce_builds
    (hunique : Keyed.Unique SystemReminder.key session.baseReminders) {candidate : PromptDraft}
    (hdraft : c.Drafts candidate) (context : ReminderResolutionContext) (completed : ℕ)
    (budget : Option RequestTokenBudget) (hlimits : ∀ b ∈ budget, b.maxTokens ∈ limits)
    (trimmed : ℕ) {retry : PromptDraft → TurnM CompiledPrompt} (s : ReminderState)
    (hretry : Spec IsCallback (retry { candidate with history := candidate.history.dropTurns 1 }) s
      fun o _ e => Builds session.sources limits candidate.continuation o e) :
    Spec IsCallback
      (session.compileOnce context (completed + 1) budget candidate trimmed retry) s
      fun o _ e => Builds session.sources limits candidate.continuation o e := by
  have hcandidate : Spec IsCallback (session.compileCandidate context (completed + 1) candidate) s
      fun o _ e => Builds session.sources limits candidate.continuation o e :=
    compileCandidate_builds hunique hdraft context completed s
  refine ((session.compileCandidate_spec context (completed + 1) candidate s).and
    hcandidate).bind ?_ ?_
  · rintro compiled s' e ⟨⟨rfl, -⟩, hbuilds, -⟩
    have hcontinuation := hbuilds compiled rfl
    cases budget with
    | none =>
      exact (accept_builds hcontinuation _ _ _ _).mono fun _ _ _ h => h.append_left _
    | some budget =>
      refine ((countRequest_spec _ _ _).and (countRequest_fails _ _ _)).bind ?_ ?_
      · rintro estimated s' e' ⟨⟨rfl, -⟩, -⟩
        split
        · rw [dropOldestCompleteTurn_eq]
          by_cases hturns : candidate.history.turns = []
          · rw [if_pos hturns]
            refine Spec.throw ⟨fun _ h => (by cases h), fun failure h => ?_⟩
            cases h
            exact .budget _ _ (hlimits _ rfl)
          · rw [if_neg hturns]
            exact hretry.mono fun _ _ _ h => (h.append_left _).append_left _
        · exact (accept_builds hcontinuation _ _ _ _).mono fun _ _ _ h =>
            (h.append_left _).append_left _
      · rintro error s' e' ⟨-, hblames⟩
        refine ⟨fun _ h => (by cases h), fun failure h => .fault _ ?_⟩
        exact (hblames failure (by cases h; rfl)).append_left _
  · rintro error s' e ⟨-, -, hfails⟩
    refine ⟨fun _ h => (by cases h), fun failure h => ?_⟩
    exact hfails failure (by cases h; rfl)

/-- **Compiling a request** of a conversation: it has the continuation of the draft, whatever was
trimmed. -/
theorem compile_builds (hunique : Keyed.Unique SystemReminder.key session.baseReminders)
    {draft : PromptDraft} (hdraft : c.Drafts draft) (context : ReminderResolutionContext)
    (completed : ℕ) (budget : Option RequestTokenBudget)
    (hlimits : ∀ b ∈ budget, b.maxTokens ∈ limits) (s : ReminderState) :
    Spec IsCallback (session.compile draft context (completed + 1) budget) s
      fun o _ e => Builds session.sources limits draft.continuation o e := by
  have hloop (turns trimmed : ℕ) (candidate : PromptDraft) (hcandidate : c.Drafts candidate) :
      Spec IsCallback (session.compileFrom context (completed + 1) budget turns candidate trimmed) s
        fun o _ e => Builds session.sources limits candidate.continuation o e := by
    induction turns generalizing candidate trimmed with
    | zero =>
      exact compileOnce_builds hunique hcandidate context completed budget hlimits _ s trivial
    | succ turns ih =>
      apply compileOnce_builds hunique hcandidate context completed budget hlimits
      exact ih _ _ (hcandidate.dropTurns 1)
  exact hloop _ _ draft hdraft

end TurnPromptSession

/-! ### The calls that build a request -/

/-- The calls that build a request under a built-in policy: counters, sources and the trace sink. -/
def TurnCall.IsPrompting : TurnCall → Prop
  | .countTokens _ _ | .countRequest _ _ | .sourceId _ | .resolve _ _ | .trace _ => True
  | .inputPoll | .generate _ _ | .invokeTool _ _ | .prepare _ _ => False

section Prompting

variable {α β : Type}

lemma receive_only {S C : Type} {R : C → Type} {allow : C → Prop} (reply : Except Exc α) :
    Only allow (receive reply : Routine S C R Failure α) := by
  cases reply with
  | ok value => exact Only.pure value
  | error error => exact Only.throw _

/-- Making a call and reading its reply. -/
lemma ask_only {S C : Type} {R : C → Type} {allow : C → Prop}
    {x : Routine S C R Failure (Except Exc β)} {f : β → Routine S C R Failure α}
    (hx : Only allow x) (hf : ∀ b, Only allow (f b)) :
    Only allow (do let reply ← x; let b ← receive reply; f b) :=
  hx.bind fun reply => (receive_only reply).bind hf

lemma emitPromptTrace_only (sink : Bool) (event : PromptTraceEvent) :
    Only TurnCall.IsPrompting (emitPromptTrace sink event) := by
  unfold emitPromptTrace
  split
  · exact Only.pure ()
  · refine ask_only (Only.call trivial) fun result => ?_
    cases result with
    | none => exact Only.pure ()
    | awaitable => exact Only.throw _
    | other => exact Only.throw _

lemma validateCount_only (counter : String) (count : Count) :
    Only TurnCall.IsPrompting (validateCount counter count) := by
  cases count with
  | awaitable => exact Only.throw _
  | other => exact Only.throw _
  | int value =>
    change Only _ (if value < 0 then _ else _)
    split
    · exact Only.throw _
    · exact Only.pure _

/-- A built-in policy calls nothing but its counter. -/
lemma ContextPolicy.prepare_only {policy : ContextPolicy} (hbuiltin : policy.isBuiltin = true)
    (state : ConversationState) (model : Model) :
    Only TurnCall.IsPrompting (policy.prepare state model) := by
  cases policy with
  | appendOnly => exact Only.ofExcept _
  | slidingWindow maxTurns => exact Only.ofExcept _
  | tokenBudget maxTokens _ =>
    intro s
    refine ((TokenBudgetContext.prepare_selects maxTokens state model s).weaken ?_).mono
      fun _ _ _ _ => trivial
    rintro _ ⟨messages, rfl⟩
    trivial
  | custom => cases hbuiltin

namespace TurnPromptSession

variable (session : TurnPromptSession)

lemma resolveSource_only (context : ReminderResolutionContext) (modelRound : ℕ)
    (source : ReminderSource) :
    Only TurnCall.IsPrompting (session.resolveSource context modelRound source) := by
  refine ask_only (Only.call trivial) fun sourceId => Only.bind ?_ fun resolved =>
    (emitPromptTrace_only _ _).bind fun _ => Only.pure _
  refine Only.tryCatch ?_ fun error => ?_
  · exact ask_only (Only.call trivial) fun _ => (Only.ofExcept _).bind fun _ =>
      ask_only (Only.call trivial) fun _ => Only.ofExcept _
  · split
    · exact (Only.ofExcept _).bind fun event =>
        (emitPromptTrace_only _ _).bind fun _ => Only.throw _
    · exact Only.throw _

lemma resolveSources_only (context : ReminderResolutionContext) (modelRound : ℕ)
    (sources : List ReminderSource) :
    Only TurnCall.IsPrompting (session.resolveSources context modelRound sources) := by
  induction sources with
  | nil => exact Only.pure _
  | cons source sources ih =>
    exact (session.resolveSource_only _ _ _).bind fun _ => ih.bind fun _ => Only.pure _

lemma accept_only (compiled : CompiledPrompt) (modelRound : ℕ) (estimatedTokens : Option ℕ)
    (trimmedTurns : ℕ) :
    Only TurnCall.IsPrompting
      (session.accept compiled modelRound estimatedTokens trimmedTurns) := by
  refine (emitPromptTrace_only _ _).bind fun _ => ?_
  split
  · exact Only.get.bind fun _ => (emitPromptTrace_only _ _).bind fun _ =>
      (Only.modify _).bind fun _ => Only.pure _
  · exact Only.pure _

/-- One candidate. -/
lemma compileOnce_only (context : ReminderResolutionContext) (modelRound : ℕ)
    (budget : Option RequestTokenBudget) (candidate : PromptDraft) (trimmedTurns : ℕ)
    {retry : PromptDraft → TurnM CompiledPrompt}
    (hretry : ∀ draft, Only TurnCall.IsPrompting (retry draft)) :
    Only TurnCall.IsPrompting
      (session.compileOnce context modelRound budget candidate trimmedTurns retry) := by
  have hcandidate : Only TurnCall.IsPrompting
      (session.compileCandidate context modelRound candidate) :=
    (Only.ofExcept _).bind fun _ => (session.resolveSources_only _ _ _).bind fun _ =>
      Only.get.bind fun _ => Only.ofExcept _
  refine hcandidate.bind fun compiled => ?_
  cases budget with
  | none => exact session.accept_only _ _ _ _
  | some budget =>
    refine (ask_only (Only.call trivial) (validateCount_only _)).bind fun estimatedTokens => ?_
    split
    · refine (Only.ofExcept _).bind fun trimmed => ?_
      cases trimmed with
      | none => exact Only.throw _
      | some history => exact hretry _
    · exact session.accept_only _ _ _ _

lemma compile_only (draft : PromptDraft) (context : ReminderResolutionContext) (modelRound : ℕ)
    (budget : Option RequestTokenBudget) :
    Only TurnCall.IsPrompting (session.compile draft context modelRound budget) := by
  have hloop (turns trimmed : ℕ) (candidate : PromptDraft) : Only TurnCall.IsPrompting
      (session.compileFrom context modelRound budget turns candidate trimmed) := by
    induction turns generalizing candidate trimmed with
    | zero => exact session.compileOnce_only _ _ _ _ _ fun _ _ => trivial
    | succ turns ih => exact session.compileOnce_only _ _ _ _ _ fun draft => ih _ draft
  exact hloop _ _ draft

end TurnPromptSession

end Prompting

/-- **Selecting the context** with a built-in policy: oldest turns are dropped, or the current turn
exceeds the budget, or a counter is to blame. -/
lemma ContextPolicy.prepare_drops {policy : ContextPolicy} (hbuiltin : policy.isBuiltin = true)
    (state : ConversationState) (model : Model) (s : ReminderState) :
    Spec IsCallback (policy.prepare state model) s fun o _ e =>
      (∀ context, o = .ok context → ∃ d, context = state.context.dropTurns d) ∧
      ∀ failure, o = .error failure → Blames e failure ∨
        ∃ maxTokens hpos required, policy = .tokenBudget maxTokens hpos ∧
          failure = .contextBudgetExceeded maxTokens required := by
  cases policy with
  | appendOnly =>
    refine Spec.ofExcept ⟨fun context h => ⟨0, ?_⟩, fun failure h => ?_⟩
    · rw [AppendOnlyContext.prepare_eq] at h
      cases h
      rw [PreparedContext.dropTurns_zero]
    · rw [AppendOnlyContext.prepare_eq] at h
      cases h
  | slidingWindow maxTurns =>
    refine Spec.ofExcept ⟨fun context h => ?_, fun failure h => ?_⟩
    · rw [SlidingWindowContext.prepare_eq] at h
      cases h
      exact ⟨_, rfl⟩
    · rw [SlidingWindowContext.prepare_eq] at h
      cases h
  | tokenBudget maxTokens hpos =>
    refine ((TokenBudgetContext.prepare_selects maxTokens state model s).weaken ?_).mono ?_
    · rintro _ ⟨messages, rfl⟩
      rfl
    rintro o s' e ⟨-, -, hok, herror⟩
    refine ⟨fun context ho => ?_, fun failure ho => ?_⟩
    · obtain ⟨d, -, hd⟩ := hok context ho
      exact ⟨d, hd⟩
    · rcases herror failure ho with ⟨required, hrequired⟩ | ⟨messages, reply, hmem, hcount⟩
      · exact .inr ⟨maxTokens, hpos, required, rfl, hrequired⟩
      · exact .inl ⟨_, hmem, hcount⟩
  | custom => cases hbuiltin

namespace Conversation

variable {c : Conversation}

/-- **Building a request**, over a history to which messages were added. The constructors that it
calls accept what they are given. -/
theorem buildRequest_builds (hbuiltin : c.contextPolicy.isBuiltin = true)
    {session : TurnPromptSession}
    (hunique : Keyed.Unique SystemReminder.key session.baseReminders) {state : ConversationState}
    {w : Working} {added : List Message} (hadded : added ≠ [])
    (hw : w.messages = state.messages ++ added) (completed : ℕ) (s : ReminderState) :
    Spec TurnCall.IsPrompting (c.buildRequest session state w completed) s fun o _ e =>
      Builds session.sources c.limits (requestContinuation c.continuationPolicy w.continuation)
        o e := by
  have hsplits := state.splits.extend added
  rw [← hw] at hsplits
  have honly : Only TurnCall.IsPrompting (c.buildRequest session state w completed) :=
    (Only.ofExcept _).bind fun _ => (ContextPolicy.prepare_only hbuiltin _ _).bind fun _ =>
      session.compile_only _ _ _ _
  suffices hbuilds : Spec IsCallback (c.buildRequest session state w completed) s fun o _ e =>
      Builds session.sources c.limits (requestContinuation c.continuationPolicy w.continuation) o e
    from hbuilds.restrict honly
  unfold buildRequest
  rw [ConversationState.make_eq_ok hsplits.valid state.index_eq]
  refine (ContextPolicy.prepare_drops hbuiltin _ _ _).bind ?_ ?_
  · rintro prepared s' e ⟨hprepared, -⟩
    obtain ⟨d, rfl⟩ := hprepared prepared rfl
    have hdraft : c.Drafts (c.draft (PreparedContext.dropTurns ⟨w.messages, w.continuation,
        state.turnBoundaries, hsplits.valid⟩ d)) := by
      refine ⟨rfl, rfl, rfl, fun hnil => hadded ?_⟩
      change (PreparedContext.dropTurns _ d).current = [] at hnil
      rw [PreparedContext.current_dropTurns] at hnil
      have hrest : Segments.rest w.messages state.turnBoundaries = state.current ++ added :=
        hsplits.slices.2
      change Segments.rest w.messages state.turnBoundaries = [] at hnil
      rw [hrest, List.append_eq_nil_iff] at hnil
      exact hnil.2
    refine (TurnPromptSession.compile_builds hunique hdraft _ completed c.requestBudget ?_ s').mono
      fun _ _ _ h => h.append_left e
    intro budget hbudget
    rw [limits, Option.mem_def.1 hbudget]
    exact List.mem_append_right _ (List.mem_singleton_self _)
  · rintro failure s' e ⟨-, hfails⟩
    refine ⟨fun _ h => (by cases h), fun failure' h => ?_⟩
    rcases hfails failure rfl with hblames | ⟨maxTokens, hpos, required, hpolicy, rfl⟩
    · cases h
      exact .fault _ hblames
    · cases h
      refine .budget maxTokens required ?_
      rw [limits, hpolicy]
      exact List.mem_append_left _ (List.mem_singleton_self _)

end Conversation

/-! ### The continuation of a round -/

/-- The response that an effect has brought. -/
def response? : (Σ call, TurnReply call) → Option ModelResponse
  | ⟨.generate _ _, reply⟩ => typed? reply
  | _ => none

/-- The continuation of the last response, or the committed one. -/
def continuationAfter (committed : Option ModelContinuation) (tr : TurnTrace) :
    Option ModelContinuation :=
  ((tr.filterMap response?).getLast?.map ModelResponse.continuation).getD committed

section Continuation

variable {committed : Option ModelContinuation}

lemma continuationAfter_append (h : TurnTrace) {e : TurnTrace}
    (he : ∀ x ∈ e, response? x = none) :
    continuationAfter committed (h ++ e) = continuationAfter committed h := by
  have hnone : e.filterMap response? = [] := List.filterMap_eq_nil_iff.2 he
  rw [continuationAfter, continuationAfter, List.filterMap_append, hnone, List.append_nil]

lemma continuationAfter_snoc (h : TurnTrace) {x : Σ call, TurnReply call}
    {response : ModelResponse} (hx : response? x = some response) :
    continuationAfter committed (h ++ [x]) = response.continuation := by
  have hsome : [x].filterMap response? = [response] := by
    rw [List.filterMap_cons_some hx, List.filterMap_nil]
  rw [continuationAfter, List.filterMap_append, hsome, List.getLast?_append]
  rfl

/-- A call other than `Generate` brings no response. -/
lemma response?_of_ne {x : Σ call, TurnReply call}
    (hx : ∀ model request, x.1 ≠ .generate model request) : response? x = none := by
  obtain ⟨call, reply⟩ := x
  cases call with
  | generate model request => exact absurd rfl (hx model request)
  | _ => rfl

end Continuation

/-! ### The turn -/

/-- The reasons for which a turn fails: a request was not built, an effect has raised or brought
another object, or there is no round left. -/
inductive TurnFailure (c : Conversation) (maxModelRounds : ℕ) (tr : TurnTrace) : Failure → Prop
  /-- The calls that were made for this request are `e`. -/
  | notBuilt (before e : TurnTrace) (failure : Failure) (hcalls : tr = before ++ e)
      (hprompting : ∀ x ∈ e, x.1.IsPrompting)
      (h : RequestFailure c.reminderSources c.limits e failure) :
      TurnFailure c maxModelRounds tr failure
  | effect (x : Σ call, TurnReply call) (failure : Failure) (hmem : x ∈ tr)
      (heffect : x.1.isEffect = true) (h : Fault x.1 x.2 failure) :
      TurnFailure c maxModelRounds tr failure
  | noRound (response : ModelResponse) :
      TurnFailure c maxModelRounds tr (.toolLoopLimit maxModelRounds response)

/-- The requests that a turn hands to the model go to the model of the conversation, with the
continuation of the last response. -/
def Conversation.Continues (c : Conversation) (committed : Option ModelContinuation)
    (tr : TurnTrace) (call : TurnCall) : Prop :=
  ∀ model request, call = .generate model request → model = c.model ∧
    request.continuation = requestContinuation c.continuationPolicy (continuationAfter committed tr)

/-- The effects other than `Generate`. -/
def TurnCall.IsOther : TurnCall → Prop
  | .inputPoll | .invokeTool _ _ => True
  | _ => False

lemma TurnCall.IsOther.ne_generate {call : TurnCall} (h : call.IsOther) (model : Model)
    (request : ModelRequest) : call ≠ .generate model request := by
  rintro rfl
  exact h

lemma TurnCall.IsPrompting.ne_generate {call : TurnCall} (h : call.IsPrompting) (model : Model)
    (request : ModelRequest) : call ≠ .generate model request := by
  rintro rfl
  exact h

lemma TurnCall.IsOther.isEffect {call : TurnCall} (h : call.IsOther) : call.isEffect = true := by
  cases call with
  | inputPoll => rfl
  | invokeTool tool call => rfl
  | _ => exact h.elim

/-- Polling the input. -/
lemma pollInput_fails (poll : Bool) (s : ReminderState) :
    Spec TurnCall.IsOther (pollInput poll) s OnlyBlames := by
  unfold pollInput
  split
  · exact Spec.pure (OnlyBlames.ok _ _ _)
  refine Spec.call_bind trivial fun reply =>
    spec_receive (fun value hreply => ?_) fun error hreply =>
    OnlyBlames.of_fault .inputPoll reply s (.inl ⟨error, hreply, rfl⟩) _
  split
  · next hvalue =>
    exact Spec.throw (OnlyBlames.of_fault .inputPoll reply s (.inr ⟨value, hreply, hvalue, rfl⟩) _)
  · exact Spec.pure (OnlyBlames.ok _ _ _)

/-- Invoking the tools adds messages to the transcript. -/
lemma Conversation.invokeTools_fails (c : Conversation) (calls : List ToolCallBlock) (w : Working)
    (s : ReminderState) :
    Spec TurnCall.IsOther (c.invokeTools calls w) s fun o s' e =>
      OnlyBlames o s' e ∧ ∀ w', o = .ok w' →
        w'.continuation = w.continuation ∧ ∃ added, w'.messages = w.messages ++ added := by
  induction calls generalizing w with
  | nil =>
    refine Spec.pure ⟨OnlyBlames.ok _ _ _, fun w' h => ?_⟩
    cases h
    exact ⟨rfl, [], (List.append_nil _).symm⟩
  | cons call calls ih =>
    refine Spec.call_bind trivial fun reply => spec_receive (fun answer hreply => ?_)
      fun error hreply => ?_
    · cases answer with
      | typed result =>
        refine (ih _).mono fun o s' e h => ⟨fun failure ho => ?_, fun w' ho => ?_⟩
        · exact (h.1 failure ho).append_left [_]
        · obtain ⟨hcontinuation, added, hadded⟩ := h.2 w' ho
          exact ⟨hcontinuation, toolMessage call result :: added, by simpa using hadded⟩
      | other error =>
        refine ⟨OnlyBlames.of_fault (.invokeTool _ call) reply s ?_ _, fun _ h => by cases h⟩
        exact .inr ⟨error, hreply, rfl⟩
    · refine ⟨OnlyBlames.of_fault (.invokeTool _ call) reply s ?_ _, fun _ h => by cases h⟩
      exact .inl ⟨error, hreply, rfl⟩

namespace Conversation

section Rounds

variable {c : Conversation} {session : TurnPromptSession} {state : ConversationState}
  {maxModelRounds : ℕ} {poll : Bool} {s : ReminderState} {h : TurnTrace}

/-- The turn makes only calls as it should, and fails as it should. -/
abbrev Goes (c : Conversation) (state : ConversationState) (maxModelRounds : ℕ)
    (x : TurnM ModelTurnResult) (s : ReminderState) (h : TurnTrace) : Prop :=
  wp (.log (c.Continues state.continuation)) x
    (fun o _ h' => ∀ failure, o = .error failure → TurnFailure c maxModelRounds h' failure) s h

/-- The transcript is longer than the committed one, and its continuation is that of the last
response. -/
structure Grows (state : ConversationState) (w : Working) (h : TurnTrace) : Prop where
  messages : ∃ added, added ≠ [] ∧ w.messages = state.messages ++ added
  continuation : w.continuation = continuationAfter state.continuation h

/-- More messages, with the same continuation. -/
lemma Grows.append {w w' : Working} {h h' : TurnTrace} (hw : Grows state w h)
    (hcontinuation : w'.continuation = w.continuation)
    (hafter : continuationAfter state.continuation h' = continuationAfter state.continuation h)
    (hmessages : ∃ added, w'.messages = w.messages ++ added) : Grows state w' h' := by
  obtain ⟨added, hadded, hw₁⟩ := hw.messages
  obtain ⟨more, hw₂⟩ := hmessages
  refine ⟨⟨added ++ more, fun hnil => hadded (List.append_eq_nil_iff.1 hnil).1, ?_⟩, ?_⟩
  · rw [hw₂, hw₁, List.append_assoc]
  · rw [hcontinuation, hafter, hw.continuation]

/-- Effects other than `Generate`, and what follows. -/
lemma wp_effects {α : Type} {x : TurnM α} {f : α → TurnM ModelTurnResult} {P : α → Prop}
    (hx : Spec TurnCall.IsOther x s fun o s' e => OnlyBlames o s' e ∧ ∀ a, o = .ok a → P a)
    (hf : ∀ a s' e, P a →
      continuationAfter state.continuation (h ++ e) = continuationAfter state.continuation h →
        c.Goes state maxModelRounds (f a) s' (h ++ e)) :
    c.Goes state maxModelRounds (x >>= f) s h := by
  refine (wp_bind _ _ _ _ _).2 (wp_spec hx ?_ ?_)
  · intro e call _ hcall model request hgenerate
    exact absurd hgenerate (hcall.ne_generate model request)
  · intro o s' e he ho
    cases o with
    | ok a =>
      refine hf a s' e (ho.2 a rfl) (continuationAfter_append h fun x hx => ?_)
      exact response?_of_ne (he x hx).ne_generate
    | error failure =>
      intro failure' hfailure
      cases hfailure
      obtain ⟨x, hx, hfault⟩ := ho.1 failure rfl
      exact .effect x failure (List.mem_append_right _ hx) (he x hx).isEffect hfault

/-- One request, and what follows the response. -/
lemma wp_request (hbuiltin : c.contextPolicy.isBuiltin = true)
    (hunique : Keyed.Unique SystemReminder.key session.baseReminders)
    (hsources : session.sources = c.reminderSources) {w : Working} (hw : Grows state w h)
    (completed : ℕ) {f : ModelResponse → TurnM ModelTurnResult}
    (hf : ∀ response s' h', continuationAfter state.continuation h' = response.continuation →
      c.Goes state maxModelRounds (f response) s' h') :
    c.Goes state maxModelRounds (do
      let compiled ← c.buildRequest session state w completed
      let answer ← receive (← Routine.call (.generate c.model compiled.request))
      let response ← answer.use
      f response) s h := by
  obtain ⟨added, hadded, hmessages⟩ := hw.messages
  refine (wp_bind _ _ _ _ _).2 (wp_spec
    (buildRequest_builds hbuiltin hunique hadded hmessages completed s) ?_ ?_)
  · intro e call _ hcall model request hgenerate
    exact absurd hgenerate (hcall.ne_generate model request)
  intro o s' e he hbuilds
  cases o with
  | error failure =>
    intro failure' hfailure
    cases hfailure
    refine .notBuilt h e failure rfl he ?_
    rw [← hsources]
    exact hbuilds.2 failure rfl
  | ok compiled =>
    have hafter : continuationAfter state.continuation (h ++ e) = w.continuation := by
      rw [hw.continuation]
      exact continuationAfter_append h fun x hx => response?_of_ne (he x hx).ne_generate
    refine ⟨fun model request hcall => ?_, fun reply _ => ?_⟩
    · cases hcall
      refine ⟨rfl, ?_⟩
      rw [hafter]
      exact hbuilds.1 compiled rfl
    have hlast : (⟨.generate c.model compiled.request, reply⟩ : Σ call, TurnReply call) ∈
        h ++ e ++ [⟨.generate c.model compiled.request, reply⟩] :=
      List.mem_append_right _ (List.mem_singleton_self _)
    rcases reply with error | answer
    · intro failure hfailure
      cases hfailure
      exact .effect _ _ hlast rfl (.inl ⟨error, rfl, rfl⟩)
    · cases answer with
      | typed response => exact hf response s' _ (continuationAfter_snoc _ rfl)
      | other error =>
        intro failure hfailure
        cases hfailure
        exact .effect _ _ hlast rfl (.inr ⟨error, rfl, rfl⟩)

/-- **The rounds.** What the turn keeps of its transcript is enough for all constructors. -/
theorem wp_runRounds (hbuiltin : c.contextPolicy.isBuiltin = true)
    (hunique : Keyed.Unique SystemReminder.key session.baseReminders)
    (hsources : session.sources = c.reminderSources) (remaining : ℕ) {completed : ℕ}
    {w : Working} (hlt : completed < maxModelRounds)
    (htotal : remaining + completed = maxModelRounds) (hw : Grows state w h) :
    c.Goes state maxModelRounds
      (c.runRounds session state maxModelRounds poll remaining completed w) s h := by
  have hpoll (s : ReminderState) : Spec TurnCall.IsOther (pollInput poll) s fun o s' e =>
      OnlyBlames o s' e ∧ ∀ messages, o = .ok messages → True :=
    (pollInput_fails poll s).mono fun _ _ _ h => ⟨h, fun _ _ => trivial⟩
  induction remaining generalizing completed w s h with
  | zero => omega
  | succ remaining ih =>
    refine wp_effects (hpoll s) fun before s₁ e₁ _ hafter₁ => ?_
    have hw₁ : Grows state { w with messages := w.messages ++ before } (h ++ e₁) :=
      hw.append rfl hafter₁ ⟨before, rfl⟩
    refine wp_request hbuiltin hunique hsources hw₁ completed fun response s₂ h₂ hafter₂ => ?_
    refine wp_effects (hpoll s₂) fun incoming s₃ e₃ _ hafter₃ => ?_
    obtain ⟨added, hadded, hmessages⟩ := hw₁.messages
    have hmore : added ++ [response.message] ≠ [] := by simp
    have hmessages₂ : w.messages ++ before ++ [response.message] =
        state.messages ++ (added ++ [response.message]) := by
      rw [← List.append_assoc, ← hmessages]
    have hw₃ : Grows state ⟨w.messages ++ before ++ [response.message], response.continuation,
        w.toolResults⟩ (h₂ ++ e₃) :=
      ⟨⟨_, hmore, hmessages₂⟩, (hafter₃.trans hafter₂).symm⟩
    split
    · -- The commit: the new boundary lies after the messages of the turn.
      obtain ⟨committed, hcommitted⟩ := state.make_commit hmore response.continuation
      rw [← hmessages₂] at hcommitted
      refine (wp_bind _ _ _ _ _).2 ?_
      rw [wp_ofExcept, hcommitted]
      intro failure hfailure
      cases hfailure
    split
    · intro failure hfailure
      cases hfailure
      exact .noRound response
    · next hlimit =>
      have htools := (c.invokeTools_fails response.toolCalls ⟨w.messages ++ before ++
        [response.message], response.continuation, w.toolResults⟩ s₃)
      refine wp_effects htools fun w' s₄ e₄ hw' hafter₄ => ?_
      refine ih (by omega) (by omega) (hw₃.append hw'.1 hafter₄ ?_)
      obtain ⟨results, hresults⟩ := hw'.2
      exact ⟨results ++ incoming, by simp [hresults]⟩

end Rounds

end Conversation

/-! ### The constructors that a turn calls -/

/-- A failure of a constructor that a turn calls: `ConversationState`, `PreparedContext`,
`ReminderResolutionContext` or `ModelRequest`. `PromptDraft` checks types only. -/
inductive ConstructorFailure : Failure → Prop
  | state (messages : List Message) (continuation : Option ModelContinuation) (turnIndex : ℕ)
      (turnBoundaries : List ℕ) (failure : Failure)
      (h : ConversationState.make messages continuation turnIndex turnBoundaries =
        .error failure) : ConstructorFailure failure
  | context (messages : List Message) (continuation : Option ModelContinuation)
      (turnBoundaries : List ℕ) (failure : Failure)
      (h : PreparedContext.make messages continuation turnBoundaries = .error failure) :
      ConstructorFailure failure
  | resolution (context : ReminderResolutionContext) (prepared : PreparedContext)
      (modelRound : ℕ) (failure : Failure)
      (h : context.replace prepared modelRound = .error failure) : ConstructorFailure failure
  | request (messages : List Message) (instructions : List SystemInstruction)
      (reminders : List SystemReminder) (tools : List ToolSpec) (settings : ModelSettings)
      (cache : PromptCachePolicy) (continuation : Option ModelContinuation)
      (metadata providerOptions : JsonObject) (failure : Failure)
      (h : ModelRequest.make messages instructions reminders tools settings cache continuation
        metadata providerOptions = .error failure) : ConstructorFailure failure

/-- The texts of these constructors. -/
def constructorTexts : List String := [
  "turn_boundaries must be strictly increasing and positive.",
  "turn_boundaries must not exceed the number of messages.",
  "turn_index must equal the number of turn_boundaries.",
  "model_round must be greater than zero.",
  "at least one message, system instruction, or system reminder is required.",
  "tools must have unique names.",
  "instructions must have unique non-empty keys.",
  "reminders must have unique non-empty keys.",
  "tools must not be empty when tool_choice is required."]

lemma normalizeBoundaries_text {messageCount previous : ℕ} {boundaries : List ℕ}
    {failure : Failure}
    (h : normalizeBoundaries messageCount previous boundaries = .error failure) :
    ∃ text ∈ constructorTexts, failure = .valueError text := by
  have hboundary : IsBoundaryFailure failure := ⟨_, _, _, h⟩
  rcases hboundary.text with rfl | rfl
  · exact ⟨_, by simp [constructorTexts], rfl⟩
  · exact ⟨_, by simp [constructorTexts], rfl⟩

/-- A constructor raises one of its texts. -/
lemma ConstructorFailure.text {failure : Failure} (h : ConstructorFailure failure) :
    ∃ text ∈ constructorTexts, failure = .valueError text := by
  cases h with
  | state messages continuation turnIndex turnBoundaries _ h =>
    unfold ConversationState.make at h
    split at h
    · next hboundaries =>
      cases h
      exact normalizeBoundaries_text hboundaries
    · split at h
      · cases h
      · cases h
        exact ⟨_, by simp [constructorTexts], rfl⟩
  | context messages continuation turnBoundaries _ h =>
    unfold PreparedContext.make at h
    split at h
    · next hboundaries =>
      cases h
      exact normalizeBoundaries_text hboundaries
    · cases h
  | resolution context prepared modelRound _ h =>
    unfold ReminderResolutionContext.replace at h
    split at h
    · cases h
    · cases h
      exact ⟨_, by simp [constructorTexts], rfl⟩
  | request messages instructions reminders tools settings cache continuation metadata
      providerOptions _ h =>
    unfold ModelRequest.make at h
    split_ifs at h
    all_goals
      cases h
      exact ⟨_, by simp [constructorTexts], rfl⟩

/-- **No constructor is to blame** when a turn fails. -/
theorem TurnFailure.not_constructor {c : Conversation} {maxModelRounds : ℕ} {tr : TurnTrace}
    {failure : Failure} (h : TurnFailure c maxModelRounds tr failure) :
    ¬ ConstructorFailure failure := by
  intro hconstructor
  obtain ⟨text, htext, rfl⟩ := hconstructor.text
  have hdisjoint : ∀ text ∈ constructorTexts, text ∉ faultTexts ∧
      text ≠ "dynamic_source_ids must be unique." := by decide
  cases h with
  | effect x _ hmem heffect h => exact (hdisjoint text htext).1 h.text
  | notBuilt before e _ hcalls hprompting h =>
    cases h with
    | fault _ h =>
      obtain ⟨x, -, hfault⟩ := h
      exact (hdisjoint text htext).1 hfault.text
    | sourceIds ids reads h => exact (hdisjoint _ htext).2 rfl

/-- The input of a turn is a user message. -/
lemma UserInput.role_of_normalize {input : UserInput} {message : Message}
    (h : input.normalize = .ok message) : message.role = .user := by
  cases input with
  | text text =>
    cases h
    rfl
  | template rendered =>
    cases rendered with
    | error failure => cases h
    | ok text =>
      cases h
      rfl
  | message value =>
    rw [UserInput.normalize] at h
    split at h
    · next hrole =>
      cases h
      exact hrole
    · cases h
  | other => cases h

/-- What `ask` accepts. -/
lemma Conversation.ask_ok {c : Conversation} {input : UserInput} {rounds : Option ℕ} {poll : Bool}
    {a : Ask} (h : c.ask input rounds poll = .ok a) :
    a.userMessage.role = .user ∧ 0 < a.maxModelRounds := by
  unfold ask at h
  obtain ⟨message, hmessage, h⟩ := bind_eq_ok.1 h
  dsimp only at h
  split at h
  · cases h
  · next hpos =>
    cases h
    exact ⟨UserInput.role_of_normalize hmessage, Nat.pos_of_ne_zero hpos⟩

/-- **Why a turn fails.** For every conversation with a built-in policy, every facade and every
accepted `ask`, whatever the effects and the collaborators do:

* every request goes to the model of the conversation, has unique tool names and keys, and has no
  continuation under `CLIENT_MANAGED`, otherwise that of the last response of the turn, or the
  committed one;
* if the turn fails, then because of an effect, or because there is no round left, or because a
  request was not built: a counter, a source or the trace sink has raised or broken its contract, a
  key of a source is taken, or a budget is exceeded;
* no constructor that the turn calls has failed. -/
theorem turn_failures {c : Conversation} (hbuiltin : c.contextPolicy.isBuiltin = true)
    {input : UserInput} {rounds : Option ℕ} {poll : Bool} {a : Ask}
    (hask : c.ask input rounds poll = .ok a) (facade : Facade) {tr : TurnTrace}
    {q : Prog TurnCall TurnReply (Except Failure ModelTurnResult × ReminderState)}
    (hexec : Exec (c.turn facade a) tr q) :
    (∀ model request k, q = .call (.generate model request) k →
      model = c.model ∧ (request.tools.map ToolSpec.name).Nodup ∧
        Keyed.Unique SystemInstruction.key request.instructions ∧
        Keyed.Unique SystemReminder.key request.reminders ∧
        request.continuation =
          if c.continuationPolicy = .clientManaged then none
          else continuationAfter facade.state.continuation tr) ∧
    ∀ failure remaining, q = .ret (.error failure, remaining) →
      TurnFailure c a.maxModelRounds tr failure ∧ ¬ ConstructorFailure failure := by
  obtain ⟨hrole, hpos⟩ := c.ask_ok hask
  have hgoes : c.Goes facade.state a.maxModelRounds (c.runModelTurn
      (c.session facade.reminderState) facade.state a.userMessage a.maxModelRounds a.inputPoll)
      (facade.reminderState.clearScope .turn) [] := by
    unfold Conversation.runModelTurn
    rw [if_neg (not_not.2 hrole), if_neg (Nat.ne_of_gt hpos)]
    refine Conversation.wp_runRounds hbuiltin facade.reminderState.unique rfl _ hpos rfl ?_
    exact ⟨⟨[a.userMessage], List.cons_ne_nil _ _, rfl⟩, rfl⟩
  refine ⟨fun model request k hq => ?_, fun failure remaining hq => ?_⟩
  · rw [hq] at hexec
    have hcontinues := Prog.history_call hexec hgoes fun _ _ => trivial
    rw [kept_true] at hcontinues
    obtain ⟨hmodel, hcontinuation⟩ := hcontinues model request rfl
    exact ⟨hmodel, request.tool_names, request.instruction_keys, request.reminder_keys,
      hcontinuation⟩
  · rw [hq] at hexec
    have hends := Prog.history_ret hexec hgoes fun _ _ => trivial
    rw [kept_true] at hends
    have hfails : TurnFailure c a.maxModelRounds tr failure := hends failure rfl
    exact ⟨hfails, hfails.not_constructor⟩

/-- A stored reminder. -/
def storedNote : SystemReminder where
  content := [.text "note"]
  key := some ⟨"note", by decide⟩
  scope := .conversation
  placement := .auto
  priority := 0
  content_ne := ContentBlock.text_ne_nil "note"
  keyed _ := by decide

/-- A conversation with a reminder source. -/
def sourcedConversation : Conversation :=
  { plainConversation with reminderSources := [⟨.given 0⟩] }

/-- The source has a reminder with the key of the stored one. -/
def clashAnswers : (call : TurnCall) → TurnReply call
  | .sourceId _ => .ok (.str "source")
  | .resolve _ _ => .ok (.items [.reminder storedNote])
  | call => call.exit

/-- The failure of a turn, if it is that of a key. -/
def clashingKey? : Except Failure ModelTurnResult × ReminderState → Option NonEmptyString
  | (.error (.promptCompile _ key), _) => key
  | _ => none

/-- A turn that fails because the key of a source is taken. -/
theorem turn_failures_clash : ∃ a tr failure remaining,
    sourcedConversation.ask (.text "hello") none false = .ok a ∧
      Exec (sourcedConversation.turn ⟨true, .empty, .ofList [storedNote]⟩ a) tr
        (.ret (.error failure, remaining)) ∧
      clashingKey? (.error failure, remaining) = storedNote.key ∧
      TurnFailure sourcedConversation a.maxModelRounds tr failure ∧
      ¬ ConstructorFailure failure := by
  let a : Ask := ⟨.user "hello", 8, false⟩
  have hask : sourcedConversation.ask (.text "hello") none false = .ok a := rfl
  have heval : ((sourcedConversation.turn ⟨true, .empty, .ofList [storedNote]⟩ a).eval
      clashAnswers).map clashingKey? = some storedNote.key := by decide +kernel
  obtain ⟨⟨outcome, remaining⟩, hreturned, hkey⟩ := Option.map_eq_some_iff.1 heval
  obtain ⟨tr, hexec, -⟩ := Prog.exec_of_eval hreturned
  cases outcome with
  | ok result => cases hkey
  | error failure =>
    obtain ⟨-, hfails⟩ := @turn_failures sourcedConversation rfl (.text "hello") none false a hask
      ⟨true, .empty, .ofList [storedNote]⟩ tr _ hexec
    obtain ⟨hfailure, hconstructor⟩ := hfails failure remaining rfl
    exact ⟨a, tr, failure, remaining, hask, hexec, hkey, hfailure, hconstructor⟩

end PurrceptCore
