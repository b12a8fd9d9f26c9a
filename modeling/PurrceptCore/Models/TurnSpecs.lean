import Mathlib.Data.List.DropRight
import PurrceptCore.Interaction.Log
import PurrceptCore.Models.Loop

set_option relaxedAutoImplicit false
set_option autoImplicit false

/-!
# Specifications of the parts of a turn

What the code between two effects does: which history a policy selects, what a compiled request is
made of, and what becomes of the reminders that remain. None of it yields an effect.

## Main definitions

* `PurrceptCore.resolutions` — the reminders that the sources have resolved in a trace.
* `PurrceptCore.TurnPromptSession.consume` — what an accepted request leaves of the reminders.
* `PurrceptCore.TurnPromptSession.Compiles` — the outcome of a compilation.

## Main results

* `PurrceptCore.ContextPolicy.prepare_spec` — a built-in policy drops oldest turns.
* `PurrceptCore.TurnPromptSession.compile_spec` — an accepted request shows the active reminders and
  those that each source has resolved last; a compilation that raises consumes nothing.
-/

namespace PurrceptCore

open Interaction Routine

/-- A call that is not a yield. -/
abbrev IsCallback (call : TurnCall) : Prop := call.isEffect = false

/-- The reminders that a source has resolved. -/
def resolution? : (Σ call, TurnReply call) → Option (List SystemReminder)
  | ⟨.resolve _ _, .ok resolved⟩ => (checkResolved resolved).toOption
  | _ => none

/-- The reminders that the sources have resolved, one list for each time a source was asked. -/
def resolutions (tr : TurnTrace) : List (List SystemReminder) := tr.filterMap resolution?

@[simp] lemma resolutions_append (tr tr' : TurnTrace) :
    resolutions (tr ++ tr') = resolutions tr ++ resolutions tr' :=
  List.filterMap_append

/-- The outcome of a callback: nothing is consumed and nothing resolved. -/
def Plain {α : Type} (s : ReminderState) (_ : Except Failure α) (s' : ReminderState)
    (e : TurnTrace) : Prop :=
  s' = s ∧ resolutions e = []

/-- Going on with what came back. -/
lemma spec_receive {S C α β : Type} {R : C → Type} {allow : C → Prop} {s : S}
    {f : β → Routine S C R Failure α} {Q : Except Failure α → S → Trace C R → Prop}
    {reply : Except Exc β} (hok : ∀ value, reply = .ok value → Spec allow (f value) s Q)
    (herror : ∀ error, reply = .error error → Q (.error (.raised error)) s []) :
    Spec allow (receive reply >>= f) s Q := by
  cases reply with
  | ok value => exact hok value rfl
  | error error => exact herror error rfl

lemma emitPromptTrace_spec (sink : Bool) (event : PromptTraceEvent) (s : ReminderState) :
    Spec IsCallback (emitPromptTrace sink event) s (Plain s) := by
  unfold emitPromptTrace
  split
  · exact ⟨rfl, rfl⟩
  · refine ⟨rfl, fun reply _ => ?_⟩
    match reply with
    | .error error => exact ⟨rfl, rfl⟩
    | .ok .none => exact ⟨rfl, rfl⟩
    | .ok .awaitable => exact ⟨rfl, rfl⟩
    | .ok .other => exact ⟨rfl, rfl⟩

lemma validateCount_spec (counter : String) (count : Count) (s : ReminderState) :
    Spec IsCallback (validateCount counter count) s (Plain s) := by
  cases count with
  | awaitable => exact ⟨rfl, rfl⟩
  | other => exact ⟨rfl, rfl⟩
  | int value =>
    change Spec _ (if value < 0 then _ else _) _ _
    split
    · exact ⟨rfl, rfl⟩
    · exact ⟨rfl, rfl⟩

lemma countTokens_spec (messages : List Message) (model : Model) (s : ReminderState) :
    Spec IsCallback (countTokens messages model) s (Plain s) :=
  Spec.call_bind rfl fun _ => spec_receive
    (fun count _ => (validateCount_spec _ count s).mono fun _ _ _ h => h)
    fun _ _ => ⟨rfl, rfl⟩

lemma countRequest_spec (request : ModelRequest) (model : Model) (s : ReminderState) :
    Spec IsCallback (countRequest request model) s (Plain s) :=
  Spec.call_bind rfl fun _ => spec_receive
    (fun count _ => (validateCount_spec _ count s).mono fun _ _ _ h => h)
    fun _ _ => ⟨rfl, rfl⟩

/-! ### Selecting the context -/

namespace TokenBudgetContext

/-- The loop ends at the start of a turn. -/
lemma extend_spec (maxTokens : ℕ) (state : ConversationState) (model : Model) (s : ReminderState)
    (turnIndex : ℕ) {start : ℕ × ℕ} (hindex : turnIndex ≤ state.turnBoundaries.length)
    (hstart : ∃ k ≤ state.turnBoundaries.length,
      start = (Segments.startOf state.turnBoundaries k, k)) :
    Spec IsCallback (extend maxTokens state model turnIndex start) s fun o s' e =>
      Plain s o s' e ∧ ∀ p, o = .ok p → ∃ k ≤ state.turnBoundaries.length,
        p = (Segments.startOf state.turnBoundaries k, k) := by
  induction turnIndex generalizing start with
  | zero => exact Spec.pure ⟨⟨rfl, rfl⟩, fun p hp => by cases hp; exact hstart⟩
  | succ turnIndex ih =>
    have hle : turnIndex ≤ state.turnBoundaries.length := by omega
    refine (countTokens_spec _ model s).bind (fun count s' e he => ?_) fun _ _ _ he =>
      ⟨he, nofun⟩
    obtain ⟨rfl, hnone⟩ := he
    split
    · exact Spec.pure ⟨⟨rfl, by rw [List.append_nil, hnone]⟩, fun p hp => by cases hp; exact hstart⟩
    · refine (ih hle ⟨turnIndex, hle, rfl⟩).mono fun o s' e' h => ?_
      exact ⟨⟨h.1.1, by rw [resolutions_append, hnone, h.1.2]; rfl⟩, h.2⟩

/-- `TokenBudgetContext` keeps the newest turns that fit. -/
lemma prepare_spec (maxTokens : ℕ) (state : ConversationState) (model : Model)
    (s : ReminderState) :
    Spec IsCallback (prepare maxTokens state model) s fun o s' e =>
      Plain s o s' e ∧ ∀ context, o = .ok context →
        context.Retains state.messages state.continuation state.turnBoundaries := by
  refine (countTokens_spec _ model s).bind (fun count s' e he => ?_) fun _ _ _ he => ⟨he, nofun⟩
  obtain ⟨rfl, hnone⟩ := he
  split
  · exact Spec.throw ⟨⟨rfl, by rw [List.append_nil, hnone]⟩, nofun⟩
  · refine (extend_spec maxTokens state model _ _ le_rfl ⟨_, le_rfl, rfl⟩).bind ?_ ?_
    · rintro p s' e' ⟨⟨rfl, hnone'⟩, hp⟩
      obtain ⟨k, hk, rfl⟩ := hp p rfl
      obtain ⟨context, hcontext, hretains⟩ := retainFrom_ok state hk
      refine Spec.ofExcept ⟨⟨rfl, ?_⟩, fun context' h => ?_⟩
      · rw [List.append_nil, resolutions_append, hnone, hnone']
        rfl
      · rw [hcontext] at h
        cases h
        exact hretains
    · rintro error s' e' ⟨⟨rfl, hnone'⟩, -⟩
      exact ⟨⟨rfl, by rw [resolutions_append, hnone, hnone']; rfl⟩, nofun⟩

end TokenBudgetContext

/-- **Selecting the context**: a built-in policy drops oldest turns. -/
theorem ContextPolicy.prepare_spec (policy : ContextPolicy) (state : ConversationState)
    (model : Model) (s : ReminderState) :
    Spec IsCallback (policy.prepare state model) s fun o s' e =>
      Plain s o s' e ∧ ∀ context, o = .ok context → Selects policy state context := by
  cases policy with
  | appendOnly =>
    obtain ⟨context, hcontext, hretains⟩ := AppendOnlyContext.prepare_ok state
    refine Spec.ofExcept ⟨⟨rfl, rfl⟩, fun context' h _ => ?_⟩
    rw [hcontext] at h
    cases h
    exact hretains
  | slidingWindow maxTurns =>
    obtain ⟨context, hcontext, hretains⟩ := SlidingWindowContext.prepare_ok maxTurns state
    refine Spec.ofExcept ⟨⟨rfl, rfl⟩, fun context' h _ => ?_⟩
    rw [hcontext] at h
    cases h
    exact hretains
  | tokenBudget maxTokens hpos =>
    exact (TokenBudgetContext.prepare_spec maxTokens state model s).mono fun o s' e h =>
      ⟨h.1, fun context ho _ => h.2 context ho⟩
  | custom =>
    refine Spec.call_bind rfl fun _ => spec_receive (fun prepared hreply => ?_) fun _ _ =>
      ⟨⟨rfl, rfl⟩, nofun⟩
    cases prepared with
    | context context => exact Spec.pure ⟨⟨rfl, rfl⟩, fun _ _ h => nomatch h⟩
    | awaitable => exact Spec.throw ⟨⟨rfl, rfl⟩, nofun⟩
    | other => exact Spec.throw ⟨⟨rfl, rfl⟩, nofun⟩

/-- The last items of a list do not depend on what comes before, if there are enough of them. -/
lemma rtake_append_of_le {α : Type} {xs ys : List α} {n : ℕ} (h : n ≤ ys.length) :
    (xs ++ ys).rtake n = ys.rtake n := by
  rw [List.rtake, List.rtake, List.length_append, Nat.add_sub_assoc h, List.drop_length_add_append]

/-! ### Resolving the sources -/

lemma resolution?_resolve {source : ReminderSource} {context : ReminderResolutionContext}
    {resolved : Resolved} {reminders : List SystemReminder}
    (h : checkResolved resolved = .ok reminders) :
    resolution? ⟨.resolve source context, .ok resolved⟩ = some reminders := by
  rw [resolution?, h]
  rfl

/-- A source is asked for its reminders. -/
lemma resolveReminderSource_spec (source : ReminderSource) (context : ReminderResolutionContext)
    (s : ReminderState) :
    Spec IsCallback (resolveReminderSource source context) s fun o s' e =>
      s' = s ∧ ∀ reminders, o = .ok reminders → resolutions e = [reminders] := by
  refine Spec.call_bind rfl fun _ => spec_receive (fun sourceId _ => ?_) fun _ _ => ⟨rfl, nofun⟩
  refine Spec.bind (P := fun _ s' e => s' = s ∧ e = []) (Spec.ofExcept ⟨rfl, rfl⟩) ?_ ?_
  · rintro _ s' e ⟨rfl, rfl⟩
    refine Spec.call_bind rfl fun _ => spec_receive (fun resolved hreply => ?_) fun _ _ =>
      ⟨rfl, nofun⟩
    refine Spec.ofExcept ⟨rfl, fun reminders hok => ?_⟩
    subst hreply
    change ([_, _] : TurnTrace).filterMap resolution? = _
    simp only [List.filterMap_cons, List.filterMap_nil, resolution?_resolve hok]
    rfl
  · rintro _ s' e ⟨rfl, rfl⟩
    exact ⟨rfl, nofun⟩

namespace TurnPromptSession

variable (session : TurnPromptSession)

lemma resolveSource_spec (context : ReminderResolutionContext) (modelRound : ℕ)
    (source : ReminderSource) (s : ReminderState) :
    Spec IsCallback (session.resolveSource context modelRound source) s fun o s' e =>
      s' = s ∧ ∀ r, o = .ok r → resolutions e = [r.1] := by
  refine Spec.call_bind rfl fun _ => spec_receive (fun sourceId hreply => ?_) fun _ _ =>
    ⟨rfl, nofun⟩
  subst hreply
  refine Spec.bind (P := fun o s' e => s' = s ∧ ∀ reminders, o = .ok reminders →
    resolutions e = [reminders]) ?_ ?_ ?_
  · refine (resolveReminderSource_spec source context s).tryCatch (fun _ _ _ h => h) ?_
    rintro error s' e ⟨rfl, -⟩
    split
    · refine Spec.bind (P := fun _ s'' _ => s'' = s') (Spec.ofExcept rfl) ?_ ?_
      · rintro event _ _ rfl
        refine (emitPromptTrace_spec _ _ _).bind ?_ ?_
        · rintro _ _ _ ⟨rfl, -⟩
          exact Spec.throw ⟨rfl, nofun⟩
        · rintro _ _ _ ⟨rfl, -⟩
          exact ⟨rfl, nofun⟩
      · rintro _ _ _ rfl
        exact ⟨rfl, nofun⟩
    · exact Spec.throw ⟨rfl, nofun⟩
  · rintro resolved s' e ⟨rfl, hresolved⟩
    refine (emitPromptTrace_spec _ _ _).bind ?_ ?_
    · rintro _ _ e' ⟨rfl, hnone⟩
      refine Spec.pure ⟨rfl, fun r hr => ?_⟩
      cases hr
      change resolutions (e ++ (e' ++ [])) = _
      rw [List.append_nil, resolutions_append, hresolved _ rfl, hnone]
      rfl
    · rintro _ _ _ ⟨rfl, -⟩
      exact ⟨rfl, nofun⟩
  · rintro _ _ _ ⟨rfl, -⟩
    exact ⟨rfl, nofun⟩

/-- **Resolving the sources**: each of them is asked once. -/
lemma resolveSources_spec (context : ReminderResolutionContext) (modelRound : ℕ)
    (sources : List ReminderSource) (s : ReminderState) :
    Spec IsCallback (session.resolveSources context modelRound sources) s fun o s' e =>
      s' = s ∧ ∀ r, o = .ok r →
        (resolutions e).length = sources.length ∧ (resolutions e).flatten = r.1 := by
  induction sources with
  | nil =>
    refine Spec.pure ⟨rfl, fun r hr => ?_⟩
    cases hr
    exact ⟨rfl, rfl⟩
  | cons source sources ih =>
    refine (session.resolveSource_spec context modelRound source s).bind ?_ ?_
    · rintro ⟨resolved, sourceId⟩ s' e ⟨rfl, hresolved⟩
      refine ih.bind ?_ ?_
      · rintro ⟨reminders, sourceIds⟩ s'' e' ⟨rfl, hr⟩
        obtain ⟨hlen, hflat⟩ := hr _ rfl
        refine Spec.pure ⟨rfl, fun r hr => ?_⟩
        cases hr
        rw [List.append_nil, resolutions_append, hresolved _ rfl]
        exact ⟨congrArg Nat.succ hlen, congrArg (resolved ++ ·) hflat⟩
      · rintro _ _ _ ⟨rfl, -⟩
        exact ⟨rfl, nofun⟩
    · rintro _ _ _ ⟨rfl, -⟩
      exact ⟨rfl, nofun⟩

/-! ### Compiling a request -/

/-- What an accepted request leaves of the reminders that remain: the next-request reminders are
gone if it has shown any. -/
def consume (s : ReminderState) : ReminderState :=
  if (session.activeReminders s).any fun r => r.scope = .nextRequest then
    s.clearScope .nextRequest
  else s

/-- Once no next-request reminder remains, none is active. -/
lemma activeReminders_clearScope (s : ReminderState) :
    session.activeReminders (s.clearScope .nextRequest) =
      ReminderState.without .nextRequest session.baseReminders := by
  have hnone : ((s.clearScope .nextRequest).reminders.any fun r => r.scope = .nextRequest) =
      false := by
    simp
  unfold activeReminders ReminderState.without
  simp only [hnone, Bool.or_false]

/-- Consuming twice is consuming once. -/
lemma consume_consume (s : ReminderState) :
    session.consume (session.consume s) = session.consume s := by
  have hcleared : session.consume (s.clearScope .nextRequest) = s.clearScope .nextRequest := by
    rw [consume, activeReminders_clearScope, if_neg]
    simp
  by_cases h : (session.activeReminders s).any fun r => r.scope = .nextRequest
  · have hs : session.consume s = s.clearScope .nextRequest := if_pos h
    rw [hs, hcleared]
  · have hs : session.consume s = s := if_neg h
    rw [hs, hs]

/-- **The outcome of a compilation** over a history, from the reminders `s`. The request contains
the newest complete turns and all of the current one. It shows the active reminders, and those
that each source has resolved last. An outcome that is no request leaves the reminders. -/
def Compiles (history : PreparedContext) (s : ReminderState) (o : Except Failure CompiledPrompt)
    (s' : ReminderState) (e : TurnTrace) : Prop :=
  match o with
  | .ok compiled =>
    s' = session.consume s ∧
      (∃ context : PreparedContext, context.Retains history.messages history.continuation
        history.turnBoundaries ∧ compiled.request.messages = context.messages) ∧
      session.sources.length ≤ (resolutions e).length ∧
      compiled.request.reminders.Perm (session.activeReminders s ++
        ((resolutions e).rtake session.sources.length).flatten)
  | .error _ => s' = s

variable {session} in
/-- What was resolved before does not matter. -/
lemma Compiles.prepend {history : PreparedContext} {s s' : ReminderState}
    {o : Except Failure CompiledPrompt} {e : TurnTrace} (h : session.Compiles history s o s' e)
    (e₀ : TurnTrace) : session.Compiles history s o s' (e₀ ++ e) := by
  cases o with
  | error error => exact h
  | ok compiled =>
    obtain ⟨hs, hhistory, hlen, hreminders⟩ := h
    refine ⟨hs, hhistory, ?_, ?_⟩
    · rw [resolutions_append, List.length_append]
      omega
    · rwa [resolutions_append, rtake_append_of_le hlen]

variable {session} in
/-- Compiling over a shorter history. -/
lemma Compiles.trans {history history' : PreparedContext} {s s' : ReminderState}
    {o : Except Failure CompiledPrompt} {e : TurnTrace} (h : session.Compiles history' s o s' e)
    (hretains : history'.Retains history.messages history.continuation history.turnBoundaries) :
    session.Compiles history s o s' e := by
  cases o with
  | error error => exact h
  | ok compiled =>
    obtain ⟨hs, ⟨context, hcontext, hmessages⟩, hreminders⟩ := h
    exact ⟨hs, ⟨context, hretains.trans hcontext, hmessages⟩, hreminders⟩

/-- A candidate is compiled. -/
lemma compileCandidate_spec (context : ReminderResolutionContext) (modelRound : ℕ)
    (candidate : PromptDraft) (s : ReminderState) :
    Spec IsCallback (session.compileCandidate context modelRound candidate) s fun o s' e =>
      s' = s ∧ ∀ compiled, o = .ok compiled →
        (resolutions e).length = session.sources.length ∧
        compiled.request.messages = candidate.history.messages ∧
        compiled.request.reminders.Perm (session.activeReminders s ++ (resolutions e).flatten) ∧
        compiled.consumedNextRequest =
          (session.activeReminders s).any fun r => r.scope = .nextRequest := by
  refine Spec.bind (P := fun _ s' e => s' = s ∧ e = []) (Spec.ofExcept ⟨rfl, rfl⟩) ?_ ?_
  · rintro resolutionContext s' e ⟨rfl, rfl⟩
    refine (session.resolveSources_spec resolutionContext modelRound session.sources _).bind ?_ ?_
    · rintro ⟨dynamic, sourceIds⟩ s' e ⟨rfl, hr⟩
      obtain ⟨hlen, rfl⟩ : (resolutions e).length = session.sources.length ∧
        (resolutions e).flatten = dynamic := hr _ rfl
      refine Spec.get_bind (Spec.ofExcept ⟨rfl, fun compiled hcompiled => ?_⟩)
      have hreminders := PromptCompiler.compile_reminders hcompiled
      rw [List.append_nil] at hreminders
      have hconsumed := PromptCompiler.compile_consumed hcompiled
      rw [List.append_nil] at hconsumed
      rw [List.nil_append, List.append_nil]
      exact ⟨hlen, PromptCompiler.compile_messages hcompiled, hreminders, hconsumed⟩
    · rintro _ _ _ ⟨rfl, -⟩
      exact ⟨rfl, fun _ h => by cases h⟩
  · rintro _ _ _ ⟨rfl, rfl⟩
    exact ⟨rfl, fun _ h => by cases h⟩

/-- An accepted request is traced, and then its reminders are consumed. -/
lemma accept_spec (compiled : CompiledPrompt) (modelRound : ℕ) (estimatedTokens : Option ℕ)
    (trimmedTurns : ℕ) (s : ReminderState) :
    Spec IsCallback (session.accept compiled modelRound estimatedTokens trimmedTurns) s
      fun o s' e => resolutions e = [] ∧
        match o with
        | .ok accepted => accepted.request = compiled.request ∧
          s' = if compiled.consumedNextRequest then s.clearScope .nextRequest else s
        | .error _ => s' = s := by
  refine (emitPromptTrace_spec _ _ _).bind ?_ ?_
  · rintro _ _ e ⟨rfl, hnone⟩
    split
    · refine Spec.get_bind ((emitPromptTrace_spec _ _ _).bind ?_ ?_)
      · rintro _ _ e' ⟨rfl, hnone'⟩
        refine Spec.modify_bind (Spec.pure ⟨?_, rfl, rfl⟩)
        rw [List.append_nil, resolutions_append, hnone, hnone']
        rfl
      · rintro _ _ e' ⟨rfl, hnone'⟩
        exact ⟨by rw [resolutions_append, hnone, hnone']; rfl, rfl⟩
    · exact Spec.pure ⟨by rw [List.append_nil, hnone], rfl, rfl⟩
  · rintro _ _ e ⟨rfl, hnone⟩
    exact ⟨hnone, rfl⟩

/-- Accepting a candidate. -/
lemma accept_compiles {candidate : PromptDraft} {compiled : CompiledPrompt} {s : ReminderState}
    {e : TurnTrace} (hlen : (resolutions e).length = session.sources.length)
    (hmessages : compiled.request.messages = candidate.history.messages)
    (hreminders : compiled.request.reminders.Perm
      (session.activeReminders s ++ (resolutions e).flatten))
    (hconsumed : compiled.consumedNextRequest =
      (session.activeReminders s).any fun r => r.scope = .nextRequest)
    (modelRound : ℕ) (estimatedTokens : Option ℕ) (trimmedTurns : ℕ) :
    Spec IsCallback (session.accept compiled modelRound estimatedTokens trimmedTurns) s
      fun o s' e' => session.Compiles candidate.history s o s' (e ++ e') := by
  refine (session.accept_spec compiled modelRound estimatedTokens trimmedTurns s).mono ?_
  rintro o s' e' ⟨hnone, ho⟩
  cases o with
  | error error => exact ho
  | ok accepted =>
    obtain ⟨hrequest, rfl⟩ := ho
    rw [hconsumed]
    refine ⟨rfl, ⟨candidate.history, .refl _, hrequest ▸ hmessages⟩, ?_, ?_⟩
    · rw [resolutions_append, hnone, List.append_nil, hlen]
    · rw [resolutions_append, hnone, List.append_nil, List.rtake, hlen, Nat.sub_self,
        List.drop_zero, hrequest]
      exact hreminders

/-- One candidate, where trying again is a compilation over what is left of the history. -/
lemma compileOnce_spec (context : ReminderResolutionContext) (modelRound : ℕ)
    (budget : Option RequestTokenBudget) (candidate : PromptDraft) (trimmedTurns : ℕ)
    {retry : PromptDraft → TurnM CompiledPrompt} (s : ReminderState)
    (hretry : ∀ history : PreparedContext,
      Spec IsCallback (retry { candidate with history }) s (session.Compiles history s)) :
    Spec IsCallback (session.compileOnce context modelRound budget candidate trimmedTurns retry) s
      (session.Compiles candidate.history s) := by
  refine (session.compileCandidate_spec context modelRound candidate s).bind ?_ ?_
  · rintro compiled s' e ⟨rfl, hcompiled⟩
    obtain ⟨hlen, hmessages, hreminders, hconsumed⟩ := hcompiled _ rfl
    cases budget with
    | none => exact session.accept_compiles hlen hmessages hreminders hconsumed _ _ _
    | some budget =>
      refine (countRequest_spec _ _ _).bind ?_ ?_
      · rintro estimatedTokens s' e' ⟨rfl, hnone⟩
        split
        · cases hb : candidate.history.turnBoundaries with
          | nil =>
            rw [dropOldestCompleteTurn_nil hb]
            exact Spec.throw rfl
          | cons b bs =>
            obtain ⟨history, hdrop, hretains, -⟩ := dropOldestCompleteTurn_cons hb
            rw [hdrop]
            refine (hretry history).mono fun o s'' e'' h => ?_
            rw [← List.append_assoc]
            exact (h.trans hretains).prepend _
        · refine (session.accept_compiles (e := e ++ e') ?_ hmessages ?_ hconsumed _ _ _).mono
            fun o s'' e'' h => ?_
          · rw [resolutions_append, hnone, List.append_nil, hlen]
          · rwa [resolutions_append, hnone, List.append_nil]
          · rwa [← List.append_assoc]
      · rintro _ _ _ ⟨rfl, -⟩
        rfl
  · rintro _ _ _ ⟨rfl, -⟩
    rfl

lemma compileFrom_spec (context : ReminderResolutionContext) (modelRound : ℕ)
    (budget : Option RequestTokenBudget) (turns : ℕ) (candidate : PromptDraft)
    (trimmedTurns : ℕ) (s : ReminderState) :
    Spec IsCallback (session.compileFrom context modelRound budget turns candidate trimmedTurns) s
      (session.Compiles candidate.history s) := by
  induction turns generalizing candidate trimmedTurns with
  | zero => exact session.compileOnce_spec _ _ _ _ _ s fun history => trivial
  | succ turns ih => exact session.compileOnce_spec _ _ _ _ _ s fun history => ih _ _

/-- **Compiling a request.** -/
theorem compile_spec (draft : PromptDraft) (context : ReminderResolutionContext) (modelRound : ℕ)
    (budget : Option RequestTokenBudget) (s : ReminderState) :
    Spec IsCallback (session.compile draft context modelRound budget) s
      (session.Compiles draft.history s) :=
  session.compileFrom_spec context modelRound budget _ draft 0 s

end TurnPromptSession

/-- **Building the request of a round.** -/
theorem Conversation.buildRequest_spec (c : Conversation) (session : TurnPromptSession)
    (state : ConversationState) (w : Working) (completed : ℕ) (s : ReminderState) :
    Spec IsCallback (c.buildRequest session state w completed) s fun o s' e =>
      match o with
      | .ok compiled =>
        s' = session.consume s ∧
          (c.contextPolicy.isBuiltin = true → ∃ context : PreparedContext,
            context.Retains w.messages w.continuation state.turnBoundaries ∧
              compiled.request.messages = context.messages) ∧
          session.sources.length ≤ (resolutions e).length ∧
          compiled.request.reminders.Perm (session.activeReminders s ++
            ((resolutions e).rtake session.sources.length).flatten)
      | .error _ => s' = s := by
  refine Spec.bind (P := fun o s' e => s' = s ∧ e = [] ∧ ∀ provisional, o = .ok provisional →
    provisional.messages = w.messages ∧ provisional.continuation = w.continuation ∧
      provisional.turnBoundaries = state.turnBoundaries) (Spec.ofExcept ⟨rfl, rfl, ?_⟩) ?_ ?_
  · intro provisional h
    obtain ⟨hmessages, hcontinuation, -, hboundaries⟩ := ConversationState.make_fields h
    exact ⟨hmessages, hcontinuation, hboundaries⟩
  · rintro provisional s' e ⟨rfl, rfl, hprovisional⟩
    obtain ⟨hmessages, hcontinuation, hboundaries⟩ := hprovisional _ rfl
    refine (c.contextPolicy.prepare_spec provisional c.model _).bind ?_ ?_
    · rintro prepared s' e ⟨⟨rfl, hnone⟩, hselects⟩
      refine (session.compile_spec (c.draft prepared) _ _ _ _).mono fun o s'' e' h => ?_
      cases o with
      | error error => exact h
      | ok compiled =>
        obtain ⟨hs, ⟨context, hcontext, hrequest⟩, hreminders⟩ := h.prepend e
        refine ⟨hs, fun hbuiltin => ⟨context, ?_, hrequest⟩, hreminders⟩
        rw [← hmessages, ← hcontinuation, ← hboundaries]
        exact (hselects _ rfl hbuiltin).trans hcontext
    · rintro _ _ _ ⟨⟨rfl, -⟩, -⟩
      rfl
  · rintro _ _ _ ⟨rfl, -, -⟩
    rfl

end PurrceptCore
