import PurrceptCore.Interaction.Answers
import PurrceptCore.Models.FlowSteps
import PurrceptCore.Models.WholeTurns

set_option relaxedAutoImplicit false
set_option autoImplicit false

/-!
# Trimming a request to its budget

`TurnPromptSession.compile` with a request budget: each candidate asks the sources anew, is compiled
and counted, and loses its oldest complete turn if it does not fit.

## Main definitions

* `PurrceptCore.trials` — the calls of a trace that resolve a source or count a request.
* `PurrceptCore.TurnPromptSession.schedule` — these calls for the first candidates of a history.
* `PurrceptCore.CountsBy` — the request counter is a function of the request.
* `PurrceptCore.TurnPromptSession.TrimOutcome` — how a compilation ends.
* `PurrceptCore.TurnPromptSession.Reaches` — the reminders that a session may have left.

## Main results

* `PurrceptCore.TurnPromptSession.compileFrom_trims` — the loop.
* `PurrceptCore.compile_trims_least` — a compilation drops the least number of turns.
-/

namespace PurrceptCore

open Interaction Routine

/-! ### The calls of a candidate -/

/-- A source is resolved or a request counted. -/
def isTrial : TurnCall → Bool
  | .resolve _ _ | .countRequest _ _ => true
  | _ => false

/-- The calls that resolve a source or count a request. -/
def trials (tr : TurnTrace) : List TurnCall := (tr.map Sigma.fst).filter isTrial

@[simp] lemma trials_nil : trials [] = [] := rfl

@[simp] lemma trials_append (tr tr' : TurnTrace) :
    trials (tr ++ tr') = trials tr ++ trials tr' := by
  rw [trials, List.map_append, List.filter_append]
  rfl

/-- The request counter answers as the function `count` says. -/
def CountsBy (count : ModelRequest → Model → ℕ) (tr : TurnTrace) : Prop :=
  ∀ request model reply, (⟨.countRequest request model, reply⟩ : Σ call, TurnReply call) ∈ tr →
    reply = .ok (.int (count request model))

lemma CountsBy.of_append {count : ModelRequest → Model → ℕ} {tr tr' : TurnTrace}
    (h : CountsBy count (tr ++ tr')) : CountsBy count tr ∧ CountsBy count tr' := by
  constructor
  · intro request model reply hmem
    exact h request model reply (List.mem_append_left _ hmem)
  · intro request model reply hmem
    exact h request model reply (List.mem_append_right _ hmem)

/-- The calls that were made are those planned if there is a result, and the first of them in any
case. -/
abbrev Follows {α : Type} (plan : List TurnCall) (o : Except Failure α) (e : TurnTrace) : Prop :=
  trials e <+: plan ∧ ∀ value, o = .ok value → trials e = plan

lemma Follows.of_eq {α : Type} {plan : List TurnCall} {o : Except Failure α} {e : TurnTrace}
    (h : trials e = plan) : Follows plan o e :=
  ⟨h ▸ List.prefix_rfl, fun _ _ => h⟩

lemma emitPromptTrace_trials (sink : Bool) (event : PromptTraceEvent) (s : ReminderState) :
    Spec IsCallback (emitPromptTrace sink event) s fun _ _ e => trials e = [] := by
  unfold emitPromptTrace
  split
  · exact Spec.pure rfl
  · refine Spec.call_bind rfl fun reply => spec_receive (fun result _ => ?_) fun _ _ => rfl
    cases result with
    | none => exact Spec.pure rfl
    | awaitable => exact Spec.throw rfl
    | other => exact Spec.throw rfl

lemma resolveReminderSource_trials (source : ReminderSource) (context : ReminderResolutionContext)
    (s : ReminderState) :
    Spec IsCallback (resolveReminderSource source context) s fun o _ e =>
      Follows [.resolve source context] o e := by
  refine Spec.call_bind rfl fun _ => spec_receive (fun value _ => ?_) fun _ _ =>
    ⟨List.nil_prefix, fun _ h => by cases h⟩
  refine Spec.bind (P := fun _ s' e => s' = s ∧ e = []) (Spec.ofExcept ⟨rfl, rfl⟩) ?_ ?_
  · rintro _ s' e ⟨rfl, rfl⟩
    refine Spec.call_bind rfl fun reply => spec_receive (fun resolved _ => ?_) fun _ _ => ?_
    · exact Spec.ofExcept ⟨List.prefix_rfl, fun _ _ => rfl⟩
    · exact ⟨List.prefix_rfl, fun _ _ => rfl⟩
  · rintro _ s' e ⟨rfl, rfl⟩
    exact ⟨List.nil_prefix, fun _ h => by cases h⟩

/-- A count of a deterministic counter. -/
lemma countRequest_counts (count : ModelRequest → Model → ℕ) (request : ModelRequest)
    (model : Model) (s : ReminderState) :
    Spec IsCallback (countRequest request model) s fun o s' e =>
      s' = s ∧ trials e = [.countRequest request model] ∧
        (CountsBy count e → o = .ok (count request model)) := by
  refine Spec.call_bind rfl fun reply =>
    spec_receive (fun value hreply => ?_) fun error hreply => ?_
  · cases value with
    | awaitable =>
      refine Spec.throw ⟨rfl, rfl, fun hcounts => ?_⟩
      have hint := hcounts request model reply List.mem_cons_self
      rw [hreply] at hint
      cases hint
    | other =>
      refine Spec.throw ⟨rfl, rfl, fun hcounts => ?_⟩
      have hint := hcounts request model reply List.mem_cons_self
      rw [hreply] at hint
      cases hint
    | int value =>
      have hvalue {e : TurnTrace}
          (hcounts : CountsBy count (⟨.countRequest request model, reply⟩ :: e)) :
          value = count request model := by
        have hint := hcounts request model reply List.mem_cons_self
        rw [hreply] at hint
        cases hint
        rfl
      change Spec _ (if value < 0 then _ else _) _ _
      split
      · refine Spec.throw ⟨rfl, rfl, fun hcounts => ?_⟩
        have hnonneg := hvalue hcounts
        omega
      · refine Spec.pure ⟨rfl, rfl, fun hcounts => ?_⟩
        rw [hvalue hcounts, Int.toNat_natCast]
  · refine ⟨rfl, rfl, fun hcounts => ?_⟩
    have hint := hcounts request model reply List.mem_cons_self
    rw [hreply] at hint
    cases hint

namespace TurnPromptSession

variable (session : TurnPromptSession)

lemma resolveSource_trials (context : ReminderResolutionContext) (modelRound : ℕ)
    (source : ReminderSource) (s : ReminderState) :
    Spec IsCallback (session.resolveSource context modelRound source) s fun o _ e =>
      Follows [.resolve source context] o e := by
  refine Spec.call_bind rfl fun _ => spec_receive (fun sourceId _ => ?_) fun _ _ =>
    ⟨List.nil_prefix, fun _ h => by cases h⟩
  refine Spec.bind (P := fun o _ e => Follows [.resolve source context] o e) ?_ ?_ ?_
  · refine (resolveReminderSource_trials source context s).tryCatch (fun _ _ _ h => h) ?_
    rintro error s' e ⟨hstart, -⟩
    split
    · refine Spec.bind (P := fun _ _ e' => e' = []) (Spec.ofExcept rfl) ?_ ?_
      · rintro event _ _ rfl
        refine (emitPromptTrace_trials _ _ _).bind ?_ ?_
        · intro _ _ e' hnone
          refine Spec.throw ⟨?_, fun _ h => by cases h⟩
          simpa [hnone] using hstart
        · intro _ _ e' hnone
          refine ⟨?_, fun _ h => by cases h⟩
          simpa [hnone] using hstart
      · rintro _ _ _ rfl
        refine ⟨?_, fun _ h => by cases h⟩
        simpa using hstart
    · refine Spec.throw ⟨?_, fun _ h => by cases h⟩
      simpa using hstart
  · rintro resolved s' e ⟨-, hplan⟩
    have hcalls : trials e = [.resolve source context] := hplan _ rfl
    refine (emitPromptTrace_trials _ _ _).bind ?_ ?_
    · intro _ _ e' hnone
      have hall : trials (e ++ (e' ++ [])) = [.resolve source context] := by
        simp [hnone, hcalls]
      exact Spec.pure (Follows.of_eq hall)
    · intro _ _ e' hnone
      have hall : trials (e ++ e') = [.resolve source context] := by
        simp [hnone, hcalls]
      exact Follows.of_eq hall
  · rintro error s' e ⟨hstart, -⟩
    exact ⟨hstart, fun _ h => by cases h⟩

/-- The sources are asked in order. -/
lemma resolveSources_trials (context : ReminderResolutionContext) (modelRound : ℕ)
    (sources : List ReminderSource) (s : ReminderState) :
    Spec IsCallback (session.resolveSources context modelRound sources) s fun o _ e =>
      Follows (sources.map fun source => .resolve source context) o e := by
  induction sources generalizing s with
  | nil => exact Spec.pure ⟨List.prefix_rfl, fun _ _ => rfl⟩
  | cons source sources ih =>
    refine (session.resolveSource_trials context modelRound source s).bind ?_ ?_
    · rintro ⟨resolved, sourceId⟩ s' e ⟨-, hplan⟩
      have hcalls : trials e = [.resolve source context] := hplan _ rfl
      refine (ih s').bind ?_ ?_
      · rintro ⟨reminders, sourceIds⟩ s'' e' ⟨-, hplan'⟩
        have hall : trials (e ++ (e' ++ [])) =
            (source :: sources).map fun source => .resolve source context := by
          simp [hcalls, hplan' _ rfl]
        exact Spec.pure (Follows.of_eq hall)
      · rintro error s'' e' ⟨hstart, -⟩
        refine ⟨?_, fun _ h => by cases h⟩
        rw [trials_append, hcalls]
        exact (List.prefix_append_right_inj _).2 hstart
    · rintro error s' e ⟨hstart, -⟩
      refine ⟨?_, fun _ h => by cases h⟩
      exact hstart.trans (List.prefix_append _ _)

/-- How a candidate asks the sources: one after the other, and each with a context that contains
the history of the candidate. -/
def asks (context : ReminderResolutionContext) (modelRound : ℕ) (history : PreparedContext) :
    List TurnCall :=
  match context.replace history modelRound with
  | .ok resolutionContext => session.sources.map fun source => .resolve source resolutionContext
  | .error _ => []

lemma compileCandidate_trials (context : ReminderResolutionContext) (modelRound : ℕ)
    (candidate : PromptDraft) (s : ReminderState) :
    Spec IsCallback (session.compileCandidate context modelRound candidate) s fun o _ e =>
      Follows (session.asks context modelRound candidate.history) o e := by
  unfold compileCandidate asks
  cases hreplace : context.replace candidate.history modelRound with
  | error error => exact ⟨List.prefix_rfl, fun _ h => by cases h⟩
  | ok resolutionContext =>
    refine (session.resolveSources_trials resolutionContext modelRound session.sources s).bind ?_ ?_
    · rintro ⟨dynamic, sourceIds⟩ s' e ⟨-, hplan⟩
      have hcalls := hplan _ rfl
      refine Spec.get_bind (Spec.ofExcept ?_)
      rw [List.append_nil]
      exact Follows.of_eq hcalls
    · rintro error s' e ⟨hstart, -⟩
      exact ⟨hstart, fun _ h => by cases h⟩

/-- Accepting a candidate keeps its request, and records the count and the trimming. -/
lemma accept_records (compiled : CompiledPrompt) (modelRound : ℕ) (estimatedTokens : Option ℕ)
    (trimmedTurns : ℕ) (s : ReminderState) :
    Spec IsCallback (session.accept compiled modelRound estimatedTokens trimmedTurns) s
      fun o s' e => trials e = [] ∧ OnlyBlames o s' e ∧ ∀ accepted, o = .ok accepted →
        accepted.request = compiled.request ∧
          accepted.diagnostics.estimatedTokens = estimatedTokens ∧
          accepted.diagnostics.trimmedTurns = trimmedTurns := by
  refine ((emitPromptTrace_trials _ _ _).and (emitPromptTrace_fails _ _ _)).bind ?_ ?_
  · rintro _ s' e ⟨hnone, -⟩
    split
    · refine Spec.get_bind (((emitPromptTrace_trials _ _ _).and
        (emitPromptTrace_fails _ _ _)).bind ?_ ?_)
      · rintro _ s'' e' ⟨hnone', -⟩
        refine Spec.modify_bind (Spec.pure ⟨?_, OnlyBlames.ok _ _ _, fun accepted h => ?_⟩)
        · simp [hnone, hnone']
        · cases h
          exact ⟨rfl, rfl, rfl⟩
      · rintro error s'' e' ⟨hnone', hblames⟩
        refine ⟨by simp [hnone, hnone'], fun failure h => ?_, fun _ h => by cases h⟩
        exact (hblames failure (by cases h; rfl)).append_left _
    · refine Spec.pure ⟨by simp [hnone], OnlyBlames.ok _ _ _, fun accepted h => ?_⟩
      cases h
      exact ⟨rfl, rfl, rfl⟩
  · rintro error s' e ⟨hnone, hblames⟩
    refine ⟨hnone, fun failure h => ?_, fun _ h => by cases h⟩
    exact hblames failure (by cases h; rfl)

/-! ### The loop -/

section Loop

variable (context : ReminderResolutionContext) (modelRound : ℕ) (budget : RequestTokenBudget)
  (count : ModelRequest → Model → ℕ)

/-- The calls for the first candidates over a history, which are compiled to these requests: each
candidate is asked for and counted, and the next one has lost its oldest complete turn. -/
def schedule : PreparedContext → List ModelRequest → List TurnCall
  | _, [] => []
  | history, request :: requests =>
    session.asks context modelRound history ++ [.countRequest request context.model] ++
      schedule (history.dropTurns 1) requests

/-- The calls for some rejected candidates and for one more, which is counted if it was compiled. -/
def attempts (history : PreparedContext) (rejected : List ModelRequest)
    (last : Option ModelRequest) : List TurnCall :=
  session.schedule context modelRound history rejected ++
    (session.asks context modelRound (history.dropTurns rejected.length) ++
      last.toList.map (TurnCall.countRequest · context.model))

/-- The requests of the first candidates, which are over the budget. -/
structure Rejected (history : PreparedContext) (requests : List ModelRequest) : Prop where
  messages : ∀ i request, requests[i]? = some request →
    request.messages = (history.dropTurns i).messages
  exceeds : ∀ request ∈ requests, budget.maxTokens < count request context.model

/-- How the loop of `compile` ends over a history of `n` complete turns, when `trimmed` turns were
dropped before. It accepts the first candidate that fits, it has tried all `n + 1`, or something
fails on the way. -/
inductive TrimOutcome (history : PreparedContext) (trimmed : ℕ) (requests : List ModelRequest)
    (s : ReminderState) (calls : List TurnCall) :
    Except Failure CompiledPrompt → ReminderState → Prop
  | accepted (compiled : CompiledPrompt) (hlen : requests.length ≤ history.turns.length)
      (hcalls : calls = session.schedule context modelRound history requests ++
        (session.asks context modelRound (history.dropTurns requests.length) ++
          [.countRequest compiled.request context.model]))
      (hmessages : compiled.request.messages = (history.dropTurns requests.length).messages)
      (hfits : count compiled.request context.model ≤ budget.maxTokens)
      (hestimated : compiled.diagnostics.estimatedTokens =
        some (count compiled.request context.model))
      (htrimmed : compiled.diagnostics.trimmedTurns = trimmed + requests.length) :
      TrimOutcome history trimmed requests s calls (.ok compiled) (session.consume s)
  | exceeded (last : ModelRequest) (hlen : requests.length = history.turns.length + 1)
      (hcalls : calls = session.schedule context modelRound history requests)
      (hlast : requests.getLast? = some last) :
      TrimOutcome history trimmed requests s calls
        (.error (.contextBudgetExceeded budget.maxTokens (count last context.model))) s
  | failed (failure : Failure) (rest : List TurnCall)
      (hlen : requests.length ≤ history.turns.length)
      (hcalls : calls = session.schedule context modelRound history requests ++ rest)
      (hrest : rest <+: session.asks context modelRound (history.dropTurns requests.length) ∨
        ∃ request : ModelRequest, count request context.model ≤ budget.maxTokens ∧
          rest = session.asks context modelRound (history.dropTurns requests.length) ++
            [.countRequest request context.model])
      (hfailure : ¬ failure.IsBudget) :
      TrimOutcome history trimmed requests s calls (.error failure) s

/-- The end of a compilation, if the counter is a function. -/
abbrev Trims (history : PreparedContext) (trimmed : ℕ) (s : ReminderState)
    (o : Except Failure CompiledPrompt) (s' : ReminderState) (e : TurnTrace) : Prop :=
  CountsBy count e → ∃ requests, Rejected context budget count history requests ∧
    session.TrimOutcome context modelRound budget count history trimmed requests s (trials e) o s'

variable {context modelRound budget count} {history : PreparedContext} {request : ModelRequest}
  {requests : List ModelRequest}

lemma Rejected.nil : Rejected context budget count history [] where
  messages i request h := by simp at h
  exceeds request h := absurd h List.not_mem_nil

lemma Rejected.cons (h : Rejected context budget count (history.dropTurns 1) requests)
    (hmessages : request.messages = history.messages)
    (hover : budget.maxTokens < count request context.model) :
    Rejected context budget count history (request :: requests) where
  messages i r hr := by
    cases i with
    | zero =>
      cases hr
      rwa [PreparedContext.dropTurns_zero]
    | succ i =>
      have hstep := h.messages i r hr
      rwa [PreparedContext.dropTurns_dropTurns, Nat.add_comm] at hstep
  exceeds := List.forall_mem_cons.2 ⟨hover, h.exceeds⟩

variable {session}

/-- A candidate that does not fit comes before the compilation over a history that has lost a
turn. -/
lemma TrimOutcome.cons {trimmed : ℕ} {s s' : ReminderState} {calls : List TurnCall}
    {o : Except Failure CompiledPrompt}
    (h : session.TrimOutcome context modelRound budget count (history.dropTurns 1) (trimmed + 1)
      requests s calls o s')
    (hturns : history.turns ≠ []) (request : ModelRequest) :
    session.TrimOutcome context modelRound budget count history trimmed (request :: requests) s
      (session.asks context modelRound history ++ [.countRequest request context.model] ++ calls)
      o s' := by
  have hpos : 0 < history.turns.length := List.length_pos_of_ne_nil hturns
  have hlength : (history.dropTurns 1).turns.length + 1 = history.turns.length := by
    rw [PreparedContext.turns_dropTurns, List.length_drop]
    omega
  have hdrop : (history.dropTurns 1).dropTurns requests.length =
      history.dropTurns (request :: requests).length := by
    rw [PreparedContext.dropTurns_dropTurns, List.length_cons, Nat.add_comm]
  have hcons : (request :: requests).length = requests.length + 1 := rfl
  cases h with
  | accepted compiled hlen hcalls hmessages hfits hestimated htrimmed =>
    rw [hdrop] at hcalls hmessages
    refine .accepted compiled (by omega) ?_ hmessages hfits hestimated (by omega)
    rw [hcalls, schedule]
    simp only [List.append_assoc]
  | exceeded last hlen hcalls hlast =>
    refine .exceeded last (by omega) ?_ ?_
    · rw [hcalls, schedule]
    · have hne : requests ≠ [] := by
        rintro rfl
        cases hlast
      rw [List.getLast?_cons_of_ne_nil hne]
      exact hlast
  | failed failure rest hlen hcalls hrest hfailure =>
    rw [hdrop] at hrest
    refine .failed failure rest (by omega) ?_ hrest hfailure
    rw [hcalls, schedule]
    simp only [List.append_assoc]

/-- A candidate that fits is accepted. -/
lemma accept_trims {candidate : PromptDraft} {compiled : CompiledPrompt} {s : ReminderState}
    {calls : List TurnCall} (hmessages : compiled.request.messages = candidate.history.messages)
    (hconsumed : compiled.consumedNextRequest =
      (session.activeReminders s).any fun r => r.scope = .nextRequest)
    (hcalls : calls = session.asks context modelRound candidate.history ++
      [.countRequest compiled.request context.model])
    (hfits : count compiled.request context.model ≤ budget.maxTokens) (trimmed : ℕ) :
    Spec IsCallback (session.accept compiled modelRound
      (some (count compiled.request context.model)) trimmed) s fun o s' e =>
        trials e = [] ∧ session.TrimOutcome context modelRound budget count candidate.history
          trimmed [] s calls o s' := by
  have hdrop : candidate.history.dropTurns ([] : List ModelRequest).length = candidate.history :=
    PreparedContext.dropTurns_zero _
  refine ((session.accept_spec _ _ _ _ _).and (session.accept_records _ _ _ _ _)).mono ?_
  rintro o s' e ⟨⟨-, ho⟩, hnone, hblames, haccepted⟩
  refine ⟨hnone, ?_⟩
  cases o with
  | error failure =>
    cases ho
    refine .failed failure _ (Nat.zero_le _) rfl (.inr ⟨compiled.request, hfits, ?_⟩) ?_
    · rw [hcalls, hdrop]
    · exact (hblames failure rfl).not_budget
  | ok accepted =>
    obtain ⟨hrequest, hestimated, htrimmed⟩ := haccepted accepted rfl
    have hs : s' = session.consume s := by
      rw [ho.2, hconsumed]
      rfl
    rw [hs]
    rw [← hrequest] at hcalls hmessages hfits hestimated
    refine .accepted accepted (Nat.zero_le _) ?_ ?_ hfits hestimated htrimmed
    · rw [hcalls, hdrop]
      rfl
    · rw [hdrop]
      exact hmessages

/-- **One candidate**, where trying again is a compilation over what is left of the history. -/
lemma compileOnce_trims (hunique : Keyed.Unique SystemReminder.key session.baseReminders)
    (candidate : PromptDraft) (trimmed : ℕ) {retry : PromptDraft → TurnM CompiledPrompt}
    (s : ReminderState)
    (hretry : candidate.history.turns ≠ [] →
      Spec IsCallback (retry { candidate with history := candidate.history.dropTurns 1 }) s
        (session.Trims context modelRound budget count (candidate.history.dropTurns 1)
          (trimmed + 1) s)) :
    Spec IsCallback
      (session.compileOnce context modelRound (some budget) candidate trimmed retry) s
      (session.Trims context modelRound budget count candidate.history trimmed s) := by
  refine ((session.compileCandidate_spec context modelRound candidate s).and
    ((session.compileCandidate_trials context modelRound candidate s).and
      (compileCandidate_fails hunique context modelRound candidate s))).bind ?_ ?_
  · rintro compiled s' e ⟨⟨rfl, hcompiled⟩, ⟨-, hplan⟩, -⟩
    obtain ⟨-, hmessages, -, hconsumed⟩ := hcompiled compiled rfl
    have hasks : trials e = session.asks context modelRound candidate.history := hplan compiled rfl
    refine (countRequest_counts count compiled.request context.model _).bind ?_ ?_
    · rintro estimated s' e' ⟨rfl, hcount, hvalue⟩
      have hcalls : trials (e ++ e') = session.asks context modelRound candidate.history ++
          [.countRequest compiled.request context.model] := by
        rw [trials_append, hasks, hcount]
      have hestimated {e'' : TurnTrace} (hcounts : CountsBy count (e ++ (e' ++ e''))) :
          estimated = count compiled.request context.model :=
        Except.ok.inj (hvalue hcounts.of_append.2.of_append.1)
      split
      · next hover =>
        rw [dropOldestCompleteTurn_eq]
        by_cases hturns : candidate.history.turns = []
        · rw [if_pos hturns]
          refine Spec.throw fun hcounts => ⟨[compiled.request], ?_⟩
          rw [hestimated hcounts] at hover ⊢
          refine ⟨Rejected.nil.cons hmessages hover, .exceeded compiled.request ?_ ?_ rfl⟩
          · rw [hturns]
            rfl
          · rw [List.append_nil, hcalls, schedule, schedule, List.append_nil]
        · rw [if_neg hturns]
          refine (hretry hturns).mono fun o s'' e'' h hcounts => ?_
          obtain ⟨requests, hrejected, houtcome⟩ := h hcounts.of_append.2.of_append.2
          rw [hestimated hcounts] at hover
          refine ⟨compiled.request :: requests, hrejected.cons hmessages hover, ?_⟩
          rw [← List.append_assoc, trials_append, hcalls]
          exact houtcome.cons hturns compiled.request
      · next hover =>
        by_cases hvalid : CountsBy count (e ++ e')
        · have heq : estimated = count compiled.request context.model :=
            Except.ok.inj (hvalue hvalid.of_append.2)
          subst heq
          refine (accept_trims hmessages hconsumed hcalls (Nat.not_lt.1 hover) trimmed).mono ?_
          rintro o s'' e'' ⟨hnone, houtcome⟩ -
          refine ⟨[], Rejected.nil, ?_⟩
          rw [← List.append_assoc, trials_append, hnone, List.append_nil]
          exact houtcome
        · refine (session.accept_records _ _ _ _ _).mono fun o s'' e'' _ hcounts => ?_
          rw [← List.append_assoc] at hcounts
          exact absurd hcounts.of_append.1 hvalid
    · rintro error s' e' ⟨-, -, hvalue⟩ hcounts
      cases hvalue hcounts.of_append.2
  · rintro error s' e ⟨⟨rfl, -⟩, ⟨hstart, -⟩, hfails⟩ -
    refine ⟨[], Rejected.nil, .failed error (trials e) (Nat.zero_le _) rfl (.inl ?_) ?_⟩
    · rw [List.length_nil, PreparedContext.dropTurns_zero]
      exact hstart
    · exact (hfails error rfl).not_budget

/-- **The loop** drops one turn after the other. -/
theorem compileFrom_trims (hunique : Keyed.Unique SystemReminder.key session.baseReminders)
    (turns : ℕ) (candidate : PromptDraft) (trimmed : ℕ) (s : ReminderState)
    (hturns : candidate.history.turns.length = turns) :
    Spec IsCallback
      (session.compileFrom context modelRound (some budget) turns candidate trimmed) s
      (session.Trims context modelRound budget count candidate.history trimmed s) := by
  induction turns generalizing candidate trimmed with
  | zero =>
    refine compileOnce_trims hunique candidate trimmed s fun hne => ?_
    exact absurd (List.length_eq_zero_iff.1 hturns) hne
  | succ turns ih =>
    refine compileOnce_trims hunique candidate trimmed s fun _ => ih _ _ ?_
    rw [PreparedContext.turns_dropTurns, List.length_drop, hturns]
    rfl

end Loop

/-! ### The reminders of a session -/

/-- The reminders that a session may have left: those that `begin` leaves, and those that its
compilations leave. -/
inductive Reaches (session : TurnPromptSession) : ReminderState → Prop
  | begin (state : ReminderState) (compiler : PromptCompiler) (sources : List ReminderSource)
      (traceSink : Bool) (s remaining : ReminderState) (tr : Trace SetupCall SetupReply)
      (h : Exec (begin state compiler sources traceSink s) tr (.ret (.ok session, remaining))) :
      Reaches session remaining
  | compile (draft : PromptDraft) (context : ReminderResolutionContext) (modelRound : ℕ)
      (budget : Option RequestTokenBudget) (remaining remaining' : ReminderState)
      (o : Except Failure CompiledPrompt) (tr : TurnTrace) (hreaches : Reaches session remaining)
      (h : Exec (session.compile draft context modelRound budget remaining) tr
        (.ret (o, remaining'))) :
      Reaches session remaining'

variable {session}

/-- Validating the sources changes no reminder, and leaves the sources as they are. -/
lemma normalizeReminderSources_spec (ids : List NonEmptyString) (sources : List ReminderSource)
    (s : ReminderState) :
    Spec (fun _ => True) (normalizeReminderSources ids sources) s fun o s' _ =>
      s' = s ∧ ∀ normalized, o = .ok normalized → normalized = sources := by
  induction sources generalizing ids s with
  | nil => exact Spec.pure ⟨rfl, fun _ h => (Except.ok.inj h).symm⟩
  | cons source sources ih =>
    refine Spec.bind (P := fun _ s' _ => s' = s) ?_ ?_ fun _ _ _ h => ⟨h, fun _ h => by cases h⟩
    · refine Spec.call_bind trivial fun _ => spec_receive (fun isSource _ => ?_) fun _ _ => rfl
      split
      · exact Spec.throw rfl
      refine Spec.call_bind trivial fun _ => spec_receive (fun value _ => ?_) fun _ _ => rfl
      refine Spec.bind (P := fun _ s' _ => s' = s) (Spec.ofExcept rfl) ?_ fun _ _ _ h => h
      rintro id _ _ rfl
      split
      · exact Spec.throw rfl
      · exact Spec.pure rfl
    · rintro id _ _ rfl
      refine (ih _ _).bind ?_ fun _ _ _ h => ⟨h.1, fun _ h => by cases h⟩
      rintro normalized _ _ ⟨rfl, hnormalized⟩
      refine Spec.pure ⟨rfl, fun all hall => ?_⟩
      cases hall
      rw [hnormalized normalized rfl]

/-- A session acquires the reminders of its state and its sources as they are. -/
lemma begin_spec (state : ReminderState) (compiler : PromptCompiler)
    (sources : List ReminderSource) (traceSink : Bool) (s : ReminderState) :
    Spec (fun _ => True) (TurnPromptSession.begin state compiler sources traceSink) s
      fun o s' _ => s' = state.clearScope .turn ∧ ∀ session : TurnPromptSession, o = .ok session →
        session = ⟨state.reminders, compiler, sources, traceSink⟩ := by
  refine Spec.set_bind ?_
  refine (normalizeReminderSources_spec [] sources _).bind ?_ ?_
  · rintro normalized s' _ ⟨rfl, hnormalized⟩
    refine Spec.pure ⟨rfl, fun session h => ?_⟩
    cases h
    rw [hnormalized normalized rfl]
  · rintro error s' _ ⟨rfl, -⟩
    exact ⟨rfl, fun _ h => by cases h⟩

/-- What remains in a session is part of what it was given, where keys are unique. -/
theorem Reaches.subset {remaining : ReminderState} (h : session.Reaches remaining) :
    Keyed.Unique SystemReminder.key session.baseReminders ∧
      ∀ r ∈ remaining.reminders, r ∈ session.baseReminders := by
  induction h with
  | begin state compiler sources traceSink s remaining tr h =>
    obtain ⟨rfl, hsession⟩ := Spec.sound h (begin_spec state compiler sources traceSink s)
    rw [hsession session rfl]
    refine ⟨state.unique, fun r hr => ?_⟩
    rw [ReminderState.clearScope_reminders, ReminderState.mem_without] at hr
    exact hr.1
  | compile draft context modelRound budget remaining remaining' o tr _ h ih =>
    have hspec := Spec.sound h (session.compile_spec draft context modelRound budget remaining)
    refine ⟨ih.1, fun r hr => ?_⟩
    cases o with
    | error failure =>
      cases hspec
      exact ih.2 r hr
    | ok compiled =>
      rw [hspec.1, consume] at hr
      split at hr
      · rw [ReminderState.clearScope_reminders, ReminderState.mem_without] at hr
        exact ih.2 r hr.1
      · exact ih.2 r hr

/-- **The compilation** of a session, with a budget. -/
theorem Reaches.compile_trims {remaining : ReminderState} (h : session.Reaches remaining)
    (draft : PromptDraft) (context : ReminderResolutionContext) (modelRound : ℕ)
    (budget : RequestTokenBudget) (count : ModelRequest → Model → ℕ) :
    Spec IsCallback (session.compile draft context modelRound (some budget)) remaining
      (session.Trims context modelRound budget count draft.history 0 remaining) :=
  compileFrom_trims h.subset.1 _ draft 0 remaining draft.history.length_turnBoundaries.symm

/-- An accepted request leaves no next-request reminder. -/
lemma Reaches.consume_eq {remaining : ReminderState} (h : session.Reaches remaining) :
    session.consume remaining = remaining.clearScope .nextRequest := by
  unfold consume
  split
  · rfl
  · next hnone =>
    refine ReminderState.ext ?_
    rw [ReminderState.clearScope_reminders, ReminderState.without, eq_comm, List.filter_eq_self]
    intro r hr
    refine decide_eq_true fun hscope => hnone ?_
    have hactive : (remaining.reminders.any fun r => r.scope = .nextRequest) = true :=
      List.any_eq_true.2 ⟨r, hr, decide_eq_true hscope⟩
    refine List.any_eq_true.2 ⟨r, List.mem_filter.2 ⟨h.subset.2 r hr, ?_⟩, decide_eq_true hscope⟩
    rw [hactive, Bool.or_true]

end TurnPromptSession

/-! ### The compilation -/

/-- The request that a call counts. -/
def countedRequest? : TurnCall → Option ModelRequest
  | .countRequest request _ => some request
  | _ => none

/-- The requests that were counted. -/
def counted (calls : List TurnCall) : List ModelRequest := calls.filterMap countedRequest?

/-- The replies of a deterministic request counter. Every other callback raises. -/
def countingRequests (count : ModelRequest → Model → ℕ) : (call : TurnCall) → TurnReply call
  | .countRequest request model => .ok (.int (count request model))
  | call => call.exit

lemma countsBy_of_answers {count : ModelRequest → Model → ℕ} {tr : TurnTrace}
    (h : Answers (countingRequests count) tr) : CountsBy count tr :=
  fun request model reply hmem => h ⟨.countRequest request model, reply⟩ hmem

lemma CountsBy.append {count : ModelRequest → Model → ℕ} {tr tr' : TurnTrace}
    (h : CountsBy count tr) (h' : CountsBy count tr') : CountsBy count (tr ++ tr') := by
  intro request model reply hmem
  rcases List.mem_append.1 hmem with hmem | hmem
  · exact h request model reply hmem
  · exact h' request model reply hmem

section Compile

variable {session : TurnPromptSession} {context : ReminderResolutionContext} {modelRound : ℕ}
  {budget : RequestTokenBudget} {count : ModelRequest → Model → ℕ} {history : PreparedContext}

lemma counted_append (calls calls' : List TurnCall) :
    counted (calls ++ calls') = counted calls ++ counted calls' :=
  List.filterMap_append

/-- Asking the sources counts nothing. -/
lemma counted_asks : counted (session.asks context modelRound history) = [] := by
  unfold TurnPromptSession.asks counted
  split
  · refine List.filterMap_eq_nil_iff.2 fun call hcall => ?_
    obtain ⟨source, -, rfl⟩ := List.mem_map.1 hcall
    rfl
  · rfl

lemma counted_schedule (requests : List ModelRequest) :
    counted (session.schedule context modelRound history requests) = requests := by
  induction requests generalizing history with
  | nil => rfl
  | cons request requests ih =>
    rw [TurnPromptSession.schedule, counted_append, counted_append, counted_asks, ih]
    rfl

/-- The last candidate comes after those before it. -/
lemma schedule_concat (requests : List ModelRequest) (last : ModelRequest) :
    session.schedule context modelRound history (requests ++ [last]) =
      session.schedule context modelRound history requests ++
        (session.asks context modelRound (history.dropTurns requests.length) ++
          [.countRequest last context.model]) := by
  induction requests generalizing history with
  | nil => simp [TurnPromptSession.schedule]
  | cons request requests ih =>
    have hdrop : (history.dropTurns 1).dropTurns requests.length =
        history.dropTurns (request :: requests).length := by
      rw [PreparedContext.dropTurns_dropTurns, List.length_cons, Nat.add_comm]
    rw [List.cons_append, TurnPromptSession.schedule, ih, hdrop, TurnPromptSession.schedule]
    simp only [List.append_assoc]

variable {trimmed : ℕ} {requests : List ModelRequest} {s s' : ReminderState}
  {calls : List TurnCall} {o : Except Failure CompiledPrompt}

/-- However the loop ends, it has tried at most as many candidates as the history has suffixes of
whole turns. -/
lemma TurnPromptSession.TrimOutcome.tries
    (h : session.TrimOutcome context modelRound budget count history trimmed requests s calls o
      s') :
    ∃ (rejected : List ModelRequest) (last : Option ModelRequest),
      rejected.length ≤ history.turns.length ∧
      calls <+: session.attempts context modelRound history rejected last := by
  cases h with
  | accepted compiled hlen hcalls =>
    exact ⟨requests, some compiled.request, hlen, hcalls ▸ List.prefix_rfl⟩
  | exceeded last hlen hcalls hlast =>
    obtain ⟨rejected, rfl⟩ : ∃ rejected, requests = rejected ++ [last] :=
      ⟨requests.dropLast, (List.dropLast_append_getLast? last hlast).symm⟩
    rw [List.length_append, List.length_singleton] at hlen
    rw [schedule_concat] at hcalls
    exact ⟨rejected, some last, by omega, hcalls ▸ List.prefix_rfl⟩
  | failed failure rest hlen hcalls hrest =>
    rcases hrest with hstart | ⟨request, -, hrest⟩
    · refine ⟨requests, none, hlen, ?_⟩
      rw [hcalls, TurnPromptSession.attempts, Option.toList_none, List.map_nil, List.append_nil]
      exact (List.prefix_append_right_inj _).2 hstart
    · refine ⟨requests, some request, hlen, ?_⟩
      rw [hcalls, hrest]
      exact List.prefix_rfl

/-- The budget is exceeded exactly if all candidates were counted and none of them fits. -/
lemma TurnPromptSession.TrimOutcome.exceeded_iff
    (hrejected : TurnPromptSession.Rejected context budget count history requests)
    (h : session.TrimOutcome context modelRound budget count history trimmed requests s calls o
      s') :
    (∃ required, o = .error (.contextBudgetExceeded budget.maxTokens required)) ↔
      (counted calls).length = history.turns.length + 1 ∧
        ∀ request ∈ counted calls, budget.maxTokens < count request context.model := by
  cases h with
  | accepted compiled hlen hcalls hmessages hfits =>
    refine iff_of_false (fun ⟨_, h⟩ => by cases h) fun hall => ?_
    have hover := hall.2 compiled.request (by
      rw [hcalls, counted_append, counted_append]
      exact List.mem_append_right _ (List.mem_append_right _ (List.mem_singleton_self _)))
    omega
  | exceeded last hlen hcalls hlast =>
    refine iff_of_true ⟨_, rfl⟩ ?_
    rw [hcalls, counted_schedule]
    exact ⟨hlen, hrejected.exceeds⟩
  | failed failure rest hlen hcalls hrest hfailure =>
    refine iff_of_false (fun ⟨_, h⟩ => ?_) fun hall => ?_
    · cases h
      exact hfailure ⟨_, _, rfl⟩
    · rcases hrest with hstart | ⟨request, hfits, hrest⟩
      · have hnone : counted rest = [] := by
          have hsub := hstart.filterMap countedRequest?
          change counted rest <+: counted _ at hsub
          rwa [counted_asks, List.prefix_nil] at hsub
        have hcount := hall.1
        rw [hcalls, counted_append, counted_schedule, hnone, List.append_nil] at hcount
        omega
      · have hover := hall.2 request (by
          rw [hcalls, hrest, counted_append, counted_append]
          exact List.mem_append_right _ (List.mem_append_right _ (List.mem_singleton_self _)))
        omega

end Compile

/-- **A compilation drops the least number of turns.** In every execution of `compile` with a
budget whose counter is a function, over a history of `n` complete turns:

* it goes on until it ends, and tries at most `n + 1` candidates, each over a history that has lost
  one more turn, where every source is resolved once, in order, with a context that contains this
  history;
* if it returns, all candidates before the accepted one were over the budget, which is within it
  and was counted as recorded, and the next-request reminders are gone;
* it raises `ContextBudgetExceededError` exactly if `n + 1` candidates were counted and none fits;
* if it raises, whatever it raises, the remaining reminders are as before. -/
theorem compile_trims_least {session : TurnPromptSession} {remaining : ReminderState}
    (hreaches : session.Reaches remaining) (draft : PromptDraft)
    (context : ReminderResolutionContext) (modelRound : ℕ) (budget : RequestTokenBudget)
    (count : ModelRequest → Model → ℕ) {tr : TurnTrace}
    {q : Prog TurnCall TurnReply (Except Failure CompiledPrompt × ReminderState)}
    (hexec : Exec (session.compile draft context modelRound (some budget) remaining) tr q)
    (hcounts : CountsBy count tr) :
    ((∃ o s', q = .ret (o, s')) ∨ ∃ call k, q = .call call k) ∧
    (∃ (rejected : List ModelRequest) (last : Option ModelRequest),
      rejected.length ≤ draft.history.turns.length ∧
      trials tr <+: session.attempts context modelRound draft.history rejected last) ∧
    (∀ compiled s', q = .ret (.ok compiled, s') → ∃ rejected : List ModelRequest,
      rejected.length ≤ draft.history.turns.length ∧
      (∀ i request, rejected[i]? = some request →
        request.messages = (draft.history.dropTurns i).messages ∧
          budget.maxTokens < count request context.model) ∧
      trials tr =
        session.attempts context modelRound draft.history rejected (some compiled.request) ∧
      compiled.request.messages = (draft.history.dropTurns rejected.length).messages ∧
      (draft.history.dropTurns rejected.length).current = draft.history.current ∧
      count compiled.request context.model ≤ budget.maxTokens ∧
      compiled.diagnostics.estimatedTokens = some (count compiled.request context.model) ∧
      compiled.diagnostics.trimmedTurns = rejected.length ∧
      s' = remaining.clearScope .nextRequest) ∧
    (∀ o s', q = .ret (o, s') →
      ((∃ required, o = .error (.contextBudgetExceeded budget.maxTokens required)) ↔
        (counted (trials tr)).length = draft.history.turns.length + 1 ∧
          ∀ request ∈ counted (trials tr), budget.maxTokens < count request context.model)) ∧
    ∀ failure s', q = .ret (.error failure, s') → s' = remaining := by
  have huncut : (session.compile draft context modelRound (some budget) remaining).Uncut :=
    session.compileFrom_uncut _ _ _ _ _ _ rfl _
  have hloop := hreaches.compile_trims draft context modelRound budget count
  have hended {o s'} (hq : q = .ret (o, s')) :
      ∃ requests, TurnPromptSession.Rejected context budget count draft.history requests ∧
        session.TrimOutcome context modelRound budget count draft.history 0 requests remaining
          (trials tr) o s' := by
    rw [hq] at hexec
    exact Spec.sound hexec hloop hcounts
  refine ⟨(hexec.uncut huncut).cases.imp_left fun ⟨⟨o, s'⟩, h⟩ => ⟨o, s', h⟩, ?_, ?_, ?_, ?_⟩
  · obtain ⟨tr', ⟨o, s'⟩, hexec', hanswers⟩ := hexec.extend huncut (countingRequests count)
    obtain ⟨requests, -, houtcome⟩ :=
      Spec.sound hexec' hloop (hcounts.append (countsBy_of_answers hanswers))
    obtain ⟨rejected, last, hlen, hstart⟩ := houtcome.tries
    rw [trials_append] at hstart
    exact ⟨rejected, last, hlen, (List.prefix_append _ _).trans hstart⟩
  · intro compiled s' hq
    obtain ⟨requests, hrejected, houtcome⟩ := hended hq
    cases houtcome with
    | accepted _ hlen hcalls hmessages hfits hestimated htrimmed =>
      refine ⟨requests, hlen, fun i request hi => ⟨hrejected.messages i request hi, ?_⟩, hcalls,
        hmessages, PreparedContext.current_dropTurns _ _, hfits, hestimated, ?_,
        hreaches.consume_eq⟩
      · exact hrejected.exceeds request (List.mem_of_getElem? hi)
      · rw [htrimmed, Nat.zero_add]
  · intro o s' hq
    obtain ⟨requests, hrejected, houtcome⟩ := hended hq
    exact houtcome.exceeded_iff hrejected
  · intro failure s' hq
    obtain ⟨requests, -, houtcome⟩ := hended hq
    cases houtcome with
    | exceeded => rfl
    | failed => rfl

/-- A history of one complete turn and a current one, of one message each. -/
def turnAndCurrent : PreparedContext where
  messages := [Message.user "a", Message.user "b"]
  continuation := none
  turnBoundaries := [1]
  valid := by simp [Segments.Valid]

/-- The session of a plain conversation without reminders. -/
def plainSession : TurnPromptSession := plainConversation.session .empty

/-- Its first round. -/
def plainContext : ReminderResolutionContext where
  model := plainConversation.model
  conversation := .empty
  preparedContext := turnAndCurrent
  turnIndex := 1
  modelRound := 1
  turnIndex_pos := Nat.one_pos
  modelRound_pos := Nat.one_pos

lemma plainSession_reaches : plainSession.Reaches .empty :=
  .begin .empty plainConversation.promptCompiler [] false .empty .empty [] (.refl _)

/-- With a budget of one message, one turn is dropped. -/
theorem compile_trims_least_one : ∃ tr compiled s' rejected,
    Exec (plainSession.compile (plainConversation.draft turnAndCurrent) plainContext 1
      (some ⟨1, Nat.one_pos⟩) .empty) tr (.ret (.ok compiled, s')) ∧
    rejected.length = 1 ∧
    trials tr =
      plainSession.attempts plainContext 1 turnAndCurrent rejected (some compiled.request) := by
  have heval : ((plainSession.compile (plainConversation.draft turnAndCurrent) plainContext 1
      (some ⟨1, Nat.one_pos⟩) .empty).eval
        (countingRequests fun request _ => request.messages.length)).map
          (fun o => o.1.toOption.map (·.diagnostics.trimmedTurns)) = some (some 1) := by
    decide +kernel
  obtain ⟨⟨o, s'⟩, hreturned, hdropped⟩ := Option.map_eq_some_iff.1 heval
  obtain ⟨tr, hexec, hanswers⟩ := Prog.exec_of_eval hreturned
  cases o with
  | error failure => cases hdropped
  | ok compiled =>
    obtain ⟨-, -, hok, -⟩ := compile_trims_least plainSession_reaches _ _ _ _ _ hexec
      (countsBy_of_answers hanswers)
    obtain ⟨rejected, -, -, htrials, -, -, -, -, hlength, -⟩ := hok compiled s' rfl
    have hone : compiled.diagnostics.trimmedTurns = 1 := Option.some.inj hdropped
    exact ⟨tr, compiled, s', rejected, hexec, hlength.symm.trans hone, htrials⟩

end PurrceptCore
