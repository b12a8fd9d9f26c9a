import PurrceptCore.Models.BudgetScan
import PurrceptCore.Models.RequestTrimming

set_option relaxedAutoImplicit false
set_option autoImplicit false

/-!
# The two budgets agree

A transcript budget grows the history from its newest turn, and a request budget shrinks it from
its oldest. With a counter that looks at the messages alone, and never counts less when an older
turn comes before, both stop at the same turn.

## Main definitions

* `PurrceptCore.MonotoneInTurns` — an older turn never lowers the count.

## Main results

* `PurrceptCore.MonotoneInTurns.descend_eq` — the scan stops where the trimming does.
* `PurrceptCore.budgets_agree` — the same messages, the same turns and the same error.
-/

namespace PurrceptCore

open Interaction Routine

/-- An older complete turn before a suffix of the state never lowers the count. -/
def MonotoneInTurns (count : List Message → Model → ℕ) (state : ConversationState)
    (model : Model) : Prop :=
  ∀ d < state.turns.length, count (state.context.dropTurns (d + 1)).messages model ≤
    count (state.context.dropTurns d).messages model

section Agreement

variable {count : List Message → Model → ℕ} {state : ConversationState} {model : Model}
  {maxTokens : ℕ}

/-- Suffixes of a suffix that fits fit. -/
lemma MonotoneInTurns.fits (h : MonotoneInTurns count state model) {i j : ℕ} (hij : i ≤ j)
    (hj : j ≤ state.turns.length) (hi : Fits count maxTokens state model i) :
    Fits count maxTokens state model j := by
  induction j, hij using Nat.le_induction with
  | base => exact hi
  | succ j hij ih => exact (h j hj).trans (ih (by omega))

/-- The scan from the newest turn stops at the first suffix that fits, counted from the oldest. -/
lemma MonotoneInTurns.descend_eq (h : MonotoneInTurns count state model) {d : ℕ}
    (hd : d ≤ state.turns.length) (hrejected : ∀ i < d, ¬ Fits count maxTokens state model i)
    (hfits : Fits count maxTokens state model d) :
    descend (Fits count maxTokens state model) state.turns.length = d := by
  have hlast : Fits count maxTokens state model state.turns.length := h.fits hd le_rfl hfits
  have hleast := (descend_least_iff hlast).2 fun i j hij hj hi => h.fits hij hj hi
  have hle : descend (Fits count maxTokens state model) state.turns.length ≤ d := by
    by_contra hlt
    exact hleast d (by omega) hfits
  rcases Nat.lt_or_eq_of_le hle with hlt | heq
  · exact absurd (fits_of_descend_le le_rfl (hlt.trans_le hd)) (hrejected _ hlt)
  · exact heq

/-- The current turn is what is left when all complete turns are dropped. -/
lemma messages_dropTurns_all (state : ConversationState) :
    (state.context.dropTurns state.turns.length).messages = state.current := by
  rw [PreparedContext.messages_dropTurns, ConversationState.turns_context, List.drop_length]
  rfl

variable {context : ReminderResolutionContext} {budget : RequestTokenBudget}
  {requests : List ModelRequest}

/-- A rejected candidate holds a suffix that does not fit. -/
lemma TurnPromptSession.Rejected.not_fits
    (h : TurnPromptSession.Rejected context budget (fun request => count request.messages)
      state.context requests) {i : ℕ} (hi : i < requests.length) :
    ¬ Fits count budget.maxTokens state context.model i := by
  have hget := List.getElem?_eq_getElem hi
  have hcount := h.exceeds _ (List.getElem_mem hi)
  simp only [h.messages i _ hget] at hcount
  exact Nat.not_le.2 hcount

/-- When all candidates are rejected, the last one holds the current turn, which does not fit. -/
lemma TurnPromptSession.Rejected.current_exceeds
    (h : TurnPromptSession.Rejected context budget (fun request => count request.messages)
      state.context requests) (hlen : requests.length = state.context.turns.length + 1)
    {last : ModelRequest} (hlast : requests.getLast? = some last) :
    last.messages = state.current ∧
      budget.maxTokens < count state.current context.model := by
  rw [← messages_dropTurns_all]
  constructor
  · refine h.messages _ _ ?_
    rw [← hlast, List.getLast?_eq_getElem?, hlen]
    rfl
  · have hlimit : ¬ Fits count budget.maxTokens state context.model state.turns.length :=
      h.not_fits (by rw [hlen]; exact Nat.lt_succ_self _)
    exact Nat.not_le.1 hlimit

end Agreement

namespace TurnPromptSession

variable (session : TurnPromptSession)

/-- Without a budget the request has the messages of the draft. -/
lemma compile_without_budget (draft : PromptDraft) (context : ReminderResolutionContext)
    (modelRound : ℕ) (s : ReminderState) :
    Spec IsCallback (session.compile draft context modelRound none) s fun o _ _ =>
      ∀ compiled, o = .ok compiled → compiled.request.messages = draft.history.messages := by
  have hbody (retry : PromptDraft → TurnM CompiledPrompt) :
      Spec IsCallback (session.compileOnce context modelRound none draft 0 retry) s fun o _ _ =>
        ∀ compiled, o = .ok compiled → compiled.request.messages = draft.history.messages := by
    refine (session.compileCandidate_spec context modelRound draft s).bind ?_ ?_
    · rintro compiled s' e ⟨-, hcompiled⟩
      obtain ⟨-, hmessages, -⟩ := hcompiled compiled rfl
      refine (session.accept_records _ _ _ _ _).mono ?_
      rintro o s'' e' ⟨-, -, haccepted⟩ accepted ho
      rw [(haccepted accepted ho).1, hmessages]
    · rintro error s' e - compiled h
      cases h
  unfold compile
  cases draft.history.turnBoundaries.length with
  | zero => exact hbody _
  | succ turns => exact hbody _

end TurnPromptSession

/-- **The two budgets agree.** Let a session compile a request over everything that a state
contains, with a budget whose counter counts the messages, and let nothing fail but the budget.
Then a transcript budget with the same limit and counter

* raises `ContextBudgetExceededError` if and only if the compilation does, with the same number of
  tokens;
* selects otherwise the history of the candidate that was accepted: the sources have seen it, the
  request has its messages, and it is the state without the turns that were trimmed. So a request
  compiled over what it selects, without a budget, has the same messages. -/
theorem budgets_agree {session : TurnPromptSession} {remaining : ReminderState}
    (hreaches : session.Reaches remaining) {state : ConversationState} {draft : PromptDraft}
    (hdraft : AppendOnlyContext.prepare state = .ok draft.history)
    (context : ReminderResolutionContext) (modelRound : ℕ) (budget : RequestTokenBudget)
    (count : List Message → Model → ℕ) (hmonotone : MonotoneInTurns count state context.model)
    {tr : TurnTrace} {o : Except Failure CompiledPrompt} {s' : ReminderState}
    (hexec : Exec (session.compile draft context modelRound (some budget) remaining) tr
      (.ret (o, s')))
    (hcounts : CountsBy (fun request => count request.messages) tr)
    (hcompiles : ∀ failure, o = .error failure → failure.IsBudget) (s : ReminderState) :
    ∃ selected, eval (counting count)
        (TokenBudgetContext.prepare budget.maxTokens state context.model) s = some (selected, s) ∧
      (∀ required, selected = .error (.contextBudgetExceeded budget.maxTokens required) ↔
        o = .error (.contextBudgetExceeded budget.maxTokens required)) ∧
      (∀ compiled, o = .ok compiled → ∃ prepared, selected = .ok prepared ∧
        compiled.request.messages = prepared.messages ∧
        prepared = draft.history.dropTurns compiled.diagnostics.trimmedTurns ∧
        session.asks context modelRound prepared ++
          [.countRequest compiled.request context.model] <:+ trials tr) ∧
      ∀ compiled, o = .ok compiled → ∀ prepared, selected = .ok prepared →
        ∀ (session' : TurnPromptSession) draft' context' modelRound' remaining' tr' compiled' s'',
          draft'.history = prepared →
          Exec (session'.compile draft' context' modelRound' none remaining') tr'
            (.ret (.ok compiled', s'')) →
          compiled'.request.messages = compiled.request.messages := by
  have hhistory : draft.history = state.context := by
    rw [AppendOnlyContext.prepare_eq] at hdraft
    exact (Except.ok.inj hdraft).symm
  obtain ⟨requests, hrejected, houtcome⟩ := Spec.sound hexec
    (hreaches.compile_trims draft context modelRound budget fun request => count request.messages)
    hcounts
  rw [hhistory] at hrejected houtcome
  refine ⟨_, TokenBudgetContext.eval_prepare count budget.maxTokens state context.model s, ?_⟩
  cases houtcome with
  | failed failure rest hlen hcalls hrest hfailure =>
    exact absurd (hcompiles failure rfl) hfailure
  | exceeded last hlen hcalls hlast =>
    obtain ⟨hmessages, hcurrent⟩ := hrejected.current_exceeds hlen hlast
    rw [if_pos hcurrent]
    simp only [hmessages]
    refine ⟨fun required => ⟨fun h => ?_, fun h => ?_⟩, fun _ h => (by cases h),
      fun _ h => (by cases h)⟩
    · cases h
      rfl
    · cases h
      rfl
  | accepted compiled hlen hcalls hmessages hfits hestimated htrimmed =>
    have hfits' : Fits count budget.maxTokens state context.model requests.length := by
      rw [Fits, ← hmessages]
      exact hfits
    have hcurrent : ¬ budget.maxTokens < count state.current context.model := by
      rw [← messages_dropTurns_all]
      exact Nat.not_lt.2 (hmonotone.fits hlen le_rfl hfits')
    have hdescend := hmonotone.descend_eq hlen (fun i hi => hrejected.not_fits hi) hfits'
    rw [if_neg hcurrent, hdescend]
    refine ⟨fun required => ⟨fun h => (by cases h), fun h => (by cases h)⟩, ?_, ?_⟩
    · intro compiled' hcompiled
      cases hcompiled
      refine ⟨_, rfl, hmessages, ?_, ?_⟩
      · rw [hhistory, htrimmed, Nat.zero_add]
      · rw [hcalls]
        exact List.suffix_append _ _
    · intro compiled' hcompiled prepared hprepared session' draft' context' modelRound'
        remaining' tr' compiled'' s'' hdraft' hexec'
      cases hcompiled
      cases hprepared
      have hsame := Spec.sound hexec'
        (session'.compile_without_budget draft' context' modelRound' remaining') compiled'' rfl
      rw [hsame, hdraft', hmessages]

/-- With two tokens, one for each message, both budgets keep one turn of two. -/
theorem budgets_agree_two : ∃ tr compiled s' prepared,
    Exec (plainSession.compile (plainConversation.draft twoTurnsAndCurrent.context) plainContext 1
      (some ⟨2, Nat.two_pos⟩) .empty) tr (.ret (.ok compiled, s')) ∧
    eval (counting fun messages _ => messages.length)
      (TokenBudgetContext.prepare 2 twoTurnsAndCurrent plainContext.model) .empty =
        some (.ok prepared, .empty) ∧
    compiled.request.messages = prepared.messages := by
  have heval : ((plainSession.compile (plainConversation.draft twoTurnsAndCurrent.context)
      plainContext 1 (some ⟨2, Nat.two_pos⟩) .empty).eval
        (countingRequests fun request _ => request.messages.length)).map
          (fun o => o.1.isOk) = some true := by
    decide +kernel
  obtain ⟨⟨o, s'⟩, hreturned, hok⟩ := Option.map_eq_some_iff.1 heval
  obtain ⟨tr, hexec, hanswers⟩ := Prog.exec_of_eval hreturned
  cases o with
  | error failure => cases hok
  | ok compiled =>
    obtain ⟨selected, hselected, -, hagree, -⟩ := budgets_agree plainSession_reaches
      (AppendOnlyContext.prepare_eq twoTurnsAndCurrent) plainContext 1 ⟨2, Nat.two_pos⟩
      (fun messages _ => messages.length) (by unfold MonotoneInTurns; decide +kernel) hexec
      (countsBy_of_answers hanswers) (fun _ h => by cases h) .empty
    obtain ⟨prepared, rfl, hmessages, -, -⟩ := hagree compiled rfl
    exact ⟨tr, compiled, s', prepared, hexec, hselected, hmessages⟩

end PurrceptCore
