import PurrceptCore.Models.TurnCalls

set_option relaxedAutoImplicit false
set_option autoImplicit false

/-!
# Context policies

The selection of history for the next request (`context_policy.py`).

## Main definitions

* `PurrceptCore.ContextPolicy` — the built-in policies, and any other.
* `PurrceptCore.AppendOnlyContext.prepare`, `PurrceptCore.SlidingWindowContext.prepare`,
  `PurrceptCore.TokenBudgetContext.prepare` — the built-in selections.
* `PurrceptCore.ContextPolicy.prepare` — the call of the model loop, with its checks.
* `PurrceptCore.dropOldestCompleteTurn` — the trimming of a request budget
  (`prompt/compiler.py`).
* `PurrceptCore.PreparedContext.Retains` — a context keeps the newest complete turns of a history
  and all of its current turn.

## Main results

* `PurrceptCore.retainFrom_ok`, `PurrceptCore.dropOldestCompleteTurn_cons` — the constructor
  accepts what selecting and trimming cut out.
-/

namespace PurrceptCore

open Interaction

/-- `RequestTokenBudget`; the counter is a call. -/
structure RequestTokenBudget where
  maxTokens : ℕ
  maxTokens_pos : 0 < maxTokens

/-- The context policies: the built-in ones, and any other object. -/
inductive ContextPolicy
  | appendOnly
  | slidingWindow (maxTurns : ℕ)
  /-- The counter is a call. -/
  | tokenBudget (maxTokens : ℕ) (maxTokens_pos : 0 < maxTokens)
  | custom

/-- Whether the policy is one of the built-in ones. -/
def ContextPolicy.isBuiltin : ContextPolicy → Bool
  | custom => false
  | _ => true

/-- `AppendOnlyContext.prepare`. -/
def AppendOnlyContext.prepare (state : ConversationState) : Except Failure PreparedContext :=
  PreparedContext.make state.messages state.continuation state.turnBoundaries

/-- The messages from the start of complete turn number `retained` on, with their boundaries
counted anew. -/
def retainFrom (state : ConversationState) (startIndex retained : ℕ) :
    Except Failure PreparedContext :=
  PreparedContext.make (state.messages.drop startIndex) state.continuation
    ((state.turnBoundaries.drop retained).map (· - startIndex))

/-- `SlidingWindowContext.prepare`. -/
def SlidingWindowContext.prepare (maxTurns : ℕ) (state : ConversationState) :
    Except Failure PreparedContext :=
  let retainedStart := state.turnBoundaries.length - maxTurns
  retainFrom state (Segments.startOf state.turnBoundaries retainedStart) retainedStart

namespace TokenBudgetContext

/-- The loop over `turn_index`, from the newest complete turn to the oldest: the start of the
longest suffix that fits, as its offset and its turn. -/
def extend (maxTokens : ℕ) (state : ConversationState) (model : Model) :
    ℕ → ℕ × ℕ → TurnM (ℕ × ℕ)
  | 0, start => pure start
  | turnIndex + 1, start => do
    let candidateStart := Segments.startOf state.turnBoundaries turnIndex
    if (← countTokens (state.messages.drop candidateStart) model) > maxTokens then
      pure start
    else
      extend maxTokens state model turnIndex (candidateStart, turnIndex)

/-- `TokenBudgetContext.prepare`: the current turn is counted first and never trimmed. -/
def prepare (maxTokens : ℕ) (state : ConversationState) (model : Model) :
    TurnM PreparedContext := do
  let turns := state.turnBoundaries.length
  let currentStart := Segments.startOf state.turnBoundaries turns
  let currentTokens ← countTokens (state.messages.drop currentStart) model
  if currentTokens > maxTokens then
    throw (.contextBudgetExceeded maxTokens currentTokens)
  else do
    let (startIndex, retainedStart) ← extend maxTokens state model turns (currentStart, turns)
    Routine.ofExcept (retainFrom state startIndex retainedStart)

end TokenBudgetContext

/-- `context_policy.prepare(provisional_state, model)` in the model loop, with the checks of
what it returned. -/
def ContextPolicy.prepare (policy : ContextPolicy) (state : ConversationState) (model : Model) :
    TurnM PreparedContext :=
  match policy with
  | appendOnly => Routine.ofExcept (AppendOnlyContext.prepare state)
  | slidingWindow maxTurns => Routine.ofExcept (SlidingWindowContext.prepare maxTurns state)
  | tokenBudget maxTokens _ => TokenBudgetContext.prepare maxTokens state model
  | custom => do
    match ← receive (← Routine.call (.prepare state model)) with
    | .context context => pure context
    | .awaitable => throw (.typeError "ContextPolicy.prepare() must be synchronous.")
    | .other => throw (.typeError "ContextPolicy.prepare() must return PreparedContext.")

/-- `_drop_oldest_complete_turn`. -/
def dropOldestCompleteTurn (history : PreparedContext) :
    Except Failure (Option PreparedContext) :=
  match history.turnBoundaries with
  | [] => .ok none
  | removedMessages :: boundaries => do
    let trimmed ← PreparedContext.make (history.messages.drop removedMessages)
      history.continuation (boundaries.map (· - removedMessages))
    .ok (some trimmed)

/-! ### Whole turns -/

/-- The context keeps the newest complete turns of the history, all messages after them, and the
continuation. -/
structure PreparedContext.Retains (context : PreparedContext) (messages : List Message)
    (continuation : Option ModelContinuation) (boundaries : List ℕ) : Prop where
  continuation_eq : context.continuation = continuation
  turns : ∀ turns current, Segments.Splits messages boundaries turns current →
    ∃ k ≤ turns.length,
      Segments.Splits context.messages context.turnBoundaries (turns.drop k) current

namespace PreparedContext.Retains

variable {context context' : PreparedContext} {messages : List Message}
  {continuation : Option ModelContinuation} {boundaries : List ℕ}

/-- A context retains itself. -/
lemma refl (context : PreparedContext) :
    context.Retains context.messages context.continuation context.turnBoundaries :=
  ⟨rfl, fun turns _ h => ⟨0, Nat.zero_le _, by rwa [List.drop_zero]⟩⟩

/-- Dropping again drops more. -/
lemma trans (h : context.Retains messages continuation boundaries)
    (h' : context'.Retains context.messages context.continuation context.turnBoundaries) :
    context'.Retains messages continuation boundaries where
  continuation_eq := h'.continuation_eq.trans h.continuation_eq
  turns turns current hs := by
    obtain ⟨k, hk, hk'⟩ := h.turns turns current hs
    obtain ⟨j, hj, hj'⟩ := h'.turns _ _ hk'
    rw [List.drop_drop] at hj'
    rw [List.length_drop] at hj
    exact ⟨k + j, by omega, hj'⟩

end PreparedContext.Retains

/-- Cutting at the start of a turn: the constructor accepts the result. -/
theorem retainFrom_ok (state : ConversationState) {k : ℕ}
    (hk : k ≤ state.turnBoundaries.length) :
    ∃ context, retainFrom state (Segments.startOf state.turnBoundaries k) k = .ok context ∧
      context.Retains state.messages state.continuation state.turnBoundaries := by
  obtain ⟨turns, current, hs⟩ := state.exists_turns
  have hdrop := hs.drop (hs.length_eq ▸ hk)
  refine ⟨_, PreparedContext.make_eq_ok hdrop.valid, rfl, fun turns' current' hs' => ?_⟩
  obtain ⟨rfl, rfl⟩ := hs.unique hs'
  exact ⟨k, hs.length_eq ▸ hk, hdrop⟩

/-- `AppendOnlyContext` keeps everything. -/
lemma AppendOnlyContext.prepare_ok (state : ConversationState) :
    ∃ context, AppendOnlyContext.prepare state = .ok context ∧
      context.Retains state.messages state.continuation state.turnBoundaries :=
  ⟨_, PreparedContext.make_eq_ok state.valid, PreparedContext.Retains.refl _⟩

/-- `SlidingWindowContext` keeps the newest turns. -/
lemma SlidingWindowContext.prepare_ok (maxTurns : ℕ) (state : ConversationState) :
    ∃ context, SlidingWindowContext.prepare maxTurns state = .ok context ∧
      context.Retains state.messages state.continuation state.turnBoundaries :=
  retainFrom_ok state (Nat.sub_le _ _)

/-- Without a complete turn there is nothing to drop. -/
lemma dropOldestCompleteTurn_nil {history : PreparedContext}
    (h : history.turnBoundaries = []) : dropOldestCompleteTurn history = .ok none := by
  unfold dropOldestCompleteTurn
  split
  · rfl
  · next hcons => rw [h] at hcons; cases hcons

/-- Dropping the oldest complete turn: the constructor accepts the result. -/
theorem dropOldestCompleteTurn_cons {history : PreparedContext} {b : ℕ} {bs : List ℕ}
    (h : history.turnBoundaries = b :: bs) :
    ∃ context, dropOldestCompleteTurn history = .ok (some context) ∧
      context.Retains history.messages history.continuation history.turnBoundaries ∧
      context.turnBoundaries.length = bs.length := by
  obtain ⟨turns, current, hs⟩ := history.exists_turns
  have hlen : 1 ≤ turns.length := by
    rw [← hs.length_eq, h, List.length_cons]
    omega
  have hdrop := hs.drop hlen
  have hstart : Segments.startOf history.turnBoundaries 1 = b := by rw [h]; rfl
  have htail : history.turnBoundaries.drop 1 = bs := by rw [h]; rfl
  rw [hstart, htail] at hdrop
  refine ⟨⟨_, history.continuation, _, hdrop.valid⟩, ?_, ⟨rfl, fun turns' current' hs' => ?_⟩,
    List.length_map _⟩
  · unfold dropOldestCompleteTurn
    split
    · next hnil => rw [hnil] at h; cases h
    · next b' bs' hcons =>
      rw [h] at hcons
      cases hcons
      rw [PreparedContext.make_eq_ok hdrop.valid]
      rfl
  · obtain ⟨rfl, rfl⟩ := hs.unique hs'
    exact ⟨1, hlen, hdrop⟩

/-- What a policy may select from a state: a built-in policy drops oldest turns, and any other
one selects what it likes. -/
def Selects (policy : ContextPolicy) (state : ConversationState) (context : PreparedContext) :
    Prop :=
  policy.isBuiltin = true →
    context.Retains state.messages state.continuation state.turnBoundaries

end PurrceptCore
