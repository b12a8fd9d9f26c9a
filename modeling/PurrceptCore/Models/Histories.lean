import PurrceptCore.Lists.Segments
import PurrceptCore.Models.Messages

set_option relaxedAutoImplicit false
set_option autoImplicit false

/-!
# Committed and prepared histories

The two immutable views of a transcript: the `ConversationState` that a conversation commits
(`conversation.py`), and the `PreparedContext` that a context policy selects from it
(`context_policy.py`). Both store their messages flat, with the exclusive end offsets of the
complete turns.

## Main definitions

* `PurrceptCore.ConversationState`, `PurrceptCore.PreparedContext` — the values that their
  constructors accept.
* `PurrceptCore.ConversationState.make`, `PurrceptCore.PreparedContext.make` — the
  constructors, with their checks.

## Main results

* `PurrceptCore.ConversationState.make_eq_ok`, `PurrceptCore.PreparedContext.make_eq_ok` — what
  the constructors accept.
* `PurrceptCore.ConversationState.exists_turns`, `PurrceptCore.PreparedContext.exists_turns` —
  the messages are the complete turns, followed by the current one.

## Design

* Offsets and turn numbers are natural numbers; the constructors reject a negative offset as
  they reject zero, and a negative turn number, which no state has.
-/

namespace PurrceptCore

/-- `_normalize_turn_boundaries` of `conversation.py` and `_normalize_boundaries` of
`context_policy.py`, which make the same checks. -/
def normalizeBoundaries (messageCount : ℕ) : ℕ → List ℕ → Except Failure Unit
  | _, [] => .ok ()
  | previous, boundary :: boundaries =>
    if boundary ≤ previous then
      .error (.valueError "turn_boundaries must be strictly increasing and positive.")
    else if messageCount < boundary then
      .error (.valueError "turn_boundaries must not exceed the number of messages.")
    else
      normalizeBoundaries messageCount boundary boundaries

/-- The boundaries that pass are the valid ones. -/
lemma normalizeBoundaries_eq_ok {messageCount previous : ℕ} {boundaries : List ℕ} :
    normalizeBoundaries messageCount previous boundaries = .ok () ↔
      Segments.Valid messageCount previous boundaries := by
  induction boundaries generalizing previous with
  | nil => exact iff_of_true rfl trivial
  | cons b bs ih =>
    rw [normalizeBoundaries, Segments.Valid, ← ih]
    split
    · next h => simp only [reduceCtorEq, false_iff, not_and]; omega
    · next h =>
      split
      · next h' => simp only [reduceCtorEq, false_iff, not_and]; omega
      · next h' => exact ⟨fun hbs => ⟨by omega, by omega, hbs⟩, fun hbs => hbs.2.2⟩

/-- `ConversationState`. -/
structure ConversationState where
  messages : List Message
  continuation : Option ModelContinuation
  turnIndex : ℕ
  turnBoundaries : List ℕ
  valid : Segments.Valid messages.length 0 turnBoundaries
  index_eq : turnBoundaries.length = turnIndex

namespace ConversationState

/-- `ConversationState(messages, …)`. -/
def make (messages : List Message) (continuation : Option ModelContinuation) (turnIndex : ℕ)
    (turnBoundaries : List ℕ) : Except Failure ConversationState :=
  match h : normalizeBoundaries messages.length 0 turnBoundaries with
  | .error e => .error e
  | .ok () =>
    if hindex : turnBoundaries.length = turnIndex then
      .ok ⟨messages, continuation, turnIndex, turnBoundaries, normalizeBoundaries_eq_ok.1 h,
        hindex⟩
    else
      .error (.valueError "turn_index must equal the number of turn_boundaries.")

/-- The constructor accepts valid boundaries, one for each turn. -/
theorem make_eq_ok {messages : List Message} {continuation : Option ModelContinuation}
    {turnIndex : ℕ} {turnBoundaries : List ℕ}
    (hvalid : Segments.Valid messages.length 0 turnBoundaries)
    (hindex : turnBoundaries.length = turnIndex) :
    make messages continuation turnIndex turnBoundaries =
      .ok ⟨messages, continuation, turnIndex, turnBoundaries, hvalid, hindex⟩ := by
  unfold make
  split
  · next e h => rw [normalizeBoundaries_eq_ok.2 hvalid] at h; cases h
  · next h => rw [dif_pos hindex]

/-- What an accepted state contains: the values its constructor was given. -/
lemma make_fields {messages : List Message} {continuation : Option ModelContinuation}
    {turnIndex : ℕ} {turnBoundaries : List ℕ} {state : ConversationState}
    (h : make messages continuation turnIndex turnBoundaries = .ok state) :
    state.messages = messages ∧ state.continuation = continuation ∧
      state.turnIndex = turnIndex ∧ state.turnBoundaries = turnBoundaries := by
  unfold make at h
  split at h
  · cases h
  · split at h
    · cases h
      exact ⟨rfl, rfl, rfl, rfl⟩
    · cases h

/-- `ConversationState()`. -/
def empty : ConversationState := ⟨[], none, 0, [], trivial, rfl⟩

/-- The messages are the complete turns, followed by the current one. -/
theorem exists_turns (state : ConversationState) :
    ∃ turns current, Segments.Splits state.messages state.turnBoundaries turns current :=
  Segments.exists_splits state.valid

/-- The constructor accepts a state to which one more turn was added. -/
theorem make_commit (state : ConversationState) {added : List Message} (hadded : added ≠ [])
    (continuation : Option ModelContinuation) :
    ∃ committed, make (state.messages ++ added) continuation (state.turnIndex + 1)
      (state.turnBoundaries ++ [(state.messages ++ added).length]) = .ok committed := by
  obtain ⟨turns, current, hs⟩ := state.exists_turns
  have hne : current ++ added ≠ [] := fun hnil => hadded (List.append_eq_nil_iff.1 hnil).2
  refine ⟨_, make_eq_ok ((hs.extend added).close hne).valid ?_⟩
  rw [List.length_append, state.index_eq]
  rfl

end ConversationState

/-- `PreparedContext`. -/
structure PreparedContext where
  messages : List Message
  continuation : Option ModelContinuation
  turnBoundaries : List ℕ
  valid : Segments.Valid messages.length 0 turnBoundaries

namespace PreparedContext

/-- `PreparedContext(messages, …)`. -/
def make (messages : List Message) (continuation : Option ModelContinuation)
    (turnBoundaries : List ℕ) : Except Failure PreparedContext :=
  match h : normalizeBoundaries messages.length 0 turnBoundaries with
  | .error e => .error e
  | .ok () => .ok ⟨messages, continuation, turnBoundaries, normalizeBoundaries_eq_ok.1 h⟩

/-- The constructor accepts valid boundaries. -/
theorem make_eq_ok {messages : List Message} {continuation : Option ModelContinuation}
    {turnBoundaries : List ℕ} (hvalid : Segments.Valid messages.length 0 turnBoundaries) :
    make messages continuation turnBoundaries =
      .ok ⟨messages, continuation, turnBoundaries, hvalid⟩ := by
  unfold make
  split
  · next e h => rw [normalizeBoundaries_eq_ok.2 hvalid] at h; cases h
  · rfl

/-- The messages are the complete turns, followed by the current one. -/
theorem exists_turns (context : PreparedContext) :
    ∃ turns current, Segments.Splits context.messages context.turnBoundaries turns current :=
  Segments.exists_splits context.valid

end PreparedContext

end PurrceptCore
