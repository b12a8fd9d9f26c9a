import PurrceptCore.Models.Acceptance
import PurrceptCore.Models.TurnRounds
import PurrceptCore.Models.WholeTurns

set_option relaxedAutoImplicit false
set_option autoImplicit false

/-!
# What a turn appends to the history

A turn that has returned closes everything after the last boundary to one turn. If the state it
began with ends at a boundary, that is what the turn has added. Messages that such a state has after
its last boundary become part of the new turn.

## Main definitions

* `PurrceptCore.AppendsOneTurn` — a turn appends one turn, which consists of what it has added.

## Main results

* `PurrceptCore.ModelTurnResult.messages_eq` — the messages of a result are the last turn.
* `PurrceptCore.turn_history` — the slices of the new state.
* `PurrceptCore.appends_one_turn_iff` — a turn appends one turn of its own messages exactly if the
  state has no messages after its last boundary.
-/

namespace PurrceptCore

open Interaction

/-- The messages of a result are the last complete turn of its state. -/
theorem ModelTurnResult.messages_eq (result : ModelTurnResult) :
    result.messages = result.state.turns.getLastD [] := by
  have hsplits := result.state.splits
  have hlen := result.state.length_turnBoundaries
  unfold messages
  rcases List.eq_nil_or_concat result.state.turns with hturns | ⟨turns, last, hturns⟩
  · have hnil : result.state.turnBoundaries = [] := by
      rw [← List.length_eq_zero_iff, hlen, hturns, List.length_nil]
    simp [hnil, hturns]
  · rw [hturns] at hsplits hlen
    simp only [List.concat_eq_append, List.length_append, List.length_singleton] at hsplits hlen
    have hne : result.state.turnBoundaries.isEmpty = false := by
      rw [List.isEmpty_eq_false_iff_exists_mem]
      exact List.exists_mem_of_length_pos (by omega)
    have hslice := hsplits.last_slice
    simp only [Segments.startOf, Nat.add_one_ne_zero, ↓reduceIte, Nat.add_sub_cancel] at hslice
    have hstart : (if 1 < turns.length + 1 then
        result.state.turnBoundaries.getD (turns.length + 1 - 2) 0 else 0) =
          if turns.length = 0 then 0 else
            result.state.turnBoundaries.getD (turns.length - 1) 0 := by
      split <;> split <;> first | rfl | omega
    simp only [hne, Bool.false_eq_true, ↓reduceIte, hlen, Nat.add_sub_cancel]
    rw [hstart, hslice, hturns]
    simp

section Returned

variable {c : Conversation} {facade : Facade} {a : Ask} {tr : TurnTrace}
  {result : ModelTurnResult} {remaining : ReminderState}

/-- **The history after a turn that has returned.** Its last turn are the messages after the last
boundary of the history before, and those that the turn has added. -/
theorem turn_history (hexec : Exec (c.turn facade a) tr (.ret (.ok result, remaining))) :
    ∃ transcript,
      result.state.messages = facade.state.messages ++ a.userMessage :: transcript ∧
      result.state.turns =
        facade.state.turns ++ [facade.state.current ++ a.userMessage :: transcript] ∧
      result.state.current = [] ∧
      result.messages = facade.state.current ++ a.userMessage :: transcript := by
  have hrun : Exec (c.turnInput facade a).run tr (.ret (.ok result, remaining)) := hexec
  rcases (TurnInput.run_ret hrun).2 with ⟨-, hends⟩ | ⟨failure, hfailure⟩
  · cases hends with
    | returned before response _ hphase hresult =>
      have hmessages : result.state.messages = facade.state.messages ++ a.userMessage ::
          ((c.turnInput facade a).log tr).transcript := hresult.messages_eq
      have hne : facade.state.current ++ a.userMessage ::
          ((c.turnInput facade a).log tr).transcript ≠ [] := by simp
      have hsplits := (facade.state.splits.extend (a.userMessage ::
        ((c.turnInput facade a).log tr).transcript)).close hne
      rw [← hmessages] at hsplits
      have hboundaries : result.state.turnBoundaries =
          facade.state.turnBoundaries ++ [result.state.messages.length] :=
        hresult.turnBoundaries_eq
      rw [← hboundaries] at hsplits
      have hturns : result.state.turns = _ := hsplits.slices.1
      refine ⟨_, hmessages, hturns, hsplits.slices.2, ?_⟩
      rw [result.messages_eq, hturns]
      simp
  · cases hfailure

/-- **A turn appends one turn.** The slices of the new state are those of the old one and one more,
which is `ModelTurnResult.messages`: the messages that the turn has added, from its user message
on. -/
def AppendsOneTurn (state : ConversationState) (userMessage : Message)
    (result : ModelTurnResult) : Prop :=
  ∃ transcript, result.state.messages = state.messages ++ userMessage :: transcript ∧
    result.state.turns = state.turns ++ [userMessage :: transcript] ∧
    result.messages = userMessage :: transcript

/-- **When a turn appends one turn** of its own messages: exactly if the state it began with has no
messages after its last boundary. -/
theorem appends_one_turn_iff
    (hexec : Exec (c.turn facade a) tr (.ret (.ok result, remaining))) :
    AppendsOneTurn facade.state a.userMessage result ↔ facade.state.current = [] := by
  obtain ⟨transcript, hmessages, hturns, -, hresult⟩ := turn_history hexec
  constructor
  · rintro ⟨transcript', hmessages', -, hresult'⟩
    have hsame : a.userMessage :: transcript = a.userMessage :: transcript' :=
      List.append_cancel_left (hmessages.symm.trans hmessages')
    rw [hresult, ← hsame] at hresult'
    exact List.append_left_eq_self.1 hresult'
  · intro hcurrent
    rw [hcurrent, List.nil_append] at hturns hresult
    exact ⟨transcript, hmessages, hturns, hresult⟩

end Returned

/-- A turn of a new conversation. -/
theorem appends_one_turn_iff_new : ∃ tr result remaining,
    Exec (plainConversation.turn ⟨true, .empty, .empty⟩ ⟨.user "hello", 8, false⟩) tr
      (.ret (.ok result, remaining)) ∧
    AppendsOneTurn .empty (.user "hello") result := by
  have hexec := Exec.play [bring [] (.text "hi")]
    (plainConversation.turn ⟨true, .empty, .empty⟩ ⟨.user "hello", 8, false⟩)
  exact ⟨_, _, _, hexec, (appends_one_turn_iff hexec).2 rfl⟩

/-- A state with one message and no complete turn. -/
def pendingMessage : ConversationState :=
  { ConversationState.empty with messages := [.user "old"], valid := trivial }

/-- The message that was there before becomes part of the new turn. -/
theorem pending_message_joins : ∃ tr result remaining,
    Exec (plainConversation.turn ⟨true, pendingMessage, .empty⟩ ⟨.user "hello", 8, false⟩) tr
      (.ret (.ok result, remaining)) ∧
    result.messages.length = 3 ∧ result.messages.head? = some (.user "old") ∧
    ¬ AppendsOneTurn pendingMessage (.user "hello") result := by
  refine ⟨_, _, _, Exec.play [bring [] (.text "hi")]
    (plainConversation.turn ⟨true, pendingMessage, .empty⟩ ⟨.user "hello", 8, false⟩), rfl, rfl, ?_⟩
  rintro ⟨transcript, -, -, hmessages⟩
  have hhead : some (Message.user "old") = some (Message.user "hello") :=
    congrArg List.head? hmessages
  simp [Message.user] at hhead

end PurrceptCore
