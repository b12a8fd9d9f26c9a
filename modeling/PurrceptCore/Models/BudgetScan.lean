import PurrceptCore.Interaction.Answers
import PurrceptCore.Models.Conversation
import PurrceptCore.Models.WholeTurns

set_option relaxedAutoImplicit false
set_option autoImplicit false

/-!
# The scan of a transcript budget

`TokenBudgetContext.prepare` with a counter that is a function of the messages. It takes older
turns as long as the suffix fits, and stops at the first one that does not.

## Main definitions

* `descend` — go down while a predicate holds.
* `PurrceptCore.counting` — the answers of a counter.
* `PurrceptCore.SelectsLongest` — what is documented of the budget.

## Main results

* `descend_least_iff` — when the scan ends at the least number that satisfies the predicate.
* `PurrceptCore.TokenBudgetContext.eval_prepare` — what the budget selects.
* `PurrceptCore.selectsLongest_iff` — when that is the longest suffix that fits.
-/

/-- Go down from `n` while `fits` holds of the number below. -/
def descend (fits : ℕ → Prop) [DecidablePred fits] : ℕ → ℕ
  | 0 => 0
  | n + 1 => if fits n then descend fits n else n + 1

section Descend

variable {fits : ℕ → Prop} [DecidablePred fits]

lemma descend_le (n : ℕ) : descend fits n ≤ n := by
  induction n with
  | zero => exact Nat.le_refl 0
  | succ n ih =>
    rw [descend]
    split
    · omega
    · exact Nat.le_refl _

/-- The numbers that were passed fit. -/
lemma fits_of_descend_le {n j : ℕ} (hle : descend fits n ≤ j) (hlt : j < n) : fits j := by
  induction n with
  | zero => omega
  | succ n ih =>
    rw [descend] at hle
    split at hle
    · next hn =>
      rcases Nat.lt_succ_iff_lt_or_eq.1 hlt with hj | rfl
      · exact ih hle hj
      · exact hn
    · omega

/-- The number below the end of the scan does not fit. -/
lemma not_fits_below_descend {n i : ℕ} (h : descend fits n = i + 1) : ¬ fits i := by
  induction n with
  | zero => cases h
  | succ n ih =>
    rw [descend] at h
    split at h
    · exact ih h
    · next hn =>
      cases h
      exact hn

/-- The scan ends at the least number that fits, if no number above one that fits does not. -/
theorem descend_least_iff {n : ℕ} (hn : fits n) :
    (∀ i < descend fits n, ¬ fits i) ↔ ∀ i j, i ≤ j → j ≤ n → fits i → fits j := by
  constructor
  · intro h i j hij hj hi
    have hle : descend fits n ≤ i := by
      by_contra hlt
      exact h i (by omega) hi
    rcases Nat.lt_or_eq_of_le hj with hj | rfl
    · exact fits_of_descend_le (hle.trans hij) hj
    · exact hn
  · intro h i hi hfits
    obtain ⟨k, hk⟩ : ∃ k, descend fits n = k + 1 := ⟨descend fits n - 1, by omega⟩
    have hkn : descend fits n ≤ n := descend_le n
    exact not_fits_below_descend hk (h i k (by omega) (by omega) hfits)

end Descend

namespace PurrceptCore

open Interaction Routine

/-- The replies of a deterministic counter of messages. Every other callback raises. -/
def counting (count : List Message → Model → ℕ) : (call : TurnCall) → TurnReply call
  | .countTokens messages model => .ok (.int (count messages model))
  | call => call.exit

section Counting

variable (count : List Message → Model → ℕ) (maxTokens : ℕ) (state : ConversationState)
  (model : Model) (remaining : ReminderState)

/-- A suffix of whole turns fits the budget. -/
abbrev Fits (d : ℕ) : Prop := count (state.context.dropTurns d).messages model ≤ maxTokens

lemma eval_countTokens (messages : List Message) :
    eval (counting count) (countTokens messages model) remaining =
      some (.ok (count messages model), remaining) := by
  have hneg : ¬ ((count messages model : ℕ) : ℤ) < 0 := by omega
  have hvalidate : eval (counting count) (countTokens messages model) remaining =
      eval (counting count)
        (validateCount "TokenCounter" (.int (count messages model))) remaining := rfl
  rw [hvalidate, validateCount, if_neg hneg, Int.toNat_natCast]
  rfl

namespace TokenBudgetContext

/-- The scan goes down while the suffix fits. -/
lemma eval_extend {n : ℕ} (hn : n ≤ state.turns.length) :
    eval (counting count)
      (extend maxTokens state model n (Segments.startOf state.turnBoundaries n, n)) remaining =
      some (.ok (Segments.startOf state.turnBoundaries
        (descend (Fits count maxTokens state model) n),
        descend (Fits count maxTokens state model) n), remaining) := by
  induction n with
  | zero => rfl
  | succ n ih =>
    have hle : n ≤ state.turns.length := by omega
    rw [extend, eval_bind _ (eval_countTokens count model remaining _),
      state.drop_startOf hle, descend]
    by_cases hfits : Fits count maxTokens state model n
    · rw [if_neg (Nat.not_lt.2 hfits), if_pos hfits]
      exact ih hle
    · rw [if_pos (Nat.not_le.1 hfits), if_neg hfits]
      rfl

/-- **What a transcript budget selects**: it raises if the current turn does not fit, and drops
the turns below the end of its scan otherwise. -/
theorem eval_prepare :
    eval (counting count) (prepare maxTokens state model) remaining =
      some (if maxTokens < count state.current model then
          .error (.contextBudgetExceeded maxTokens (count state.current model))
        else
          .ok (state.context.dropTurns
            (descend (Fits count maxTokens state model) state.turns.length)), remaining) := by
  have hcurrent : state.messages.drop
      (Segments.startOf state.turnBoundaries state.turns.length) = state.current := by
    rw [← state.length_turnBoundaries]
    rfl
  unfold prepare
  simp only [ConversationState.length_turnBoundaries]
  rw [eval_bind _ (eval_countTokens count model remaining _), hcurrent]
  split
  · rfl
  · rw [eval_bind _ (eval_extend count maxTokens state model remaining le_rfl)]
    change eval _ (ofExcept (retainFrom state _ _)) remaining = _
    rw [retainFrom_eq state (descend_le _)]
    rfl

end TokenBudgetContext

/-- What is documented of a transcript budget: it raises exactly if the current turn alone exceeds
it, and otherwise selects the longest suffix of whole turns that fits. -/
structure SelectsLongest (outcome : Except Failure PreparedContext) : Prop where
  raises : (∃ required, outcome = .error (.contextBudgetExceeded maxTokens required)) ↔
    maxTokens < count state.current model
  longest : count state.current model ≤ maxTokens →
    ∃ d ≤ state.turns.length, outcome = .ok (state.context.dropTurns d) ∧
      Fits count maxTokens state model d ∧ ∀ i < d, ¬ Fits count maxTokens state model i

/-- The scan finds the longest suffix that fits, if no suffix that fits is longer than one that
does not. -/
lemma selectsLongest_of_fits (hfits : count state.current model ≤ maxTokens) :
    SelectsLongest count maxTokens state model (.ok (state.context.dropTurns
        (descend (Fits count maxTokens state model) state.turns.length))) ↔
      ∀ i < descend (Fits count maxTokens state model) state.turns.length,
        ¬ Fits count maxTokens state model i := by
  have hlast : Fits count maxTokens state model state.turns.length := by
    rw [Fits, PreparedContext.messages_dropTurns, ConversationState.turns_context,
      List.drop_length]
    exact hfits
  have hle : descend (Fits count maxTokens state model) state.turns.length ≤ state.turns.length :=
    descend_le _
  have hdescend : Fits count maxTokens state model
      (descend (Fits count maxTokens state model) state.turns.length) := by
    rcases Nat.lt_or_eq_of_le hle with hlt | heq
    · exact fits_of_descend_le le_rfl hlt
    · rwa [heq]
  constructor
  · intro h
    obtain ⟨d, hd, heq, -, hleast⟩ := h.longest hfits
    have hturns := congrArg PreparedContext.turns (Except.ok.inj heq)
    simp only [PreparedContext.turns_dropTurns, ConversationState.turns_context] at hturns
    have hlen := congrArg List.length hturns
    rw [List.length_drop, List.length_drop] at hlen
    have hd' : descend (Fits count maxTokens state model) state.turns.length = d := by omega
    rwa [hd']
  · intro h
    refine ⟨⟨fun ⟨_, hraise⟩ => (by cases hraise), fun hlt => by omega⟩, fun _ => ?_⟩
    exact ⟨_, descend_le _, rfl, hdescend, h⟩

/-- **When a transcript budget keeps its promise.** What it selects is what is documented if and
only if the current turn alone exceeds the budget, or no suffix that fits is longer than one that
does not. -/
theorem selectsLongest_iff : ∃ outcome,
    eval (counting count) (TokenBudgetContext.prepare maxTokens state model) remaining =
      some (outcome, remaining) ∧
    (SelectsLongest count maxTokens state model outcome ↔
      maxTokens < count state.current model ∨
        ∀ i j, i ≤ j → j ≤ state.turns.length →
          Fits count maxTokens state model i → Fits count maxTokens state model j) := by
  refine ⟨_, TokenBudgetContext.eval_prepare count maxTokens state model remaining, ?_⟩
  by_cases hover : maxTokens < count state.current model
  · rw [if_pos hover]
    refine iff_of_true ⟨iff_of_true ⟨_, rfl⟩ hover, fun hfits => ?_⟩ (.inl hover)
    omega
  · have hlast : Fits count maxTokens state model state.turns.length := by
      rw [Fits, PreparedContext.messages_dropTurns, ConversationState.turns_context,
        List.drop_length]
      exact Nat.not_lt.1 hover
    rw [if_neg hover, selectsLongest_of_fits count maxTokens state model (Nat.not_lt.1 hover),
      descend_least_iff hlast, or_iff_right hover]

end Counting

/-- A state of two complete turns and a current one, of one message each. -/
def twoTurnsAndCurrent : ConversationState where
  messages := [Message.user "a", Message.user "b", Message.user "c"]
  continuation := none
  turnIndex := 2
  turnBoundaries := [1, 2]
  valid := by simp [Segments.Valid]
  index_eq := rfl

/-- A counter for which two messages cost more than three. -/
def unevenCount (messages : List Message) (_ : Model) : ℕ := if messages.length = 2 then 10 else 1

/-- With this counter and five tokens the whole history fits, and only the current turn is
selected. -/
theorem scan_stops_early : ∃ outcome,
    eval (counting unevenCount)
        (TokenBudgetContext.prepare 5 twoTurnsAndCurrent plainConversation.model) .empty =
      some (outcome, .empty) ∧
    ¬ SelectsLongest unevenCount 5 twoTurnsAndCurrent plainConversation.model outcome := by
  refine ⟨_, TokenBudgetContext.eval_prepare _ _ _ _ _, fun h => ?_⟩
  have hfits : unevenCount twoTurnsAndCurrent.current plainConversation.model ≤ 5 := by
    decide +kernel
  rw [if_neg (Nat.not_lt.2 hfits)] at h
  have hleast := (selectsLongest_of_fits _ _ _ _ hfits).1 h
  exact hleast 0 (by decide +kernel) (by decide +kernel)

end PurrceptCore
