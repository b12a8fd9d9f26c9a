import PurrceptCore.Models.Faults

set_option relaxedAutoImplicit false
set_option autoImplicit false

/-!
# Histories in whole turns

A history is stored flat, with the offsets at which its complete turns end. Here it is read as the
list of its complete turns and its current turn, and selecting and trimming are operations on this
list.

## Main definitions

* `PurrceptCore.ConversationState.turns`, `PurrceptCore.ConversationState.current`,
  `PurrceptCore.PreparedContext.turns`, `PurrceptCore.PreparedContext.current` — the slices of the
  messages at the boundaries.
* `PurrceptCore.PreparedContext.dropTurns` — a context without its oldest complete turns.
* `PurrceptCore.ConversationState.context` — everything that a state contains.
* `PurrceptCore.PreparedContext.KeepsFrom` — a context keeps the newest turns of a state.

## Main results

* `PurrceptCore.PreparedContext.turns_dropTurns`, `PurrceptCore.PreparedContext.dropTurns_dropTurns`
  — dropping turns drops them from the list, and dropping again drops more.
* `PurrceptCore.retainFrom_eq`, `PurrceptCore.dropOldestCompleteTurn_eq` — what selecting and
  trimming compute.
* `PurrceptCore.policies_keep_whole_turns` — the built-in policies keep a suffix of the complete
  turns.
-/

namespace PurrceptCore

open Interaction Routine

/-! ### Turns as slices -/

namespace ConversationState

variable (state : ConversationState)

/-- The complete turns of a state. -/
def turns : List (List Message) := Segments.cut state.messages 0 state.turnBoundaries

/-- The messages of a state after its last complete turn. -/
def current : List Message := Segments.rest state.messages state.turnBoundaries

/-- Everything that a state contains. -/
def context : PreparedContext :=
  ⟨state.messages, state.continuation, state.turnBoundaries, state.valid⟩

lemma splits : Segments.Splits state.messages state.turnBoundaries state.turns state.current :=
  Segments.splits_cut state.valid

end ConversationState

namespace PreparedContext

variable (context : PreparedContext)

/-- The complete turns of a context. -/
def turns : List (List Message) := Segments.cut context.messages 0 context.turnBoundaries

/-- The messages of a context after its last complete turn. -/
def current : List Message := Segments.rest context.messages context.turnBoundaries

lemma splits :
    Segments.Splits context.messages context.turnBoundaries context.turns context.current :=
  Segments.splits_cut context.valid

lemma messages_eq : context.messages = context.turns.flatten ++ context.current :=
  context.splits.items

@[simp] lemma length_turnBoundaries : context.turnBoundaries.length = context.turns.length :=
  context.splits.length_eq

/-- A context is determined by its turns and its continuation. -/
lemma ext_turns {context context' : PreparedContext} (hturns : context.turns = context'.turns)
    (hcurrent : context.current = context'.current)
    (hcontinuation : context.continuation = context'.continuation) : context = context' := by
  have hmessages : context.messages = context'.messages := by
    rw [context.messages_eq, context'.messages_eq, hturns, hcurrent]
  have hboundaries : context.turnBoundaries = context'.turnBoundaries := by
    rw [context.splits.offsets, context'.splits.offsets, hturns]
  cases context
  cases context'
  simp only [mk.injEq]
  exact ⟨hmessages, hcontinuation, hboundaries⟩

/-- The boundaries that are left when oldest turns are dropped are valid. -/
lemma valid_drop {k : ℕ} (hk : k ≤ context.turns.length) :
    Segments.Valid (context.messages.drop (Segments.startOf context.turnBoundaries k)).length 0
      ((context.turnBoundaries.drop k).map (· - Segments.startOf context.turnBoundaries k)) :=
  (context.splits.drop hk).valid

/-- The context without its `d` oldest complete turns, or without any if there are fewer. -/
def dropTurns (d : ℕ) : PreparedContext where
  messages := context.messages.drop
    (Segments.startOf context.turnBoundaries (min d context.turns.length))
  continuation := context.continuation
  turnBoundaries := (context.turnBoundaries.drop (min d context.turns.length)).map
    (· - Segments.startOf context.turnBoundaries (min d context.turns.length))
  valid := context.valid_drop (Nat.min_le_right _ _)

lemma splits_dropTurns (d : ℕ) :
    Segments.Splits (context.dropTurns d).messages (context.dropTurns d).turnBoundaries
      (context.turns.drop (min d context.turns.length)) context.current :=
  context.splits.drop (Nat.min_le_right _ _)

/-- Dropping turns drops them from the list of turns. -/
@[simp] theorem turns_dropTurns (d : ℕ) :
    (context.dropTurns d).turns = context.turns.drop d := by
  have hslices := (context.splits_dropTurns d).slices.1
  rcases Nat.le_total d context.turns.length with hle | hle
  · rwa [Nat.min_eq_left hle] at hslices
  · rw [Nat.min_eq_right hle, List.drop_length] at hslices
    rw [List.drop_eq_nil_of_le hle]
    exact hslices

/-- Dropping turns leaves the current one. -/
@[simp] theorem current_dropTurns (d : ℕ) : (context.dropTurns d).current = context.current :=
  (context.splits_dropTurns d).slices.2

@[simp] lemma continuation_dropTurns (d : ℕ) :
    (context.dropTurns d).continuation = context.continuation := rfl

@[simp] lemma dropTurns_zero : context.dropTurns 0 = context :=
  ext_turns (by rw [turns_dropTurns, List.drop_zero]) (by rw [current_dropTurns]) rfl

/-- Dropping again drops more. -/
@[simp] theorem dropTurns_dropTurns (i j : ℕ) :
    (context.dropTurns i).dropTurns j = context.dropTurns (i + j) :=
  ext_turns (by simp only [turns_dropTurns, List.drop_drop]) (by simp only [current_dropTurns]) rfl

/-- The messages that are left when turns are dropped. -/
lemma messages_dropTurns (d : ℕ) :
    (context.dropTurns d).messages = (context.turns.drop d).flatten ++ context.current := by
  rw [messages_eq, turns_dropTurns, current_dropTurns]

end PreparedContext

namespace ConversationState

variable (state : ConversationState)

@[simp] lemma turns_context : state.context.turns = state.turns := rfl

@[simp] lemma current_context : state.context.current = state.current := rfl

@[simp] lemma continuation_context : state.context.continuation = state.continuation := rfl

@[simp] lemma length_turnBoundaries : state.turnBoundaries.length = state.turns.length :=
  state.splits.length_eq

/-- The messages from the start of a turn on. -/
lemma drop_startOf {k : ℕ} (hk : k ≤ state.turns.length) :
    state.messages.drop (Segments.startOf state.turnBoundaries k) =
      (state.context.dropTurns k).messages := by
  rw [PreparedContext.messages_dropTurns]
  exact state.splits.drop_items hk

end ConversationState

/-! ### Selecting and trimming -/

/-- Cutting at the start of a turn drops the turns before it. -/
theorem retainFrom_eq (state : ConversationState) {k : ℕ} (hk : k ≤ state.turns.length) :
    retainFrom state (Segments.startOf state.turnBoundaries k) k =
      .ok (state.context.dropTurns k) := by
  have hmin : min k state.context.turns.length = k := Nat.min_eq_left hk
  unfold retainFrom
  rw [PreparedContext.make_eq_ok (state.splits.drop hk).valid]
  simp only [PreparedContext.dropTurns, hmin]
  rfl

/-- `AppendOnlyContext` keeps everything. -/
theorem AppendOnlyContext.prepare_eq (state : ConversationState) :
    AppendOnlyContext.prepare state = .ok state.context :=
  PreparedContext.make_eq_ok state.valid

/-- `SlidingWindowContext` drops all turns but the newest. -/
theorem SlidingWindowContext.prepare_eq (maxTurns : ℕ) (state : ConversationState) :
    SlidingWindowContext.prepare maxTurns state =
      .ok (state.context.dropTurns (state.turns.length - maxTurns)) := by
  unfold SlidingWindowContext.prepare
  simp only [ConversationState.length_turnBoundaries]
  exact retainFrom_eq state (Nat.sub_le _ _)

/-- `_drop_oldest_complete_turn` drops one turn, if there is one. -/
theorem dropOldestCompleteTurn_eq (history : PreparedContext) :
    dropOldestCompleteTurn history =
      .ok (if history.turns = [] then none else some (history.dropTurns 1)) := by
  cases hb : history.turnBoundaries with
  | nil =>
    have hturns : history.turns = [] := by
      rw [← List.length_eq_zero_iff, ← history.length_turnBoundaries, hb, List.length_nil]
    rw [dropOldestCompleteTurn_nil hb, if_pos hturns]
  | cons b bs =>
    have hlen : history.turns.length = bs.length + 1 := by
      rw [← history.length_turnBoundaries, hb, List.length_cons]
    have hturns : history.turns ≠ [] := by
      intro hnil
      rw [hnil, List.length_nil] at hlen
      omega
    obtain ⟨context, hcontext, hretains, hcount⟩ := dropOldestCompleteTurn_cons hb
    obtain ⟨k, hk, hsplits⟩ := hretains.turns _ _ history.splits
    have hone : k = 1 := by
      have hk' := hsplits.length_eq
      rw [hcount, List.length_drop] at hk'
      omega
    subst hone
    rw [hcontext, if_neg hturns]
    congr 2
    refine PreparedContext.ext_turns ?_ ?_ hretains.continuation_eq
    · rw [PreparedContext.turns_dropTurns]
      exact hsplits.slices.1
    · rw [PreparedContext.current_dropTurns]
      exact hsplits.slices.2

/-- `_drop_oldest_complete_turn`, `k` times. -/
def dropOldestCompleteTurns : ℕ → PreparedContext → Except Failure (Option PreparedContext)
  | 0, history => .ok (some history)
  | k + 1, history => do
    match ← dropOldestCompleteTurn history with
    | none => .ok none
    | some trimmed => dropOldestCompleteTurns k trimmed

/-- Trimming turn after turn drops as many turns. -/
theorem dropOldestCompleteTurns_eq {k : ℕ} {history : PreparedContext}
    (hk : k ≤ history.turns.length) :
    dropOldestCompleteTurns k history = .ok (some (history.dropTurns k)) := by
  induction k generalizing history with
  | zero => rw [dropOldestCompleteTurns, PreparedContext.dropTurns_zero]
  | succ k ih =>
    have hturns : history.turns ≠ [] := by
      intro hnil
      rw [hnil, List.length_nil] at hk
      omega
    have hle : k ≤ (history.dropTurns 1).turns.length := by
      rw [PreparedContext.turns_dropTurns, List.length_drop]
      omega
    rw [dropOldestCompleteTurns, dropOldestCompleteTurn_eq, if_neg hturns]
    refine (ih hle).trans ?_
    rw [PreparedContext.dropTurns_dropTurns, Nat.add_comm 1 k]

/-! ### The built-in policies -/

/-- The context has the complete turns of the state but for the `d` oldest, its current turn and
its continuation. -/
structure PreparedContext.KeepsFrom (context : PreparedContext) (state : ConversationState)
    (d : ℕ) : Prop where
  le : d ≤ state.turns.length
  turns : context.turns = state.turns.drop d
  current : context.current = state.current
  continuation : context.continuation = state.continuation

/-- What a state keeps when oldest turns are dropped. -/
lemma ConversationState.keepsFrom_dropTurns (state : ConversationState) {d : ℕ}
    (hd : d ≤ state.turns.length) : (state.context.dropTurns d).KeepsFrom state d where
  le := hd
  turns := PreparedContext.turns_dropTurns _ _
  current := PreparedContext.current_dropTurns _ _
  continuation := rfl

/-- A counter of messages that was asked in the trace is to blame for the failure. -/
def BlamesCounter (model : Model) (tr : TurnTrace) (failure : Failure) : Prop :=
  ∃ messages reply, (⟨.countTokens messages model, reply⟩ : Σ call, TurnReply call) ∈ tr ∧
    CountFailure "TokenCounter" reply failure

/-- The only calls of a transcript budget. -/
abbrev IsCount (model : Model) (call : TurnCall) : Prop :=
  ∃ messages, call = .countTokens messages model

lemma countTokens_fails (messages : List Message) (model : Model) (s : ReminderState) :
    Spec (IsCount model) (countTokens messages model) s fun o s' e =>
      s' = s ∧ ∀ failure, o = .error failure → BlamesCounter model e failure := by
  refine Spec.call_bind ⟨messages, rfl⟩ fun reply => spec_receive (fun count hreply => ?_) ?_
  · refine (validateCount_fails _ count s).mono fun o s' e h => ⟨h.1, fun failure ho => ?_⟩
    exact ⟨messages, reply, List.mem_cons_self, hreply ▸ h.2 failure ho⟩
  · intro error hreply
    refine ⟨rfl, fun failure ho => ?_⟩
    cases ho
    exact ⟨messages, reply, List.mem_cons_self, by rw [hreply]; rfl⟩

lemma BlamesCounter.append_left {model : Model} {tr : TurnTrace} {failure : Failure}
    (h : BlamesCounter model tr failure) (tr' : TurnTrace) :
    BlamesCounter model (tr' ++ tr) failure := by
  obtain ⟨messages, reply, hmem, hfailure⟩ := h
  exact ⟨messages, reply, List.mem_append_right _ hmem, hfailure⟩

namespace TokenBudgetContext

/-- The loop ends at the start of a turn, or a counter fails. -/
lemma extend_fails (maxTokens : ℕ) (state : ConversationState) (model : Model)
    (s : ReminderState) (turnIndex : ℕ) {start : ℕ × ℕ}
    (hindex : turnIndex ≤ state.turns.length)
    (hstart : ∃ k ≤ state.turns.length, start = (Segments.startOf state.turnBoundaries k, k)) :
    Spec (IsCount model) (extend maxTokens state model turnIndex start) s fun o s' e =>
      s' = s ∧
      (∀ p, o = .ok p →
        ∃ k ≤ state.turns.length, p = (Segments.startOf state.turnBoundaries k, k)) ∧
      ∀ failure, o = .error failure → BlamesCounter model e failure := by
  induction turnIndex generalizing start with
  | zero =>
    refine Spec.pure ⟨rfl, fun p hp => ?_, fun _ h => by cases h⟩
    cases hp
    exact hstart
  | succ turnIndex ih =>
    have hle : turnIndex ≤ state.turns.length := by omega
    refine (countTokens_fails _ model s).bind ?_ ?_
    · rintro count s' e ⟨rfl, -⟩
      split
      · refine Spec.pure ⟨rfl, fun p hp => ?_, fun _ h => by cases h⟩
        cases hp
        exact hstart
      · refine (ih hle ⟨turnIndex, hle, rfl⟩).mono fun o s' e' h => ⟨h.1, h.2.1, ?_⟩
        intro failure ho
        exact (h.2.2 failure ho).append_left e
    · rintro error s' e ⟨rfl, hfailure⟩
      refine ⟨rfl, fun p hp => (by cases hp), fun failure ho => ?_⟩
      exact hfailure failure (by cases ho; rfl)

/-- **Selecting by a transcript budget**: oldest turns are dropped, or the current turn does not
fit, or a counter fails. -/
theorem prepare_selects (maxTokens : ℕ) (state : ConversationState) (model : Model)
    (s : ReminderState) :
    Spec (IsCount model) (prepare maxTokens state model) s fun o s' e =>
      s' = s ∧
      (∀ context, o = .ok context →
        ∃ d ≤ state.turns.length, context = state.context.dropTurns d) ∧
      ∀ failure, o = .error failure →
        (∃ required, failure = .contextBudgetExceeded maxTokens required) ∨
          BlamesCounter model e failure := by
  refine (countTokens_fails _ model s).bind ?_ ?_
  · rintro count s' e ⟨rfl, -⟩
    split
    · refine Spec.throw ⟨rfl, fun _ h => (by cases h), fun failure ho => ?_⟩
      cases ho
      exact .inl ⟨count, rfl⟩
    · have hlen : state.turnBoundaries.length = state.turns.length := state.length_turnBoundaries
      refine (extend_fails maxTokens state model _ _ (le_of_eq hlen)
        ⟨_, le_of_eq hlen, rfl⟩).bind ?_ ?_
      · rintro p s' e' ⟨rfl, hp, -⟩
        obtain ⟨k, hk, rfl⟩ := hp p rfl
        refine Spec.ofExcept ⟨rfl, fun context h => ?_, fun failure h => ?_⟩
        · rw [retainFrom_eq state hk] at h
          cases h
          exact ⟨k, hk, rfl⟩
        · rw [retainFrom_eq state hk] at h
          cases h
      · rintro error s' e' ⟨rfl, -, hfailure⟩
        refine ⟨rfl, fun _ h => (by cases h), fun failure ho => .inr ?_⟩
        exact (hfailure failure (by cases ho; rfl)).append_left e
  · rintro error s' e ⟨rfl, hfailure⟩
    refine ⟨rfl, fun _ h => (by cases h), fun failure ho => .inr ?_⟩
    exact hfailure failure (by cases ho; rfl)

end TokenBudgetContext

/-- A failure of the boundary checks. -/
def IsBoundaryFailure (failure : Failure) : Prop :=
  ∃ messageCount previous boundaries,
    normalizeBoundaries messageCount previous boundaries = .error failure

/-- The texts of the boundary checks. -/
lemma IsBoundaryFailure.text {failure : Failure} (h : IsBoundaryFailure failure) :
    failure = .valueError "turn_boundaries must be strictly increasing and positive." ∨
      failure = .valueError "turn_boundaries must not exceed the number of messages." := by
  obtain ⟨messageCount, previous, boundaries, h⟩ := h
  induction boundaries generalizing previous with
  | nil => cases h
  | cons b bs ih =>
    rw [normalizeBoundaries] at h
    split at h
    · cases h
      exact .inl rfl
    · split at h
      · cases h
        exact .inr rfl
      · exact ih _ h

/-- A counter never fails as the boundary checks do. -/
lemma BlamesCounter.not_boundary {model : Model} {tr : TurnTrace} {failure : Failure}
    (h : BlamesCounter model tr failure) : ¬ IsBoundaryFailure failure := by
  obtain ⟨messages, reply, -, hfailure⟩ := h
  intro hboundary
  have hfault : failure.IsFault := hfailure.isFault (by decide)
  rcases hboundary.text with rfl | rfl
  · cases hfault with
    | valueError _ htext => exact absurd htext (by decide)
  · cases hfault with
    | valueError _ htext => exact absurd htext (by decide)

/-- **The built-in policies keep whole turns.** Each of them selects the newest complete turns of
the state, with the slices they have there, the whole current turn and the continuation; the
boundaries it computes pass the checks. A sliding window keeps the last `min k n` of `n` turns,
which is to drop the oldest turn `n - min k n` times. -/
theorem policies_keep_whole_turns (state : ConversationState) :
    (∃ whole, AppendOnlyContext.prepare state = .ok whole ∧ whole.KeepsFrom state 0 ∧
      ∀ maxTurns, ∃ context, SlidingWindowContext.prepare maxTurns state = .ok context ∧
        context.KeepsFrom state (state.turns.length - min maxTurns state.turns.length) ∧
        context.turns.length = min maxTurns state.turns.length ∧
        dropOldestCompleteTurns (state.turns.length - min maxTurns state.turns.length) whole =
          .ok (some context)) ∧
    ∀ maxTokens model remaining tr o remaining',
      Exec (TokenBudgetContext.prepare maxTokens state model remaining) tr
        (.ret (o, remaining')) →
      (∀ context, o = .ok context → ∃ d, context.KeepsFrom state d) ∧
      ∀ failure, o = .error failure → ¬ IsBoundaryFailure failure ∧
        ((∃ required, failure = .contextBudgetExceeded maxTokens required) ∨
          BlamesCounter model tr failure) := by
  refine ⟨⟨state.context, AppendOnlyContext.prepare_eq state, ?_, fun maxTurns => ?_⟩, ?_⟩
  · have hkeeps := state.keepsFrom_dropTurns (Nat.zero_le _)
    rwa [PreparedContext.dropTurns_zero] at hkeeps
  · have hdrop : state.turns.length - min maxTurns state.turns.length =
        state.turns.length - maxTurns := by omega
    have hle : state.turns.length - maxTurns ≤ state.turns.length := by omega
    refine ⟨_, SlidingWindowContext.prepare_eq maxTurns state, ?_, ?_, ?_⟩
    · rw [hdrop]
      exact state.keepsFrom_dropTurns hle
    · rw [PreparedContext.turns_dropTurns, List.length_drop, ConversationState.turns_context]
      omega
    · rw [hdrop]
      exact dropOldestCompleteTurns_eq hle
  · intro maxTokens model remaining tr o remaining' hexec
    have hspec := Spec.sound hexec (TokenBudgetContext.prepare_selects maxTokens state model _)
    obtain ⟨-, hok, herror⟩ := hspec
    refine ⟨fun context ho => ?_, fun failure ho => ⟨fun hboundary => ?_, herror failure ho⟩⟩
    · obtain ⟨d, hd, rfl⟩ := hok context ho
      exact ⟨d, state.keepsFrom_dropTurns hd⟩
    · rcases herror failure ho with ⟨required, rfl⟩ | hcounter
      · rcases hboundary.text with h | h <;> cases h
      · exact hcounter.not_boundary hboundary

end PurrceptCore
