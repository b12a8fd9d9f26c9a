import PurrceptCore.Models.Ownership

set_option relaxedAutoImplicit false
set_option autoImplicit false

/-!
# The committed history

The committed history of a conversation changes by an idle operation that returned, or by the
return of the flow that owns the facade, and then to a state that the turn has computed from the
history committed at that moment. No other step changes it, whatever flows are suspended.

## Main definitions

* `PurrceptCore.Commits` — a flow returns and commits.
* `PurrceptCore.HistoryMove` — what one step may do to the committed history.

## Main results

* `PurrceptCore.committed_history` — no step of any run does anything else.
-/

namespace PurrceptCore

open Interaction

/-- Flow `i` has returned a result. -/
def System.Returned (s : System) (i : ℕ) (result : ModelTurnResult) : Prop :=
  ∃ a tr remaining, s.flows[i]? = some (.started a tr (.ret (.ok result, remaining)))

/-- **A commit.** Flow `i` has returned, and the new committed state is that of its result, which
`runModelTurn` has computed, by the calls the flow has made, from the state that was committed
until now. -/
def Commits (c : Conversation) (s : System) (i : ℕ) (t : System) : Prop :=
  ∃ a tr ttr session acquired result remaining,
    t.flows[i]? = some (.started a (tr ++ ofTurnTrace ttr) (.ret (.ok result, remaining))) ∧
      Exec (c.runModelTurn session s.facade.state a.userMessage a.maxModelRounds a.inputPoll
        acquired) ttr (.ret (.ok result, remaining)) ∧
      t.facade.state = result.state

/-- **What a step may do to the committed history.** -/
inductive HistoryMove (c : Conversation) (m : Move System Event) : Prop
  /-- It leaves the history, and no flow returns a result: a flow may appear, wait, raise, be
  closed, rejected or discarded, and an operation may be refused. -/
  | kept (hstate : m.after.facade.state = m.before.facade.state)
      (hreturned : ∀ i result, m.after.Returned i result ↔ m.before.Returned i result)
  /-- An operation of the application has returned, on an idle facade. -/
  | operated (op : IdleOp) (hlabel : m.label = .operated op)
      (hidle : m.before.facade.busy = false)
      (hop : op.apply m.before.facade = .ok m.after.facade)
      (hreturned : ∀ i result, m.after.Returned i result ↔ m.before.Returned i result)
  /-- The flow that the step is about has returned. -/
  | committed (i : ℕ) (hlabel : m.label.runs? = some i) (h : Commits c m.before i m.after)

/-- The flows that have returned after flow `i` was set. -/
lemma System.returned_set {s : System} {facade : Facade} {i j : ℕ} {f : Flow} {a : Ask}
    {tr : FlowTrace} {rest : FlowProg} {result : ModelTurnResult} (hi : s.flows[i]? = some f) :
    System.Returned ⟨facade, s.flows.set i (.started a tr rest)⟩ j result ↔
      if j = i then ∃ remaining, rest = .ret (.ok result, remaining)
      else s.Returned j result := by
  unfold System.Returned
  rw [List.getElem?_set]
  have hlt : i < s.flows.length := (List.getElem?_eq_some_iff.1 hi).1
  by_cases hj : i = j
  · subst hj
    simp [hlt]
  · simp [hj, Ne.symm hj]

/-- A flow that was not at its end has not returned. -/
lemma System.not_returned {s : System} {i : ℕ} {f : Flow} {result : ModelTurnResult}
    (hi : s.flows[i]? = some f) (hf : ∀ a tr o, f ≠ .started a tr (.ret o)) :
    ¬ s.Returned i result := by
  rintro ⟨a, tr, remaining, h⟩
  rw [hi, Option.some_inj] at h
  exact hf _ _ _ h

/-- A flow that was not advanced is not at its end. -/
lemma Flow.created_ne_ended (a a' : Ask) (tr : FlowTrace)
    (o : Except Failure ModelTurnResult × ReminderState) :
    Flow.created a ≠ .started a' tr (.ret o) := by
  intro h
  cases h

/-- A flow that waits for a call is not at its end. -/
lemma Flow.awaiting_ne_ended (a : Ask) (tr : FlowTrace) (call : OuterCall)
    (k : OuterReply call → FlowProg) (a' : Ask) (tr' : FlowTrace)
    (o : Except Failure ModelTurnResult × ReminderState) :
    Flow.started a tr (.call call.toFlowCall k) ≠ .started a' tr' (.ret o) := by
  intro h
  cases h

/-- An advancement that does not return a result changes no flow that has. -/
lemma System.returned_advanced {s : System} {facade : Facade} {i : ℕ} {f : Flow} {a : Ask}
    {tr : FlowTrace} {rest : FlowProg} (hi : s.flows[i]? = some f)
    (hf : ∀ a tr o, f ≠ .started a tr (.ret o))
    (hrest : ∀ result remaining, rest ≠ .ret (.ok result, remaining)) (j : ℕ)
    (result : ModelTurnResult) :
    System.Returned ⟨facade, s.flows.set i (.started a tr rest)⟩ j result ↔
      s.Returned j result := by
  rw [System.returned_set hi]
  split
  · next hj =>
    subst hj
    exact iff_of_false (fun ⟨remaining, h⟩ => hrest result remaining h)
      (System.not_returned hi hf)
  · rfl

/-- **The step lemma** for an advancement of the flow that owns the facade, over which it has run
so far. -/
lemma HistoryMove.of_advanced {c : Conversation} {s : System} {e : Event} {facade facade' : Facade}
    {i : ℕ} {f : Flow} {a : Ask} {tr : FlowTrace} {rest : FlowProg}
    (he : e.runs? = some i) (hi : s.flows[i]? = some f)
    (hf : ∀ a tr o, f ≠ .started a tr (.ret o)) (hstate : facade.state = s.facade.state)
    (hadv : Advanced c facade a tr rest facade') :
    HistoryMove c ⟨s, e, ⟨facade', s.flows.set i (.started a tr rest)⟩⟩ := by
  cases hadv with
  | settingUp call k h =>
    exact .kept hstate (System.returned_advanced hi hf fun _ _ => Prog.call_ne_ret _ _ _)
  | turning call k h =>
    exact .kept hstate (System.returned_advanced hi hf fun _ _ => Prog.call_ne_ret _ _ _)
  | setupRaised e remaining h => exact .kept hstate (System.returned_advanced hi hf nofun)
  | turnRaised e remaining h => exact .kept hstate (System.returned_advanced hi hf nofun)
  | turnReturned result remaining h =>
    obtain ⟨str, ttr, rfl, -, hturn⟩ := h
    rw [Conversation.turn, hstate] at hturn
    exact .committed i he ⟨a, ofSetupTrace str, ttr, _, _, result, remaining,
      List.getElem?_set_self (List.getElem?_eq_some_iff.1 hi).1, hturn, rfl⟩

/-- **The committed history of a conversation**, under any interleaving of flows and operations.
Every step of every run leaves it, or is an operation that returned on an idle facade, or is the
return of a flow whose result was computed from the history that this step replaces.

**Proof sketch.** By the invariant `Ownership`, the flow that goes on has run its turn over the
facade as it stands, so the state it read at its first advancement is the one committed now. -/
theorem committed_history {c : Conversation} {s t : System} {moves : List (Move System Event)}
    (hs : s.Fresh) (hrun : c.Run s moves t) : ∀ m ∈ moves, HistoryMove c m := by
  intro m hm
  obtain ⟨-, hcase⟩ := Conversation.Run.cases hs hrun hm
  obtain ⟨before, e, after⟩ := m
  change StepCase c before e after at hcase
  cases hcase with
  | quiet he hfacade hstarted =>
    refine .kept (congrArg Facade.state hfacade) fun i result => ?_
    exact exists_congr fun a => exists_congr fun tr => exists_congr fun _ => hstarted i a tr _
  | operated op facade he hidle hop ht =>
    cases ht
    exact .operated op he hidle hop fun _ _ => Iff.rfl
  | rejected i a he hbusy hi ht =>
    cases ht
    exact .kept rfl (System.returned_advanced hi (Flow.created_ne_ended a) nofun)
  | acquired i a rest facade he hidle hi hadv ht =>
    cases ht
    refine HistoryMove.of_advanced (by rw [he]; rfl) hi (Flow.created_ne_ended a) ?_ hadv
    rfl
  | advanced i a tr call k reply rest facade he hi hbusy hadv ht =>
    cases ht
    have hflow : e.runs? = some i := by
      rcases he with rfl | ⟨rfl, -⟩ <;> rfl
    exact HistoryMove.of_advanced hflow hi (Flow.awaiting_ne_ended a tr call k) rfl hadv

/-! ### A run that commits -/

/-- The model answers the first request of a flow, and the flow commits two messages. A second flow
is rejected meanwhile. -/
theorem committed_history_plain : ∃ moves t, plainConversation.Run .new moves t ∧
    (∀ m ∈ moves, HistoryMove plainConversation m) ∧ moves.length = 5 ∧
      t.facade.state.messages.length = 2 := by
  have hstart : plainConversation.Run .new [] .new := .refl
  have hwaiting := (((hstart.snoc (.ask (.text "hello") none false _ rfl)).snoc
    (.ask (.text "me too") none false _ rfl)).snoc (.advance 0 _ rfl)).snoc (.advance 1 _ rfl)
  obtain ⟨call, hrun⟩ :=
    Conversation.Run.respond hwaiting 0 (answering plainAnswer) (by decide +kernel)
  exact ⟨_, _, hrun, committed_history ⟨rfl, rfl⟩ hrun, rfl, by decide +kernel⟩

end PurrceptCore
