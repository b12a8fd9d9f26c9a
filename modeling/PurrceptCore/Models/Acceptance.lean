import PurrceptCore.Models.Ownership
import PurrceptCore.Models.TurnRules

set_option relaxedAutoImplicit false
set_option autoImplicit false

/-!
# Accepted requests

A request is accepted when the prompt session returns it; the flow hands it to the model at once.
So a step accepts a request if the flow that runs in it stands at a `Generate` afterwards.

## Main definitions

* `PurrceptCore.Acceptance` — an accepted request, with the flow and the calls of its turn before.
* `PurrceptCore.acceptance?` — the request that a step accepts.
* `PurrceptCore.Conversation.turnInput` — what the turn of a flow is given.

## Main results

* `PurrceptCore.Advanced.accepts` — every accepted request is as it should be.
* `PurrceptCore.Turning.remaining_eq`, `PurrceptCore.Turning.isResult` — what a turn that has ended
  leaves and commits.
* `PurrceptCore.StepCase.running` — in every step in which a flow runs, it is rejected or runs over
  the facade as it stands.
-/

namespace PurrceptCore

open Interaction

/-- The calls that a flow has made for its turn. -/
def turnCalls (tr : FlowTrace) : TurnTrace :=
  tr.filterMap fun
    | ⟨.turn call, reply⟩ => some ⟨call, reply⟩
    | _ => none

/-- An accepted request. -/
structure Acceptance where
  flow : ℕ
  /-- The calls that the turn of the flow has made before. -/
  calls : TurnTrace
  request : ModelRequest

/-- The request that flow `i` hands to the model. -/
def Flow.acceptance? (i : ℕ) : Flow → Option Acceptance
  | .started _ tr (.call (.turn (.generate _ request)) _) => some ⟨i, turnCalls tr, request⟩
  | _ => none

/-- The request that a step accepts. -/
def acceptance? (m : Move System Event) : Option Acceptance :=
  m.label.runs?.bind fun i => m.after.flows[i]?.bind (Flow.acceptance? i)

/-- What the turn of a flow is given by the facade. -/
def Conversation.turnInput (c : Conversation) (facade : Facade) (a : Ask) : TurnInput where
  conversation := c
  session := c.session facade.reminderState
  state := facade.state
  user := a.userMessage
  maxRounds := a.maxModelRounds
  poll := a.inputPoll
  acquired := facade.reminderState.clearScope .turn

lemma turnCalls_append (tr tr' : FlowTrace) :
    turnCalls (tr ++ tr') = turnCalls tr ++ turnCalls tr' :=
  List.filterMap_append

@[simp] lemma turnCalls_ofSetupTrace (str : Trace SetupCall SetupReply) :
    turnCalls (ofSetupTrace str) = [] := by
  induction str with
  | nil => rfl
  | cons x str ih => exact ih

@[simp] lemma turnCalls_ofTurnTrace (ttr : TurnTrace) : turnCalls (ofTurnTrace ttr) = ttr := by
  induction ttr with
  | nil => rfl
  | cons x ttr ih =>
    change x :: turnCalls (ofTurnTrace ttr) = _
    rw [ih]

variable {c : Conversation} {facade facade' : Facade} {a : Ask} {tr : FlowTrace} {rest : FlowProg}

/-- How far a flow has come with its turn. -/
lemma Turning.exec
    {q : Prog TurnCall TurnReply (Except Failure ModelTurnResult × ReminderState)}
    (h : Turning c facade a tr q) : Exec (c.turnInput facade a).run (turnCalls tr) q := by
  obtain ⟨str, ttr, rfl, -, hturn⟩ := h
  rwa [turnCalls_append, turnCalls_ofSetupTrace, turnCalls_ofTurnTrace]

/-- An accepted request is as it should be, for a turn over the given facade. -/
structure Conversation.Accepts (c : Conversation) (facade : Facade) (a : Ask) (x : Acceptance) :
    Prop where
  user_role : a.userMessage.role = .user
  rounds_pos : 0 < a.maxModelRounds
  requesting : ∃ before, ((c.turnInput facade a).log x.calls).phase = .requesting before
  isRequest : (c.turnInput facade a).IsRequest x.calls x.request

/-- **Every accepted request** is as it should be. -/
theorem Advanced.accepts (h : Advanced c facade a tr rest facade') {i : ℕ} {x : Acceptance}
    (hx : (Flow.started a tr rest).acceptance? i = some x) :
    facade' = facade ∧ x.flow = i ∧ x.calls = turnCalls tr ∧ c.Accepts facade a x := by
  cases h with
  | settingUp call k h => cases hx
  | turning call k h =>
    cases call with
    | generate model request =>
      cases hx
      obtain ⟨⟨huser, hpos⟩, hallows⟩ := TurnInput.run_call h.exec
      obtain ⟨rfl, hrequesting⟩ := hallows.admits.of_generate
      exact ⟨rfl, rfl, rfl, huser, hpos, hrequesting, hallows.request _ rfl⟩
    | _ => cases hx
  | setupRaised e remaining h => cases hx
  | turnRaised e remaining h => cases hx
  | turnReturned result remaining h => cases hx

/-- **What a turn that has ended leaves** of the reminders. -/
lemma Turning.remaining_eq {o : Except Failure ModelTurnResult} {remaining : ReminderState}
    (h : Turning c facade a tr (.ret (o, remaining))) :
    remaining = (c.turnInput facade a).remaining (turnCalls tr) :=
  (TurnInput.run_ret h.exec).1

/-- **What a turn that has returned** commits. -/
lemma Turning.isResult {result : ModelTurnResult} {remaining : ReminderState}
    (h : Turning c facade a tr (.ret (.ok result, remaining))) :
    a.userMessage.role = .user ∧ 0 < a.maxModelRounds ∧ ∃ before response,
      ((c.turnInput facade a).log (turnCalls tr)).phase = .stopped before response ∧
        (c.turnInput facade a).IsResult (turnCalls tr) response result := by
  rcases (TurnInput.run_ret h.exec).2 with ⟨⟨huser, hpos⟩, hends⟩ | ⟨e, he⟩
  · cases hends with
    | returned before response _ hphase hresult =>
      exact ⟨huser, hpos, before, response, hphase, hresult⟩
  · cases he

/-- **A step in which a flow runs.** The facade is busy with another flow, or the flow runs over the
facade as it stands. -/
theorem StepCase.running {s t : System} {e : Event} (h : StepCase c s e t) {i : ℕ}
    (he : e.runs? = some i) :
    (s.facade.busy = true ∧ ∃ a, t.facade = s.facade ∧
        t.flows[i]? = some (.started a [] (.ret (.error .conversationBusy, .empty)))) ∨
      ∃ a tr rest, Advanced c { s.facade with busy := true } a tr rest t.facade ∧
        t.flows[i]? = some (.started a tr rest) := by
  cases h with
  | quiet he' hfacade hstarted => rw [he'] at he; cases he
  | operated op facade he' hidle hop ht => rw [he'] at he; cases he
  | rejected j a he' hbusy hj ht =>
    subst he'
    cases he
    subst ht
    exact .inl ⟨hbusy, a, rfl, List.getElem?_set_self (List.getElem?_eq_some_iff.1 hj).1⟩
  | acquired j a rest facade he' hidle hj hadv ht =>
    subst he'
    cases he
    subst ht
    exact .inr ⟨a, [], rest, hadv, List.getElem?_set_self (List.getElem?_eq_some_iff.1 hj).1⟩
  | advanced j a tr call k reply rest facade he' hj hbusy hadv ht =>
    have hflow : e.runs? = some j := by
      rcases he' with rfl | ⟨rfl, -⟩ <;> rfl
    rw [he, Option.some_inj] at hflow
    subst hflow
    subst ht
    have hfacade : { s.facade with busy := true } = s.facade := by
      rw [← hbusy]
    rw [hfacade]
    exact .inr ⟨a, _, rest, hadv, List.getElem?_set_self (List.getElem?_eq_some_iff.1 hj).1⟩

/-- The request that a step accepts, in which a flow runs. -/
lemma acceptance?_of_runs {m : Move System Event} {i : ℕ} {f : Flow}
    (hi : m.label.runs? = some i) (hf : m.after.flows[i]? = some f) :
    acceptance? m = f.acceptance? i := by
  rw [acceptance?, hi, Option.bind_some, hf, Option.bind_some]

/-- A step in which no flow runs accepts no request. -/
lemma acceptance?_of_quiet {m : Move System Event} (hm : m.label.runs? = none) :
    acceptance? m = none := by
  rw [acceptance?, hm, Option.bind_none]

/-- **A step that accepts a request.** -/
theorem StepCase.accepts {m : Move System Event} (h : StepCase c m.before m.label m.after)
    {x : Acceptance} (hx : acceptance? m = some x) :
    m.label.runs? = some x.flow ∧ ∃ a tr rest,
      Advanced c { m.before.facade with busy := true } a tr rest m.after.facade ∧
        m.after.flows[x.flow]? = some (.started a tr rest) ∧
        m.after.facade = { m.before.facade with busy := true } ∧ x.calls = turnCalls tr ∧
        c.Accepts { m.before.facade with busy := true } a x := by
  obtain ⟨i, hi, hx⟩ := Option.bind_eq_some_iff.1 hx
  obtain ⟨f, hf, hx⟩ := Option.bind_eq_some_iff.1 hx
  rcases h.running hi with ⟨-, a, -, hrejected⟩ | ⟨a, tr, rest, hadv, hstarted⟩
  · rw [hf, Option.some_inj] at hrejected
    subst hrejected
    cases hx
  · rw [hf, Option.some_inj] at hstarted
    subst hstarted
    obtain ⟨hfacade, rfl, hcalls, haccepts⟩ := hadv.accepts hx
    exact ⟨hi, a, tr, rest, hadv, hf, hfacade, hcalls, haccepts⟩

end PurrceptCore
