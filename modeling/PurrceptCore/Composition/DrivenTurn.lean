import PurrceptCore.Driver.Delivery
import PurrceptCore.Driver.Generators
import PurrceptCore.Driver.Reporting
import PurrceptCore.Models.Commit
import PurrceptCore.Models.TurnScripts

set_option relaxedAutoImplicit false
set_option autoImplicit false

/-!
# A turn run by the driver

The whole stack of one turn: `AgentDriver.run` over a `GeneratorRun` over the generator that
`Conversation.ask` has returned. While the driver works, other flows and operations of the same
conversation may come in between, also from within the callbacks that the turn makes.

## Main definitions

* `PurrceptCore.Encoding` — how the values that a driver passes on stand for those of a flow.
* `PurrceptCore.System.Resumes` — what a flow of a system does when it is resumed as a generator.
* `PurrceptCore.Hosted` — a driver trace whose agent run is flow `i` of a system.

## Main results

* `PurrceptCore.Hosted.position` — the adapter, the flow and the driver agree on how far the turn
  has come.

## Design

* Nobody else touches flow `i`: the driver is the only one to hold it. Everything else may happen
  to the system at any time, between two calls of the driver and while the flow waits for a
  callback.
* `GeneratorRun` never calls a generator that has ended, sends nothing to one that was not entered,
  and enters none twice; only the calls it makes are described.
-/

namespace PurrceptCore

open Interaction

/-! ### Flows as generators -/

/-- An effect of a flow: a call at which it yields. -/
abbrev FlowEffect : Type := {call : TurnCall // call.isEffect = true}

/-- How the values that a driver passes on stand for those of a flow. An exception that was thrown
into the flow, or that a callback has raised, leaves it as the same object. -/
structure Encoding (V : Type) where
  polled : V → Polled
  response : V → Answer ModelResponse
  toolResult : V → Answer ToolResult
  result : ModelTurnResult → V
  failure : Failure → Exc
  failure_raised : ∀ e, failure (.raised e) = e

variable {V : Type}

/-- What a yield comes to when an outcome is delivered to it. -/
def Encoding.reply (v : Encoding V) (outcome : Except Exc V) : (call : TurnCall) → TurnReply call
  | .inputPoll => outcome.map v.polled
  | .generate _ _ => outcome.map v.response
  | .invokeTool _ _ => outcome.map v.toolResult
  -- callbacks are no yields
  | .prepare state model => TurnCall.exit (.prepare state model)
  | .countTokens messages model => TurnCall.exit (.countTokens messages model)
  | .countRequest request model => TurnCall.exit (.countRequest request model)
  | .sourceId source => TurnCall.exit (.sourceId source)
  | .resolve source context => TurnCall.exit (.resolve source context)
  | .trace event => TurnCall.exit (.trace event)

/-- What a flow that has handed control back has done, seen as a generator. -/
def Flow.step? (v : Encoding V) : Flow → Option (GenStep V FlowEffect)
  | .started _ _ (.call (.turn call) _) =>
    if h : call.isEffect = true then some (.yielded ⟨call, h⟩) else none
  | .started _ _ (.ret (.ok result, _)) => some (.stopIteration (v.result result))
  | .started _ _ (.ret (.error failure, _)) => some (.raised (v.failure failure))
  | _ => none

/-- What `close` makes of what a generator has done: a `GeneratorExit` that leaves it is
swallowed. -/
def GenStep.closing {E : Type} : GenStep V E → Except Exc Unit
  | yielded _ => .error ignoredExit
  | stopIteration _ => .ok ()
  | raised error => if error.typeName = generatorExit.typeName then .ok () else .error error

/-- The flow that an event is about. -/
def Event.about? : Event → Option ℕ
  | advanced i | discarded i | resumed i _ _ | closed i => some i
  | asked _ | operated _ | refused _ _ => none

/-- The calls that a flow makes of objects of the application. -/
def OuterCall.isCallback : OuterCall → Bool
  | setup _ => true
  | turn call => !call.isEffect

/-- What may happen while flow `i` runs: its callbacks come back, and others go on. -/
def Event.Within (i : ℕ) (e : Event) : Prop :=
  e.about? ≠ some i ∨ ∃ call reply, e = .resumed i call reply ∧ call.isCallback = true

/-- Flow `i` has handed control back, having done `step`. -/
def System.Hands (v : Encoding V) (i : ℕ) (s : System) (step : GenStep V FlowEffect) : Prop :=
  ∃ f, s.flows[i]? = some f ∧ f.step? v = some step

/-- **Flow `i` as a generator**: a call that its adapter makes of it, the reply, and what happens
to the system until then. -/
inductive System.Resumes (c : Conversation) (v : Encoding V) (i : ℕ) (s : System) :
    (call : GenCall V) → GenReply V FlowEffect call → List (Move System Event) → System → Prop
  | next {m : Move System Event} {moves : List (Move System Event)} {t : System}
      {step : GenStep V FlowEffect} (hrun : c.Run s (m :: moves) t) (hm : m.label = .advanced i)
      (hwithin : ∀ m ∈ moves, m.label.Within i) (hstep : t.Hands v i step) :
      Resumes c v i s .next step (m :: moves) t
  | send (value : V) (call : FlowEffect) {m : Move System Event} {moves : List (Move System Event)}
      {t : System} {step : GenStep V FlowEffect} (hrun : c.Run s (m :: moves) t)
      (hm : m.label = .resumed i (.turn call.1) (v.reply (.ok value) call.1))
      (hwithin : ∀ m ∈ moves, m.label.Within i) (hstep : t.Hands v i step) :
      Resumes c v i s (.send value) step (m :: moves) t
  | throw (error : Exc) (call : FlowEffect) {m : Move System Event}
      {moves : List (Move System Event)} {t : System} {step : GenStep V FlowEffect}
      (hrun : c.Run s (m :: moves) t)
      (hm : m.label = .resumed i (.turn call.1) (v.reply (.error error) call.1))
      (hwithin : ∀ m ∈ moves, m.label.Within i) (hstep : t.Hands v i step) :
      Resumes c v i s (.throw error) step (m :: moves) t
  | close {m : Move System Event} {moves : List (Move System Event)} {t : System}
      {step : GenStep V FlowEffect} (hrun : c.Run s (m :: moves) t) (hm : m.label = .closed i)
      (hwithin : ∀ m ∈ moves, m.label.Within i) (hstep : t.Hands v i step) :
      Resumes c v i s .close step.closing (m :: moves) t
  | discard {m : Move System Event} {t : System} (hrun : c.Run s [m] t)
      (hm : m.label = .discarded i) : Resumes c v i s .close (.ok ()) [m] t

/-- The calls that the adapter makes of flow `i`, one after the other. -/
inductive System.Answers (c : Conversation) (v : Encoding V) (i : ℕ) :
    System → GenTrace V FlowEffect → List (Move System Event) → System → Prop
  | nil (s : System) : Answers c v i s [] [] s
  | cons {s t u : System} {call : GenCall V} {reply : GenReply V FlowEffect call}
      {gtr : GenTrace V FlowEffect} {moves moves' : List (Move System Event)}
      (h : System.Resumes c v i s call reply moves t) (h' : Answers c v i t gtr moves' u) :
      Answers c v i s (⟨call, reply⟩ :: gtr) (moves ++ moves') u

/-- **The whole stack.** In the trace of a driver, the calls of the agent run were made of a
`GeneratorRun` over flow `i` of a system. The adapter is now in the given state, and the system has
come from `s` by the given moves. -/
inductive Hosted (c : Conversation) (v : Encoding V) (i : ℕ) (s : System) :
    DriverTrace V FlowEffect → GeneratorRunState → List (Move System Event) → System → Prop
  | begin : Hosted c v i s [] .created [] s
  /-- Something else happens to the system. -/
  | elsewhere {tr state moves t e u} (h : Hosted c v i s tr state moves t) (hstep : c.Step t e u)
      (he : e.about? ≠ some i) : Hosted c v i s tr state (moves ++ [⟨t, e, u⟩]) u
  /-- The driver calls something else. -/
  | other {tr state moves t call r} (h : Hosted c v i s tr state moves t)
      (hc : Call.ofRun call = false) : Hosted c v i s (tr ++ [⟨call, r⟩]) state moves t
  | start {tr state state' moves moves' t u r gtr} (h : Hosted c v i s tr state moves t)
      (hx : Exec (GeneratorRun.start state) gtr (.ret (r, state')))
      (hg : System.Answers c v i t gtr moves' u) :
      Hosted c v i s (tr ++ [⟨.start, r⟩]) state' (moves ++ moves') u
  | send {tr state state' moves moves' t u value r gtr} (h : Hosted c v i s tr state moves t)
      (hx : Exec (GeneratorRun.send value state) gtr (.ret (r, state')))
      (hg : System.Answers c v i t gtr moves' u) :
      Hosted c v i s (tr ++ [⟨.send value, r⟩]) state' (moves ++ moves') u
  | throw {tr state state' moves moves' t u error r gtr} (h : Hosted c v i s tr state moves t)
      (hx : Exec (GeneratorRun.throw error state) gtr (.ret (r, state')))
      (hg : System.Answers c v i t gtr moves' u) :
      Hosted c v i s (tr ++ [⟨.throw error, r⟩]) state' (moves ++ moves') u
  | close {tr state state' moves moves' t u r gtr} (h : Hosted c v i s tr state moves t)
      (hx : Exec (GeneratorRun.close state) gtr (.ret (r, state')))
      (hg : System.Answers c v i t gtr moves' u) :
      Hosted c v i s (tr ++ [⟨.close, r⟩]) state' (moves ++ moves') u

/-! ### The flow between two calls -/

/-- The flow has ended without a result. -/
def Flow.Failed : Flow → Prop
  | .discarded _ => True
  | .started _ _ (.ret (.error _, _)) => True
  | _ => False

section Steps

variable {c : Conversation} {v : Encoding V} {i : ℕ} {s t u : System} {e : Event}
  {moves : List (Move System Event)}

/-- An event about another flow leaves flow `i`, or creates it. -/
lemma Conversation.Step.flow_of_ne (h : c.Step s e t) (he : e.about? ≠ some i) :
    t.flows[i]? = s.flows[i]? ∨ ∃ a, s.flows[i]? = none ∧ t.flows[i]? = some (.created a) := by
  cases h with
  | ask input rounds poll a ha =>
    rcases lt_trichotomy i s.flows.length with hlt | heq | hgt
    · exact .inl (List.getElem?_append_left hlt)
    · exact .inr ⟨a, by simp [heq], by simp [heq]⟩
    · exact .inl (by
        rw [List.getElem?_eq_none (by simp; omega), List.getElem?_eq_none (by omega)])
  | advance j a hj => exact .inl (List.getElem?_set_ne fun hij => he (congrArg some hij))
  | discard j a hj => exact .inl (List.getElem?_set_ne fun hij => he (congrArg some hij))
  | resume j a tr call k reply hj =>
    exact .inl (List.getElem?_set_ne fun hij => he (congrArg some hij))
  | close j a tr call k hyield hj =>
    exact .inl (List.getElem?_set_ne fun hij => he (congrArg some hij))
  | operate op facade hop => exact .inl rfl
  | refuse op error hop => exact .inl rfl

/-- A flow that runs or is dropped was not at its end. -/
lemma Conversation.Step.not_ended (h : c.Step s e t) (he : e.about? = some i) {a : Ask}
    {tr : FlowTrace} {o : Except Failure ModelTurnResult × ReminderState} :
    s.flows[i]? ≠ some (.started a tr (.ret o)) := by
  intro hi
  cases h with
  | ask | operate | refuse => cases he
  | advance j a' hj | discard j a' hj =>
    cases he
    rw [hi] at hj
    cases hj
  | resume j a' tr' call k reply hj =>
    cases he
    rw [System.Awaits, hi, Option.some_inj] at hj
    cases hj
  | close j a' tr' call k hyield hj =>
    cases he
    rw [System.Awaits, hi, Option.some_inj] at hj
    cases hj

/-- A flow that has failed stays so. -/
lemma Conversation.Step.failed (h : c.Step s e t) {f : Flow} (hi : s.flows[i]? = some f)
    (hf : f.Failed) : t.flows[i]? = some f := by
  by_cases he : e.about? = some i
  · exfalso
    cases f with
    | created a => exact hf
    | started a tr rest =>
      cases rest with
      | ret o => exact h.not_ended he hi
      | call call k => exact hf
      | cut => exact hf
    | discarded a =>
      cases h with
      | ask | operate | refuse => cases he
      | advance j a' hj | discard j a' hj =>
        cases he
        rw [hi] at hj
        cases hj
      | resume j a' tr' call k reply hj | close j a' tr' call k hyield hj =>
        cases he
        rw [System.Awaits, hi, Option.some_inj] at hj
        cases hj
  · rcases h.flow_of_ne he with hsame | ⟨a, hnone, -⟩
    · rwa [hsame]
    · rw [hi] at hnone
      cases hnone

/-- A flow that has failed stays so in every run. -/
lemma Conversation.Run.failed (h : c.Run s moves t) {f : Flow} (hi : s.flows[i]? = some f)
    (hf : f.Failed) : t.flows[i]? = some f :=
  h.invariant (I := fun s => s.flows[i]? = some f) hi fun _ _ hstep h => hstep.failed h hf

/-- A run, by its first step. -/
lemma Conversation.Run.first {m : Move System Event} (h : c.Run s (m :: moves) t) :
    m.before = s ∧ c.Step s m.label m.after ∧ c.Run m.after moves t := by
  have h' : LabelledRun c.Step s ([m] ++ moves) t := h
  obtain ⟨u, hu, hrest⟩ := h'.split
  obtain ⟨hnil, hstep, rfl⟩ := hu.snoc_inv (List.nil_append [m]).symm
  obtain rfl : m.before = s := by
    generalize hms : ([] : List (Move System Event)) = ms at hnil
    cases hnil with
    | refl => rfl
    | snoc => simp at hms
  exact ⟨rfl, hstep, hrest⟩

/-- **A failed effect ends the turn**: after it a flow has raised. -/
lemma Advanced.of_error {facade facade' : Facade} {a : Ask} {tr : FlowTrace} {rest : FlowProg}
    {call : TurnCall} {reply : TurnReply call} (heffect : call.isEffect = true)
    (hreply : ¬ WellTyped ⟨call, reply⟩)
    (h : Advanced c facade a (tr ++ [⟨.turn call, reply⟩]) rest facade') :
    ∃ failure remaining, rest = .ret (.error failure, remaining) := by
  have hsetup (str : Trace SetupCall SetupReply) :
      tr ++ [⟨.turn call, reply⟩] ≠ ofSetupTrace str := by
    intro heq
    have hmem : (⟨.turn call, reply⟩ : Σ call, OuterReply call) ∈ ofSetupTrace str := by
      rw [← heq]
      exact List.mem_append_right _ (List.mem_singleton_self _)
    obtain ⟨x, -, hx⟩ := List.mem_map.1 hmem
    cases hx
  have hphase : ((c.turnInput facade a).log
      (turnCalls (tr ++ [⟨.turn call, reply⟩]))).phase = .failed := by
    rw [turnCalls_append, TurnInput.log]
    change (TurnLog.of _ _ (turnCalls tr ++ [⟨call, reply⟩])).phase = _
    rw [TurnLog.of_snoc, TurnLog.next_of_error _ heffect hreply]
    rfl
  cases h with
  | settingUp call' k h =>
    obtain ⟨str, heq, -⟩ := h
    exact absurd heq (hsetup str)
  | turning call' k h =>
    have hadmits := (TurnInput.run_call h.exec).2.admits
    rw [TurnLog.Admits, hphase] at hadmits
    exact hadmits.elim
  | setupRaised e remaining h => exact ⟨e, remaining, rfl⟩
  | turnRaised e remaining h => exact ⟨e, remaining, rfl⟩
  | turnReturned result remaining h =>
    obtain ⟨-, -, before, response, hstopped, -⟩ := h.isResult
    rw [hphase] at hstopped
    cases hstopped

/-- **A flow that is closed has failed**: the `GeneratorExit` at its yield leaves it. -/
lemma Conversation.Step.closed (h : c.Step s (.closed i) t) (hown : Ownership c s) :
    ∃ f, t.flows[i]? = some f ∧ f.Failed := by
  cases h with
  | close _ a tr call k hyield hi =>
    obtain ⟨-, hadv⟩ := hown.awaits hi
    have hresumed : Advanced c s.facade a (tr ++ [⟨.turn call, call.exit⟩]) _ _ :=
      hadv.resume rfl call.exit
    obtain ⟨failure, remaining, hrest⟩ :=
      hresumed.of_error hyield (not_wellTyped_exit hyield)
    refine ⟨_, List.getElem?_set_self (List.getElem?_eq_some_iff.1 hi).1, ?_⟩
    rw [hrest]
    trivial

end Steps

/-! ### Where a driven turn stands -/

/-- Where a turn stands, by the state of its adapter. The driver has seen the run return exactly if
the flow has returned. -/
inductive Position (v : Encoding V) (i : ℕ) (t : System) (tr : DriverTrace V FlowEffect) :
    GeneratorRunState → Prop
  | created (hi : ∀ f, t.flows[i]? = some f → ∃ a, f = .created a) (hreturns : returns tr = [])
      (hopen : closes tr = []) : Position v i t tr .created
  | running (call : FlowEffect) (a : Ask) (ftr : FlowTrace)
      (k : OuterReply (.turn call.1) → FlowProg) (hi : t.Awaits i a ftr (.turn call.1) k)
      (hreturns : returns tr = []) (hopen : closes tr = []) : Position v i t tr .running
  | returned (result : ModelTurnResult) (hi : t.Returned i result)
      (hreturns : returns tr = [v.result result]) : Position v i t tr .returned
  | closed (f : Flow) (hi : t.flows[i]? = some f) (hf : f.Failed) (hreturns : returns tr = []) :
      Position v i t tr .closed

section Positions

variable {c : Conversation} {v : Encoding V} {i : ℕ} {s t u : System} {e : Event}
  {moves : List (Move System Event)} {tr : DriverTrace V FlowEffect} {state : GeneratorRunState}

/-- What the driver does elsewhere does not move the turn. -/
lemma Position.other (h : Position v i t tr state) {x : Σ c, Reply V FlowEffect c}
    (hreturns : returns (tr ++ [x]) = returns tr) (hcloses : closes (tr ++ [x]) = closes tr) :
    Position v i t (tr ++ [x]) state := by
  cases h with
  | created hi hr ho => exact .created hi (hreturns.trans hr) (hcloses.trans ho)
  | running call a ftr k hi hr ho =>
    exact .running call a ftr k hi (hreturns.trans hr) (hcloses.trans ho)
  | returned result hi hr => exact .returned result hi (hreturns.trans hr)
  | closed f hi hf hr => exact .closed f hi hf (hreturns.trans hr)

/-- What happens to the system elsewhere does not move the turn. -/
lemma Position.elsewhere (h : Position v i t tr state) (hstep : c.Step t e u)
    (he : e.about? ≠ some i) : Position v i u tr state := by
  have hsame {f : Flow} (hi : t.flows[i]? = some f) : u.flows[i]? = some f := by
    rcases hstep.flow_of_ne he with hsame | ⟨a, hnone, -⟩
    · rwa [hsame]
    · rw [hi] at hnone
      cases hnone
  cases h with
  | created hi hr ho =>
    refine .created (fun f hf => ?_) hr ho
    rcases hstep.flow_of_ne he with hsame | ⟨a, -, ha⟩
    · exact hi f (hsame ▸ hf)
    · rw [ha, Option.some_inj] at hf
      exact ⟨a, hf.symm⟩
  | running call a ftr k hi hr ho => exact .running call a ftr k (hsame hi) hr ho
  | returned result hi hr =>
    obtain ⟨a, ftr, remaining, hi⟩ := hi
    exact .returned result ⟨a, ftr, remaining, hsame hi⟩ hr
  | closed f hi hf hr => exact .closed f (hsame hi) hf hr

/-- **An advancement**: the adapter records what the flow has done, and the driver sees it. -/
lemma Position.advanced {x : Σ c, Reply V FlowEffect c} {step : GenStep V FlowEffect}
    (hx : advancementOf x = some step.outcome) (hclosing : closingOf x = none)
    (hreturns : returns tr = []) (hopen : closes tr = []) (hstep : u.Hands v i step) :
    Position v i u (tr ++ [x]) step.recorded := by
  have hreturns' : returns (tr ++ [x]) = (returnedValue step.outcome).toList := by
    have hof : returns.of x = returnedValue step.outcome := by
      rw [Observation.filterMap_of, advancements_of, hx]
      rfl
    rw [observe_append, hreturns, observe_cons, hof]
    exact List.append_nil _
  have hopen' : closes (tr ++ [x]) = [] := (observe_snoc_none closes hclosing).trans hopen
  obtain ⟨f, hi, hf⟩ := hstep
  unfold Flow.step? at hf
  split at hf
  · next a ftr call k =>
    split at hf
    · next heffect =>
      cases hf
      exact .running ⟨call, heffect⟩ a ftr k hi hreturns' hopen'
    · cases hf
  · next a ftr result remaining =>
    cases hf
    exact .returned result ⟨a, ftr, remaining, hi⟩ hreturns'
  · next a ftr failure remaining =>
    cases hf
    exact .closed _ hi trivial hreturns'
  · cases hf

/-- A call that the adapter rejects does not move the turn. -/
lemma Position.rejected (h : Position v i t tr state) {x : Σ c, Reply V FlowEffect c} {e : Exc}
    (hx : advancementOf x = some (.error e)) (hclosing : closingOf x = none) :
    Position v i t (tr ++ [x]) state := by
  refine h.other ?_ (observe_snoc_none closes hclosing)
  refine observe_snoc_none returns ?_
  rw [Observation.filterMap_of, advancements_of, hx]
  rfl

/-- A generator that is called once. -/
lemma System.Answers.single {call : GenCall V} {reply : GenReply V FlowEffect call}
    (h : System.Answers c v i s [⟨call, reply⟩] moves t) :
    System.Resumes c v i s call reply moves t := by
  cases h with
  | cons h h' =>
    cases h'
    rwa [List.append_nil]

/-- A generator that is not called. -/
lemma System.Answers.none (h : System.Answers c v i s [] moves t) : moves = [] ∧ t = s := by
  cases h
  exact ⟨rfl, rfl⟩

/-- What happens until a generator replies is a run of the system. -/
lemma System.Resumes.run {call : GenCall V} {reply : GenReply V FlowEffect call}
    (h : System.Resumes c v i s call reply moves t) : c.Run s moves t := by
  cases h <;> assumption

lemma System.Answers.run {gtr : GenTrace V FlowEffect}
    (h : System.Answers c v i s gtr moves t) : c.Run s moves t := by
  induction h with
  | nil s => exact .refl
  | cons h _ ih => exact h.run.append ih

/-- What happens to the system of a driven turn is a run. -/
theorem Hosted.run (h : Hosted c v i s tr state moves t) : c.Run s moves t := by
  induction h with
  | begin => exact .refl
  | elsewhere _ hstep _ ih => exact ih.snoc hstep
  | other _ _ ih => exact ih
  | start _ _ hg ih | send _ _ hg ih | throw _ _ hg ih | close _ _ hg ih => exact ih.append hg.run

/-- A flow that was closed or discarded has failed. -/
lemma System.Resumes.closed {reply : Except Exc Unit}
    (h : System.Resumes c v i s .close reply moves t) (hown : Ownership c s) :
    ∃ f, t.flows[i]? = some f ∧ f.Failed := by
  cases h with
  | @close m moves _ step hrun hm hwithin hstep =>
    obtain ⟨-, hfirst, hrest⟩ := hrun.first
    rw [hm] at hfirst
    obtain ⟨f, hi, hf⟩ := hfirst.closed hown
    exact ⟨f, hrest.failed hi hf, hf⟩
  | @discard m _ hrun hm =>
    obtain ⟨-, hfirst, hrest⟩ := hrun.first
    rw [hm] at hfirst
    generalize m.after = u at hfirst hrest
    cases hfirst with
    | discard _ a hi =>
      refine ⟨.discarded a, hrest.failed ?_ trivial, trivial⟩
      exact List.getElem?_set_self (List.getElem?_eq_some_iff.1 hi).1

/-- Before it has ended, a run has neither returned nor been closed. -/
lemma Position.isOpen (h : Position v i t tr state) (hstate : state = .created ∨ state = .running) :
    returns tr = [] ∧ closes tr = [] := by
  cases h with
  | created hi hr ho => exact ⟨hr, ho⟩
  | running call a ftr k hi hr ho => exact ⟨hr, ho⟩
  | returned | closed => rcases hstate with h | h <;> cases h

/-- A call of `start`, `send` or `throw` of the adapter. -/
lemma Position.called {state' expected : GeneratorRunState} {operation : String}
    {call : GenCall V} {read : GenReply V FlowEffect call → GenStep V FlowEffect}
    {x : Σ c, Reply V FlowEffect c} {o : Except Exc (RunState V FlowEffect)}
    {gtr : GenTrace V FlowEffect} (h : Position v i t tr state)
    (hspec : (state = expected ∧ ∃ r, gtr = [⟨call, r⟩] ∧ state' = (read r).recorded ∧
        o = (read r).outcome) ∨
      (state ≠ expected ∧ gtr = [] ∧ state' = state ∧
        o = .error (wrongState operation state expected)))
    (hexpected : expected = .created ∨ expected = .running) (hx : advancementOf x = some o)
    (hclosing : closingOf x = none) (hg : System.Answers c v i t gtr moves u)
    (hands : ∀ r, System.Resumes c v i t call r moves u → u.Hands v i (read r)) :
    Position v i u (tr ++ [x]) state' := by
  rcases hspec with ⟨rfl, r, rfl, rfl, rfl⟩ | ⟨-, rfl, rfl, rfl⟩
  · obtain ⟨hreturns, hopen⟩ := h.isOpen hexpected
    exact Position.advanced hx hclosing hreturns hopen (hands r hg.single)
  · obtain ⟨-, rfl⟩ := hg.none
    exact h.rejected hx hclosing

/-- **The adapter, the flow and the driver agree** on how far the turn has come, whatever the driver
calls and whatever happens to the system in between.

**Proof sketch.** Induction on the trace. An advancement records what the flow has done; a closed
flow has failed, because the `GeneratorExit` leaves it. -/
theorem Hosted.position (hs : s.Fresh) (h : Hosted c v i s tr state moves t) :
    Position v i t tr state := by
  induction h with
  | begin =>
    refine .created (fun f hf => ?_) rfl rfl
    rw [hs.2] at hf
    cases hf
  | elsewhere _ hstep he ih => exact ih.elsewhere hstep he
  | @other tr state moves t call r h hc ih =>
    have hadv : advancementOf (⟨call, r⟩ : Σ c, Reply V FlowEffect c) = none := by
      cases call <;> first | rfl | cases hc
    have hclosing : closingOf (⟨call, r⟩ : Σ c, Reply V FlowEffect c) = none := by
      cases call <;> first | rfl | cases hc
    exact ih.other (observe_snoc_none returns (Observation.filterMap_none hadv))
      (observe_snoc_none closes hclosing)
  | start h hx hg ih =>
    have hspec := Routine.Spec.sound hx (GeneratorRun.advancement_spec .next id)
    refine ih.called hspec (.inl rfl) rfl rfl hg fun r hr => ?_
    cases hr
    assumption
  | @send tr state state' moves moves' t u value r gtr h hx hg ih =>
    have hspec := Routine.Spec.sound hx (GeneratorRun.advancement_spec (.send value) id)
    refine ih.called hspec (.inr rfl) rfl rfl hg fun r hr => ?_
    cases hr
    assumption
  | @throw tr state state' moves moves' t u error r gtr h hx hg ih =>
    have hspec := Routine.Spec.sound hx (GeneratorRun.advancement_spec (.throw error) id)
    refine ih.called hspec (.inr rfl) rfl rfl hg fun r hr => ?_
    cases hr
    assumption
  | @close tr state state' moves moves' t u r gtr h hx hg ih =>
    have hreturns : returns (tr ++ [⟨.close, r⟩]) = returns tr := observe_snoc_none returns rfl
    rcases Routine.Spec.sound hx GeneratorRun.close_spec with
      ⟨hended, rfl, rfl, -⟩ | ⟨hopen, rfl, rfl⟩
    · obtain ⟨-, rfl⟩ := hg.none
      cases ih with
      | created | running => rcases hended with h | h <;> cases h
      | returned result hi hr => exact .returned result hi (hreturns.trans hr)
      | closed f hi hf hr => exact .closed f hi hf (hreturns.trans hr)
    · obtain ⟨f, hi, hf⟩ := hg.single.closed (Ownership.reachable hs h.run)
      have hstate := GeneratorRunState.created_or_running hopen
      exact .closed f hi hf (hreturns.trans (ih.isOpen hstate).1)

end Positions

end PurrceptCore
