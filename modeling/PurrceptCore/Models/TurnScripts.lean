import PurrceptCore.Models.Acceptance

set_option relaxedAutoImplicit false
set_option autoImplicit false

/-!
# The script of a turn

The effects of a turn and what came back to them, without the callbacks in between. They follow a
script: each effect was due in the log of those before, and no more requests are made than rounds
were granted.

## Main definitions

* `PurrceptCore.TurnLog.Follows` — every call of a trace was due.
* `PurrceptCore.effectCalls` — the effects of a flow, each with what came back.

## Main results

* `PurrceptCore.TurnLog.Follows.effects_or_failed` — the effects of a trace are those of its log,
  unless the turn has failed.
* `PurrceptCore.TurnLog.Follows.generates_le` — no more requests than rounds.
* `PurrceptCore.Conversation.Run.started` — every flow of a system follows its script.
-/

namespace PurrceptCore

open Interaction

namespace TurnLog

variable {c : Conversation} {poll : Bool} {maxRounds : ℕ} {tr tr' : TurnTrace}

/-- An effect that does not bring a value of the documented type fails the turn. -/
lemma next_of_error (log : TurnLog) {x : Σ call, TurnReply call}
    (heffect : x.1.isEffect = true) (hx : ¬ WellTyped x) :
    log.next poll maxRounds x = log.fail := by
  obtain ⟨call, reply⟩ := x
  cases call with
  | inputPoll =>
    have hnone : polled? reply = none := by simpa [WellTyped] using hx
    rw [TurnLog.next, hnone]
    rfl
  | generate model request =>
    have hnone : typed? reply = none := by simpa [WellTyped] using hx
    rw [TurnLog.next, hnone]
    rfl
  | invokeTool tool call =>
    have hnone : typed? reply = none := by simpa [WellTyped] using hx
    rw [TurnLog.next, hnone]
    rfl
  | _ => cases heffect

/-- Every call of a trace was due. -/
inductive Follows (c : Conversation) (poll : Bool) (maxRounds : ℕ) : TurnTrace → Prop
  | nil : Follows c poll maxRounds []
  | snoc {tr : TurnTrace} {x : Σ call, TurnReply call} (h : Follows c poll maxRounds tr)
      (hx : (of poll maxRounds tr).Admits c x.1) : Follows c poll maxRounds (tr ++ [x])

/-- The last call of a trace was due. -/
lemma Follows.snoc_inv {x : Σ call, TurnReply call} (h : Follows c poll maxRounds (tr ++ [x])) :
    Follows c poll maxRounds tr ∧ (of poll maxRounds tr).Admits c x.1 := by
  generalize htr : tr ++ [x] = tr' at h
  cases h with
  | nil => simp at htr
  | snoc h hx =>
    obtain ⟨rfl, hlast⟩ := List.append_inj' htr rfl
    cases hlast
    exact ⟨h, hx⟩

/-- The effects of a trace leave the same log as all of its calls. -/
lemma of_filter_isEffect (tr : TurnTrace) :
    of poll maxRounds (tr.filter fun x => x.1.isEffect) = of poll maxRounds tr := by
  induction tr using List.reverseRecOn with
  | nil => rfl
  | append_singleton tr x ih =>
    rw [List.filter_append, of_snoc]
    cases hx : x.1.isEffect with
    | true => rw [List.filter_singleton, hx, cond_true, of_snoc, ih]
    | false =>
      rw [List.filter_singleton, hx, cond_false, List.append_nil, ih, next_callback _ hx]

/-- If all calls were due, so were the effects among them. -/
lemma Follows.filter_isEffect (h : Follows c poll maxRounds tr) :
    Follows c poll maxRounds (tr.filter fun x => x.1.isEffect) := by
  induction h with
  | nil => exact .nil
  | @snoc tr x h hx ih =>
    rw [List.filter_append]
    cases heffect : x.1.isEffect with
    | true =>
      rw [List.filter_singleton, heffect, cond_true]
      exact ih.snoc (by rwa [of_filter_isEffect])
    | false => rwa [List.filter_singleton, heffect, cond_false, List.append_nil]

/-! ### The effects of a script -/

/-- **The effects of a script** are those of its log, unless the turn has failed. -/
theorem Follows.effects_or_failed (hpos : 0 < maxRounds) (h : Follows c poll maxRounds tr) :
    (of poll maxRounds tr).phase = .failed ∨
      (of poll maxRounds tr).effects c poll = tr.filterMap fun x => x.1.effect? := by
  induction h with
  | nil => exact .inr (effects_begin c [])
  | @snoc tr x h hx ih =>
    rcases ih with hfailed | heffects
    · rw [Admits, hfailed] at hx
      exact hx.elim
    by_cases htyped : WellTyped x
    · have hdue : Due c poll maxRounds _ x _ := due_next hx htyped
      refine .inr ?_
      rw [of_snoc, hdue.effects_eq (coherent_of hpos tr), heffects, List.filterMap_append]
      cases heffect : x.1.effect? <;> simp [heffect]
    · refine .inl ?_
      have heffect : x.1.isEffect = true := by
        obtain ⟨call, reply⟩ := x
        cases call <;> first | rfl | exact absurd trivial htyped
      rw [of_snoc, next_of_error _ heffect htyped]
      rfl

/-! ### The requests of a script -/

/-- The rounds whose request has been made. -/
def spent (log : TurnLog) : ℕ :=
  match log.phase with
  | .polling | .requesting _ => log.rounds.length
  | _ => log.rounds.length + 1

lemma spent_le {log : TurnLog} (h : log.rounds.length < maxRounds) : log.spent ≤ maxRounds := by
  unfold spent
  split <;> omega

lemma spent_begin (rounds : List Round) : (begin poll rounds).spent = rounds.length := by
  cases poll <;> rfl

lemma spent_intake (rounds : List Round) (before : List Message) (response : ModelResponse)
    (incoming : List Message) :
    (intake poll maxRounds rounds before response incoming).spent = rounds.length + 1 := by
  unfold intake
  split
  · rfl
  split
  · rfl
  split
  · rw [spent_begin, List.length_append]
    rfl
  · rfl

/-- **The step lemma for requests.** What is due spends a round exactly if it is a request. -/
lemma Due.spent_eq {log log' : TurnLog} {x : Σ call, TurnReply call}
    (h : Due c poll maxRounds log x log') :
    log'.spent = log.spent + (isGenerate x).toNat := by
  cases h with
  | callback rounds before x hx =>
    obtain ⟨call, reply⟩ := x
    cases call <;> first | rfl | cases hx
  | firstPoll => rfl
  | response =>
    split
    · rfl
    · exact spent_intake ..
  | secondPoll => exact spent_intake ..
  | lastResult =>
    rw [spent_begin, List.length_append]
    rfl
  | result => rfl

/-- Nothing is due that no round is left for. -/
lemma Admits.spent_lt {log : TurnLog} {x : Σ call, TurnReply call} (h : log.Admits c x.1)
    (hlt : log.rounds.length < maxRounds) : log.spent + (isGenerate x).toNat ≤ maxRounds := by
  by_cases hx : isGenerate x = true
  · obtain ⟨call, reply⟩ := x
    cases call with
    | generate model request =>
      obtain ⟨-, before, hphase⟩ := h.of_generate
      rw [spent, hphase]
      exact hlt
    | _ => cases hx
  · rw [Bool.eq_false_iff.2 hx]
    exact spent_le hlt

/-- A request of a script, and those before it, have each had a round. -/
lemma Follows.spent_le (h : Follows c poll maxRounds tr) :
    tr.countP isGenerate ≤ (of poll maxRounds tr).spent := by
  induction h with
  | nil => exact Nat.zero_le _
  | @snoc tr x h hx ih =>
    have hcount : (tr ++ [x]).countP isGenerate = tr.countP isGenerate + (isGenerate x).toNat := by
      rw [List.countP_append, List.countP_singleton]
      cases isGenerate x <;> rfl
    rw [hcount, of_snoc]
    by_cases htyped : WellTyped x
    · have hdue : Due c poll maxRounds _ x _ := due_next hx htyped
      rw [hdue.spent_eq]
      exact Nat.add_le_add_right ih _
    · have heffect : x.1.isEffect = true := by
        obtain ⟨call, reply⟩ := x
        cases call <;> first | rfl | exact absurd trivial htyped
      rw [next_of_error _ heffect htyped]
      exact (Nat.add_le_add_right ih _).trans (Admits.spent_lt hx (Nat.lt_succ_self _))

/-- **No more requests than rounds**, a request that is still to be answered included. -/
theorem Follows.generates_le (hpos : 0 < maxRounds) (h : Follows c poll maxRounds tr)
    {x : Σ call, TurnReply call} (hx : (of poll maxRounds tr).Admits c x.1) :
    (tr ++ [x]).countP isGenerate ≤ maxRounds :=
  (h.snoc hx).spent_le.trans (TurnLog.spent_le (coherent_of hpos _).length_lt)

end TurnLog

/-- Closing brings no value. -/
lemma not_wellTyped_exit {call : TurnCall} (heffect : call.isEffect = true) :
    ¬ WellTyped ⟨call, call.exit⟩ := by
  cases call with
  | inputPoll => exact nofun
  | generate model request => exact nofun
  | invokeTool tool call => exact nofun
  | _ => cases heffect

/-! ### The scripts of flows -/

/-- The effects of a flow, each with what came back. -/
def effectCalls (tr : FlowTrace) : TurnTrace := (turnCalls tr).filter fun x => x.1.isEffect

lemma effectCalls_append (tr tr' : FlowTrace) :
    effectCalls (tr ++ tr') = effectCalls tr ++ effectCalls tr' := by
  rw [effectCalls, turnCalls_append, List.filter_append]
  rfl

/-- A turn makes no calls without a round. -/
lemma TurnInput.rounds_pos {T : TurnInput} {tr : TurnTrace}
    {q : Prog TurnCall TurnReply (Except Failure ModelTurnResult × ReminderState)}
    (h : Exec T.run tr q) (htr : tr ≠ []) : 0 < T.maxRounds := by
  induction tr using List.reverseRecOn with
  | nil => exact absurd rfl htr
  | append_singleton tr x _ =>
    obtain ⟨k, hk⟩ := h.before
    exact (TurnInput.run_call hk).1.2

/-- What a turn has called was due. -/
lemma TurnInput.follows {T : TurnInput} {tr : TurnTrace}
    {q : Prog TurnCall TurnReply (Except Failure ModelTurnResult × ReminderState)}
    (h : Exec T.run tr q) : TurnLog.Follows T.conversation T.poll T.maxRounds tr := by
  induction tr using List.reverseRecOn generalizing q with
  | nil => exact .nil
  | append_singleton tr x ih =>
    obtain ⟨k, hk⟩ := h.before
    exact (ih hk).snoc (TurnInput.run_call hk).2.admits

/-- A flow follows the script of its turn: its effects were due, and so is the effect that it waits
for. -/
structure Ask.Scripted (c : Conversation) (a : Ask) (tr : FlowTrace) (rest : FlowProg) : Prop where
  rounds_pos : effectCalls tr ≠ [] → 0 < a.maxModelRounds
  follows : TurnLog.Follows c a.inputPoll a.maxModelRounds (effectCalls tr)
  due : ∀ call k, rest = .call (.turn call) k →
    0 < a.maxModelRounds ∧
      (TurnLog.of a.inputPoll a.maxModelRounds (effectCalls tr)).Admits c call

/-- What a flow follows when it waits for nothing that its turn yields. -/
lemma Ask.Scripted.quiet {c : Conversation} {a : Ask} {tr : FlowTrace} {rest : FlowProg}
    (hpos : effectCalls tr ≠ [] → 0 < a.maxModelRounds)
    (hfollows : TurnLog.Follows c a.inputPoll a.maxModelRounds (effectCalls tr))
    (hrest : ∀ call k, rest ≠ .call (.turn call) k) : a.Scripted c tr rest :=
  ⟨hpos, hfollows, fun call k h => absurd h (hrest call k)⟩

/-- A flow that has yielded nothing has nothing to follow. -/
lemma Ask.Scripted.of_nil {c : Conversation} {a : Ask} {tr : FlowTrace} {rest : FlowProg}
    (h : effectCalls tr = []) (hrest : ∀ call k, rest ≠ .call (.turn call) k) :
    a.Scripted c tr rest :=
  .quiet (fun hne => absurd h hne) (h ▸ .nil) hrest

/-- **A flow that was advanced** follows its script. -/
theorem Advanced.scripted {c : Conversation} {facade facade' : Facade} {a : Ask} {tr : FlowTrace}
    {rest : FlowProg} (h : Advanced c facade a tr rest facade') : a.Scripted c tr rest := by
  have hsetup {q : Prog SetupCall SetupReply (Except Failure TurnPromptSession × ReminderState)}
      (h : SettingUp c facade tr q) : effectCalls tr = [] := by
    obtain ⟨str, rfl, -⟩ := h
    rw [effectCalls, turnCalls_ofSetupTrace]
    rfl
  have hturn {q : Prog TurnCall TurnReply (Except Failure ModelTurnResult × ReminderState)}
      (h : Turning c facade a tr q) : (effectCalls tr ≠ [] → 0 < a.maxModelRounds) ∧
        TurnLog.Follows c a.inputPoll a.maxModelRounds (effectCalls tr) := by
    refine ⟨fun hne => ?_, (TurnInput.follows h.exec).filter_isEffect⟩
    refine TurnInput.rounds_pos h.exec fun hnil => hne ?_
    rw [effectCalls, hnil]
    rfl
  cases h with
  | settingUp call k h => exact .of_nil (hsetup h) fun _ _ hrest => by cases hrest
  | turning call k h =>
    refine ⟨(hturn h).1, (hturn h).2, fun call' k' hrest => ?_⟩
    cases hrest
    obtain ⟨⟨-, hpos⟩, hallows⟩ := TurnInput.run_call h.exec
    rw [effectCalls, TurnLog.of_filter_isEffect]
    exact ⟨hpos, hallows.admits⟩
  | setupRaised e remaining h => exact .of_nil (hsetup h) fun _ _ hrest => by cases hrest
  | turnRaised e remaining h =>
    exact .quiet (hturn h).1 (hturn h).2 fun _ _ hrest => by cases hrest
  | turnReturned result remaining h =>
    exact .quiet (hturn h).1 (hturn h).2 fun _ _ hrest => by cases hrest

/-- **The step lemma**: a step in which a flow runs leaves it on its script. -/
lemma StepCase.scripted {c : Conversation} {s t : System} {e : Event} (h : StepCase c s e t)
    {i : ℕ} {a : Ask} {tr : FlowTrace} {rest : FlowProg}
    (hscripted : ∀ a tr rest, s.flows[i]? = some (.started a tr rest) → a.Scripted c tr rest)
    (hi : t.flows[i]? = some (.started a tr rest)) : a.Scripted c tr rest := by
  by_cases he : e.runs? = some i
  · rcases h.running he with ⟨-, a', -, hrejected⟩ | ⟨a', tr', rest', hadv, hstarted⟩
    · rw [hi, Option.some_inj] at hrejected
      cases hrejected
      exact .of_nil rfl fun _ _ hrest => by cases hrest
    · rw [hi, Option.some_inj] at hstarted
      cases hstarted
      exact hadv.scripted
  · refine hscripted a tr rest ?_
    cases h with
    | quiet he' hfacade hstarted => exact (hstarted i a tr rest).1 hi
    | operated op facade he' hidle hop ht =>
      subst ht
      exact hi
    | rejected j a' he' hbusy hj ht | acquired j a' rest' facade he' hidle hj hadv ht =>
      subst ht he'
      rwa [List.getElem?_set_ne fun hij => he (congrArg some hij)] at hi
    | advanced j a' tr' call k reply rest' facade he' hj hbusy hadv ht =>
      have hflow : e.runs? = some j := by
        rcases he' with rfl | ⟨rfl, -⟩ <;> rfl
      subst ht
      rwa [List.getElem?_set_ne fun hij => he (hflow.trans (congrArg some hij))] at hi

/-- **The run lemma**: every flow of a system follows its script. -/
theorem Conversation.Run.started {c : Conversation} {s t : System}
    {moves : List (Move System Event)} (hs : s.Fresh) (h : c.Run s moves t) {i : ℕ} {a : Ask}
    {tr : FlowTrace} {rest : FlowProg} (hi : t.flows[i]? = some (.started a tr rest)) :
    a.Scripted c tr rest := by
  induction h generalizing a tr rest with
  | refl =>
    rw [hs.2] at hi
    cases hi
  | snoc hrun hstep ih =>
    exact ((Ownership.reachable hs hrun).cases hstep).scripted (fun _ _ _ => ih) hi

end PurrceptCore
