import PurrceptCore.Models.FlowSteps

set_option relaxedAutoImplicit false
set_option autoImplicit false

/-!
# Who owns the facade

At any time at most one flow of a system has been advanced and has not ended. It owns the facade:
its programs have been run over the facade as it stands.

## Main definitions

* `PurrceptCore.System.Live` — a flow that was advanced and has not ended.
* `PurrceptCore.Ownership` — the invariant.
* `PurrceptCore.StepCase` — what a step does to a system that satisfies it.

## Main results

* `PurrceptCore.Ownership.cases` — every step is one of these.
* `PurrceptCore.Ownership.reachable` — every state of a run satisfies the invariant.
-/

namespace PurrceptCore

open Interaction

/-- The flow was advanced and has not ended. -/
def Flow.Live : Flow → Prop
  | .started _ _ rest => ∀ o, rest ≠ .ret o
  | _ => False

/-- Flow `i` was advanced and has not ended. -/
def System.Live (s : System) (i : ℕ) : Prop := ∃ f, s.flows[i]? = some f ∧ f.Live

/-- The flow that runs in an event. -/
def Event.runs? : Event → Option ℕ
  | advanced i | resumed i _ _ | closed i => some i
  | asked _ | discarded _ | operated _ | refused _ _ => none

/-- **The invariant.** Nobody owns the facade, or exactly one live flow does, and what it has done
so far it has done over the facade as it stands. -/
inductive Ownership (c : Conversation) (s : System) : Prop
  | free (h : ∀ i, ¬ s.Live i)
  | owned (i : ℕ) (a : Ask) (tr : FlowTrace) (rest : FlowProg)
      (hi : s.flows[i]? = some (.started a tr rest)) (hbusy : s.facade.busy = true)
      (hadv : Advanced c s.facade a tr rest s.facade) (hlive : ∀ o, rest ≠ .ret o)
      (hothers : ∀ j, s.Live j → j = i)

/-- **What a step does** to the facade and the flows. -/
inductive StepCase (c : Conversation) (s : System) (e : Event) (t : System) : Prop
  /-- No flow runs. Flows may appear or be dropped, but none that was advanced. -/
  | quiet (he : e.runs? = none) (hfacade : t.facade = s.facade)
      (hstarted : ∀ (i : ℕ) (a : Ask) (tr : FlowTrace) (rest : FlowProg),
        t.flows[i]? = some (.started a tr rest) ↔ s.flows[i]? = some (.started a tr rest))
  /-- An operation of the application changes the idle facade. -/
  | operated (op : IdleOp) (facade : Facade) (he : e = .operated op)
      (hidle : s.facade.busy = false) (hop : op.apply s.facade = .ok facade)
      (ht : t = { s with facade })
  /-- A flow is rejected because the facade is busy. -/
  | rejected (i : ℕ) (a : Ask) (he : e = .advanced i) (hbusy : s.facade.busy = true)
      (hi : s.flows[i]? = some (.created a))
      (ht : t = { s with
        flows := s.flows.set i (.started a [] (.ret (.error .conversationBusy, .empty))) })
  /-- A flow acquires the facade. -/
  | acquired (i : ℕ) (a : Ask) (rest : FlowProg) (facade : Facade) (he : e = .advanced i)
      (hidle : s.facade.busy = false) (hi : s.flows[i]? = some (.created a))
      (hadv : Advanced c { s.facade with busy := true } a [] rest facade)
      (ht : t = ⟨facade, s.flows.set i (.started a [] rest)⟩)
  /-- The flow that owns the facade goes on. -/
  | advanced (i : ℕ) (a : Ask) (tr : FlowTrace) (call : OuterCall)
      (k : OuterReply call → FlowProg) (reply : OuterReply call) (rest : FlowProg) (facade : Facade)
      (he : e = .resumed i call reply ∨ e = .closed i ∧ ∃ call', call = .turn call')
      (hi : s.Awaits i a tr call k) (hbusy : s.facade.busy = true)
      (hadv : Advanced c s.facade a (tr ++ [⟨call, reply⟩]) rest facade)
      (ht : t = ⟨facade, s.flows.set i (.started a (tr ++ [⟨call, reply⟩]) rest)⟩)

/-- A flow that ended is not live. -/
lemma Flow.not_live_ret (a : Ask) (tr : FlowTrace)
    (o : Except Failure ModelTurnResult × ReminderState) : ¬ (Flow.started a tr (.ret o)).Live :=
  fun h => h o rfl

/-- A flow that waits for a call is live. -/
lemma System.Awaits.live {s : System} {i : ℕ} {a : Ask} {tr : FlowTrace} {call : OuterCall}
    {k : OuterReply call → FlowProg} (h : s.Awaits i a tr call k) : s.Live i :=
  ⟨_, h, Prog.call_ne_ret _ _⟩

/-- The live flows after flow `i` was set. -/
lemma System.live_set {s : System} {facade : Facade} {i j : ℕ} {f f' : Flow}
    (hi : s.flows[i]? = some f) :
    System.Live ⟨facade, s.flows.set i f'⟩ j ↔ if j = i then f'.Live else s.Live j := by
  unfold System.Live
  rw [List.getElem?_set]
  have hlt : i < s.flows.length := (List.getElem?_eq_some_iff.1 hi).1
  by_cases hj : i = j
  · subst hj
    simp [hlt]
  · simp [hj, Ne.symm hj]

/-- Once the only flow that may be live has moved, no other is live. -/
lemma System.live_set_only {s : System} {facade : Facade} {i j : ℕ} {f f' : Flow}
    (hi : s.flows[i]? = some f) (hothers : ∀ j, s.Live j → j = i)
    (hj : System.Live ⟨facade, s.flows.set i f'⟩ j) : j = i := by
  rw [System.live_set hi] at hj
  split at hj
  · assumption
  · exact hothers j hj

/-- Once the only flow that may be live has ended, none is live. -/
lemma System.not_live_set {s : System} {facade : Facade} {i : ℕ} {f : Flow} {a : Ask}
    {tr : FlowTrace} {o : Except Failure ModelTurnResult × ReminderState}
    (hi : s.flows[i]? = some f) (hothers : ∀ j, s.Live j → j = i) (j : ℕ) :
    ¬ System.Live ⟨facade, s.flows.set i (.started a tr (.ret o))⟩ j := by
  intro hj
  obtain rfl := System.live_set_only hi hothers hj
  rw [System.live_set hi, if_pos rfl] at hj
  exact Flow.not_live_ret a tr o hj

/-- When a flow that was not live ends, the others are live as they were. -/
lemma System.live_set_ended {s : System} {facade : Facade} {i : ℕ} {f : Flow} {a : Ask}
    {tr : FlowTrace} {o : Except Failure ModelTurnResult × ReminderState}
    (hi : s.flows[i]? = some f) (hf : ¬ f.Live) (j : ℕ) :
    System.Live ⟨facade, s.flows.set i (.started a tr (.ret o))⟩ j ↔ s.Live j := by
  rw [System.live_set hi]
  split
  · next hj =>
    subst hj
    refine iff_of_false (Flow.not_live_ret a tr o) ?_
    rintro ⟨f', hf', hlive⟩
    rw [hi, Option.some_inj] at hf'
    exact hf (hf' ▸ hlive)
  · rfl

/-- A flow that has ended waits for nothing. -/
lemma System.Awaits.of_set_ended {s : System} {facade : Facade} {i j : ℕ} {f : Flow} {a a' : Ask}
    {tr tr' : FlowTrace} {o : Except Failure ModelTurnResult × ReminderState} {call : OuterCall}
    {k : OuterReply call → FlowProg} (hi : s.flows[i]? = some f)
    (h : System.Awaits ⟨facade, s.flows.set i (.started a tr (.ret o))⟩ j a' tr' call k) :
    s.Awaits j a' tr' call k := by
  unfold System.Awaits at h ⊢
  by_cases hij : i = j
  · subst hij
    rw [List.getElem?_set_self (List.getElem?_eq_some_iff.1 hi).1] at h
    cases h
  · rwa [List.getElem?_set_ne hij] at h

/-- Flows that were advanced are live as they were. -/
lemma System.live_congr {s t : System}
    (hstarted : ∀ (i : ℕ) (a : Ask) (tr : FlowTrace) (rest : FlowProg),
      t.flows[i]? = some (.started a tr rest) ↔ s.flows[i]? = some (.started a tr rest)) (i : ℕ) :
    t.Live i ↔ s.Live i := by
  constructor <;> rintro ⟨f, hf, hlive⟩ <;> cases f with
  | created a => exact hlive.elim
  | discarded a => exact hlive.elim
  | started a tr rest => exact ⟨_, by simpa only [hstarted] using hf, hlive⟩

/-- The owner goes on from the call that it waits for. -/
lemma Advanced.resume {c : Conversation} {facade facade' : Facade} {a : Ask} {tr : FlowTrace}
    {rest : FlowProg} {call : OuterCall} {k : OuterReply call → FlowProg}
    (h : Advanced c facade a tr rest facade') (hrest : rest = .call call.toFlowCall k)
    (reply : OuterReply call) :
    Advanced c facade a (tr ++ [⟨call, reply⟩]) (settle facade (k reply)).1
      (settle facade (k reply)).2 := by
  cases h with
  | settingUp call' k' h =>
    have hcall : Prog.call (FlowCall.setup call') (fun r => inSetup c a (k' r)) =
      .call call.toFlowCall k := hrest
    cases call with
    | turn call => cases hcall
    | setup call =>
      cases hcall
      exact h.advance reply
  | turning call' k' h =>
    have hcall : Prog.call (FlowCall.turn call') (fun r => inTurn (k' r)) =
      .call call.toFlowCall k := hrest
    cases call with
    | setup call => cases hcall
    | turn call =>
      cases hcall
      exact h.advance reply
  | setupRaised e remaining h => cases hrest
  | turnRaised e remaining h => cases hrest
  | turnReturned result remaining h => cases hrest

namespace Ownership

variable {c : Conversation} {s t : System} {e : Event}

/-- A flow that waits for a call owns the facade. -/
lemma awaits (h : Ownership c s) {i : ℕ} {a : Ask} {tr : FlowTrace} {call : OuterCall}
    {k : OuterReply call → FlowProg} (hi : s.Awaits i a tr call k) :
    s.facade.busy = true ∧ Advanced c s.facade a tr (.call call.toFlowCall k) s.facade := by
  have hlive : s.Live i := hi.live
  cases h with
  | free h => exact absurd hlive (h i)
  | owned j a' tr' rest hj hbusy hadv _ hothers =>
    obtain rfl := hothers i hlive
    unfold System.Awaits at hi
    rw [hj, Option.some_inj] at hi
    cases hi
    exact ⟨hbusy, hadv⟩

/-- **Every step** is one of the cases. -/
theorem cases (h : Ownership c s) (hstep : c.Step s e t) : StepCase c s e t := by
  cases hstep with
  | ask input rounds poll a ha =>
    refine .quiet rfl rfl fun i a' tr rest => ⟨fun hi => ?_, fun hi => ?_⟩
    · rw [List.getElem?_append] at hi
      split at hi
      · exact hi
      · have hmem := List.mem_of_getElem? hi
        rw [List.mem_singleton] at hmem
        cases hmem
    · rw [List.getElem?_append_left (List.getElem?_eq_some_iff.1 hi).1, hi]
  | advance i a hi =>
    cases hbusy : s.facade.busy with
    | true =>
      refine .rejected i a rfl hbusy hi ?_
      rw [System.proceed, settle_askFlow_busy hbusy]
    | false => exact .acquired i a _ _ rfl hbusy hi (Advanced.start hbusy c a) rfl
  | discard i a hi =>
    refine .quiet rfl rfl fun j a' tr rest => ?_
    rw [List.getElem?_set]
    split
    · next hij => subst hij; rw [hi]; simp
    · rfl
  | resume i a tr call k reply hi =>
    obtain ⟨hbusy, hadv⟩ := h.awaits hi
    exact .advanced i a tr call k reply _ _ (.inl rfl) hi hbusy (hadv.resume rfl reply) rfl
  | close i a tr call k hyield hi =>
    obtain ⟨hbusy, hadv⟩ := h.awaits hi
    exact .advanced i a tr (.turn call) k call.exit _ _ (.inr ⟨rfl, call, rfl⟩) hi hbusy
      (hadv.resume rfl _) rfl
  | operate op facade hop =>
    unfold IdleOp.run at hop
    split at hop
    · cases hop
    · next hidle => exact .operated op facade rfl (Bool.eq_false_iff.2 hidle) hop rfl
  | refuse op error hop => exact .quiet rfl rfl fun _ _ _ _ => Iff.rfl

/-- Nobody owns an idle facade. -/
lemma not_live (h : Ownership c s) (hidle : s.facade.busy = false) (i : ℕ) : ¬ s.Live i := by
  cases h with
  | free h => exact h i
  | owned _ _ _ _ _ hbusy => rw [hidle] at hbusy; cases hbusy

/-- Only the owner is live. -/
lemma live_unique (h : Ownership c s) {i j : ℕ} (hi : s.Live i) (hj : s.Live j) : i = j := by
  cases h with
  | free h => exact absurd hi (h i)
  | owned _ _ _ _ _ _ _ _ hothers => rw [hothers i hi, hothers j hj]

/-- After an advancement the flow owns the facade, or nobody does. -/
lemma of_advanced {facade facade' : Facade} {i : ℕ} {f : Flow} {a : Ask} {tr : FlowTrace}
    {rest : FlowProg} (hi : s.flows[i]? = some f) (hbusy : facade.busy = true)
    (hothers : ∀ j, s.Live j → j = i) (hadv : Advanced c facade a tr rest facade') :
    Ownership c ⟨facade', s.flows.set i (.started a tr rest)⟩ := by
  have hset : (s.flows.set i (.started a tr rest))[i]? = some (.started a tr rest) :=
    List.getElem?_set_self (List.getElem?_eq_some_iff.1 hi).1
  have hown (hlive : ∀ o, rest ≠ .ret o) (hsame : facade' = facade) :
      Ownership c ⟨facade', s.flows.set i (.started a tr rest)⟩ := by
    subst hsame
    exact .owned i a tr rest hset hbusy hadv hlive fun j => System.live_set_only hi hothers
  cases hadv with
  | settingUp call k h => exact hown (Prog.call_ne_ret _ _) rfl
  | turning call k h => exact hown (Prog.call_ne_ret _ _) rfl
  | setupRaised e remaining h => exact .free (System.not_live_set hi hothers)
  | turnRaised e remaining h => exact .free (System.not_live_set hi hothers)
  | turnReturned result remaining h => exact .free (System.not_live_set hi hothers)

/-- **The step lemma**: every step keeps the invariant. -/
theorem step (h : Ownership c s) (hcase : StepCase c s e t) : Ownership c t := by
  cases hcase with
  | quiet he hfacade hstarted =>
    have hlive (i : ℕ) (hi : t.Live i) : s.Live i := (System.live_congr hstarted i).1 hi
    cases h with
    | free h => exact .free fun i hi => h i (hlive i hi)
    | owned i a tr rest hi hbusy hadv hl hothers =>
      exact .owned i a tr rest ((hstarted i a tr rest).2 hi) (hfacade ▸ hbusy) (hfacade ▸ hadv) hl
        fun j hj => hothers j (hlive j hj)
  | operated op facade he hidle hop ht =>
    subst ht
    exact .free (h.not_live hidle)
  | rejected i a he hbusy hi ht =>
    subst ht
    have hlive (j : ℕ) : System.Live ⟨s.facade, s.flows.set i
        (.started a [] (.ret (.error .conversationBusy, .empty)))⟩ j ↔ s.Live j :=
      System.live_set_ended hi id j
    cases h with
    | free h => exact .free fun j hj => h j ((hlive j).1 hj)
    | owned j a' tr rest hj hb hadv hl hothers =>
      have hne : i ≠ j := by
        rintro rfl
        rw [hi] at hj
        cases hj
      exact .owned j a' tr rest (by rwa [List.getElem?_set_ne hne]) hb hadv hl
        fun k hk => hothers k ((hlive k).1 hk)
  | acquired i a rest facade he hidle hi hadv ht =>
    subst ht
    exact of_advanced hi rfl (fun j hj => absurd hj (h.not_live hidle j)) hadv
  | advanced i a tr call k reply rest facade he hi hbusy hadv ht =>
    subst ht
    exact of_advanced hi hbusy (fun j hj => h.live_unique hj hi.live) hadv

/-- A fresh conversation is owned by nobody. -/
lemma of_fresh (h : s.Fresh) : Ownership c s := by
  refine .free fun i hi => ?_
  obtain ⟨f, hf, -⟩ := hi
  rw [h.2] at hf
  cases hf

/-- **The run lemma**: every state of a run satisfies the invariant. -/
theorem reachable {moves : List (Move System Event)} (hs : s.Fresh) (hrun : c.Run s moves t) :
    Ownership c t :=
  hrun.invariant (of_fresh hs) fun _ _ hstep h => h.step (h.cases hstep)

end Ownership

/-- Every move of a run is one of the cases, from a state with the invariant. -/
theorem Conversation.Run.cases {c : Conversation} {s t : System}
    {moves : List (Move System Event)} (hs : s.Fresh) (hrun : c.Run s moves t)
    {m : Move System Event} (hm : m ∈ moves) :
    Ownership c m.before ∧ StepCase c m.before m.label m.after := by
  obtain ⟨hstep, before, -, -, hbefore⟩ := hrun.mem_move hm
  have hown := Ownership.reachable hs hbefore
  exact ⟨hown, hown.cases hstep⟩

end PurrceptCore
