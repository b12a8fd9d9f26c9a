import PurrceptCore.Composition.AtomicTurns

set_option relaxedAutoImplicit false
set_option autoImplicit false

/-!
# The effects of a driven turn

What goes through the executor while a driver runs a turn is the turn itself: an effect is handed
to the executor when it is due in the log of what the executor has answered so far, and the result
of the turn can be read off these answers.

## Main definitions

* `PurrceptCore.exchanges` — the effects of a run with what was delivered for them.
* `PurrceptCore.Exchanged` — how far the flow and the driver have come with them.
* `PurrceptCore.TurnScript`, `PurrceptCore.Concluded` — what holds of a driven turn, and of one
  that has returned.

## Main results

* `PurrceptCore.Permitted.delivered` — effects are executed in order, and so are their outcomes
  delivered.
* `PurrceptCore.driven_turn_effects` — the executor sees the turn, and nothing else.
-/

namespace PurrceptCore

open Interaction

variable {V E : Type}

/-! ### What the driver hands on -/

/-- Every call of a driver trace was permitted. -/
inductive Permitted : DriverTrace V E → Prop
  | nil : Permitted []
  | snoc {tr : DriverTrace V E} {x : Σ c, Reply V E c} (h : Permitted tr)
      (hx : (ledger tr).Permits x.1) : Permitted (tr ++ [x])

lemma Permitted.snoc_inv {tr : DriverTrace V E} {x : Σ c, Reply V E c}
    (h : Permitted (tr ++ [x])) : Permitted tr ∧ (ledger tr).Permits x.1 := by
  generalize htr : tr ++ [x] = tr' at h
  cases h with
  | nil => simp at htr
  | snoc h hx =>
    obtain ⟨rfl, hlast⟩ := List.append_inj' htr rfl
    cases hlast
    exact ⟨h, hx⟩

/-- The calls of a driver are permitted. -/
lemma DriverRuns.permitted {host : V} {metadata : List (String × V)} {given : Option String}
    {tr : DriverTrace V E} {q : Prog (Call V E) (Reply V E) (Except Exc V × DriverState E)}
    (h : DriverRuns host metadata given tr q) : Permitted tr := by
  obtain ⟨fuel, h⟩ := h
  induction tr using List.reverseRecOn generalizing q with
  | nil => exact .nil
  | append_singleton tr x ih =>
    obtain ⟨k, hk⟩ := h.before
    exact (ih hk).snoc (AgentDriver.permits ⟨fuel, hk⟩)

/-- The effects of a run were executed, and the outcomes were delivered, in order; an outcome is
delivered after its effect was executed. -/
structure InOrder (tr : DriverTrace V E) : Prop where
  executed_prefix : executed tr <+: yields tr
  deliveries_prefix : deliveries tr <+: outcomes tr
  length_le : (deliveries tr).length ≤ (executed tr).length

/-- A delivery keeps the order. -/
lemma inOrder_of_delivers {tr : DriverTrace V E} {x : Σ c, Reply V E c} {o : Except Exc V}
    (h : (ledger tr).Delivers o) (hx : deliveryOf x = some o) (hexecution : executionOf x = none)
    (hactivity : activityOf x = none) : InOrder (tr ++ [x]) := by
  obtain ⟨hexecuted, hended, hnext, -, -⟩ := h
  simp only [ledger] at hexecuted hended hnext
  have hexecuted' : executed (tr ++ [x]) = executed tr :=
    observe_snoc_none executed (Observation.filterMap_none hexecution)
  have houtcomes' : outcomes (tr ++ [x]) = outcomes tr :=
    observe_snoc_none outcomes (Observation.filterMap_none hactivity)
  have hdeliveries' : deliveries (tr ++ [x]) = deliveries tr ++ [o] := by
    rw [observe_append, observe_cons, deliveries_of, hx]
    rfl
  refine ⟨?_, ?_, ?_⟩
  · rw [hexecuted', hexecuted, observe_append]
    exact List.prefix_append _ _
  · exact (hdeliveries'.trans (houtcomes'.trans hnext).symm) ▸ List.prefix_rfl
  · rw [hdeliveries', hexecuted', ← hnext, hended]

/-- A call that delivers nothing keeps the order, unless it executes what was not yielded. -/
lemma InOrder.snoc {tr : DriverTrace V E} {x : Σ c, Reply V E c} (h : InOrder tr)
    (hx : deliveryOf x = none) (hexecution : executionOf x = none) : InOrder (tr ++ [x]) := by
  have hexecuted' : executed (tr ++ [x]) = executed tr :=
    observe_snoc_none executed (Observation.filterMap_none hexecution)
  have hdeliveries' : deliveries (tr ++ [x]) = deliveries tr := observe_snoc_none deliveries hx
  refine ⟨?_, ?_, ?_⟩
  · rw [hexecuted', observe_append]
    exact h.executed_prefix.trans (List.prefix_append _ _)
  · rw [hdeliveries', observe_append]
    exact h.deliveries_prefix.trans (List.prefix_append _ _)
  · rw [hdeliveries', hexecuted']
    exact h.length_le

/-- **Delivery in order.** -/
theorem Permitted.delivered {tr : DriverTrace V E} (h : Permitted tr) : InOrder tr := by
  induction h with
  | nil => exact ⟨List.prefix_rfl, List.prefix_rfl, Nat.le_refl 0⟩
  | @snoc tr x h hx ih =>
    obtain ⟨call, r⟩ := x
    cases call with
    | execute effect context =>
      obtain ⟨hyields, -⟩ := hx
      simp only [ledger] at hyields
      refine ⟨?_, ?_, ?_⟩
      · simp [hyields]
      · simpa using ih.deliveries_prefix.trans (List.prefix_append _ _)
      · simpa using ih.length_le.trans (Nat.le_succ _)
    | send v => exact inOrder_of_delivers hx rfl rfl rfl
    | throw e => exact inOrder_of_delivers hx.1 rfl rfl rfl
    | _ => exact ih.snoc rfl rfl

/-! ### What the flow gets -/

/-- Effects, with the outcomes that are delivered for them. -/
def exchange (v : Encoding V) (effects : List FlowEffect) (given : List (Except Exc V)) :
    TurnTrace :=
  effects.zipWith (fun effect outcome => ⟨effect.1, v.reply outcome effect.1⟩) given

/-- The effects of a run, with what was delivered for them. -/
def exchanges (v : Encoding V) (tr : DriverTrace V FlowEffect) : TurnTrace :=
  exchange v (yields tr) (deliveries tr)

section Exchange

variable (v : Encoding V) {effects : List FlowEffect} {given : List (Except Exc V)}

/-- What is still to be delivered is left out. -/
lemma exchange_pending (h : effects.length = given.length) (more : List FlowEffect) :
    exchange v (effects ++ more) given = exchange v effects given := by
  rw [exchange, ← List.append_nil given, List.zipWith_append h, List.zipWith_nil_right,
    List.append_nil, List.append_nil]
  rfl

/-- An outcome is delivered for the effect that is pending. -/
lemma exchange_snoc (h : effects.length = given.length) (effect : FlowEffect)
    (outcome : Except Exc V) (more : List FlowEffect) :
    exchange v (effects ++ [effect] ++ more) (given ++ [outcome]) =
      exchange v effects given ++ [⟨effect.1, v.reply outcome effect.1⟩] := by
  have hlength : (effects ++ [effect]).length = (given ++ [outcome]).length := by simp [h]
  rw [exchange_pending v hlength, exchange, List.zipWith_append h]
  rfl

end Exchange

variable {c : Conversation} {v : Encoding V} {i : ℕ} {s t u : System} {e : Event} {a : Ask}
  {ftr : FlowTrace} {rest : FlowProg} {moves : List (Move System Event)}

/-- A flow that was advanced stays advanced, and makes no effect calls, while only its callbacks
come back. -/
lemma Conversation.Run.within (h : c.Run s moves t) (hwithin : ∀ m ∈ moves, m.label.Within i)
    (hi : s.flows[i]? = some (.started a ftr rest)) :
    ∃ ftr' rest', t.flows[i]? = some (.started a ftr' rest') ∧
      effectCalls ftr' = effectCalls ftr := by
  induction h with
  | refl => exact ⟨ftr, rest, hi, rfl⟩
  | @snoc moves t u e hrun hstep ih =>
    obtain ⟨ftr', rest', hi', hcalls⟩ := ih fun m hm => hwithin m (List.mem_append_left _ hm)
    rcases hwithin ⟨t, e, u⟩ (by simp) with he | ⟨call, reply, he, hcallback⟩
    · rcases hstep.flow_of_ne he with hsame | ⟨a', hnone, -⟩
      · exact ⟨ftr', rest', hsame.trans hi', hcalls⟩
      · rw [hi'] at hnone
        cases hnone
    · obtain rfl : e = .resumed i call reply := he
      cases hstep with
      | resume _ a' tr' call' k reply' hj =>
        have hsame := hj
        rw [System.Awaits, hi', Option.some_inj] at hsame
        cases hsame
        refine ⟨_, _, List.getElem?_set_self (List.getElem?_eq_some_iff.1 hj).1, ?_⟩
        have hnone : effectCalls [⟨call, reply⟩] = [] := by
          cases call with
          | setup call => rfl
          | turn call =>
            have heffect : call.isEffect = false := by simpa [OuterCall.isCallback] using hcallback
            simp [effectCalls, turnCalls, heffect]
        rw [effectCalls_append, hnone, List.append_nil, hcalls]

/-- **The first advancement** of a flow: it has made no effect calls. -/
lemma System.Resumes.next_calls {step : GenStep V FlowEffect}
    (h : System.Resumes c v i s .next step moves t) :
    ∃ a ftr rest, t.flows[i]? = some (.started a ftr rest) ∧ effectCalls ftr = [] := by
  cases h with
  | next hrun hm hwithin hstep =>
    obtain ⟨-, hfirst, hrest⟩ := hrun.first
    rw [hm] at hfirst
    generalize Move.after _ = u at hfirst hrest
    cases hfirst with
    | advance _ a hi =>
      obtain ⟨ftr, rest, hi', hcalls⟩ := hrest.within hwithin
        (List.getElem?_set_self (List.getElem?_eq_some_iff.1 hi).1)
      exact ⟨a, ftr, rest, hi', hcalls⟩

/-- A flow that is resumed at an effect has made one more effect call. -/
lemma Conversation.Step.resumed_calls {call : FlowEffect} {effect : TurnCall}
    {reply : OuterReply (.turn call.1)} {k : OuterReply (.turn effect) → FlowProg}
    (h : c.Step s (.resumed i (.turn call.1) reply) t) (hi : s.Awaits i a ftr (.turn effect) k) :
    call.1 = effect ∧ ∃ rest, t.flows[i]? =
      some (.started a (ftr ++ [⟨.turn call.1, reply⟩]) rest) := by
  cases h with
  | resume _ a' tr' call' k' reply' hj =>
    have hsame := hj
    rw [System.Awaits, hi, Option.some_inj] at hsame
    cases hsame
    exact ⟨rfl, _, List.getElem?_set_self (List.getElem?_eq_some_iff.1 hj).1⟩

/-- **A later advancement** of a flow: it has made one more effect call. -/
lemma System.Resumes.resumed_calls {outcome : Except Exc V} {call : FlowEffect} {effect : TurnCall}
    {m : Move System Event} {k : OuterReply (.turn effect) → FlowProg}
    (hrun : c.Run s (m :: moves) t)
    (hm : m.label = .resumed i (.turn call.1) (v.reply outcome call.1))
    (hwithin : ∀ m ∈ moves, m.label.Within i) (hi : s.Awaits i a ftr (.turn effect) k) :
    ∃ ftr' rest, t.flows[i]? = some (.started a ftr' rest) ∧
      effectCalls ftr' = effectCalls ftr ++ [⟨effect, v.reply outcome effect⟩] := by
  obtain ⟨-, hfirst, hrest⟩ := hrun.first
  rw [hm] at hfirst
  obtain ⟨rfl, rest, hi'⟩ := hfirst.resumed_calls hi
  obtain ⟨ftr', rest', hi'', hcalls⟩ := hrest.within hwithin hi'
  refine ⟨ftr', rest', hi'', ?_⟩
  rw [hcalls, effectCalls_append]
  congr 1
  simp [effectCalls, turnCalls, call.2]

/-! ### How far the exchange has come -/

/-- An effect is pending: it was yielded, and nothing was delivered for it. -/
def Pending (tr : DriverTrace V FlowEffect) (effect : FlowEffect) : Prop :=
  ∃ before, yields tr = before ++ [effect] ∧ before.length = (deliveries tr).length

/-- **How far the flow and the driver have come**, by the state of the adapter. -/
inductive Exchanged (v : Encoding V) (i : ℕ) (t : System) (tr : DriverTrace V FlowEffect) :
    GeneratorRunState → Prop
  | created (hyields : yields tr = []) (hdeliveries : deliveries tr = []) :
      Exchanged v i t tr .created
  | running (effect : FlowEffect) (a : Ask) (ftr : FlowTrace)
      (k : OuterReply (.turn effect.1) → FlowProg) (hi : t.Awaits i a ftr (.turn effect.1) k)
      (hcalls : effectCalls ftr = exchanges v tr) (hpending : Pending tr effect) :
      Exchanged v i t tr .running
  /-- The flow has ended by itself: nothing is pending. -/
  | ended (state : GeneratorRunState) (hstate : state = .returned ∨ state = .closed) (a : Ask)
      (ftr : FlowTrace) (o : Except Failure ModelTurnResult × ReminderState)
      (hi : t.flows[i]? = some (.started a ftr (.ret o)))
      (hcalls : effectCalls ftr = exchanges v tr)
      (hlength : (yields tr).length = (deliveries tr).length) : Exchanged v i t tr state
  /-- The flow was closed at an effect. -/
  | interrupted (effect : FlowEffect) (a : Ask) (ftr : FlowTrace)
      (o : Except Failure ModelTurnResult × ReminderState)
      (hi : t.flows[i]? = some (.started a ftr (.ret o)))
      (hcalls : effectCalls ftr = exchanges v tr ++ [⟨effect.1, effect.1.exit⟩])
      (hpending : Pending tr effect) : Exchanged v i t tr .closed
  /-- The flow was dropped before it began. -/
  | dropped (a : Ask) (hi : t.flows[i]? = some (.discarded a)) (hyields : yields tr = [])
      (hdeliveries : deliveries tr = []) : Exchanged v i t tr .closed

section Exchanges

variable {tr : DriverTrace V FlowEffect} {state : GeneratorRunState}
  {x : Σ c, Reply V FlowEffect c}

/-- What is neither an advancement nor a delivery does not count. -/
lemma Exchanged.other (h : Exchanged v i t tr state) (hyields : yields (tr ++ [x]) = yields tr)
    (hdeliveries : deliveries (tr ++ [x]) = deliveries tr) : Exchanged v i t (tr ++ [x]) state := by
  have hexchanges : exchanges v (tr ++ [x]) = exchanges v tr := by
    rw [exchanges, hyields, hdeliveries]
    rfl
  have hpending' {effect : FlowEffect} (h : Pending tr effect) : Pending (tr ++ [x]) effect := by
    rwa [Pending, hyields, hdeliveries]
  cases h with
  | created hy hd => exact .created (hyields.trans hy) (hdeliveries.trans hd)
  | running effect a ftr k hi hcalls hpending =>
    exact .running effect a ftr k hi (hcalls.trans hexchanges.symm) (hpending' hpending)
  | ended state hstate a ftr o hi hcalls hlength =>
    exact .ended state hstate a ftr o hi (hcalls.trans hexchanges.symm) (by
      rwa [hyields, hdeliveries])
  | interrupted effect a ftr o hi hcalls hpending =>
    exact .interrupted effect a ftr o hi (by rwa [hexchanges]) (hpending' hpending)
  | dropped a hi hy hd => exact .dropped a hi (hyields.trans hy) (hdeliveries.trans hd)

/-- What happens to the system elsewhere does not count. -/
lemma Exchanged.elsewhere (h : Exchanged v i t tr state) (hstep : c.Step t e u)
    (he : e.about? ≠ some i) : Exchanged v i u tr state := by
  have hsame {f : Flow} (hi : t.flows[i]? = some f) : u.flows[i]? = some f := by
    rcases hstep.flow_of_ne he with hsame | ⟨a, hnone, -⟩
    · rwa [hsame]
    · rw [hi] at hnone
      cases hnone
  cases h with
  | created hy hd => exact .created hy hd
  | running effect a ftr k hi hcalls hpending =>
    exact .running effect a ftr k (hsame hi) hcalls hpending
  | ended state hstate a ftr o hi hcalls hlength =>
    exact .ended state hstate a ftr o (hsame hi) hcalls hlength
  | interrupted effect a ftr o hi hcalls hpending =>
    exact .interrupted effect a ftr o (hsame hi) hcalls hpending
  | dropped a hi hy hd => exact .dropped a (hsame hi) hy hd

/-- **An advancement.** All outcomes so far have been delivered to the flow, and it has handed
control back. -/
lemma Exchanged.advanced {step : GenStep V FlowEffect} {given : List (Except Exc V)}
    (hx : advancementOf x = some step.outcome) (hgiven : deliveries (tr ++ [x]) = given)
    (hlength : (yields tr).length = given.length) (hi : t.flows[i]? = some (.started a ftr rest))
    (hcalls : effectCalls ftr = exchange v (yields tr) given) (hstep : t.Hands v i step) :
    Exchanged v i t (tr ++ [x]) step.recorded := by
  have hyields : yields (tr ++ [x]) = yields tr ++ (yieldedEffect step.outcome).toList := by
    have hof : yields.of x = yieldedEffect step.outcome := by
      rw [Observation.filterMap_of, advancements_of, hx]
      rfl
    rw [observe_append, observe_cons, hof]
    exact congrArg _ (List.append_nil _)
  have hcalls' : effectCalls ftr = exchanges v (tr ++ [x]) := by
    rw [exchanges, hyields, hgiven, exchange_pending v hlength, hcalls]
  obtain ⟨f, hf, hstep⟩ := hstep
  rw [hi, Option.some_inj] at hf
  subst hf
  have hended {o : Except Failure ModelTurnResult × ReminderState} (state : GeneratorRunState)
      (hstate : state = .returned ∨ state = .closed) (hrest : rest = .ret o)
      (hnone : yieldedEffect step.outcome = none) :
      Exchanged v i t (tr ++ [x]) state := by
    subst hrest
    refine .ended state hstate a ftr o hi hcalls' ?_
    rw [hyields, hnone, hgiven]
    exact (congrArg List.length (List.append_nil _)).trans hlength
  unfold Flow.step? at hstep
  split at hstep
  · next a' ftr' call k heq =>
    cases heq
    split at hstep
    · next heffect =>
      cases hstep
      refine .running ⟨call, heffect⟩ a ftr k hi hcalls' ⟨yields tr, hyields, ?_⟩
      rw [hgiven, hlength]
    · cases hstep
  · next heq =>
    cases heq
    cases hstep
    exact hended .returned (.inl rfl) rfl rfl
  · next heq =>
    cases heq
    cases hstep
    exact hended .closed (.inr rfl) rfl rfl
  · cases hstep

/-- **A delivery.** The flow is resumed with an outcome, and hands control back. -/
lemma Exchanged.delivered {step : GenStep V FlowEffect} {outcome : Except Exc V}
    (h : Exchanged v i t tr .running) (hx : advancementOf x = some step.outcome)
    (hdelivery : deliveryOf x = some outcome) (hstep : u.Hands v i step)
    (hresumed : ∀ (a : Ask) (ftr : FlowTrace) (effect : TurnCall)
      (k : OuterReply (.turn effect) → FlowProg), t.Awaits i a ftr (.turn effect) k →
        ∃ ftr' rest, u.flows[i]? = some (.started a ftr' rest) ∧
          effectCalls ftr' = effectCalls ftr ++ [⟨effect, v.reply outcome effect⟩]) :
    Exchanged v i u (tr ++ [x]) step.recorded := by
  cases h with
  | ended _ hstate => rcases hstate with h | h <;> cases h
  | running effect a ftr k hi hcalls hpending =>
    obtain ⟨ftr', rest, hi', hcalls'⟩ := hresumed a ftr effect.1 k hi
    obtain ⟨before, hyields, hlength⟩ := hpending
    have hgiven : deliveries (tr ++ [x]) = deliveries tr ++ [outcome] := by
      rw [observe_append, observe_cons, deliveries_of, hdelivery]
      rfl
    refine Exchanged.advanced hx hgiven ?_ hi' ?_ hstep
    · rw [hyields, List.length_append, List.length_append, hlength]
      rfl
    · have hsnoc := exchange_snoc v hlength effect outcome []
      rw [List.append_nil, ← hyields] at hsnoc
      rw [hcalls', hcalls, hsnoc, exchanges, hyields, exchange_pending v hlength]

/-- The agent run of a driven turn is a `GeneratorRun`. -/
lemma Hosted.adapts (h : Hosted c v i s tr state moves t) : GeneratorRun.Adapts tr state := by
  induction h with
  | begin => exact .fresh
  | elsewhere _ _ _ ih => exact ih
  | other _ hc ih => exact ih.other hc
  | start _ hx _ ih => exact ih.start hx
  | send _ hx _ ih => exact ih.send hx
  | throw _ hx _ ih => exact ih.throw hx
  | close _ hx _ ih => exact ih.close hx

/-- The generator is closed. -/
lemma Exchanged.closed {reply : Except Exc Unit} (h : Exchanged v i t tr state)
    (hown : Ownership c t) (hposition : Position v i t tr state)
    (hstate : state = .created ∨ state = .running) (hyields : yields (tr ++ [x]) = yields tr)
    (hdeliveries : deliveries (tr ++ [x]) = deliveries tr)
    (hclose : System.Resumes c v i t .close reply moves u) :
    Exchanged v i u (tr ++ [x]) .closed := by
  have hexchanges : exchanges v (tr ++ [x]) = exchanges v tr := by
    rw [exchanges, hyields, hdeliveries]
    rfl
  have hopen : ¬ (state = .returned ∨ state = .closed) := by
    rcases hstate with rfl | rfl <;> rintro (h | h) <;> cases h
  obtain ⟨f, hf, hfailed⟩ := hclose.closed hown
  cases hclose with
  | close hrun hm hwithin hstep =>
    obtain ⟨-, hfirst, hrest⟩ := hrun.first
    rw [hm] at hfirst
    generalize Move.after _ = w at hfirst hrest
    cases hfirst with
    | close _ a ftr call k hyield hi =>
      cases h with
      | created =>
        cases hposition with
        | created hcreated =>
          obtain ⟨a', ha'⟩ := hcreated _ hi
          cases ha'
      | ended _ hended => exact absurd hended hopen
      | interrupted | dropped => exact absurd (.inr rfl) hopen
      | running effect a' ftr' k' hi' hcalls hpending =>
        have hsame := hi
        rw [System.Awaits, hi', Option.some_inj] at hsame
        cases hsame
        obtain ⟨ftr'', rest, hi'', hcalls'⟩ := hrest.within hwithin
          (List.getElem?_set_self (List.getElem?_eq_some_iff.1 hi).1)
        rw [hi'', Option.some_inj] at hf
        subst hf
        have hcalls'' : effectCalls ftr'' = exchanges v (tr ++ [x]) ++
            [⟨effect.1, effect.1.exit⟩] := by
          rw [hcalls', effectCalls_append, hcalls, hexchanges]
          congr 1
          simp [effectCalls, turnCalls, effect.2]
        have hpending' : Pending (tr ++ [x]) effect := by rwa [Pending, hyields, hdeliveries]
        cases rest with
        | ret o => exact .interrupted effect a ftr'' o hi'' hcalls'' hpending'
        | call | cut => exact hfailed.elim
  | discard hrun hm =>
    obtain ⟨-, hfirst, hrest⟩ := hrun.first
    rw [hm] at hfirst
    generalize Move.after _ = w at hfirst hrest
    cases hfirst with
    | discard _ a hi =>
      cases h with
      | created hy hd =>
        have hdropped := hrest.failed (f := .discarded a)
          (List.getElem?_set_self (List.getElem?_eq_some_iff.1 hi).1) trivial
        exact .dropped a hdropped (hyields.trans hy) (hdeliveries.trans hd)
      | ended _ hended => exact absurd hended hopen
      | interrupted | dropped => exact absurd (.inr rfl) hopen
      | running effect a' ftr' k' hi' hcalls hpending =>
        rw [System.Awaits, hi, Option.some_inj] at hi'
        cases hi'

/-- **The flow has got what the driver has delivered.**

**Proof sketch.** Induction on the trace. The driver makes only permitted calls, so the adapter
rejects none of them, and each delivery is for the effect at which the flow waits. -/
theorem Hosted.exchanged (hs : s.Fresh) (h : Hosted c v i s tr state moves t)
    (hp : Permitted tr) : Exchanged v i t tr state := by
  induction h with
  | begin => exact .created rfl rfl
  | elsewhere _ hstep he ih => exact (ih hp).elsewhere hstep he
  | @other tr state moves t call r h hc ih =>
    have hadv : advancementOf (⟨call, r⟩ : Σ c, Reply V FlowEffect c) = none := by
      cases call <;> first | rfl | cases hc
    have hdelivery : deliveryOf (⟨call, r⟩ : Σ c, Reply V FlowEffect c) = none := by
      cases call <;> first | rfl | cases hc
    exact (ih hp.snoc_inv.1).other (observe_snoc_none yields (Observation.filterMap_none hadv))
      (observe_snoc_none deliveries hdelivery)
  | start h hx hg ih =>
    obtain ⟨hp', hstart⟩ := hp.snoc_inv
    obtain rfl := (h.adapts.tracks hstart.2.2).created hstart.1
    rcases Routine.Spec.sound hx (GeneratorRun.advancement_spec .next id) with
      ⟨-, step, rfl, rfl, rfl⟩ | ⟨hne, -⟩
    · obtain ⟨a, ftr, rest, hi, hcalls⟩ := hg.single.next_calls
      cases ih hp' with
      | created hyields hdeliveries =>
        refine Exchanged.advanced rfl (observe_snoc_none deliveries rfl) ?_ hi ?_ ?_
        · rw [hyields, hdeliveries]
          rfl
        · rw [hcalls, hyields]
          rfl
        · cases hg.single
          assumption
      | ended _ hstate => rcases hstate with h | h <;> cases h
    · exact absurd rfl hne
  | @send tr state state' moves moves' t u value r gtr h hx hg ih =>
    obtain ⟨hp', hsend⟩ := hp.snoc_inv
    obtain ⟨before, effect, hadv⟩ := hsend.running
    obtain rfl := (h.adapts.tracks hsend.notClosed).running before effect hadv
    rcases Routine.Spec.sound hx (GeneratorRun.advancement_spec (.send value) id) with
      ⟨-, step, rfl, rfl, rfl⟩ | ⟨hne, -⟩
    · cases hg.single with
      | send _ call hrun hm hwithin hstep =>
        have hdelivery : deliveryOf (⟨.send value, step.outcome⟩ : Σ c, Reply V FlowEffect c) =
            some (.ok value) := rfl
        exact (ih hp').delivered rfl hdelivery hstep fun a ftr effect k hi =>
          System.Resumes.resumed_calls hrun hm hwithin hi
    · exact absurd rfl hne
  | @throw tr state state' moves moves' t u error r gtr h hx hg ih =>
    obtain ⟨hp', hthrow, -⟩ := hp.snoc_inv
    obtain ⟨before, effect, hadv⟩ := hthrow.running
    obtain rfl := (h.adapts.tracks hthrow.notClosed).running before effect hadv
    rcases Routine.Spec.sound hx (GeneratorRun.advancement_spec (.throw error) id) with
      ⟨-, step, rfl, rfl, rfl⟩ | ⟨hne, -⟩
    · cases hg.single with
      | throw _ call hrun hm hwithin hstep =>
        have hdelivery : deliveryOf (⟨.throw error, step.outcome⟩ : Σ c, Reply V FlowEffect c) =
            some (.error error) := rfl
        exact (ih hp').delivered rfl hdelivery hstep fun a ftr effect k hi =>
          System.Resumes.resumed_calls hrun hm hwithin hi
    · exact absurd rfl hne
  | @close tr state state' moves moves' t u r gtr h hx hg ih =>
    have hyields : yields (tr ++ [⟨.close, r⟩]) = yields tr := observe_snoc_none yields rfl
    have hdeliveries : deliveries (tr ++ [⟨.close, r⟩]) = deliveries tr :=
      observe_snoc_none deliveries rfl
    obtain ⟨hp', -⟩ := hp.snoc_inv
    rcases Routine.Spec.sound hx GeneratorRun.close_spec with
      ⟨hended, rfl, rfl, -⟩ | ⟨hopen, rfl, rfl⟩
    · obtain ⟨-, rfl⟩ := hg.none
      exact (ih hp').other hyields hdeliveries
    · exact (ih hp').closed (Ownership.reachable hs h.run) (h.position hs)
        (GeneratorRunState.created_or_running hopen) hyields hdeliveries hg.single

/-! ### The script of a driven turn -/

/-- What a flow was asked. -/
def Flow.ask : Flow → Ask
  | created a | started a _ _ | discarded a => a

/-- An effect that asks the model. -/
def FlowEffect.isRequest (effect : FlowEffect) : Bool := isGenerate ⟨effect.1, effect.1.exit⟩

/-- The log of a driven turn: of what was delivered for its effects. -/
def Ask.log (v : Encoding V) (a : Ask) (tr : DriverTrace V FlowEffect) : TurnLog :=
  TurnLog.of a.inputPoll a.maxModelRounds (exchanges v tr)

/-- **The script of a driven turn.** The executor is handed the effects in order, each when it is
due in the log of the outcomes before, and these are delivered in order. No more requests are made
than rounds were granted. -/
structure TurnScript (c : Conversation) (v : Encoding V) (a : Ask)
    (tr : DriverTrace V FlowEffect) : Prop where
  inOrder : InOrder tr
  follows : TurnLog.Follows c a.inputPoll a.maxModelRounds (exchanges v tr)
  pending : (yields tr).length = (deliveries tr).length ∨
    ∃ effect, Pending tr effect ∧ (a.log v tr).Admits c effect.1
  requests_le : (yields tr).countP FlowEffect.isRequest ≤ a.maxModelRounds

/-- **What a driven turn has come to**, read off the outcomes of its effects. It was computed from
the given history. -/
structure Concluded (c : Conversation) (v : Encoding V) (a : Ask) (tr : DriverTrace V FlowEffect)
    (history : ConversationState) (result : ModelTurnResult) : Prop where
  executed_eq : executed tr = yields tr
  effects_eq : (yields tr).filterMap (fun effect => effect.1.effect?) =
    (a.log v tr).effects c a.inputPoll
  stopped : ∃ before, (a.log v tr).phase = .stopped before result.response
  messages_eq : result.state.messages =
    history.messages ++ a.userMessage :: (a.log v tr).transcript
  modelRounds_eq : result.modelRounds = (a.log v tr).rounds.length + 1
  toolResults_eq : result.toolResults = (a.log v tr).rounds.flatMap Round.results

/-- The effects that outcomes were delivered for. -/
lemma exchange_effects (v : Encoding V) {effects : List FlowEffect} {given : List (Except Exc V)}
    (h : effects.length = given.length) :
    (exchange v effects given).map Sigma.fst = effects.map Subtype.val := by
  rw [exchange, List.map_zipWith]
  induction effects generalizing given with
  | nil => rfl
  | cons effect effects ih =>
    cases given with
    | nil => cases h
    | cons outcome given =>
      rw [List.zipWith_cons_cons, List.map_cons, ih (Nat.succ.inj h)]

/-- The requests among them. -/
lemma exchange_requests (v : Encoding V) {effects : List FlowEffect}
    {given : List (Except Exc V)} (h : effects.length = given.length) :
    (exchange v effects given).countP isGenerate = effects.countP FlowEffect.isRequest := by
  have hrequest (x : Σ call, TurnReply call) : isGenerate x = isGenerate ⟨x.1, x.1.exit⟩ := by
    obtain ⟨call, reply⟩ := x
    cases call <;> rfl
  have hcalls := congrArg (List.countP fun call : TurnCall => isGenerate ⟨call, call.exit⟩)
    (exchange_effects v h)
  rw [List.countP_map, List.countP_map] at hcalls
  rw [List.countP_congr fun x _ => iff_of_eq (congrArg (· = true) (hrequest x))]
  exact hcalls

/-- The requests of a run that has an effect pending. -/
lemma Pending.requests_le {effect : FlowEffect} (h : Pending tr effect)
    (hpos : 0 < a.maxModelRounds)
    (hfollows : TurnLog.Follows c a.inputPoll a.maxModelRounds (exchanges v tr))
    (hadmits : (a.log v tr).Admits c effect.1) :
    (yields tr).countP FlowEffect.isRequest ≤ a.maxModelRounds := by
  obtain ⟨before, hyields, hlength⟩ := h
  have hcount := hfollows.generates_le hpos (x := ⟨effect.1, effect.1.exit⟩) hadmits
  rw [List.countP_append, exchanges, hyields, exchange_pending v hlength,
    exchange_requests v hlength] at hcount
  rw [hyields, List.countP_append]
  exact hcount

/-- A run that has no effects has a script. -/
lemma TurnScript.of_nil (hp : InOrder tr) (hyields : yields tr = [])
    (hdeliveries : deliveries tr = []) : TurnScript c v a tr where
  inOrder := hp
  follows := by
    rw [exchanges, hyields, hdeliveries]
    exact .nil
  pending := .inl (by rw [hyields, hdeliveries]; rfl)
  requests_le := by
    rw [hyields]
    exact Nat.zero_le _

/-- A run that has an effect pending has a script. -/
lemma TurnScript.of_pending {effect : FlowEffect} (hp : InOrder tr) (h : Pending tr effect)
    (hpos : 0 < a.maxModelRounds)
    (hfollows : TurnLog.Follows c a.inputPoll a.maxModelRounds (exchanges v tr))
    (hadmits : (a.log v tr).Admits c effect.1) : TurnScript c v a tr :=
  ⟨hp, hfollows, .inr ⟨effect, h, hadmits⟩, h.requests_le hpos hfollows hadmits⟩

/-- A driven turn has its script. -/
lemma Exchanged.script (h : Exchanged v i t tr state) (hs : s.Fresh) (hrun : c.Run s moves t)
    (hp : InOrder tr) {f : Flow} (hi : t.flows[i]? = some f) : TurnScript c v f.ask tr := by
  cases h with
  | created hyields hdeliveries | dropped a _ hyields hdeliveries =>
    exact .of_nil hp hyields hdeliveries
  | running effect a ftr k hi' hcalls hpending =>
    obtain rfl : f = _ := Option.some_inj.1 (hi.symm.trans hi')
    have hscripted := Conversation.Run.started hs hrun hi
    have hfollows := hscripted.follows
    obtain ⟨hpos, hadmits⟩ := hscripted.due effect.1 k rfl
    rw [hcalls] at hfollows hadmits
    exact .of_pending hp hpending hpos hfollows hadmits
  | ended state hstate a ftr o hi' hcalls hlength =>
    obtain rfl : f = _ := Option.some_inj.1 (hi.symm.trans hi')
    have hscripted := Conversation.Run.started hs hrun hi
    have hfollows := hscripted.follows
    rw [hcalls] at hfollows
    refine ⟨hp, hfollows, .inl hlength, ?_⟩
    rw [← exchange_requests v hlength]
    by_cases hnil : exchanges v tr = []
    · change (exchanges v tr).countP isGenerate ≤ _
      rw [hnil]
      exact Nat.zero_le _
    · have hpos : 0 < a.maxModelRounds := hscripted.rounds_pos (hcalls ▸ hnil)
      exact hfollows.spent_le.trans (TurnLog.spent_le (TurnLog.coherent_of hpos _).length_lt)
  | interrupted effect a ftr o hi' hcalls hpending =>
    obtain rfl : f = _ := Option.some_inj.1 (hi.symm.trans hi')
    have hscripted := Conversation.Run.started hs hrun hi
    have hpos : 0 < a.maxModelRounds := hscripted.rounds_pos (by rw [hcalls]; simp)
    have hfollows := hscripted.follows
    rw [hcalls] at hfollows
    obtain ⟨hfollows, hadmits⟩ := hfollows.snoc_inv
    exact .of_pending hp hpending hpos hfollows hadmits

end Exchanges

/-! ### The result -/

/-- A flow that has ended stays as it is. -/
lemma Conversation.Run.ended {o : Except Failure ModelTurnResult × ReminderState}
    (h : c.Run s moves t) (hi : s.flows[i]? = some (.started a ftr (.ret o))) :
    t.flows[i]? = some (.started a ftr (.ret o)) := by
  refine h.invariant (I := fun s => s.flows[i]? = some (.started a ftr (.ret o))) hi
    fun m _ hstep hi => ?_
  by_cases he : m.label.about? = some i
  · exact absurd hi (hstep.not_ended he)
  · rcases hstep.flow_of_ne he with hsame | ⟨a', hnone, -⟩
    · exact hsame.trans hi
    · rw [hi] at hnone
      cases hnone

/-- **A flow that has returned** has computed its result from the history that it replaced. -/
lemma Conversation.Run.result (hs : s.Fresh) (h : c.Run s moves t) {result : ModelTurnResult}
    {remaining : ReminderState}
    (hi : t.flows[i]? = some (.started a ftr (.ret (.ok result, remaining)))) :
    0 < a.maxModelRounds ∧ ∃ m ∈ moves, m.label.runs? = some i ∧
      m.after.facade.state = result.state ∧
      ∃ before, (TurnLog.of a.inputPoll a.maxModelRounds (effectCalls ftr)).phase =
          .stopped before result.response ∧
        (c.turnInput m.before.facade a).IsResult (turnCalls ftr) result.response result := by
  obtain ⟨before, m, after, rfl, hm, hcommits, hstate, -, -⟩ :=
    (h.history hs i).1 result ⟨a, ftr, remaining, hi⟩
  obtain ⟨-, hcase⟩ := h.cases hs (m := m) (by simp)
  have hafter : c.Run m.after after t := by
    rw [List.append_cons] at h
    obtain ⟨w, hw, hrest⟩ := LabelledRun.split h
    obtain ⟨-, -, rfl⟩ := hw.snoc_inv rfl
    exact hrest
  have hended (a' : Ask) (ftr' : FlowTrace) (o : Except Failure ModelTurnResult × ReminderState)
      (hi' : m.after.flows[i]? = some (.started a' ftr' (.ret o))) :
      a' = a ∧ ftr' = ftr ∧ o = (.ok result, remaining) := by
    have hsame := hafter.ended hi'
    rw [hi, Option.some_inj] at hsame
    cases hsame
    exact ⟨rfl, rfl, rfl⟩
  obtain ⟨a', tr', ttr, -, -, result', remaining', hi', -⟩ := hcommits
  rcases hcase.running hm with ⟨-, a'', -, hrejected⟩ | ⟨a'', tr'', rest, hadv, hstarted⟩
  · obtain ⟨-, -, ho⟩ := hended _ _ _ hrejected
    cases ho
  · rw [hi', Option.some_inj] at hstarted
    cases hstarted
    obtain ⟨rfl, rfl, ho⟩ := hended _ _ _ hi'
    cases ho
    generalize m.after.facade = facade at hadv
    cases hadv with
    | turnReturned _ _ hturning =>
      obtain ⟨-, hpos, before', response, hphase, hresult⟩ := hturning.isResult
      obtain rfl := hresult.response_eq
      refine ⟨hpos, m, by simp, hm, hstate, before', ?_, hresult⟩
      rw [effectCalls, TurnLog.of_filter_isEffect]
      exact hphase

/-- What a turn has come to can be read off its script, if nothing is pending. -/
lemma TurnScript.concluded {tr : DriverTrace V FlowEffect} {facade : Facade}
    {result : ModelTurnResult} {before : List Message} (h : TurnScript c v a tr)
    (hlength : (yields tr).length = (deliveries tr).length) (hpos : 0 < a.maxModelRounds)
    (hcalls : effectCalls ftr = exchanges v tr)
    (hphase : (a.log v tr).phase = .stopped before result.response)
    (hresult : (c.turnInput facade a).IsResult (turnCalls ftr) result.response result) :
    Concluded c v a tr facade.state result := by
  have hlog : (c.turnInput facade a).log (turnCalls ftr) = a.log v tr := by
    rw [Ask.log, ← hcalls, effectCalls, TurnLog.of_filter_isEffect]
    rfl
  refine ⟨?_, ?_, ⟨before, hphase⟩, ?_, ?_, ?_⟩
  · exact h.inOrder.executed_prefix.eq_of_length_le (hlength ▸ h.inOrder.length_le)
  · rcases h.follows.effects_or_failed hpos with hfailed | heffects
    · have hne := hphase.symm.trans hfailed
      cases hne
    · have heffects' : (a.log v tr).effects c a.inputPoll =
          (exchanges v tr).filterMap fun x => x.1.effect? := heffects
      have hmap := congrArg (List.filterMap TurnCall.effect?) (exchange_effects v hlength)
      rw [List.filterMap_map, List.filterMap_map] at hmap
      rw [heffects']
      exact hmap.symm
  · rw [hresult.messages_eq, TurnInput.messages, hlog]
    rfl
  · rw [hresult.modelRounds_eq, hlog]
  · rw [hresult.toolResults_eq, hlog]

/-- **The effects of a driven turn.** Whatever the executor makes of the effects, and whatever else
happens to the conversation meanwhile: at every moment, what went through the executor is the script
of the turn so far, and when the driver returns, its value is the result that the script has come
to, computed from the history that the turn has replaced.

**Proof sketch.** The driver delivers in order, to a flow that waits for nothing else; and a flow
follows its script whatever it gets. -/
theorem driven_turn_effects {f : Flow} {tr : DriverTrace V FlowEffect} {state : GeneratorRunState}
    {host : V} {metadata : List (String × V)} {given : Option String}
    {q : Prog (Call V FlowEffect) (Reply V FlowEffect) (Except Exc V × DriverState FlowEffect)}
    (hs : s.Fresh) (hosted : Hosted c v i s tr state moves t)
    (hdriven : DriverRuns host metadata given tr q) (hi : t.flows[i]? = some f) :
    TurnScript c v f.ask tr ∧ ∀ value d, q = .ret (.ok value, d) →
      ∃ result, value = v.result result ∧ ∃ m ∈ moves, m.label.runs? = some i ∧
        m.after.facade.state = result.state ∧
        Concluded c v f.ask tr m.before.facade.state result := by
  have hexchanged := hosted.exchanged hs hdriven.permitted
  have hscript := hexchanged.script hs hosted.run hdriven.permitted.delivered hi
  refine ⟨hscript, ?_⟩
  rintro value d rfl
  have hreturns := hdriven.returned
  cases hosted.position hs with
  | created _ hnone => rw [hnone] at hreturns; cases hreturns
  | running _ _ _ _ _ hnone => rw [hnone] at hreturns; cases hreturns
  | closed _ _ _ hnone => rw [hnone] at hreturns; cases hreturns
  | returned result hreturned hresult =>
    rw [hresult] at hreturns
    obtain ⟨a, ftr, remaining, hi'⟩ := hreturned
    obtain rfl : f = _ := Option.some_inj.1 (hi.symm.trans hi')
    cases hexchanged with
    | ended _ _ a' ftr' o hi'' hcalls hlength =>
      rw [hi, Option.some_inj] at hi''
      cases hi''
      obtain ⟨hpos, m, hm, hlabel, hstate, before, hphase, hresult⟩ := hosted.run.result hs hi
      rw [hcalls] at hphase
      exact ⟨result, (List.singleton_inj.1 hreturns).symm, m, hm, hlabel, hstate,
        hscript.concluded hlength hpos hcalls hphase hresult⟩

/-- A turn of one round. -/
theorem driven_turn_effects_plain : ∃ (a : Ask) (tr : DriverTrace Passed FlowEffect)
    (result : ModelTurnResult) (history : ConversationState),
    Concluded plainConversation Passed.encoding a tr history result ∧
      result.state.messages.length = 2 := by
  obtain ⟨moves, tr, result, t, f, d, hosted, hdriven, hi, hlength⟩ := oneRound_hosted
  obtain ⟨result', hvalue, m, -, -, -, hconcluded⟩ :=
    (driven_turn_effects ⟨rfl, rfl⟩ hosted hdriven hi).2 _ d rfl
  cases hvalue
  exact ⟨f.ask, tr, result, _, hconcluded, hlength⟩

end PurrceptCore
