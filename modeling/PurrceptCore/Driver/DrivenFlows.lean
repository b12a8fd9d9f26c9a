import PurrceptCore.Driver.Delivery
import PurrceptCore.Driver.Generators

set_option relaxedAutoImplicit false
set_option autoImplicit false

/-!
# A flow run by the driver

`AgentDriver.run` over a `GeneratorRun` over any generator, with any executor, and a sink that
accepts every event.

## Main definitions

* `PurrceptCore.Reaches` — what a flow has done when its effects have come to given outcomes.
* `PurrceptCore.Plays` — how a flow is run to its end.
* `PurrceptCore.Hosts` — a driver trace whose agent run is a `GeneratorRun` over a generator object.

## Main results

* `PurrceptCore.driven_flow_plays` — the driver runs a flow with the outcomes of the executor, and
  ends as the flow does.

## Design

* `Reaches` and `Plays` say what a driver is for: they know the body of the generator and the
  outcomes of the executor, but neither the driver nor the adapter.
-/

namespace PurrceptCore

open Interaction

variable {S V E : Type}

/-! ### What a flow does -/

/-- How a yield goes on that has come to an outcome. -/
def Resumption.of : Except Exc V → Resumption V
  | .ok v => .value v
  | .error e => .error e

/-- An outcome that a flow gets to see: a value, or an ordinary exception that is no dispatch
failure. -/
def Deliverable : Except Exc V → Prop
  | .ok _ => True
  | .error error => error.cls.isException = true ∧ error.cls ≠ .eventDispatchError

/-- **What a flow has done** when the effects that it has yielded have come to the given outcomes,
one after the other. -/
inductive Reaches (body : GeneratorBody S V E) (frame : S) :
    List (E × Except Exc V) → BodyStep S V E → Prop
  | enter : Reaches body frame [] (body frame .enter)
  | resume {log : List (E × Except Exc V)} {effect : E} {frame' : S} {outcome : Except Exc V}
      (h : Reaches body frame log (.yields effect frame')) (ho : Deliverable outcome) :
      Reaches body frame (log ++ [(effect, outcome)]) (body frame' (.of outcome))

/-- **How a flow is run to its end**, with the given effects and outcomes. -/
inductive Plays (body : GeneratorBody S V E) (frame : S) :
    List (E × Except Exc V) → Except Exc V → Prop
  | returned {log : List (E × Except Exc V)} {value : V}
      (h : Reaches body frame log (.returns value)) : Plays body frame log (.ok value)
  | raised {log : List (E × Except Exc V)} {error : Exc}
      (h : Reaches body frame log (.raises error)) :
      Plays body frame log (.error error.leavingGenerator)
  | exited {log : List (E × Except Exc V)} {error : Exc}
      (h : Reaches body frame log (.exits error)) :
      Plays body frame log (.error error.leavingGenerator)
  /-- An outcome that the flow does not get to see ends the run. -/
  | stopped {log : List (E × Except Exc V)} {effect : E} {frame' : S} {error : Exc}
      (h : Reaches body frame log (.yields effect frame'))
      (he : ¬ Deliverable (.error error : Except Exc V)) :
      Plays body frame (log ++ [(effect, .error error)]) (.error error)

section Reaching

variable {body : GeneratorBody S V E} {frame : S} {log before after : List (E × Except Exc V)}
  {step step' : BodyStep S V E} {o : Except Exc V}

/-- What a flow has done depends on the outcomes alone. -/
lemma Reaches.unique (h : Reaches body frame log step) (h' : Reaches body frame log step') :
    step = step' := by
  induction h generalizing step' with
  | enter =>
    generalize hnil : ([] : List (E × Except Exc V)) = log at h'
    cases h' with
    | enter => rfl
    | resume => simp at hnil
  | @resume log effect frame' outcome h ho ih =>
    generalize hlog : log ++ [(effect, outcome)] = log' at h'
    cases h' with
    | enter => simp at hlog
    | resume h' ho' =>
      obtain ⟨rfl, hlast⟩ := List.append_inj' hlog rfl
      cases hlast
      cases ih h'
      rfl

/-- Before an outcome was delivered, the flow had yielded its effect. -/
lemma Reaches.yielded {effect : E} {outcome : Except Exc V} (h : Reaches body frame log step)
    (hlog : log = before ++ (effect, outcome) :: after) :
    Deliverable outcome ∧ ∃ frame', Reaches body frame before (.yields effect frame') := by
  induction h generalizing after with
  | enter => simp at hlog
  | @resume log effect' frame' outcome' h ho ih =>
    rcases List.eq_nil_or_concat after with rfl | ⟨after', last, rfl⟩
    · obtain ⟨rfl, hlast⟩ := List.append_inj' hlog rfl
      cases hlast
      exact ⟨ho, frame', h⟩
    · rw [List.concat_eq_append, ← List.cons_append, ← List.append_assoc] at hlog
      exact ih (List.append_inj' hlog rfl).1

/-- No flow ends with a `StopIteration`. -/
lemma Plays.hasLeft (h : Plays body frame log o) : HasLeft o := by
  intro error ho
  cases h with
  | returned h => cases ho
  | raised h | exited h =>
    cases ho
    exact Exc.leaving_cls "generator" (.made 1) _
  | stopped h he =>
    cases ho
    intro hstop
    refine he ⟨?_, ?_⟩ <;> rw [hstop]
    · rfl
    · decide

/-- What a flow does last decides how its run ends. -/
lemma Plays.of_reaches (h : Plays body frame log o) (hreaches : Reaches body frame log step) :
    step.settle.1.outcome = o.map .returned := by
  cases h with
  | returned h | raised h | exited h => rw [hreaches.unique h]; rfl
  | stopped h he => exact absurd (hreaches.yielded rfl).1 he

/-- As long as a run goes on, the flow has yielded an effect, which has come to its outcome. -/
lemma Plays.of_reaches_cons {effect : E} {outcome : Except Exc V}
    (h : Plays body frame log o) (hlog : log = before ++ (effect, outcome) :: after)
    (hreaches : Reaches body frame before step) : ∃ frame', step = .yields effect frame' ∧
      (Deliverable outcome ∨ (after = [] ∧ ¬ Deliverable outcome ∧ o = outcome)) := by
  have hyielded {step' : BodyStep S V E} (h : Reaches body frame log step') :
      ∃ frame', step = .yields effect frame' ∧
        (Deliverable outcome ∨ (after = [] ∧ ¬ Deliverable outcome ∧ o = outcome)) := by
    obtain ⟨hdeliverable, frame', hreaches'⟩ := h.yielded hlog
    exact ⟨frame', hreaches.unique hreaches', .inl hdeliverable⟩
  cases h with
  | returned h | raised h | exited h => exact hyielded h
  | @stopped log effect' frame' error h he =>
    rcases List.eq_nil_or_concat after with rfl | ⟨after', last, rfl⟩
    · obtain ⟨rfl, hlast⟩ := List.append_inj' hlog rfl
      cases hlast
      exact ⟨frame', hreaches.unique h, .inr ⟨rfl, he, rfl⟩⟩
    · rw [List.concat_eq_append, ← List.cons_append, ← List.append_assoc] at hlog
      obtain ⟨hdeliverable, frame'', hreaches'⟩ := h.yielded (List.append_inj' hlog rfl).1
      exact ⟨frame'', hreaches.unique hreaches', .inl hdeliverable⟩

end Reaching

/-! ### The driver -/

/-- The clocks and the id factory are total, and the sink accepts every event. -/
def Undisturbed : (c : Call V E) → Reply V E c → Prop
  | .idFactory, r | .clock, r | .monotonic, r => ∃ a, r = .ok a
  | .emit _, r => Delivered r
  | _, _ => True

/-- In addition, an advancement of the run comes to a run state. -/
def Orderly (c : Call V E) (r : Reply V E c) : Prop :=
  Undisturbed c r ∧ ∀ typeName, advancementOf ⟨c, r⟩ ≠ some (.ok (.unsupported typeName))

lemma Orderly.total {c : Call V E} {r : Reply V E c} (h : Orderly c r) : TotalServices c r := by
  cases c with
  | idFactory | clock | monotonic =>
    obtain ⟨a, rfl⟩ := h.1
    trivial
  | _ => trivial

namespace Ledger

/-- All that was executed has been delivered. -/
structure Done (L : Ledger V E) : Prop where
  yields : L.yields = L.executed
  outcomes : L.outcomes = L.deliveries
  ended : L.outcomes.length = L.executed.length

/-- The last outcome of the executor is not delivered. -/
structure Pending (L : Ledger V E) (outcome : Except Exc V) : Prop where
  running : ∃ before effect, L.advancements = before ++ [.ok (.yielded effect)]
  yields : L.yields = L.executed
  outcomes : L.outcomes = L.deliveries ++ [outcome]
  ended : L.outcomes.length = L.executed.length

/-- Where an exception comes from: the run has raised it, or the executor has and the run does not
get to see it. -/
def Stopped (L : Ledger V E) (error : Exc) : Prop :=
  (L.Done ∧ ∃ before, L.advancements = before ++ [.error error]) ∨
    (L.Pending (.error error) ∧ ¬ Deliverable (.error error : Except Exc V))

/-- How a driver run ends. -/
def Verdict (L : Ledger V E) : Except Exc V → Prop
  | .ok value => L.Done ∧ ∃ before, L.advancements = before ++ [.ok (.returned value)]
  | .error error => L.Stopped error

/-- Closing the run does not matter for where an exception comes from. -/
lemma Stopped.congr {L L' : Ledger V E} {error : Exc} (h : L.Stopped error)
    (hL : { L' with closes := [] } = { L with closes := [] }) : L'.Stopped error := by
  obtain ⟨advancements, yields, executed, outcomes, deliveries, closes⟩ := L
  obtain ⟨advancements', yields', executed', outcomes', deliveries', closes'⟩ := L'
  cases hL
  rcases h with ⟨⟨h₁, h₂, h₃⟩, h⟩ | ⟨⟨h₁, h₂, h₃, h₄⟩, h⟩
  · exact .inl ⟨⟨h₁, h₂, h₃⟩, h⟩
  · exact .inr ⟨⟨h₁, h₂, h₃, h₄⟩, h⟩

lemma Head.done {L : Ledger V E} {value : V} (h : L.Head (.returned value)) : L.Done where
  yields := by
    rw [h.yields]
    exact List.append_nil _
  outcomes := h.delivered
  ended := h.ended

lemma Working.pending {L : Ledger V E} {outcome : Except Exc V}
    (h : L.Working none (.done outcome)) : L.Pending outcome where
  running := h.running
  yields := h.yields
  outcomes := h.outcomes
  ended := h.delivers.ended

/-- After an advancement that has raised. -/
lemma Delivers.stopped {L : Ledger V E} {outcome : Except Exc V} (h : L.Delivers outcome)
    (error : Exc) : (L.advance (some outcome) (.error error)).Stopped error := by
  refine .inl ⟨⟨?_, h.next, h.ended⟩, L.advancements, rfl⟩
  show L.yields ++ [] = L.executed
  rw [List.append_nil, h.executed]

end Ledger

namespace Verdict

open Ledger

/-- The monitor: nothing is asked of the driver. -/
abbrev monitor : Monitor (Call V E) (Reply V E) (DriverTrace V E) :=
  observer (fun _ _ => True) Orderly

variable {tr : DriverTrace V E}

/-- Emitting an event. -/
lemma reports {f : Instant → Seconds → RunEvent V E} {K : DriverTrace V E → Prop}
    {raise : Exc → DriverTrace V E → Prop} (hK : ∀ tr', ledger tr' = ledger tr → K tr') :
    Reports monitor tr f K raise where
  service e he := absurd he (TotalServices.not_raises fun _ _ h => h.total)
  emits t d := {
    allow := .inr trivial
    delivered := by
      intro r _ _
      rw [observer_next rfl]
      exact hK _ (ledger_emit tr _ r)
    failed := by
      intro r d hr hf _
      exact absurd hf (Delivered.not_failed hr.1)
    escaped := by
      intro e he _
      cases he.1 }

/-- Closing the run. -/
lemma closes {K : DriverTrace V E → Prop}
    (hK : ∀ tr', { ledger tr' with closes := [] } = { ledger tr with closes := [] } → K tr') :
    Closes monitor tr K := by
  refine ⟨.inr trivial, fun r _ => ?_⟩
  rw [observer_next rfl]
  exact hK _ (by simp [ledger])

/-- Advancing the run. -/
lemma advances {c : Call V E} {read : Reply V E c → Except Exc (RunState V E)}
    (delivery : Option (Except Exc V)) (hc : c.isService = false)
    (hledger : ∀ r, ledger (tr ++ [⟨c, r⟩]) = (ledger tr).advance delivery (read r))
    (hhead : ∀ state, ((ledger tr).advance delivery (.ok state)).Head state)
    (hstopped : ∀ error, ((ledger tr).advance delivery (.error error)).Stopped error)
    (hof : ∀ r, advancementOf ⟨c, r⟩ = some (read r)) :
    Advances monitor tr c read
      (fun state tr' => (ledger tr').Head state ∧ ∀ typeName, state ≠ .unsupported typeName)
      fun error tr' => (ledger tr').Stopped error where
  allow := .inr trivial
  reply r hr := by
    have hnext := hledger r
    rw [observer_next hc]
    cases hread : read r with
    | ok state =>
      rw [hread] at hnext
      refine ⟨hnext ▸ hhead state, fun typeName hstate => ?_⟩
      exact hr.2 typeName (by rw [hof, hread, hstate])
    | error error =>
      rw [hread] at hnext
      show (ledger (tr ++ [⟨c, r⟩])).Stopped error
      rw [hnext]
      exact hstopped error

/-- Handing an outcome to the executor. -/
lemma resumes {a : ℕ} {p : V} {o : Except Exc Unit}
    (h : (ledger tr).Working none (.progress a p)) :
    Resumes monitor tr o fun r tr' => (ledger tr').Working none r := by
  have hlatched : ∀ e, (none : Option Exc) = some e → e.cls = .eventDispatchError := by
    intro e he
    cases he
  have hresumes := (Delivery.resumes (o := o) h hlatched).2
  refine ⟨.inr trivial, fun r _ => ?_⟩
  have hworking := hresumes r trivial
  rw [observer_next rfl] at hworking ⊢
  exact hworking

/-- An outcome that is not delivered. -/
lemma pending_stopped {error : Exc} (h : (ledger tr).Working none (.done (.error error)))
    (he : error.cls.isException = false ∨ error.cls = .eventDispatchError) :
    (ledger tr).Stopped error := by
  refine .inr ⟨h.pending, fun hd => ?_⟩
  rcases he with he | he
  · exact Bool.false_ne_true (he.symm.trans hd.1)
  · exact hd.2 he

/-- **Proof outline.** No dispatch fails, so what the executor has come to is the outcome of the
effect. -/
def outline (runId : String) (host : V) (metadata : List (String × V)) :
    Outline (E := E) monitor runId host metadata (fun o tr => (ledger tr).Verdict o) [] where
  head _ state tr := (ledger tr).Head state ∧ ∀ typeName, state ≠ .unsupported typeName
  working _ _ _ d r tr := d = none ∧ (ledger tr).Working none r
  raised e tr := (ledger tr).Stopped e
  started := reports fun tr h => advances none rfl (fun r => by simp [ledger, Ledger.advance])
    (Permits.head h) (fun error => .inl (by
      rw [h]
      exact ⟨⟨rfl, rfl, rfl⟩, [], rfl⟩)) fun r => rfl
  returned k v tr h := reports fun tr' h' => by
    show (ledger tr').Verdict (.ok v)
    rw [h']
    exact ⟨h.1.done, h.1.advanced⟩
  unsupported k n tr h e _ := absurd rfl (h.2 n)
  yielded k effect tr h effectId := reports fun tr' h' => by
    have hexecutes := Delivery.executes
      ⟨runId, effectId, k, host, metadata, k⟩ (h' ▸ h.1 : (ledger tr').Head (.yielded effect))
    refine ⟨.inr trivial, fun r hr => ⟨rfl, ?_⟩⟩
    have hworking := hexecutes.2 r trivial
    rw [observer_next rfl] at hworking ⊢
    exact hworking
  progress k effectId effect := {
    stale := fun d a p tr _ h e _ => by
      obtain ⟨rfl, h⟩ := h
      exact ⟨.inr trivial, fun r hr => ⟨rfl, (resumes h).2 r hr⟩⟩
    latched := fun d p tr h => by cases h.1
    fresh := fun p tr h => reports fun tr' h' =>
      ⟨.inr trivial, fun r hr => ⟨rfl, (resumes (h' ▸ h.2)).2 r hr⟩⟩ }
  aborted k effectId effect d o tr h e ho he := by
    obtain ⟨rfl, h⟩ := h
    cases ho
    exact pending_stopped h he
  effectFailed k effectId effect d o tr h e ho hx hd := by
    obtain ⟨rfl, h⟩ := h
    cases ho
    refine reports fun tr' h' => ?_
    rw [← h'] at h
    exact advances (some (.error e)) rfl (fun r => by simp [ledger, Ledger.advance])
      h.delivers.head h.delivers.stopped fun r => rfl
  effectSucceeded k effectId effect d o tr h v ho := by
    obtain ⟨rfl, h⟩ := h
    cases ho
    refine reports fun tr' h' => ?_
    rw [← h'] at h
    exact advances (some (.ok v)) rfl (fun r => by simp [ledger, Ledger.advance])
      h.delivers.head h.delivers.stopped fun r => rfl
  cancelled e tr h he := closes fun tr' h' => reports fun tr'' h'' => by
    show (ledger tr'').Stopped e
    rw [h'']
    exact h.congr h'
  closed e tr h _ := closes fun tr' h' => h.congr h'
  failed e tr h hx hd := reports fun tr' h' => closes fun tr'' h'' => (h' ▸ h).congr h''

/-- The driver keeps to the monitor, and ends with what leaves the coroutine. -/
lemma keeps (fuel : ℕ) (host : V) (metadata : List (String × V)) (given : Option String) :
    Routine.wp (monitor (E := E)) (AgentDriver.run fuel host metadata given)
      (Outline.Post fun o tr => ∃ o' id, (ledger tr).Verdict o' ∧ o = leaving "coroutine" id o')
      AgentDriver.initialState [] :=
  Outline.wp_run given (fun runId _ => outline runId host metadata)
    (fun _ he => absurd he (TotalServices.not_raises fun _ _ h => h.total))
    fun o id _ h => ⟨o, id, h, rfl⟩

end Verdict

/-! ### Where a flow stands -/

section Standing

variable (body : GeneratorBody S V E) (frame : S)

/-- Where a flow stands, by what the driver knows of it. -/
inductive Standing (L : Ledger V E) : Adapted (Generator S) → Prop
  | created (hadv : L.advancements = []) (hyields : L.yields = [])
      (hdeliveries : L.deliveries = []) : Standing L ⟨.created, .created frame⟩
  | running (log : List (E × Except Exc V)) (effect : E) (frame' : S)
      (hreaches : Reaches body frame log (.yields effect frame'))
      (hadv : ∃ before, L.advancements = before ++ [.ok (.yielded effect)])
      (hyields : L.yields = log.map Prod.fst ++ [effect])
      (hdeliveries : L.deliveries = log.map Prod.snd) : Standing L ⟨.running, .suspended frame'⟩
  | ended (log : List (E × Except Exc V)) (step : BodyStep S V E)
      (hreaches : Reaches body frame log step) (hstep : step.settle.2 = .finished)
      (hadv : ∃ before, L.advancements = before ++ [step.settle.1.outcome])
      (hyields : L.yields = log.map Prod.fst) (hdeliveries : L.deliveries = log.map Prod.snd) :
      Standing L ⟨step.settle.1.recorded, .finished⟩

variable {body frame}

/-- What the adapter makes of a step of the body. -/
def Adapted.after (step : BodyStep S V E) : Adapted (Generator S) :=
  ⟨step.settle.1.recorded, step.settle.2⟩

/-- The flow is resumed once. -/
lemma Standing.resumed {L : Ledger V E} {log : List (E × Except Exc V)} {step : BodyStep S V E}
    (hreaches : Reaches body frame log step)
    (hadv : ∃ before, L.advancements = before ++ [step.settle.1.outcome])
    (hyields : L.yields = log.map Prod.fst ++ (yieldedEffect step.settle.1.outcome).toList)
    (hdeliveries : L.deliveries = log.map Prod.snd) : Standing body frame L (.after step) := by
  cases step with
  | yields effect frame' => exact .running log effect frame' hreaches hadv hyields hdeliveries
  | returns value =>
    exact .ended log _ hreaches rfl hadv (hyields.trans (List.append_nil _)) hdeliveries
  | raises error =>
    exact .ended log _ hreaches rfl hadv (hyields.trans (List.append_nil _)) hdeliveries
  | exits error =>
    exact .ended log _ hreaches rfl hadv (hyields.trans (List.append_nil _)) hdeliveries

/-- Only advancements and deliveries tell where a flow stands. -/
lemma Standing.congr {L L' : Ledger V E} {a : Adapted (Generator S)}
    (h : Standing body frame L a) (hadv : L'.advancements = L.advancements)
    (hyields : L'.yields = L.yields) (hdeliveries : L'.deliveries = L.deliveries) :
    Standing body frame L' a := by
  cases h with
  | created h₁ h₂ h₃ =>
    exact .created (hadv.trans h₁) (hyields.trans h₂) (hdeliveries.trans h₃)
  | running log effect frame' hreaches h₁ h₂ h₃ =>
    exact .running log effect frame' hreaches (hadv ▸ h₁) (hyields.trans h₂) (hdeliveries.trans h₃)
  | ended log step hreaches hstep h₁ h₂ h₃ =>
    exact .ended log step hreaches hstep (hadv ▸ h₁) (hyields.trans h₂) (hdeliveries.trans h₃)

/-- A flow that has not been started. -/
lemma Standing.of_created {L : Ledger V E} {a : Adapted (Generator S)}
    (h : Standing body frame L a) (hadv : L.advancements = []) :
    a = ⟨.created, .created frame⟩ ∧ L.yields = [] ∧ L.deliveries = [] := by
  cases h with
  | created _ hyields hdeliveries => exact ⟨rfl, hyields, hdeliveries⟩
  | running _ _ _ _ h | ended _ _ _ _ h =>
    obtain ⟨before, h⟩ := h
    rw [hadv] at h
    exact absurd h.symm (List.append_ne_nil_of_right_ne_nil _ (List.cons_ne_nil _ _))

/-- A flow that has yielded. -/
lemma Standing.of_running {L : Ledger V E} {a : Adapted (Generator S)}
    (h : Standing body frame L a) {before : List (Except Exc (RunState V E))} {effect : E}
    (hadv : L.advancements = before ++ [.ok (.yielded effect)]) :
    ∃ log frame', a = ⟨.running, .suspended frame'⟩ ∧
      Reaches body frame log (.yields effect frame') ∧
      L.yields = log.map Prod.fst ++ [effect] ∧ L.deliveries = log.map Prod.snd := by
  cases h with
  | created h =>
    rw [hadv] at h
    exact absurd h (List.append_ne_nil_of_right_ne_nil _ (List.cons_ne_nil _ _))
  | running log effect' frame' hreaches h hyields hdeliveries =>
    obtain ⟨before', h⟩ := h
    rw [hadv] at h
    obtain ⟨-, hlast⟩ := List.append_inj' h rfl
    cases hlast
    exact ⟨log, frame', rfl, hreaches, hyields, hdeliveries⟩
  | ended log step hreaches hstep h =>
    obtain ⟨before', h⟩ := h
    rw [hadv] at h
    obtain ⟨-, hlast⟩ := List.append_inj' h rfl
    exfalso
    cases step with
    | yields => cases hstep
    | returns | raises | exits => cases hlast

/-- An outcome is delivered to a flow that has yielded. -/
lemma Standing.delivered {L : Ledger V E} {log : List (E × Except Exc V)} {effect : E}
    {outcome : Except Exc V} {step : BodyStep S V E}
    (hreaches : Reaches body frame (log ++ [(effect, outcome)]) step)
    (hyields : L.yields = log.map Prod.fst ++ [effect])
    (hdeliveries : L.deliveries = log.map Prod.snd) :
    Standing body frame (L.advance (some outcome) step.settle.1.outcome) (.after step) := by
  refine .resumed hreaches ⟨L.advancements, rfl⟩ ?_ ?_
  · rw [List.map_append, List.map_singleton, ← hyields]
    rfl
  · rw [List.map_append, List.map_singleton, ← hdeliveries]
    rfl

end Standing

/-! ### The whole stack -/

/-- The ledger after an advancement. -/
lemma ledger_start (tr : DriverTrace V E) (r : Except Exc (RunState V E)) :
    ledger (tr ++ [⟨.start, r⟩]) = (ledger tr).advance none r := by
  simp [ledger, Ledger.advance]

lemma ledger_send (tr : DriverTrace V E) (value : V) (r : Except Exc (RunState V E)) :
    ledger (tr ++ [⟨.send value, r⟩]) = (ledger tr).advance (some (.ok value)) r := by
  simp [ledger, Ledger.advance]

lemma ledger_throw (tr : DriverTrace V E) (error : Exc) (r : Except Exc (RunState V E)) :
    ledger (tr ++ [⟨.throw error, r⟩]) = (ledger tr).advance (some (.error error)) r := by
  simp [ledger, Ledger.advance]

/-- Every call of the trace was permitted. -/
def AlwaysPermitted (tr : DriverTrace V E) : Prop :=
  ∀ before x after, tr = before ++ x :: after → (ledger before).Permits x.1

lemma AlwaysPermitted.of_append {tr : DriverTrace V E} {x : Σ c, Reply V E c}
    (h : AlwaysPermitted (tr ++ [x])) : AlwaysPermitted tr ∧ (ledger tr).Permits x.1 := by
  refine ⟨fun before y after heq => h before y (after ++ [x]) ?_, h tr x [] rfl⟩
  rw [heq, List.append_assoc]
  rfl

section Hosting

variable [DecidableEq V] (none : V) (body : GeneratorBody S V E) (frame : S)

/-- **The stack of a driven flow.** In the trace of a driver, the calls of the agent run were made
of a `GeneratorRun` over a generator object, which is now as given. -/
inductive Hosts : DriverTrace V E → Adapted (Generator S) → Prop
  | begin : Hosts [] ⟨.created, .created frame⟩
  | start {tr a a' r received} (h : Hosts tr a)
      (hstep : a.Step (Generator.reply none body) ⟨.start, r.map some, received⟩ a') :
      Hosts (tr ++ [⟨.start, r⟩]) a'
  | send {tr a a' value r received} (h : Hosts tr a)
      (hstep : a.Step (Generator.reply none body) ⟨.send value, r.map some, received⟩ a') :
      Hosts (tr ++ [⟨.send value, r⟩]) a'
  | throw {tr a a' error r received} (h : Hosts tr a)
      (hstep : a.Step (Generator.reply none body) ⟨.throw error, r.map some, received⟩ a') :
      Hosts (tr ++ [⟨.throw error, r⟩]) a'
  | close {tr a a' r received} (h : Hosts tr a)
      (hstep : a.Step (Generator.reply none body)
        ⟨.close, r.map fun _ => Option.none, received⟩ a') :
      Hosts (tr ++ [⟨.close, r⟩]) a'
  /-- The driver calls something else. -/
  | other {tr a call r} (h : Hosts tr a) (hc : Call.ofRun call = false) :
      Hosts (tr ++ [⟨call, r⟩]) a

variable {none body frame}

/-- A method that is called in the right state resumes the generator once. -/
lemma Adapted.Step.resumed {a a' : Adapted (Generator S)} {op : RunOp V}
    {r : Except Exc (RunState V E)} {received : GenTrace V E} {operation : String}
    (h : a.Step (Generator.reply none body) ⟨op, r.map some, received⟩ a')
    (hrequired : op.required = some (a.state, operation)) (step : BodyStep S V E)
    (hstart : op = .start → Generator.reply none body a.generator .next = step.settle)
    (hsend : ∀ value, op = .send value →
      Generator.reply none body a.generator (.send value) = step.settle)
    (hthrow : ∀ error, op = .throw error →
      Generator.reply none body a.generator (.throw error) = step.settle) :
    r = step.settle.1.outcome ∧ a' = .after step := by
  obtain ⟨hexec, hanswered⟩ := h
  have hperformed := RunOp.performed hexec
  obtain ⟨state, generator⟩ := a
  obtain ⟨state', generator'⟩ := a'
  have hinj {r' : Except Exc (RunState V E)} (hr : r.map some = r'.map some) : r = r' := by
    cases r <;> cases r' <;> cases hr <;> rfl
  generalize ho : r.map some = o at hperformed
  cases hperformed with
  | rejected _ _ expected _ hrequired' hne =>
    rw [hrequired] at hrequired'
    cases hrequired'
    exact absurd rfl hne
  | started step' =>
    obtain ⟨rfl, rfl⟩ := hanswered
    rw [hstart rfl] at ho ⊢
    exact ⟨hinj ho, rfl⟩
  | sent value step' =>
    obtain ⟨rfl, rfl⟩ := hanswered
    rw [hsend value rfl] at ho ⊢
    exact ⟨hinj ho, rfl⟩
  | thrown error step' =>
    obtain ⟨rfl, rfl⟩ := hanswered
    rw [hthrow error rfl] at ho ⊢
    exact ⟨hinj ho, rfl⟩
  | ended => cases hrequired
  | closed => cases hrequired

/-- **Where the flow stands**, after calls of which each was permitted.

**Proof sketch.** Induction on the trace. A permitted advancement finds the adapter in the right
state, so it resumes the body once, with what the driver delivers. -/
theorem Hosts.standing {tr : DriverTrace V E} {a : Adapted (Generator S)}
    (h : Hosts none body frame tr a) (hpermitted : AlwaysPermitted tr) :
    ∃ a', Standing body frame (ledger tr) a' ∧ (closes tr = [] → a' = a) := by
  induction h with
  | begin => exact ⟨_, .created rfl rfl rfl, fun _ => rfl⟩
  | @start tr a a' r received h hstep ih =>
    obtain ⟨hbefore, hadv, -, hopen⟩ := hpermitted.of_append
    obtain ⟨a₀, hstanding, hsame⟩ := ih hbefore
    obtain rfl := hsame hopen
    obtain ⟨rfl, hyields, hdeliveries⟩ := hstanding.of_created hadv
    obtain ⟨rfl, rfl⟩ := hstep.resumed rfl (body frame .enter) (fun _ => rfl)
      (fun _ h => by cases h) fun _ h => by cases h
    rw [ledger_start]
    refine ⟨_, .resumed .enter ⟨(ledger tr).advancements, rfl⟩ ?_ ?_, fun _ => rfl⟩
    · show (ledger tr).yields ++ _ = _
      rw [hyields]
      rfl
    · show (ledger tr).deliveries ++ [] = _
      rw [hdeliveries]
      rfl
  | @send tr a a' value r received h hstep ih =>
    obtain ⟨hbefore, hdelivers⟩ := hpermitted.of_append
    obtain ⟨before, effect, hadv⟩ := hdelivers.running
    obtain ⟨a₀, hstanding, hsame⟩ := ih hbefore
    obtain rfl := hsame hdelivers.notClosed
    obtain ⟨log, frame', rfl, hreaches, hyields, hdeliveries⟩ := hstanding.of_running hadv
    obtain ⟨rfl, rfl⟩ := hstep.resumed rfl (body frame' (.value value))
      (fun h => by cases h) (fun _ h => by cases h; rfl) fun _ h => by cases h
    have hresumed : Reaches body frame (log ++ [(effect, .ok value)]) _ :=
      hreaches.resume trivial
    rw [ledger_send]
    exact ⟨_, .delivered hresumed hyields hdeliveries, fun _ => rfl⟩
  | @throw tr a a' error r received h hstep ih =>
    obtain ⟨hbefore, hdelivers, hexception, hdispatch⟩ := hpermitted.of_append
    obtain ⟨before, effect, hadv⟩ := hdelivers.running
    obtain ⟨a₀, hstanding, hsame⟩ := ih hbefore
    obtain rfl := hsame hdelivers.notClosed
    obtain ⟨log, frame', rfl, hreaches, hyields, hdeliveries⟩ := hstanding.of_running hadv
    obtain ⟨rfl, rfl⟩ := hstep.resumed rfl (body frame' (.error error))
      (fun h => by cases h) (fun _ h => by cases h) fun _ h => by cases h; rfl
    have hresumed : Reaches body frame (log ++ [(effect, .error error)]) _ :=
      hreaches.resume ⟨hexception, hdispatch⟩
    rw [ledger_throw]
    exact ⟨_, .delivered hresumed hyields hdeliveries, fun _ => rfl⟩
  | @close tr a a' r received h hstep ih =>
    obtain ⟨hbefore, hopen⟩ := hpermitted.of_append
    obtain ⟨a₀, hstanding, -⟩ := ih hbefore
    refine ⟨a₀, hstanding.congr ?_ ?_ ?_, fun hclosed => ?_⟩
    · exact observe_snoc_none advancements rfl
    · exact observe_snoc_none yields rfl
    · exact observe_snoc_none deliveries rfl
    · rw [observe_append] at hclosed
      exact absurd hclosed (List.append_ne_nil_of_right_ne_nil _ (List.cons_ne_nil _ _))
  | @other tr a call r h hc ih =>
    obtain ⟨hbefore, -⟩ := hpermitted.of_append
    obtain ⟨a₀, hstanding, hsame⟩ := ih hbefore
    have hadv : advancementOf (⟨call, r⟩ : Σ c, Reply V E c) = Option.none := by
      cases call <;> first | rfl | cases hc
    have hdelivery : deliveryOf (⟨call, r⟩ : Σ c, Reply V E c) = Option.none := by
      cases call <;> first | rfl | cases hc
    have hclosing : closingOf (⟨call, r⟩ : Σ c, Reply V E c) = Option.none := by
      cases call <;> first | rfl | cases hc
    refine ⟨a₀, hstanding.congr ?_ ?_ ?_, fun hclosed => ?_⟩
    · exact observe_snoc_none advancements hadv
    · exact observe_snoc_none yields (Observation.filterMap_none hadv)
    · exact observe_snoc_none deliveries hdelivery
    · exact hsame ((observe_snoc_none closes hclosing).symm.trans hclosed)

/-- The calls of the driver that are not made of the agent run. -/
lemma Hosts.others {tr : DriverTrace V E} {a : Adapted (Generator S)}
    (h : Hosts none body frame tr a) (part : DriverTrace V E)
    (hpart : part.all (fun x => !x.1.ofRun) = true) : Hosts none body frame (tr ++ part) a := by
  induction part using List.reverseRecOn with
  | nil => rwa [List.append_nil]
  | append_singleton part x ih =>
    rw [List.all_append, Bool.and_eq_true] at hpart
    rw [← List.append_assoc]
    refine (ih hpart.1).other ?_
    simpa using hpart.2

/-- The adapter knows no other run states. -/
lemma Hosts.supported {tr : DriverTrace V E} {a : Adapted (Generator S)}
    (h : Hosts none body frame tr a) {x : Σ c, Reply V E c} (hx : x ∈ tr) (typeName : String) :
    advancementOf x ≠ some (.ok (.unsupported typeName)) := by
  have hmethod {a a' : Adapted (Generator S)} {op : RunOp V} {r : Except Exc (RunState V E)}
      {received : GenTrace V E}
      (hstep : a.Step (Generator.reply none body) ⟨op, r.map some, received⟩ a') :
      some r ≠ some (.ok (.unsupported typeName)) := by
    intro hr
    obtain rfl := Option.some.inj hr
    have hperformed := RunOp.performed hstep.1
    generalize a.state = state, a'.state = state' at hperformed
    generalize ho : Except.map some (Except.ok (RunState.unsupported typeName)) = o at hperformed
    cases hperformed with
    | rejected | ended => cases ho
    | started step | sent _ step | thrown _ step => cases step <;> cases ho
    | closed _ _ reply => cases reply <;> cases ho
  induction h with
  | begin => cases hx
  | start h hstep ih | send h hstep ih | throw h hstep ih =>
    rcases List.mem_append.1 hx with hx | hx
    · exact ih hx
    · rw [List.mem_singleton.1 hx]
      exact hmethod hstep
  | close h hstep ih =>
    rcases List.mem_append.1 hx with hx | hx
    · exact ih hx
    · rw [List.mem_singleton.1 hx]
      exact fun h => by cases h
  | @other tr a call r h hc ih =>
    rcases List.mem_append.1 hx with hx | hx
    · exact ih hx
    · have hadv : advancementOf (⟨call, r⟩ : Σ c, Reply V E c) = Option.none := by
        cases call <;> first | rfl | cases hc
      rw [List.mem_singleton.1 hx, hadv]
      exact fun h => by cases h

omit [DecidableEq V] in
/-- A flow plays what the driver ends with. -/
lemma Standing.plays {L : Ledger V E} {a : Adapted (Generator S)} {o : Except Exc V}
    (h : Standing body frame L a) (hverdict : L.Verdict o) :
    Plays body frame (L.executed.zip L.outcomes) o := by
  have hended {before : List (Except Exc (RunState V E))} {r : Except Exc (RunState V E)}
      (hdone : L.Done) (hadv : L.advancements = before ++ [r])
      (hr : ∀ effect, r ≠ .ok (.yielded effect)) : ∃ step, r = step.settle.1.outcome ∧
        step.settle.2 = .finished ∧ Reaches body frame (L.executed.zip L.outcomes) step := by
    cases h with
    | created h =>
      rw [hadv] at h
      exact absurd h (List.append_ne_nil_of_right_ne_nil _ (List.cons_ne_nil _ _))
    | running log effect frame' hreaches h =>
      obtain ⟨before', h⟩ := h
      rw [hadv] at h
      obtain ⟨-, hlast⟩ := List.append_inj' h rfl
      exact absurd (List.singleton_inj.1 hlast) (hr effect)
    | ended log step hreaches hstep h hyields hdeliveries =>
      obtain ⟨before', h⟩ := h
      rw [hadv] at h
      obtain ⟨-, hlast⟩ := List.append_inj' h rfl
      refine ⟨step, List.singleton_inj.1 hlast, hstep, ?_⟩
      have hzip : L.executed.zip L.outcomes = log := by
        rw [← hdone.yields, hdone.outcomes, hyields, hdeliveries, List.zip_map']
        exact List.map_id log
      rwa [hzip]
  cases o with
  | ok value =>
    obtain ⟨hdone, before, hadv⟩ := hverdict
    obtain ⟨step, hr, hstep, hreaches⟩ := hended hdone hadv fun _ h => by cases h
    cases step with
    | yields => cases hstep
    | returns => cases hr; exact .returned hreaches
    | raises | exits => cases hr
  | error e =>
    rcases hverdict with ⟨hdone, before, hadv⟩ | ⟨hpending, hnot⟩
    · obtain ⟨step, hr, hstep, hreaches⟩ := hended hdone hadv fun _ h => by cases h
      cases step with
      | yields => cases hstep
      | returns => cases hr
      | raises => cases hr; exact .raised hreaches
      | exits => cases hr; exact .exited hreaches
    · obtain ⟨before, effect, hadv⟩ := hpending.running
      obtain ⟨log, frame', -, hreaches, hyields, hdeliveries⟩ := h.of_running hadv
      have hzip : L.executed.zip L.outcomes = log ++ [(effect, .error e)] := by
        rw [← hpending.yields, hpending.outcomes, hyields, hdeliveries,
          List.zip_append (by rw [List.length_map, List.length_map]), List.zip_map']
        exact congrArg (· ++ _) (List.map_id log)
      rw [hzip]
      exact .stopped hreaches hnot

/-- **The driver runs flows.** For every generator and every executor, when nothing disturbs the
driver: the executor was handed the effects that the flow yields, one after the other, the flow was
resumed with what became of them, and the driver ends as the flow does, or with the outcome that the
flow does not get to see. -/
theorem driven_flow_plays {host : V} {metadata : List (String × V)} {given : Option String}
    {tr : DriverTrace V E} {o : Except Exc V} {s : DriverState E} {a : Adapted (Generator S)}
    (hrun : DriverRuns host metadata given tr (.ret (o, s)))
    (hhosts : Hosts none body frame tr a) (hundisturbed : ∀ x ∈ tr, Undisturbed x.1 x.2) :
    (executed tr).length = (outcomes tr).length ∧
      Plays body frame ((executed tr).zip (outcomes tr)) o := by
  have hpermitted : AlwaysPermitted tr := by
    rintro before x after rfl
    obtain ⟨fuel, hexec⟩ := hrun
    obtain ⟨q, hbefore, hafter⟩ := hexec.split
    cases hafter with
    | step => exact AgentDriver.permits ⟨fuel, hbefore⟩
  have hverdict := (hrun.ret (fun fuel => Verdict.keeps fuel host metadata given)
    fun x hx => ⟨hundisturbed x hx, hhosts.supported hx⟩).2
  rw [ledger_visible] at hverdict
  obtain ⟨a', hstanding, -⟩ := hhosts.standing hpermitted
  obtain ⟨o', id, hverdict, ho⟩ := hverdict
  have hplays := hstanding.plays hverdict
  obtain rfl : o = o' := ho.trans (leaving_eq _ _ hplays.hasLeft)
  refine ⟨?_, hplays⟩
  cases o with
  | ok value => exact hverdict.1.ended.symm
  | error e =>
    rcases hverdict with ⟨hdone, -⟩ | ⟨hpending, -⟩
    · exact hdone.ended.symm
    · exact hpending.ended.symm

end Hosting

end PurrceptCore
