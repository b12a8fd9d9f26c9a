import PurrceptCore.Driver.Observations

set_option relaxedAutoImplicit false
set_option autoImplicit false

/-!
# The lifecycle of a run

The events of a run tell a story: the run starts, its steps follow one another, each with its
progress and its outcome, and the run ends; only a cancellation may come before the outcome of a
step. `RunLog` is such a story in full, and the events of a driver run are a prefix of one.

## Main definitions

* `PurrceptCore.StepLog`, `PurrceptCore.RunLog` — the events of a step and of a run, as data.
* `PurrceptCore.RunLog.events` — the events themselves.

## Main results

* `PurrceptCore.AgentDriver.emitted_lifecycle` — the events passed to the sink are a prefix of the
  events of a run log, progress on a finished effect's context emits nothing and raises
  `InvalidRunStateError`.
-/

namespace PurrceptCore

open Interaction

variable {V E : Type}

/-- A step that has been announced: its effect and what was reported of its progress. -/
structure StepLog (V E : Type) where
  effectId : String
  effect : E
  startedAt : Instant
  progress : List (Instant × V)

/-- The outcome of a step. -/
inductive StepOutcome (V : Type)
  | succeeded (at_ : Instant) (result : V) (elapsed : Seconds)
  | failed (at_ : Instant) (error : Exc) (elapsed : Seconds)

/-- How a run ends. -/
inductive RunEnding (V E : Type)
  | succeeded (at_ : Instant) (result : V) (elapsed : Seconds)
  | failed (at_ : Instant) (error : Exc) (elapsed : Seconds)
  | cancelled (at_ : Instant) (elapsed : Seconds)
  /-- It is cancelled before the outcome of its last step. -/
  | interrupted (step : StepLog V E) (at_ : Instant) (elapsed : Seconds)

/-- A complete run: its finished steps, in order, and its end. -/
structure RunLog (V E : Type) where
  startedAt : Instant
  steps : List (StepLog V E × StepOutcome V)
  ending : RunEnding V E

/-- The events of step `k` before its outcome. -/
def StepLog.events (runId : String) (k : ℕ) (step : StepLog V E) : List (RunEvent V E) :=
  .effectStarted runId step.startedAt step.effectId k step.effect ::
    step.progress.map fun p => .effectProgress runId p.1 step.effectId k step.effect p.2

/-- The event that reports the outcome of step `k`. -/
def StepOutcome.event (runId : String) (k : ℕ) (step : StepLog V E) :
    StepOutcome V → RunEvent V E
  | .succeeded t v d => .effectSucceeded runId t step.effectId k step.effect v d
  | .failed t e d => .effectFailed runId t step.effectId k step.effect e d

/-- The events of the finished steps, numbered from `k` on. -/
def stepEvents (runId : String) : ℕ → List (StepLog V E × StepOutcome V) → List (RunEvent V E)
  | _, [] => []
  | k, (step, outcome) :: steps =>
    step.events runId k ++ outcome.event runId k step :: stepEvents runId (k + 1) steps

/-- The events with which a run of `k` finished steps ends. -/
def RunEnding.events (runId : String) (k : ℕ) : RunEnding V E → List (RunEvent V E)
  | .succeeded t v d => [.runSucceeded runId t v d]
  | .failed t e d => [.runFailed runId t e d]
  | .cancelled t d => [.runCancelled runId t d]
  | .interrupted step t d => step.events runId k ++ [.runCancelled runId t d]

/-- The events of a complete run. -/
def RunLog.events (runId : String) (metadata : List (String × V)) (log : RunLog V E) :
    List (RunEvent V E) :=
  .runStarted runId log.startedAt metadata :: stepEvents runId 0 log.steps ++
    log.ending.events runId log.steps.length

/-- One more finished step. -/
lemma stepEvents_append (runId : String) (k : ℕ) (steps : List (StepLog V E × StepOutcome V))
    (step : StepLog V E) (outcome : StepOutcome V) :
    stepEvents runId k (steps ++ [(step, outcome)]) =
      stepEvents runId k steps ++ (step.events runId (k + steps.length) ++
        [outcome.event runId (k + steps.length) step]) := by
  induction steps generalizing k with
  | nil => rfl
  | cons x steps ih =>
    simp only [List.cons_append, stepEvents, ih, List.length_cons, List.append_assoc]
    rw [show k + 1 + steps.length = k + (steps.length + 1) by omega]

/-- The events of `k` finished steps. -/
def Between (runId : String) (metadata : List (String × V)) (k : ℕ)
    (events : List (RunEvent V E)) : Prop :=
  ∃ t steps, steps.length = k ∧
    events = .runStarted runId t metadata :: stepEvents runId 0 steps

/-- The events of `k` finished steps and of the announced step `k`. -/
def Inside (runId : String) (metadata : List (String × V)) (k : ℕ) (effectId : String) (effect : E)
    (events : List (RunEvent V E)) : Prop :=
  ∃ before t progress, Between runId metadata k before ∧
    events = before ++ StepLog.events runId k ⟨effectId, effect, t, progress⟩

/-- The events told so far are the beginning of a complete run. -/
def Told (runId : String) (metadata : List (String × V)) (events : List (RunEvent V E)) : Prop :=
  ∃ log : RunLog V E, events <+: log.events runId metadata

section Steps

variable {runId : String} {metadata : List (String × V)} {k : ℕ} {effectId : String} {effect : E}
  {events : List (RunEvent V E)}

/-- A run that has started is between steps. -/
lemma between_start (t : Instant) :
    Between (E := E) runId metadata 0 [.runStarted runId t metadata] :=
  ⟨t, [], rfl, rfl⟩

/-- Announcing a step. -/
lemma Between.effectStarted (h : Between runId metadata k events) (t : Instant) :
    Inside runId metadata k effectId effect
      (events ++ [.effectStarted runId t effectId k effect]) :=
  ⟨events, t, [], h, rfl⟩

/-- Progress of the announced step. -/
lemma Inside.effectProgress (h : Inside runId metadata k effectId effect events) (t : Instant)
    (p : V) : Inside runId metadata k effectId effect
      (events ++ [.effectProgress runId t effectId k effect p]) := by
  obtain ⟨before, t₀, progress, hb, rfl⟩ := h
  exact ⟨before, t₀, progress ++ [(t, p)], hb, by simp [StepLog.events]⟩

/-- The outcome of the announced step. -/
lemma Inside.outcome (h : Inside runId metadata k effectId effect events)
    (outcome : StepOutcome V) {event : RunEvent V E}
    (he : ∀ t progress, event = outcome.event runId k ⟨effectId, effect, t, progress⟩) :
    Between runId metadata (k + 1) (events ++ [event]) := by
  obtain ⟨before, t, progress, ⟨t₀, steps, rfl, rfl⟩, rfl⟩ := h
  refine ⟨t₀, steps ++ [(⟨effectId, effect, t, progress⟩, outcome)], by simp, ?_⟩
  rw [stepEvents_append, he t progress, Nat.zero_add]
  simp

/-- Between steps, the run may end. -/
lemma Between.ending (h : Between runId metadata k events) (ending : RunEnding V E) :
    Told runId metadata (events ++ ending.events runId k) := by
  obtain ⟨t, steps, rfl, rfl⟩ := h
  exact ⟨⟨t, steps, ending⟩, List.prefix_rfl⟩

/-- What has been told between steps. -/
lemma Between.told (h : Between runId metadata k events) : Told runId metadata events := by
  obtain ⟨log, hlog⟩ := h.ending (.cancelled 0 0)
  exact ⟨log, (List.prefix_append _ _).trans hlog⟩

/-- Inside a step, the run may be cancelled. -/
lemma Inside.cancelled (h : Inside runId metadata k effectId effect events) (t : Instant)
    (d : Seconds) : Told runId metadata (events ++ [.runCancelled runId t d]) := by
  obtain ⟨before, t₀, progress, hb, rfl⟩ := h
  rw [List.append_assoc]
  exact hb.ending (.interrupted ⟨effectId, effect, t₀, progress⟩ t d)

/-- What has been told inside a step. -/
lemma Inside.told (h : Inside runId metadata k effectId effect events) :
    Told runId metadata events := by
  obtain ⟨log, hlog⟩ := h.cancelled 0 0
  exact ⟨log, (List.prefix_append _ _).trans hlog⟩

end Steps

/-! ### Steps and contexts -/

/-- The effect id and the effect that an `EffectStarted` event announces. -/
def RunEvent.announcement : RunEvent V E → Option (String × E)
  | .effectStarted _ _ effectId _ effect => some (effectId, effect)
  | _ => none

/-- The effects that have been announced, with their ids. -/
abbrev announced : Observation V E (String × E) := emitted.filterMap RunEvent.announcement

/-- The effects handed to the executor, with the ids in their contexts. -/
abbrev handed : Observation V E (String × E) :=
  executions.filterMap fun x => some (x.2.effectId, x.1)

/-- The channels of the contexts handed to the executor. -/
abbrev channels : Observation V E ℕ := executions.filterMap fun x => some x.2.channel

/-- The executor has reported progress on the context of an effect that has finished, and has not
got an answer yet. -/
def Stale (tr : DriverTrace V E) : Prop :=
  ∃ earlier current x payload, executions tr = earlier ++ [current] ∧ x ∈ earlier ∧
    (activities tr).getLast? = some (.progress x.2.channel payload)

/-- The executor is not waiting for an answer. -/
def Calm (tr : DriverTrace V E) : Prop :=
  ∀ a payload, (activities tr).getLast? ≠ some (.progress a payload)

lemma Calm.not_stale {tr : DriverTrace V E} (h : Calm tr) : ¬Stale tr :=
  fun ⟨_, _, _, _, _, _, hact⟩ => h _ _ hact

/-- **The lifecycle.** The events told so far begin a complete run, the effects in them are those
of the run and of the executor. -/
structure Lifecycle (runId : String) (metadata : List (String × V)) (tr : DriverTrace V E) :
    Prop where
  told : Told runId metadata (emitted tr)
  handed_prefix : handed tr <+: announced tr
  announced_prefix : (announced tr).map Prod.snd <+: yields tr

namespace Lifecycle

variable {runId : String} {metadata : List (String × V)} {given : Option String}
  {tr : DriverTrace V E} {k : ℕ} {effectId : String} {effect : E}

/-- A call that is neither an emission nor the start of an execution keeps the lifecycle. -/
lemma other (h : Lifecycle runId metadata tr) (x : Σ c, Reply V E c) (he : emissionOf x = none)
    (hx : executionOf x = none) : Lifecycle runId metadata (tr ++ [x]) := by
  have hyields : yields tr <+: yields (tr ++ [x]) := by
    rw [observe_append]
    exact List.prefix_append _ _
  constructor
  · rw [observe_snoc_none _ he]
    exact h.told
  · rw [observe_snoc_none _ (Observation.filterMap_none hx),
      observe_snoc_none _ (Observation.filterMap_none he)]
    exact h.handed_prefix
  · rw [observe_snoc_none _ (Observation.filterMap_none he)]
    exact h.announced_prefix.trans hyields

/-- The monitor: every call keeps the lifecycle, and stale progress is answered by
`InvalidRunStateError`. -/
abbrev monitor (metadata : List (String × V)) (given : Option String) :
    Monitor (Call V E) (Reply V E) (DriverTrace V E) :=
  observer (fun tr c => (∀ r, ∃ runId, (∀ g, given = some g → runId = g) ∧
      Lifecycle runId metadata (tr ++ [⟨c, r⟩])) ∧
      (Stale tr → ∃ e, c = .resume (.error e) ∧ e.cls = .invalidRunStateError))
    fun c r => TotalServices c r ∧ OrdinarySink c r

/-- The assertion before an advancement of the run, with `k` finished steps. -/
structure Ready (runId : String) (metadata : List (String × V)) (k : ℕ) (tr : DriverTrace V E) :
    Prop where
  lifecycle : Lifecycle runId metadata tr
  between : Between runId metadata k (emitted tr)
  channels_eq : channels tr = List.range k
  handed_eq : handed tr = announced tr
  yields_eq : yields tr = (announced tr).map Prod.snd
  calm : Calm tr

/-- The assertion at the head of the loop: before an advancement that has come to `state`. -/
structure Head (runId : String) (metadata : List (String × V)) (k : ℕ) (state : RunState V E)
    (tr : DriverTrace V E) : Prop where
  lifecycle : Lifecycle runId metadata tr
  between : Between runId metadata k (emitted tr)
  channels_eq : channels tr = List.range k
  handed_eq : handed tr = announced tr
  yields_eq : yields tr = (announced tr).map Prod.snd ++ (yieldedEffect (.ok state)).toList
  calm : Calm tr

/-- The assertion while an executor is at work. -/
structure Working (runId : String) (metadata : List (String × V)) (k : ℕ) (effectId : String)
    (effect : E) (d : Option Exc) (r : ExecReply V) (tr : DriverTrace V E) : Prop where
  lifecycle : Lifecycle runId metadata tr
  inside : Inside runId metadata k effectId effect (emitted tr)
  latched : ∀ e, d = some e → e.cls = .eventDispatchError
  activity : (activities tr).getLast? = some r
  current : ∃ earlier context, executions tr = earlier ++ [(effect, context)] ∧
    context.channel = k ∧ (earlier.map fun x => x.2.channel) = List.range k
  handed_eq : handed tr = announced tr
  yields_eq : yields tr = (announced tr).map Prod.snd

/-- The assertion where an exception reaches the outer handlers: only a dispatch failure, a
cancellation or another exception outside `Exception` comes from inside a step. -/
structure Raised (runId : String) (metadata : List (String × V)) (e : Exc)
    (tr : DriverTrace V E) : Prop where
  lifecycle : Lifecycle runId metadata tr
  calm : Calm tr
  place : e.cls = .eventDispatchError ∨ (∃ k, Between runId metadata k (emitted tr)) ∨
    (∃ k effectId effect, Inside runId metadata k effectId effect (emitted tr)) ∧
      e.cls.isException = false

/-- An emission that announces no effect. -/
lemma emit (h : Lifecycle runId metadata tr) {event : RunEvent V E}
    (htold : Told runId metadata (emitted tr ++ [event])) (hann : event.announcement = none)
    (r : Except Exc SinkResult) : Lifecycle runId metadata (tr ++ [⟨.emit event, r⟩]) := by
  refine ⟨by simpa using htold, ?_, ?_⟩
  · simpa [hann] using h.handed_prefix
  · simpa [hann] using h.announced_prefix

/-- Announcing the effect that the run has yielded. -/
lemma emitStarted (h : Lifecycle runId metadata tr) (hb : Between runId metadata k (emitted tr))
    (hy : yields tr = (announced tr).map Prod.snd ++ [effect]) (t : Instant)
    (r : Except Exc SinkResult) :
    Lifecycle runId metadata (tr ++ [⟨.emit (.effectStarted runId t effectId k effect), r⟩]) := by
  refine ⟨by simpa using (hb.effectStarted t).told, ?_, ?_⟩
  · simpa [RunEvent.announcement] using h.handed_prefix.trans (List.prefix_append _ _)
  · simp [RunEvent.announcement, hy]

/-- Handing over the effect that was announced last. -/
lemma execute (h : Lifecycle runId metadata tr) {context : ExecutionContext V}
    (ha : announced tr = handed tr ++ [(context.effectId, effect)]) (r : ExecReply V) :
    Lifecycle runId metadata (tr ++ [⟨.execute effect context, r⟩]) := by
  refine ⟨by simpa using h.told, ?_, ?_⟩
  · simp [ha]
  · simpa using h.announced_prefix

section Rules

variable (hrun : ∀ g, given = some g → runId = g)
include hrun

/-- A call that keeps the lifecycle is allowed, unless a stale report waits for its answer. -/
lemma allows {c : Call V E} (hst : ¬Stale tr)
    (h : ∀ r, Lifecycle runId metadata (tr ++ [⟨c, r⟩])) : (monitor metadata given).allow tr c :=
  .inr ⟨fun r => ⟨runId, hrun, h r⟩, fun hs => absurd hs hst⟩

/-- Emitting an event that continues the lifecycle. -/
lemma reports {f : Instant → Seconds → RunEvent V E} {K : DriverTrace V E → Prop}
    {raise : Exc → DriverTrace V E → Prop} (hst : ¬Stale tr)
    (h : ∀ t d r, Lifecycle runId metadata (tr ++ [⟨.emit (f t d), r⟩]))
    (hK : ∀ t d r, K (tr ++ [⟨.emit (f t d), r⟩]))
    (hraise : ∀ t d r e, e.cls = .eventDispatchError → raise e (tr ++ [⟨.emit (f t d), r⟩])) :
    Reports (monitor metadata given) tr f K raise where
  service e he := absurd he (TotalServices.not_raises fun _ _ h => h.1)
  emits t d := {
    allow := allows hrun hst fun r => h t d r
    delivered := by
      intro r _ _
      rw [observer_next rfl]
      exact hK t d r
    failed := by
      intro r d' _ _ hd
      rw [observer_next rfl]
      exact hraise t d r d' hd
    escaped := by
      intro e he hx
      have hord : e.cls.isException = true := he.2
      rw [hx] at hord
      cases hord }

/-- Closing the run. -/
lemma closes {K : DriverTrace V E → Prop} (hst : ¬Stale tr) (h : Lifecycle runId metadata tr)
    (hK : ∀ r, K (tr ++ [⟨.close, r⟩])) : Closes (monitor metadata given) tr K := by
  refine ⟨allows hrun hst fun r => h.other _ rfl rfl, fun r _ => ?_⟩
  rw [observer_next rfl]
  exact hK r

end Rules

/-! ### The steps of a run -/

variable {x : Σ c, Reply V E c}

/-- A call that is no activity of the executor leaves it calm. -/
lemma calm_snoc (h : Calm tr) (hx : activityOf x = none) : Calm (tr ++ [x]) := by
  unfold Calm
  rw [observe_snoc_none _ hx]
  exact h

/-- An exception raised between steps. -/
lemma Ready.raised (h : Ready runId metadata k tr) (e : Exc) : Raised runId metadata e tr :=
  ⟨h.lifecycle, h.calm, .inr (.inl ⟨k, h.between⟩)⟩

/-- An exception raised at the head of the loop. -/
lemma Head.raised {state : RunState V E} (h : Head runId metadata k state tr) (e : Exc) :
    Raised runId metadata e tr :=
  ⟨h.lifecycle, h.calm, .inr (.inl ⟨k, h.between⟩)⟩

/-- Advancing the run. -/
lemma Ready.advances (h : Ready runId metadata k tr) (hrun : ∀ g, given = some g → runId = g)
    {c : Call V E} {read : Reply V E c → Except Exc (RunState V E)} (hc : c.isService = false)
    (he : ∀ r, emissionOf ⟨c, r⟩ = none) (hx : ∀ r, executionOf ⟨c, r⟩ = none)
    (ha : ∀ r, activityOf ⟨c, r⟩ = none) (hr : ∀ r, advancementOf ⟨c, r⟩ = some (read r)) :
    Advances (monitor metadata given) tr c read (Head runId metadata k)
      (Raised runId metadata) where
  allow := allows hrun h.calm.not_stale fun r => h.lifecycle.other _ (he r) (hx r)
  reply r _ := by
    have hl := h.lifecycle.other _ (he r) (hx r)
    have hcalm := calm_snoc h.calm (ha r)
    have hbetween : Between runId metadata k (emitted (tr ++ [⟨c, r⟩])) := by
      rw [observe_snoc_none _ (he r)]
      exact h.between
    rw [observer_next hc]
    cases hread : read r with
    | error e => exact ⟨hl, hcalm, .inr (.inl ⟨k, hbetween⟩)⟩
    | ok state =>
      refine ⟨hl, hbetween, ?_, ?_, ?_, hcalm⟩
      · rw [observe_snoc_none _ (Observation.filterMap_none (hx r))]
        exact h.channels_eq
      · rw [observe_snoc_none _ (Observation.filterMap_none (hx r)),
          observe_snoc_none _ (Observation.filterMap_none (he r))]
        exact h.handed_eq
      · rw [observe_snoc_none announced (Observation.filterMap_none (he r)), observe_append,
          observe_cons, Observation.filterMap_of, advancements_of, hr, hread, h.yields_eq,
          Option.bind_some, observe_nil, List.append_nil]

/-- The first event. -/
lemma ready_start (t : Instant) (r : Except Exc SinkResult) :
    Ready (E := E) runId metadata 0 [⟨.emit (.runStarted runId t metadata), r⟩] where
  lifecycle := ⟨(between_start t).told, List.prefix_rfl, List.prefix_rfl⟩
  between := between_start t
  channels_eq := rfl
  handed_eq := rfl
  yields_eq := rfl
  calm _ _ h := nomatch h

/-- Announcing the effect the run has yielded, and handing it to the executor. -/
lemma Head.executes {host : V} (h : Head runId metadata k (.yielded effect) tr)
    (hrun : ∀ g, given = some g → runId = g) (effectId : String) :
    Reports (monitor metadata given) tr (fun t _ => .effectStarted runId t effectId k effect)
      (fun tr' => (monitor metadata given).allow tr'
          (.execute effect ⟨runId, effectId, k, host, metadata, k⟩) ∧
        ∀ r, (monitor metadata given).expect tr'
            (.execute effect ⟨runId, effectId, k, host, metadata, k⟩) r →
          Working runId metadata k effectId effect none r ((monitor metadata given).next tr'
            (.execute effect ⟨runId, effectId, k, host, metadata, k⟩) r))
      (Raised runId metadata) := by
  have hyields : yields tr = (announced tr).map Prod.snd ++ [effect] := h.yields_eq
  have hl : ∀ t r, Lifecycle runId metadata
      (tr ++ [⟨.emit (.effectStarted runId t effectId k effect), r⟩]) :=
    fun t r => h.lifecycle.emitStarted h.between hyields t r
  have hcalm : ∀ t r, Calm (tr ++ [⟨.emit (.effectStarted runId t effectId k effect), r⟩]) :=
    fun t r => calm_snoc h.calm rfl
  refine reports hrun h.calm.not_stale (fun t _ r => hl t r) (fun t _ r => ?_)
    fun t _ r e he => ⟨hl t r, hcalm t r, .inl he⟩
  have hann : announced (tr ++ [⟨.emit (.effectStarted runId t effectId k effect), r⟩]) =
      announced tr ++ [(effectId, effect)] := by
    simp [RunEvent.announcement]
  have hexec : ∀ r', Lifecycle runId metadata
      ((tr ++ [⟨.emit (.effectStarted runId t effectId k effect), r⟩]) ++
        [⟨.execute effect ⟨runId, effectId, k, host, metadata, k⟩, r'⟩]) := by
    refine fun r' => (hl t r).execute ?_ r'
    rw [hann, ← h.handed_eq]
    simp
  refine ⟨allows hrun (hcalm t r).not_stale hexec, fun r' _ => ?_⟩
  rw [observer_next rfl]
  exact
    { lifecycle := hexec r'
      inside := by simpa using h.between.effectStarted t
      latched := fun e he => by cases he
      activity := by simp
      current := by
        refine ⟨executions tr, ⟨runId, effectId, k, host, metadata, k⟩, by simp, rfl, ?_⟩
        rw [← h.channels_eq, observe_filterMap, List.filterMap_eq_map']
      handed_eq := by simp [RunEvent.announcement, h.handed_eq]
      yields_eq := by simp [RunEvent.announcement, hyields] }

/-- Progress on the open channel, or none at all, is not stale. -/
lemma Working.not_stale {d : Option Exc} {r : ExecReply V}
    (h : Working runId metadata k effectId effect d r tr)
    (hr : ∀ a p, r = .progress a p → a = k) : ¬Stale tr := by
  rintro ⟨earlier, current, x, p, hexec, hx, hact⟩
  obtain ⟨earlier', context, hexec', -, hchannels⟩ := h.current
  rw [hexec] at hexec'
  obtain ⟨rfl, -⟩ := List.append_inj' hexec' rfl
  rw [h.activity, Option.some.injEq] at hact
  have hlt : x.2.channel < k := by
    rw [← List.mem_range, ← hchannels]
    exact List.mem_map_of_mem hx
  exact absurd (hr _ p hact) (by omega)

/-- Handing an outcome to the executor. -/
lemma Working.resumes {d d' : Option Exc} {r : ExecReply V} {o : Except Exc Unit}
    (h : Working runId metadata k effectId effect d r tr) (hrun : ∀ g, given = some g → runId = g)
    (hd : ∀ e, d' = some e → e.cls = .eventDispatchError)
    (hst : Stale tr → ∃ e, o = .error e ∧ e.cls = .invalidRunStateError) :
    Resumes (monitor metadata given) tr o (Working runId metadata k effectId effect d') := by
  refine ⟨.inr ⟨fun r => ⟨runId, hrun, h.lifecycle.other _ rfl rfl⟩, fun hs => ?_⟩, fun r _ => ?_⟩
  · obtain ⟨e, rfl, he⟩ := hst hs
    exact ⟨e, rfl, he⟩
  · rw [observer_next rfl]
    exact
      { lifecycle := h.lifecycle.other _ rfl rfl
        inside := by rw [observe_snoc_none _ rfl]; exact h.inside
        latched := hd
        activity := by simp
        current := by rw [observe_snoc_none _ rfl]; exact h.current
        handed_eq := by
          rw [observe_snoc_none handed rfl, observe_snoc_none announced rfl, h.handed_eq]
        yields_eq := by
          rw [observe_snoc_none yields rfl, observe_snoc_none announced rfl, h.yields_eq] }

/-- Reporting progress. -/
lemma Working.emitProgress {d : Option Exc} {p : V}
    (h : Working runId metadata k effectId effect d (.progress k p) tr) (t : Instant)
    (r : Except Exc SinkResult) : Working runId metadata k effectId effect d (.progress k p)
      (tr ++ [⟨.emit (.effectProgress runId t effectId k effect p), r⟩]) where
  lifecycle := h.lifecycle.emit (h.inside.effectProgress t p).told rfl r
  inside := by simpa using h.inside.effectProgress t p
  latched := h.latched
  activity := by rw [observe_snoc_none _ rfl]; exact h.activity
  current := by rw [observe_snoc_none _ rfl]; exact h.current
  handed_eq := by rw [observe_snoc_none handed rfl, observe_snoc_none announced rfl, h.handed_eq]
  yields_eq := by rw [observe_snoc_none yields rfl, observe_snoc_none announced rfl, h.yields_eq]

/-- The steps of an executor at work. -/
lemma progresses (hrun : ∀ g, given = some g → runId = g) (k : ℕ) (effectId : String)
    (effect : E) :
    Progresses (monitor metadata given) k ⟨runId, effectId, k, effect, true, none⟩
      (Working runId metadata k effectId effect) where
  stale d a p tr ha h e he := h.resumes hrun h.latched fun _ => ⟨e, rfl, he⟩
  latched d p tr h := h.resumes hrun h.latched fun hs => by
    refine absurd hs (h.not_stale ?_)
    rintro a p ⟨⟩
    rfl
  fresh p tr h := by
    have hfresh : ∀ a p', ExecReply.progress k p = .progress a p' → a = k := by
      rintro a p' ⟨⟩
      rfl
    refine reports hrun (h.not_stale hfresh) (fun t _ r => (h.emitProgress t r).lifecycle)
      (fun t _ r => ?_) fun t _ r e he => ?_
    · have hnext := h.emitProgress t r
      exact hnext.resumes hrun (fun _ he => by cases he) fun hs =>
        absurd hs (hnext.not_stale hfresh)
    · have hnext := h.emitProgress t r
      refine hnext.resumes hrun ?_ fun hs => absurd hs (hnext.not_stale hfresh)
      intro e' he'
      rw [latch, if_pos he, Option.some.injEq] at he'
      rw [← he', he]

/-- The executor has ended, so it waits for no answer. -/
lemma Working.calm {d : Option Exc} {o : Except Exc V}
    (h : Working runId metadata k effectId effect d (.done o) tr) : Calm tr := by
  intro a p ha
  rw [h.activity] at ha
  cases ha

/-- An effect that was not the run's to see ends the run from inside the step. -/
lemma Working.raised {d : Option Exc} {o : Except Exc V}
    (h : Working runId metadata k effectId effect d (.done o) tr) {e : Exc}
    (he : e.cls.isException = false ∨ e.cls = .eventDispatchError) : Raised runId metadata e tr :=
  ⟨h.lifecycle, h.calm, he.elim (fun hx => .inr (.inr ⟨⟨k, effectId, effect, h.inside⟩, hx⟩)) .inl⟩

/-- Reporting the outcome of a step. -/
lemma Working.reportOutcome {d : Option Exc} {o : Except Exc V}
    {f : Instant → Seconds → RunEvent V E}
    {c : Call V E} {read : Reply V E c → Except Exc (RunState V E)}
    (h : Working runId metadata k effectId effect d (.done o) tr)
    (hrun : ∀ g, given = some g → runId = g) (outcome : Instant → Seconds → StepOutcome V)
    (hf : ∀ t x t₀ progress, f t x = (outcome t x).event runId k ⟨effectId, effect, t₀, progress⟩)
    (hann : ∀ t x, (f t x).announcement = none) (hc : c.isService = false)
    (he : ∀ r, emissionOf ⟨c, r⟩ = none) (hx : ∀ r, executionOf ⟨c, r⟩ = none)
    (ha : ∀ r, activityOf ⟨c, r⟩ = none) (hr : ∀ r, advancementOf ⟨c, r⟩ = some (read r)) :
    Reports (monitor metadata given) tr f
      (fun tr' => Advances (monitor metadata given) tr' c read (Head runId metadata (k + 1))
        (Raised runId metadata)) (Raised runId metadata) := by
  have ready : ∀ t x r, Ready runId metadata (k + 1) (tr ++ [⟨.emit (f t x), r⟩]) := by
    intro t x r
    have hbetween := h.inside.outcome (outcome t x) (hf t x)
    obtain ⟨earlier, context, hexec, hk, hchannels⟩ := h.current
    have hsame : announced (tr ++ [⟨.emit (f t x), r⟩]) = announced tr :=
      observe_snoc_none _ (hann t x)
    exact
      { lifecycle := h.lifecycle.emit hbetween.told (hann t x) r
        between := by simpa using hbetween
        channels_eq := by
          rw [observe_snoc_none channels rfl, observe_filterMap, hexec, List.filterMap_append,
            List.filterMap_eq_map', hchannels, List.range_succ, ← hk]
          rfl
        handed_eq := by rw [observe_snoc_none handed rfl, hsame, h.handed_eq]
        yields_eq := by rw [observe_snoc_none yields rfl, hsame, h.yields_eq]
        calm := calm_snoc h.calm rfl }
  exact reports hrun h.calm.not_stale (fun t x r => (ready t x r).lifecycle)
    (fun t x r => (ready t x r).advances hrun hc he hx ha hr)
    fun t x r e _ => (ready t x r).raised e

/-- The handler of cancellations: the run is closed, and cancelled between steps or inside one. -/
lemma Raised.cancelled {e : Exc} (h : Raised runId metadata e tr)
    (hrun : ∀ g, given = some g → runId = g) (he : e.cls = .cancelledError) :
    Closes (monitor metadata given) tr fun tr' =>
      Reports (monitor metadata given) tr' (fun t d => .runCancelled runId t d) Calm
        fun _ => Calm := by
  refine closes hrun h.calm.not_stale h.lifecycle fun r => ?_
  have htold : ∀ t d, Told runId metadata (emitted tr ++ [.runCancelled runId t d]) := by
    intro t d
    rcases h.place with hd | ⟨k, hk⟩ | ⟨⟨k, effectId, effect, hk⟩, -⟩
    · rw [he] at hd
      cases hd
    · exact hk.ending (.cancelled t d)
    · exact hk.cancelled t d
  have hclosed : Lifecycle runId metadata (tr ++ [⟨.close, r⟩]) := h.lifecycle.other _ rfl rfl
  have hcalm := calm_snoc (x := ⟨.close, r⟩) h.calm rfl
  refine reports hrun hcalm.not_stale (fun t d r' => hclosed.emit ?_ rfl r')
    (fun t d r' => calm_snoc hcalm rfl) fun t d r' _ _ => calm_snoc hcalm rfl
  rw [observe_snoc_none _ rfl]
  exact htold t d

/-- The handler of ordinary exceptions: the run fails between steps, and is closed. -/
lemma Raised.failed {e : Exc} (h : Raised runId metadata e tr)
    (hrun : ∀ g, given = some g → runId = g) (hx : e.cls.isException = true)
    (hd : e.cls ≠ .eventDispatchError) :
    Reports (monitor metadata given) tr (fun t d => .runFailed runId t e d)
      (fun tr' => Closes (monitor metadata given) tr' Calm)
      fun _ tr' => Closes (monitor metadata given) tr' Calm := by
  have hl : ∀ t d r, Lifecycle runId metadata (tr ++ [⟨.emit (.runFailed runId t e d), r⟩]) := by
    intro t d r
    refine h.lifecycle.emit ?_ rfl r
    rcases h.place with hd' | ⟨k, hk⟩ | ⟨-, hx'⟩
    · exact absurd hd' hd
    · exact hk.ending (.failed t e d)
    · rw [hx] at hx'
      cases hx'
  have hclose : ∀ t d r, Closes (monitor metadata given)
      (tr ++ [⟨.emit (.runFailed runId t e d), r⟩]) Calm := by
    intro t d r
    have hcalm := calm_snoc (x := ⟨.emit (.runFailed runId t e d), r⟩) h.calm rfl
    exact closes hrun hcalm.not_stale (hl t d r) fun r' => calm_snoc hcalm rfl
  exact reports hrun h.calm.not_stale hl hclose fun t d r _ _ => hclose t d r

/-- **Proof outline.** -/
def outline (hrun : ∀ g, given = some g → runId = g) (host : V) :
    Outline (E := E) (monitor metadata given) runId host metadata (fun _ => Calm) [] where
  head := Head runId metadata
  working := Working runId metadata
  raised := Raised runId metadata
  started := by
    refine reports hrun (fun ⟨_, _, _, _, _, _, hact⟩ => nomatch hact)
      (fun t _ r => (ready_start t r).lifecycle) (fun t _ r => ?_)
      fun t _ r e _ => (ready_start t r).raised e
    exact (ready_start t r).advances hrun rfl (fun _ => rfl) (fun _ => rfl) (fun _ => rfl)
      fun _ => rfl
  returned k v tr h := by
    have hl : ∀ t d r, Lifecycle runId metadata
        (tr ++ [⟨.emit (.runSucceeded runId t v d), r⟩]) :=
      fun t d r => h.lifecycle.emit (h.between.ending (.succeeded t v d)) rfl r
    refine reports hrun h.calm.not_stale hl (fun t d r => calm_snoc h.calm rfl)
      fun t d r e he => ⟨hl t d r, calm_snoc h.calm rfl, .inl he⟩
  unsupported k n tr h e _ := h.raised e
  yielded k effect tr h effectId := h.executes hrun effectId
  progress := progresses hrun
  aborted k effectId effect d o tr h e ho he := h.raised he
  effectFailed k effectId effect d o tr h e ho hx hd :=
    h.reportOutcome hrun (fun t x => .failed t e x) (fun _ _ _ _ => rfl) (fun _ _ => rfl) rfl
      (fun _ => rfl) (fun _ => rfl) (fun _ => rfl) fun _ => rfl
  effectSucceeded k effectId effect d o tr h v ho :=
    h.reportOutcome hrun (fun t x => .succeeded t v x) (fun _ _ _ _ => rfl) (fun _ _ => rfl) rfl
      (fun _ => rfl) (fun _ => rfl) (fun _ => rfl) fun _ => rfl
  cancelled e tr h he := h.cancelled hrun he
  closed e tr h _ := closes hrun h.calm.not_stale h.lifecycle fun _ => calm_snoc h.calm rfl
  failed e tr h hx hd := h.failed hrun hx hd

/-- The driver keeps to the monitor. -/
lemma keeps (fuel : ℕ) (host : V) (metadata : List (String × V)) (given : Option String) :
    Routine.wp (monitor (E := E) metadata given) (AgentDriver.run fuel host metadata given)
      (Outline.Post fun _ => Calm) AgentDriver.initialState [] :=
  Outline.wp_run given (fun _ hrun => outline hrun host)
    (fun _ he => absurd he (TotalServices.not_raises fun _ _ h => h.1)) fun _ _ _ h => h

/-- Service calls do not show in the lifecycle. -/
lemma of_visible (h : Lifecycle runId metadata (visible tr)) : Lifecycle runId metadata tr := by
  obtain ⟨htold, hhanded, hann⟩ := h
  simp only [observe_visible] at htold hhanded hann
  exact ⟨htold, hhanded, hann⟩

/-- Before the first call. -/
lemma nil : Lifecycle (E := E) runId metadata [] :=
  ⟨⟨⟨0, [], .cancelled 0 0⟩, List.nil_prefix⟩, List.prefix_rfl, List.prefix_rfl⟩

end Lifecycle

namespace AgentDriver

variable {host : V} {metadata : List (String × V)} {given : Option String}
  {tr : DriverTrace V E}
  {q : Prog (Call V E) (Reply V E) (Except Exc V × DriverState E)}

/-- **The lifecycle of a run.** Let the clocks and the id factory be total, and let the sink raise
ordinary exceptions only. Then the events passed to the sink begin a complete run with one run id,
and the effects they announce are those yielded and those handed to the executor. Progress on the
context of a finished effect leads to no emission: what follows is `InvalidRunStateError`, handed to
the executor, and after the run there is nothing else.

**Proof sketch.** The observer's condition holds at every call by the outline, and each call
extends the lifecycle by one event at most, so induction on the trace applies. -/
theorem emitted_lifecycle (h : DriverRuns host metadata given tr q)
    (htotal : ∀ x ∈ tr, TotalServices x.1 x.2) (hsink : ∀ x ∈ tr, OrdinarySink x.1 x.2) :
    (∃ runId, (∀ g, given = some g → runId = g) ∧ Lifecycle runId metadata tr) ∧
    (Stale tr → (∀ o, q ≠ .ret o) ∧ ∀ c k, q = .call c k → c.isService = true ∨
      ∃ e, c = .resume (.error e) ∧ e.cls = .invalidRunStateError) ∧
    (∀ o s, q = .ret (o, s) → ∀ a payload, ∃ (e : Exc) (s' : DriverState E),
      reportProgress (V := V) a payload s = .ret (.error e, s') ∧
        e.cls = .invalidRunStateError) := by
  have hexpect : ∀ x ∈ tr, TotalServices x.1 x.2 ∧ OrdinarySink x.1 x.2 :=
    fun x hx => ⟨htotal x hx, hsink x hx⟩
  have hstale : Stale tr ↔ Stale (visible tr) := by simp only [Stale, observe_visible]
  refine ⟨?_, fun hst => ⟨?_, ?_⟩, ?_⟩
  · obtain ⟨fuel, hx⟩ := h
    refine hx.trace_induction (I := fun tr => (∀ x ∈ tr, TotalServices x.1 x.2 ∧
      OrdinarySink x.1 x.2) → ∃ runId, (∀ g, given = some g → runId = g) ∧
        Lifecycle runId metadata tr) ?_ ?_ hexpect
    · exact fun _ => ⟨given.getD "", fun g hg => by rw [hg]; rfl, Lifecycle.nil⟩
    · intro tr c k r hk ih hexpect
      have hbefore : ∀ x ∈ tr, TotalServices x.1 x.2 ∧ OrdinarySink x.1 x.2 :=
        fun x hx => hexpect x (List.mem_append_left _ hx)
      cases hc : c.isService with
      | true =>
        obtain ⟨runId, hrun, hl⟩ := ih hbefore
        exact ⟨runId, hrun, hl.other _ (emitted.service _ hc) (executions.service _ hc)⟩
      | false =>
        have hallow := DriverRuns.call ⟨fuel, hk⟩
          (fun fuel => Lifecycle.keeps fuel host metadata given) hbefore hc
        obtain ⟨runId, hrun, hl⟩ := hallow.1 r
        rw [← visible_snoc r hc] at hl
        exact ⟨runId, hrun, hl.of_visible⟩
  · rintro ⟨o, s⟩ rfl
    exact (h.ret (fun fuel => Lifecycle.keeps fuel host metadata given) hexpect).2.not_stale
      (hstale.1 hst)
  · rintro c k rfl
    cases hc : c.isService with
    | true => exact .inl rfl
    | false =>
      have hallow := h.call (fun fuel => Lifecycle.keeps fuel host metadata given) hexpect hc
      exact .inr (hallow.2 (hstale.1 hst))
  · rintro o s rfl a payload
    have hfin := (h.ret (fun fuel => Lifecycle.keeps fuel host metadata given) hexpect).1
    obtain ⟨e, s', heq, he, -⟩ := reportProgress_finished (p := payload) (hfin a)
    exact ⟨e, s', heq, he⟩

/-- A flow that yields one effect, whose executor reports progress once. -/
def reportingRun : Collaborators Unit Unit :=
  { Collaborators.plain with
    executor
      | none => .progress 0 ()
      | some _ => .done (.ok ()) }

lemma reportingRun_ordinary (event : RunEvent Unit Unit) (e : Exc)
    (h : reportingRun.sink event = .error e) : e.cls.isException = true := nomatch h

/-- The events of that run. -/
theorem emitted_lifecycle_reportingRun :
    (∃ runId, (∀ g, some "run" = some g → runId = g) ∧
      Lifecycle runId [] (reportingRun.play () [] (some "run") 20).1) ∧
    (emitted (reportingRun.play () [] (some "run") 20).1).map RunEvent.typeName =
      ["RunStarted", "EffectStarted", "EffectProgress", "EffectSucceeded", "RunSucceeded"] :=
  ⟨(emitted_lifecycle (reportingRun.runs () [] (some "run") 20)
    (fun _ hx => Collaborators.total hx)
    fun _ hx => Collaborators.ordinary reportingRun_ordinary hx).1, rfl⟩

end AgentDriver

end PurrceptCore
