import PurrceptCore.Driver.DrivenFlows
import PurrceptCore.Driver.GeneratorLife
import PurrceptCore.Interaction.Possible

set_option relaxedAutoImplicit false
set_option autoImplicit false

/-!
# The runs of a flow

Every play of a flow is one that the driver can run: an executor with the outcomes of the play makes
it end as the play does.

## Main definitions

* `PurrceptCore.Staged` — a driver trace over a generator, with the effects and outcomes so far.

## Main results

* `PurrceptCore.driven_flow_iff` — what the driver can make of a flow is what the flow can play.

## Design

* In the runs that are built here the clocks stand still and the executor reports no progress.
-/

namespace PurrceptCore

open Interaction

variable {S V E : Type}

/-! ### Advancing the adapter -/

section Adapter

variable [DecidableEq V] {none : V} {body : GeneratorBody S V E} {frame : S}

variable (none body) in
/-- A method that is called in the right state advances the generator. -/
lemma Adapted.exists_advancement (a : Adapted (Generator S)) (op : RunOp V) {operation : String}
    (hrequired : op.required = some (a.state, operation)) (step : BodyStep S V E)
    (hstart : op = .start → Generator.reply none body a.generator .next = step.settle)
    (hsend : ∀ value, op = .send value →
      Generator.reply none body a.generator (.send value) = step.settle)
    (hthrow : ∀ error, op = .throw error →
      Generator.reply none body a.generator (.throw error) = step.settle) : ∃ received,
      a.Step (Generator.reply none body) ⟨op, step.settle.1.outcome.map some, received⟩
        (.after step) := by
  obtain ⟨call, a', rfl, h⟩ := a.exists_step (Generator.reply none body) op
  obtain ⟨op, outcome, received⟩ := call
  have hread : ∃ r : Except Exc (RunState V E), outcome = r.map some := by
    have hperformed := RunOp.performed h.1
    dsimp only at hperformed
    generalize a.state = state, a'.state = state' at hperformed
    cases hperformed with
    | rejected => exact ⟨.error _, rfl⟩
    | started step | sent _ step | thrown _ step => exact ⟨step.outcome, rfl⟩
    | ended | closed => cases hrequired
  obtain ⟨r, rfl⟩ := hread
  obtain ⟨rfl, rfl⟩ := h.resumed hrequired step hstart hsend hthrow
  exact ⟨received, h⟩

variable {tr : DriverTrace V E} {a : Adapted (Generator S)} {log : List (E × Except Exc V)}

variable (none body frame) in
/-- **A flow on its way** in a driver trace: the adapter is as given, and so are the effects with
their outcomes. -/
structure Staged (a : Adapted (Generator S)) (log : List (E × Except Exc V))
    (tr : DriverTrace V E) : Prop where
  hosts : Hosts none body frame tr a
  executed : executed tr = log.map Prod.fst
  outcomes : outcomes tr = log.map Prod.snd

lemma staged_nil : Staged none body frame ⟨.created, .created frame⟩ [] [] := ⟨.begin, rfl, rfl⟩

namespace Staged

/-- A call of the driver that is made neither of the agent run nor of the executor. -/
lemma quiet {call : Call V E} {r : Reply V E call} (h : Staged none body frame a log tr)
    (hrun : Call.ofRun call = false) (hexecution : executionOf ⟨call, r⟩ = Option.none)
    (hactivity : activityOf ⟨call, r⟩ = Option.none) :
    Staged none body frame a log (tr ++ [⟨call, r⟩]) where
  hosts := h.hosts.other hrun
  executed := (observe_snoc_none _ (Observation.filterMap_none hexecution)).trans h.executed
  outcomes := (observe_snoc_none _ (Observation.filterMap_none hactivity)).trans h.outcomes

/-- The executor comes to an outcome. -/
lemma execute (h : Staged none body frame a log tr) (effect : E) (context : ExecutionContext V)
    (outcome : Except Exc V) : Staged none body frame a (log ++ [(effect, outcome)])
      (tr ++ [⟨.execute effect context, .done outcome⟩]) where
  hosts := h.hosts.other rfl
  executed := by simp [h.executed]
  outcomes := by simp [h.outcomes]

/-- The generator is advanced. -/
lemma advanced {call : Call V E} {r : Reply V E call} {a' : Adapted (Generator S)}
    (h : Staged none body frame a log tr) (hhosts : Hosts none body frame (tr ++ [⟨call, r⟩]) a')
    (hexecution : executionOf ⟨call, r⟩ = Option.none)
    (hactivity : activityOf ⟨call, r⟩ = Option.none) :
    Staged none body frame a' log (tr ++ [⟨call, r⟩]) where
  hosts := hhosts
  executed := (observe_snoc_none _ (Observation.filterMap_none hexecution)).trans h.executed
  outcomes := (observe_snoc_none _ (Observation.filterMap_none hactivity)).trans h.outcomes

end Staged

end Adapter

namespace AgentDriver

open Routine

variable [DecidableEq V] {none : V} {body : GeneratorBody S V E} {frame : S}
  {tr : DriverTrace V E} {a : Adapted (Generator S)} {log : List (E × Except Exc V)}
  {s : DriverState E}

/-! ### The calls of the driver -/

/-- Reading a clock, or asking for an id. -/
lemma clock_can {K : Except Exc Instant → DriverState E → DriverTrace V E → Prop}
    (h : Staged none body frame a log tr)
    (hK : ∀ t tr', Staged none body frame a log tr' → K (.ok t) s tr') :
    can Undisturbed clock K s tr :=
  (can_bind ..).2 ⟨.ok 0, ⟨_, rfl⟩, hK 0 _ (h.quiet rfl rfl rfl)⟩

lemma monotonic_can {K : Except Exc Seconds → DriverState E → DriverTrace V E → Prop}
    (h : Staged none body frame a log tr)
    (hK : ∀ t tr', Staged none body frame a log tr' → K (.ok t) s tr') :
    can Undisturbed monotonic K s tr :=
  (can_bind ..).2 ⟨.ok 0, ⟨_, rfl⟩, hK 0 _ (h.quiet rfl rfl rfl)⟩

lemma idFactory_can {K : Except Exc String → DriverState E → DriverTrace V E → Prop}
    (h : Staged none body frame a log tr)
    (hK : ∀ id tr', Staged none body frame a log tr' → K (.ok id) s tr') :
    can Undisturbed idFactory K s tr :=
  (can_bind ..).2 ⟨.ok "id", ⟨_, rfl⟩, hK _ _ (h.quiet rfl rfl rfl)⟩

/-- Emitting an event that the sink accepts. -/
lemma emit_can {event : RunEvent V E}
    {K : Except Exc Unit → DriverState E → DriverTrace V E → Prop}
    (h : Staged none body frame a log tr)
    (hK : ∀ tr', Staged none body frame a log tr' → K (.ok ()) s tr') :
    can Undisturbed (emit event) K s tr := by
  unfold emit
  rw [can_tryCatch, can_bind]
  exact ⟨.ok .none, rfl, hK _ (h.quiet rfl rfl rfl)⟩

/-- Reading both clocks. -/
lemma clocks_can {α : Type} {x : Instant → Seconds → DriverM V E α}
    {K : Except Exc α → DriverState E → DriverTrace V E → Prop}
    (h : Staged none body frame a log tr)
    (hK : ∀ t t' tr', Staged none body frame a log tr' → can Undisturbed (x t t') K s tr') :
    can Undisturbed (do
      let t ← clock
      let t' ← monotonic
      x t t') K s tr := by
  rw [can_bind]
  refine clock_can h fun t tr h => ?_
  rw [onOk_ok, can_bind]
  exact monotonic_can h (hK t)

/-- Closing the run. -/
lemma closePreserving_can {error : Exc}
    {K : Except Exc Unit → DriverState E → DriverTrace V E → Prop}
    (h : Staged none body frame a log tr)
    (hK : ∀ a' tr', Staged none body frame a' log tr' → K (.ok ()) s tr') :
    can Undisturbed (closePreserving error) K s tr := by
  obtain ⟨⟨op, outcome, received⟩, a', rfl, hstep⟩ :=
    a.exists_step (Generator.reply none body) .close
  have hclosed : ∃ r : Except Exc Unit, outcome = r.map fun _ => Option.none := by
    rcases hstep.of_close rfl with ⟨-, houtcome, -⟩ | ⟨-, r, -, houtcome, -⟩
    · exact ⟨.ok (), houtcome⟩
    · exact ⟨r, houtcome⟩
  obtain ⟨r, rfl⟩ := hclosed
  have hstaged : Staged none body frame a' log (tr ++ [⟨.close, r⟩]) :=
    h.advanced (h.hosts.close hstep) rfl rfl
  unfold closePreserving
  rw [can_bind]
  refine (can_call ..).2 ⟨r, trivial, ?_⟩
  rw [onOk_ok]
  cases r with
  | ok => exact hK _ _ hstaged
  | error closeError => exact ⟨(), trivial, hK _ _ (hstaged.quiet rfl rfl rfl)⟩

/-- Starting the run. -/
lemma start_can {K : Except Exc (RunState V E) → DriverState E → DriverTrace V E → Prop}
    (h : Staged none body frame ⟨.created, .created frame⟩ log tr)
    (hK : ∀ tr', Staged none body frame (.after (body frame .enter)) log tr' →
      K (body frame .enter).settle.1.outcome s tr') :
    can Undisturbed start K s tr := by
  obtain ⟨received, hstep⟩ := Adapted.exists_advancement none body
    ⟨.created, .created frame⟩ .start rfl (body frame .enter) (fun _ => rfl)
    (fun _ h => by cases h) fun _ h => by cases h
  rw [start, can_bind]
  exact ⟨_, trivial, hK _ (h.advanced (h.hosts.start hstep) rfl rfl)⟩

/-- Sending a value. -/
lemma send_can {K : Except Exc (RunState V E) → DriverState E → DriverTrace V E → Prop}
    {frame' : S} {value : V} (h : Staged none body frame ⟨.running, .suspended frame'⟩ log tr)
    (hK : ∀ tr', Staged none body frame (.after (body frame' (.value value))) log tr' →
      K (body frame' (.value value)).settle.1.outcome s tr') :
    can Undisturbed (send value) K s tr := by
  obtain ⟨received, hstep⟩ := Adapted.exists_advancement none body
    ⟨.running, .suspended frame'⟩ (.send value) rfl (body frame' (.value value))
    (fun h => by cases h) (fun _ h => by cases h; rfl) fun _ h => by cases h
  rw [send, can_bind]
  exact ⟨_, trivial, hK _ (h.advanced (h.hosts.send hstep) rfl rfl)⟩

/-- Throwing an exception. -/
lemma throwInto_can {K : Except Exc (RunState V E) → DriverState E → DriverTrace V E → Prop}
    {frame' : S} {error : Exc} (h : Staged none body frame ⟨.running, .suspended frame'⟩ log tr)
    (hK : ∀ tr', Staged none body frame (.after (body frame' (.error error))) log tr' →
      K (body frame' (.error error)).settle.1.outcome s tr') :
    can Undisturbed (throwInto error) K s tr := by
  obtain ⟨received, hstep⟩ := Adapted.exists_advancement none body
    ⟨.running, .suspended frame'⟩ (.throw error) rfl (body frame' (.error error))
    (fun h => by cases h) (fun _ h => by cases h) fun _ h => by cases h; rfl
  rw [throwInto, can_bind]
  exact ⟨_, trivial, hK _ (h.advanced (h.hosts.throw hstep) rfl rfl)⟩

/-! ### The driver -/

/-- The executor at work on an effect. -/
lemma executeEffect_can {fuel : ℕ} {effect : E} {context : ExecutionContext V}
    (outcome : Except Exc V) {channel : Channel E}
    {K : Except Exc V → DriverState E → DriverTrace V E → Prop}
    (h : Staged none body frame a log tr) (hchannel : s.channels context.channel = some channel)
    (hdispatch : channel.dispatchError = Option.none)
    (hK : ∀ s' tr', Staged none body frame a (log ++ [(effect, outcome)]) tr' → K outcome s' tr') :
    can Undisturbed (executeEffect fuel effect context) K s tr := by
  have hawait : awaitExecutor (E := E) fuel (.done outcome) = Routine.ofExcept outcome := by
    cases fuel <;> rfl
  have hfinish {Q : Except Exc (Option Exc) → DriverState E → DriverTrace V E → Prop}
      {tr' : DriverTrace V E} (hQ : ∀ s', Q (.ok Option.none) s' tr') :
      can Undisturbed (finishProgress context.channel) Q s tr' := by
    unfold finishProgress
    rw [can_bind, can_get, onOk_ok, hchannel]
    simp only [can_bind, can_modify, onOk_ok, can_pure, hdispatch]
    exact hQ _
  have hstaged := h.execute effect context outcome
  unfold executeEffect
  rw [can_bind, can_attempt, can_bind]
  refine (can_call ..).2 ⟨.done outcome, trivial, ?_⟩
  rw [onOk_ok, hawait, can_ofExcept, onOk_ok]
  cases outcome with
  | ok value =>
    rw [can_bind]
    exact hfinish fun s' => hK s' _ hstaged
  | error error =>
    rw [can_bind]
    exact hfinish fun s' => hK s' _ hstaged

section Turns

variable (runId : String) (host : V) (metadata : List (String × V)) (startedAt : Seconds)

/-- One turn of the loop, in which the effect comes to an outcome: the flow is resumed with it, or
does not get to see it. -/
lemma runEffect_can {fuel k : ℕ} {effect : E} (outcome : Except Exc V) {frame' : S}
    {K : Except Exc (RunState V E) → DriverState E → DriverTrace V E → Prop}
    (h : Staged none body frame ⟨.running, .suspended frame'⟩ log tr)
    (hstopped : ∀ e s' tr', outcome = .error e → ¬ Deliverable outcome →
      Staged none body frame ⟨.running, .suspended frame'⟩ (log ++ [(effect, outcome)]) tr' →
        K (.error e) s' tr')
    (hdelivered : ∀ s' tr', Deliverable outcome → Staged none body frame
      (.after (body frame' (.of outcome))) (log ++ [(effect, outcome)]) tr' →
        K (body frame' (.of outcome)).settle.1.outcome s' tr') :
    can Undisturbed (runEffect fuel runId host metadata k effect) K s tr := by
  unfold runEffect
  rw [can_bind]
  refine idFactory_can h fun effectId tr h => ?_
  rw [onOk_ok, can_bind]
  refine monotonic_can h fun effectStartedAt tr h => ?_
  rw [onOk_ok, can_bind]
  refine clock_can h fun t tr h => ?_
  rw [onOk_ok, can_bind]
  refine emit_can h fun tr h => ?_
  rw [onOk_ok, can_bind, makeProgressChannel, can_modify, onOk_ok, can_bind, can_attempt]
  refine executeEffect_can outcome h (Function.update_self ..) rfl fun s' tr h => ?_
  rw [onOk_ok]
  cases outcome with
  | ok value =>
    refine clocks_can h fun t t' tr h => ?_
    rw [can_bind]
    refine emit_can h fun tr h => ?_
    exact send_can h fun tr' h' => hdelivered _ _ trivial h'
  | error error =>
    by_cases hd : Deliverable (.error error : Except Exc V)
    · have hcancelled : error.cls ≠ .cancelledError := by
        intro hcls
        have hexception := hd.1
        rw [hcls] at hexception
        cases hexception
      dsimp only
      rw [if_neg hcancelled, if_neg hd.2, if_pos hd.1]
      refine clocks_can h fun t t' tr h => ?_
      rw [can_bind]
      refine emit_can h fun tr h => ?_
      exact throwInto_can h fun tr' h' => hdelivered _ _ hd h'
    · have hthrown : K (.error error) s' tr := hstopped error s' tr rfl hd h
      dsimp only
      split
      · exact hthrown
      split
      · exact hthrown
      split
      · next hdispatch hexception => exact absurd ⟨hexception, hdispatch⟩ hd
      · exact hthrown

/-- **The loop.** With an executor that has the outcomes of a play, it ends as the play does.

**Proof sketch.** Induction on the outcomes that are left. Without any, the flow has just ended;
otherwise it has yielded an effect, which comes to the next outcome. -/
lemma driveLoop_can {rest : List (E × Except Exc V)} {fuel : ℕ} {step : BodyStep S V E}
    {o : Except Exc V} (k : ℕ) (s : DriverState E) (hfuel : rest.length ≤ fuel)
    (hreaches : Reaches body frame log step) (hplays : Plays body frame (log ++ rest) o)
    (h : Staged none body frame (.after step) log tr) :
    can Undisturbed (Routine.ofExcept step.settle.1.outcome >>= fun state =>
        driveLoop runId startedAt host metadata fuel state k)
      (fun o' _ tr' => o' = o ∧ ∃ a, Staged none body frame a (log ++ rest) tr') s tr := by
  induction rest generalizing log step fuel k s tr with
  | nil =>
    rw [List.append_nil] at hplays ⊢
    rw [hplays.of_reaches hreaches]
    cases o with
    | error error => exact ⟨rfl, _, h⟩
    | ok value =>
      show can Undisturbed (driveLoop runId startedAt host metadata fuel (.returned value) k) _ s tr
      unfold driveLoop
      refine clocks_can h fun t t' tr h => ?_
      rw [can_bind]
      refine emit_can h fun tr h => ?_
      exact ⟨rfl, _, h⟩
  | cons x rest ih =>
    obtain ⟨effect, outcome⟩ := x
    obtain ⟨frame', rfl, hnext⟩ := hplays.of_reaches_cons rfl hreaches
    cases fuel with
    | zero => cases hfuel
    | succ fuel =>
      have hfuel' : rest.length ≤ fuel := Nat.le_of_succ_le_succ hfuel
      show can Undisturbed (driveLoop runId startedAt host metadata (fuel + 1) (.yielded effect) k)
        _ s tr
      unfold driveLoop
      rw [can_bind]
      rw [List.append_cons] at hplays ⊢
      refine runEffect_can runId host metadata outcome h ?_ ?_
      · intro error s' tr' houtcome hd hstaged
        rcases hnext with hd' | ⟨rfl, -, rfl⟩
        · exact absurd hd' hd
        · rw [onOk_error, List.append_nil]
          exact ⟨houtcome.symm, _, hstaged⟩
      · intro s' tr' hd hstaged
        have hloop := ih (k + 1) s' hfuel' (hreaches.resume hd) hplays hstaged
        rwa [can_bind, can_ofExcept] at hloop

/-- The handlers hand on the exception. -/
lemma handleFailure_can {error : Exc} (h : Staged none body frame a log tr) :
    can Undisturbed (handleFailure (V := V) runId startedAt error)
      (fun o _ tr' => o = .error error ∧ ∃ a, Staged none body frame a log tr') s tr := by
  unfold handleFailure
  split
  · rw [can_bind]
    refine closePreserving_can h fun a tr h => ?_
    rw [onOk_ok, can_bind, can_tryCatch]
    refine clocks_can h fun t t' tr h => ?_
    refine emit_can h fun tr h => ?_
    exact ⟨rfl, _, h⟩
  split
  · rw [can_bind]
    refine closePreserving_can h fun a tr h => ?_
    exact ⟨rfl, _, h⟩
  split
  · rw [can_bind, can_tryFinally]
    refine clocks_can h fun t t' tr h => ?_
    refine emit_can h fun tr h => ?_
    refine closePreserving_can h fun a tr h => ?_
    exact ⟨rfl, _, h⟩
  · rw [can_bind]
    refine closePreserving_can h fun a tr h => ?_
    exact ⟨rfl, _, h⟩

variable (none) in
/-- The body of `run`, from its first call on. -/
lemma runBody_can (given : Option String) {fuel : ℕ} {o : Except Exc V}
    (hplays : Plays body frame log o) (hfuel : log.length ≤ fuel) :
    can Undisturbed (runBody fuel host metadata given)
      (fun o' _ tr => o' = o ∧ ∃ a, Staged none body frame a log tr) initialState [] := by
  have hstarted (runId : String) (startedAt : Seconds) {s : DriverState E} {tr : DriverTrace V E}
      (h : Staged none body frame ⟨.created, .created frame⟩ [] tr) :
      can Undisturbed (runStarted fuel host metadata runId startedAt)
        (fun o' _ tr => o' = o ∧ ∃ a, Staged none body frame a log tr) s tr := by
    unfold runStarted
    rw [can_bind, can_attempt, can_bind]
    refine clock_can h fun t tr h => ?_
    rw [onOk_ok, can_bind]
    refine emit_can h fun tr h => ?_
    rw [onOk_ok, can_bind]
    refine start_can h fun tr h => ?_
    have hloop := driveLoop_can runId host metadata startedAt 0 s hfuel .enter hplays h
    refine (can_bind _ s tr (Routine.ofExcept _) _).1 (can_mono ?_ hloop)
    rintro o' s' tr' ⟨rfl, a, hstaged⟩
    rw [onOk_ok]
    cases o' with
    | ok value => exact ⟨rfl, a, hstaged⟩
    | error error =>
      refine can_mono ?_ (handleFailure_can runId startedAt hstaged)
      exact fun _ _ _ h => h
  have hnil : Staged none body frame ⟨.created, .created frame⟩ [] [] := staged_nil
  unfold runBody
  rw [can_bind, can_attempt]
  cases given with
  | none =>
    rw [preflight, can_bind]
    refine idFactory_can hnil fun runId tr h => ?_
    rw [onOk_ok, can_bind]
    refine monotonic_can h fun startedAt tr h => ?_
    exact hstarted runId startedAt h
  | some runId =>
    rw [preflight, can_bind, can_pure, onOk_ok, can_bind]
    refine monotonic_can hnil fun startedAt tr h => ?_
    exact hstarted runId startedAt h

variable (none) in
/-- The driver, which is a coroutine. No play ends with a `StopIteration`. -/
lemma run_can (given : Option String) {fuel : ℕ} {o : Except Exc V}
    (hplays : Plays body frame log o) (hfuel : log.length ≤ fuel) :
    can Undisturbed (run fuel host metadata given)
      (fun o' _ tr => o' = o ∧ ∃ a, Staged none body frame a log tr) initialState [] := by
  unfold run
  rw [can_tryCatch]
  refine can_mono ?_ (runBody_can none host metadata given hplays hfuel)
  rintro o s tr ⟨rfl, hstaged⟩
  cases o with
  | ok value => exact ⟨rfl, hstaged⟩
  | error error =>
    rw [onError_error, newObject, can_bind, can_bind, can_get, onOk_ok, can_bind, can_modify]
    refine ⟨?_, hstaged⟩
    rw [Exc.leaving_eq _ _ (hplays.hasLeft error rfl)]

end Turns

end AgentDriver

/-- **What the driver can make of a flow is what the flow can play.** With the given effects and
outcomes there is a run of the driver over the generator that nothing disturbs and that ends so,
exactly if the flow can be played so. -/
theorem driven_flow_iff [DecidableEq V] (none : V) (body : GeneratorBody S V E) (frame : S)
    (host : V) (metadata : List (String × V)) (given : Option String)
    (log : List (E × Except Exc V)) (o : Except Exc V) :
    (∃ tr s a, DriverRuns host metadata given tr (.ret (o, s)) ∧ Hosts none body frame tr a ∧
        (∀ x ∈ tr, Undisturbed x.1 x.2) ∧ executed tr = log.map Prod.fst ∧
          outcomes tr = log.map Prod.snd) ↔ Plays body frame log o := by
  constructor
  · rintro ⟨tr, s, a, hrun, hhosts, hundisturbed, hexecuted, houtcomes⟩
    have hplays := (driven_flow_plays hrun hhosts hundisturbed).2
    rw [hexecuted, houtcomes, List.zip_map'] at hplays
    exact (List.map_id log).symm ▸ hplays
  · intro h
    obtain ⟨tr, o', s, hexec, hundisturbed, rfl, a, hstaged⟩ :=
      (AgentDriver.run_can none host metadata given h le_rfl).exec
    exact ⟨tr, s, a, ⟨_, hexec⟩, hstaged.hosts, hundisturbed, hstaged.executed, hstaged.outcomes⟩

end PurrceptCore
