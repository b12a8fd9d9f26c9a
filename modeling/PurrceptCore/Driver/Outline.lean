import PurrceptCore.Driver.AgentDriver

set_option relaxedAutoImplicit false
set_option autoImplicit false

/-!
# The proof outline of the agent driver

A statement about all runs of the driver is proved against a monitor. This file walks through
the driver once, for every monitor: each helper gets one rule, and the rules are put together
in a *proof outline*, which names an assertion on the monitor state for each point of the run
and lists what has to hold from one point to the next.

## Main definitions

* `PurrceptCore.Delivered`, `PurrceptCore.Failed` — the event was dispatched; its dispatch
  failed in an ordinary way.
* `PurrceptCore.Quiet` — the monitor ignores the clocks, the id factory, notes and causes.
* `PurrceptCore.Emits`, `PurrceptCore.Advances` — what an emission and an advancement of the
  run have to establish.
* `PurrceptCore.Outline` — the assertions and the steps between them.

## Main results

* `PurrceptCore.AgentDriver.wp_emit`, `wp_closePreserving`, `wp_awaitExecutor`,
  `wp_executeEffect` — the rules of the helpers.
* `PurrceptCore.Outline.wp_run` — a driver run keeps to a monitor for which there is an
  outline.
-/

namespace PurrceptCore

open Interaction

variable {V E σ : Type}

/-- The sink accepted the event: it returned `None`. -/
def Delivered (r : Except Exc SinkResult) : Prop := r = .ok .none

/-- The dispatch failed in an ordinary way: the sink raised an ordinary exception, or it
returned something other than `None`. -/
def Failed : Except Exc SinkResult → Prop
  | .ok .none => False
  | .ok _ => True
  | .error e => e.cls.isException = true

instance : DecidablePred Failed := fun r =>
  match r with
  | .ok .none => isFalse id
  | .ok .awaitable => isTrue trivial
  | .ok (.other _) => isTrue trivial
  | .error e => inferInstanceAs (Decidable (e.cls.isException = true))

/-- What was delivered did not fail. -/
lemma Delivered.not_failed {r : Except Exc SinkResult} (h : Delivered r) : ¬Failed r := by
  rw [h]
  exact id

/-- The calls that only read clocks, make identifiers or annotate exceptions. -/
def Call.isService : Call V E → Bool
  | .idFactory | .clock | .monotonic | .addNote _ _ | .setCause _ _ => true
  | _ => false

/-- The monitor allows and ignores service calls. -/
class Quiet (M : Monitor (Call V E) (Reply V E) σ) : Prop where
  allow : ∀ m c, c.isService = true → M.allow m c
  next : ∀ m c r, c.isService = true → M.next m c r = m

section Rules

variable (M : Monitor (Call V E) (Reply V E) σ)

/-- The emission of `event` is allowed, and leads to `K` when it is delivered, to `raise d`
with a dispatch error `d` when it fails, and to `raise e` when the sink raises a `BaseException`
`e` outside `Exception`. -/
structure Emits (m : σ) (event : RunEvent V E) (K : σ → Prop) (raise : Exc → σ → Prop) :
    Prop where
  allow : M.allow m (.emit event)
  delivered : ∀ r, M.expect m (.emit event) r → Delivered r → K (M.next m (.emit event) r)
  failed : ∀ r d, M.expect m (.emit event) r → Failed r → d.cls = .eventDispatchError →
    raise d (M.next m (.emit event) r)
  escaped : ∀ e, M.expect m (.emit event) (.error e) → e.cls.isException = false →
    raise e (M.next m (.emit event) (.error e))

/-- The clocks and the id factory may raise `e`. -/
def ServiceRaises (m : σ) (e : Exc) : Prop :=
  M.expect m .clock (.error e) ∨ M.expect m .monotonic (.error e) ∨
    M.expect m .idFactory (.error e)

/-- Closing the run is allowed and leads to `K`. -/
def Closes (m : σ) (K : σ → Prop) : Prop :=
  M.allow m .close ∧ ∀ r, M.expect m .close r → K (M.next m .close r)

/-- A value satisfies `K`, an exception `raise`. -/
def Ends {α : Type} (K : α → σ → Prop) (raise : Exc → σ → Prop) : Except Exc α → σ → Prop
  | .ok a, m => K a m
  | .error e, m => raise e m

/-- Advancing the run by the call `c` is allowed, and leads to `K` with the state it returns, to
`raise` with the exception it raises. -/
structure Advances (m : σ) (c : Call V E) (read : Reply V E c → Except Exc (RunState V E))
    (K : RunState V E → σ → Prop) (raise : Exc → σ → Prop) : Prop where
  allow : M.allow m c
  reply : ∀ r, M.expect m c r → Ends K raise (read r) (M.next m c r)

/-- Reporting an event stamped with the clocks: a clock may raise, or the event is emitted. -/
structure Reports (m : σ) (f : Instant → Seconds → RunEvent V E) (K : σ → Prop)
    (raise : Exc → σ → Prop) : Prop where
  service : ∀ e, ServiceRaises M m e → raise e m
  emits : ∀ t d, Emits M m (f t d) K raise

/-- Handing `outcome` to the executor is allowed, and leads to `J` with what it does next. -/
def Resumes (m : σ) (outcome : Except Exc Unit) (J : ExecReply V → σ → Prop) : Prop :=
  M.allow m (.resume outcome) ∧
    ∀ r, M.expect m (.resume outcome) r → J r (M.next m (.resume outcome) r)

/-- What a progress channel keeps of an exception: a dispatch failure. -/
def latch (e : Exc) : Option Exc := if e.cls = .eventDispatchError then some e else none

/-- The steps of an executor at work on the channel `ch` at address `k`; `J d r` is the
assertion when the channel has latched `d` and the executor does `r` next. -/
structure Progresses (k : ℕ) (ch : Channel E) (J : Option Exc → ExecReply V → σ → Prop) :
    Prop where
  /-- Progress on the context of another effect. -/
  stale : ∀ d a p m, a ≠ k → J d (.progress a p) m → ∀ e : Exc,
    e.cls = .invalidRunStateError → Resumes M m (.error e) (J d)
  /-- Progress after a dispatch failure. -/
  latched : ∀ d p m, J (some d) (.progress k p) m → Resumes M m (.error d) (J (some d))
  /-- Progress otherwise. -/
  fresh : ∀ p m, J none (.progress k p) m →
    Reports M m (fun t _ => .effectProgress ch.runId t ch.effectId ch.stepIndex ch.effect p)
      (fun m' => Resumes M m' (.ok ()) (J none))
      (fun e m' => Resumes M m' (.error e) (J (latch e)))

end Rules

/-- The outcome of an effect, from the dispatch failure its channel has latched and the outcome
of the executor. -/
def resolve (dispatchError : Option Exc) (outcome : Except Exc V) : Except Exc V :=
  match dispatchError with
  | some e => .error e
  | none => outcome

namespace AgentDriver

variable {M : Monitor (Call V E) (Reply V E) σ} {s : DriverState E} {m : σ}

/-! ### Calls -/

@[simp] lemma wp_callOut (c : Call V E) (Q : Except Exc (Reply V E c) → DriverState E → σ → Prop) :
    Routine.wp M (call c) Q s m ↔
      M.allow m c ∧ ∀ r, M.expect m c r → Q (.ok r) s (M.next m c r) := Iff.rfl

/-- A service call whose reply is not looked at. -/
lemma wp_note [Quiet M] (c : Call V E) (hc : c.isService = true)
    {Q : Except Exc (Reply V E c) → DriverState E → σ → Prop} (h : ∀ r, Q (.ok r) s m) :
    Routine.wp M (call c) Q s m := by
  refine ⟨Quiet.allow m c hc, fun r _ => ?_⟩
  change Q (.ok r) s (M.next m c r)
  rw [Quiet.next m c r hc]
  exact h r

/-- The rule of the clocks and the id factory. -/
lemma wp_service [Quiet M] (c : Call V E) (hc : c.isService = true) {α : Type}
    (read : Reply V E c → Except Exc α) {Q : Except Exc α → DriverState E → σ → Prop}
    (h : ∀ r, M.expect m c r → Q (read r) s m) :
    Routine.wp M (call c >>= fun r => Routine.ofExcept (read r)) Q s m := by
  rw [Routine.wp_bind, wp_callOut]
  refine ⟨Quiet.allow m c hc, fun r hr => ?_⟩
  change Q (read r) s (M.next m c r)
  rw [Quiet.next m c r hc]
  exact h r hr

lemma wp_clock [Quiet M] {Q : Except Exc Instant → DriverState E → σ → Prop}
    (hok : ∀ t, Q (.ok t) s m) (herr : ∀ e, ServiceRaises M m e → Q (.error e) s m) :
    Routine.wp M clock Q s m := by
  refine wp_service .clock rfl id fun r hr => ?_
  cases r with
  | ok t => exact hok t
  | error e => exact herr e (.inl hr)

lemma wp_monotonic [Quiet M] {Q : Except Exc Seconds → DriverState E → σ → Prop}
    (hok : ∀ t, Q (.ok t) s m) (herr : ∀ e, ServiceRaises M m e → Q (.error e) s m) :
    Routine.wp M monotonic Q s m := by
  refine wp_service .monotonic rfl id fun r hr => ?_
  cases r with
  | ok t => exact hok t
  | error e => exact herr e (.inr (.inl hr))

lemma wp_idFactory [Quiet M] {Q : Except Exc String → DriverState E → σ → Prop}
    (hok : ∀ t, Q (.ok t) s m) (herr : ∀ e, ServiceRaises M m e → Q (.error e) s m) :
    Routine.wp M idFactory Q s m := by
  refine wp_service .idFactory rfl id fun r hr => ?_
  cases r with
  | ok t => exact hok t
  | error e => exact herr e (.inr (.inr hr))

/-- A new exception object leaves the progress channels as they are. -/
lemma wp_newObject {Q : Except Exc ℕ → DriverState E → σ → Prop}
    (h : ∀ (s' : DriverState E) n, s'.channels = s.channels → Q (.ok n) s' m) :
    Routine.wp M newObject Q s m :=
  h _ s.made rfl

variable {Q : Except Exc Unit → DriverState E → σ → Prop}

/-! ### The helpers -/

/-- The rule of `_emit`. -/
theorem wp_emit [Quiet M] {event : RunEvent V E} {K : σ → Prop} {raise : Exc → σ → Prop}
    (h : Emits M m event K raise)
    (hK : ∀ m', K m' → Q (.ok ()) s m')
    (hraise : ∀ (s' : DriverState E) d m', s'.channels = s.channels → raise d m' →
      Q (.error d) s' m') :
    Routine.wp M (emit event) Q s m := by
  have wrap : ∀ (s₁ : DriverState E) (e : Exc) (m₁ : σ), s₁.channels = s.channels →
      (∀ d : Exc, d.cls = .eventDispatchError → raise d m₁) →
      Routine.wp M (do
        let dispatchError := eventDispatchError (← newObject) event
        call (.setCause dispatchError e)
        throw dispatchError) Q s₁ m₁ := by
    intro s₁ e m₁ hs hd
    rw [Routine.wp_bind]
    refine wp_newObject fun s₂ n hs₂ => ?_
    rw [Routine.onOk_ok, Routine.wp_bind]
    exact wp_note (.setCause _ _) rfl fun _ => hraise _ _ _ (hs₂.trans hs) (hd _ rfl)
  unfold emit
  rw [Routine.wp_tryCatch, Routine.wp_bind, wp_callOut]
  refine ⟨h.allow, fun r hr => ?_⟩
  rw [Routine.onOk_ok, Routine.wp_bind, Routine.wp_ofExcept]
  -- the sink returned `None`, something else, or raised
  cases r with
  | ok result =>
    have checked : ∀ text, Failed (.ok result) → Routine.wp M (do
        throw (typeError (← newObject) text) : DriverM V E Unit) (Routine.onError (fun error =>
          Routine.wp M (if error.cls = .eventDispatchError then throw error
            else if error.cls.isException then do
              let dispatchError := eventDispatchError (← newObject) event
              call (.setCause dispatchError error)
              throw dispatchError
            else throw error) Q) Q) s (M.next m (.emit event) (.ok result)) := by
      intro text hf
      rw [Routine.wp_bind]
      refine wp_newObject fun s₁ n hs₁ => ?_
      exact wrap s₁ _ _ hs₁ fun d hd => h.failed _ d hr hf hd
    cases result with
    | none => exact hK _ (h.delivered _ hr rfl)
    | awaitable => exact checked _ trivial
    | other typeName => exact checked _ trivial
  | error e =>
    simp only [Routine.onOk_error, Routine.onError_error]
    by_cases hd : e.cls = .eventDispatchError
    · rw [if_pos hd]
      exact hraise _ _ _ rfl (h.failed _ e hr (by simp [Failed, hd, ExcClass.isException]) hd)
    · rw [if_neg hd]
      by_cases hx : e.cls.isException = true
      · rw [if_pos hx]
        exact wrap s e _ rfl fun d hd => h.failed _ d hr hx hd
      · rw [if_neg hx]
        exact hraise _ _ _ rfl (h.escaped e hr (by simpa using hx))

/-- An emission stamped with the wall clock. -/
lemma wp_emitAt [Quiet M] {f : Instant → RunEvent V E} {K : σ → Prop} {raise : Exc → σ → Prop}
    (h : Reports M m (fun t _ => f t) K raise) (hK : ∀ m', K m' → Q (.ok ()) s m')
    (hraise : ∀ (s' : DriverState E) d m', s'.channels = s.channels → raise d m' →
      Q (.error d) s' m') :
    Routine.wp M (do emit (f (← clock))) Q s m := by
  rw [Routine.wp_bind]
  refine wp_clock (fun t => ?_) fun e he => hraise s e m rfl (h.service e he)
  exact wp_emit (h.emits t 0) hK hraise

/-- An emission stamped with the wall clock and the time elapsed since `t₀`. -/
lemma wp_emitElapsed [Quiet M] {f : Instant → Seconds → RunEvent V E} {t₀ : Seconds}
    {K : σ → Prop} {raise : Exc → σ → Prop} (h : Reports M m f K raise)
    (hK : ∀ m', K m' → Q (.ok ()) s m')
    (hraise : ∀ (s' : DriverState E) d m', s'.channels = s.channels → raise d m' →
      Q (.error d) s' m') :
    Routine.wp M (do emit (f (← clock) ((← monotonic) - t₀))) Q s m := by
  rw [Routine.wp_bind]
  refine wp_clock (fun t => ?_) fun e he => hraise s e m rfl (h.service e he)
  rw [Routine.onOk_ok, Routine.wp_bind]
  refine wp_monotonic (fun d => ?_) fun e he => hraise s e m rfl (h.service e he)
  exact wp_emit (h.emits t _) hK hraise

/-- An emission stamped with the wall clock, and what follows it. -/
lemma wp_emitAt_then [Quiet M] {α : Type} {Q : Except Exc α → DriverState E → σ → Prop}
    {f : Instant → RunEvent V E} {x : DriverM V E α} {K : σ → Prop} {raise : Exc → σ → Prop}
    (h : Reports M m (fun t _ => f t) K raise) (hK : ∀ m', K m' → Routine.wp M x Q s m')
    (hraise : ∀ (s' : DriverState E) d m', s'.channels = s.channels → raise d m' →
      Q (.error d) s' m') :
    Routine.wp M (do
      emit (f (← clock))
      x) Q s m := by
  rw [Routine.wp_bind]
  refine wp_clock (fun t => ?_) fun e he => hraise s e m rfl (h.service e he)
  rw [Routine.onOk_ok, Routine.wp_bind]
  exact wp_emit (h.emits t 0) hK hraise

/-- An emission stamped with the wall clock and the time elapsed since `t₀`, and what follows
it. -/
lemma wp_emitElapsed_then [Quiet M] {α : Type} {Q : Except Exc α → DriverState E → σ → Prop}
    {f : Instant → Seconds → RunEvent V E} {t₀ : Seconds} {x : DriverM V E α} {K : σ → Prop}
    {raise : Exc → σ → Prop} (h : Reports M m f K raise)
    (hK : ∀ m', K m' → Routine.wp M x Q s m')
    (hraise : ∀ (s' : DriverState E) d m', s'.channels = s.channels → raise d m' →
      Q (.error d) s' m') :
    Routine.wp M (do
      emit (f (← clock) ((← monotonic) - t₀))
      x) Q s m := by
  rw [Routine.wp_bind]
  refine wp_clock (fun t => ?_) fun e he => hraise s e m rfl (h.service e he)
  rw [Routine.onOk_ok, Routine.wp_bind]
  refine wp_monotonic (fun d => ?_) fun e he => hraise s e m rfl (h.service e he)
  rw [Routine.onOk_ok, Routine.wp_bind]
  exact wp_emit (h.emits t _) hK hraise

/-- The rule of `close_preserving`: whatever closing raises becomes a note. -/
theorem wp_closePreserving [Quiet M] {e : Exc} {K : σ → Prop} (h : Closes M m K)
    (hK : ∀ m', K m' → Q (.ok ()) s m') : Routine.wp M (closePreserving e) Q s m := by
  unfold closePreserving
  rw [Routine.wp_bind, wp_callOut]
  refine ⟨h.1, fun r hr => ?_⟩
  rw [Routine.onOk_ok]
  cases r with
  | ok _ => exact hK _ (h.2 _ hr)
  | error closeError =>
    exact wp_note (.addNote e _) rfl fun _ => hK _ (h.2 _ hr)

/-! ### Progress channels -/

/-- Every progress channel is finished. -/
def AllFinished (s : DriverState E) : Prop :=
  ∀ a ch, s.channels a = some ch → ch.active = false

/-- The channel `ch` is open at address `k`, has latched nothing but a dispatch failure, and
every other channel is finished. -/
structure OpenAt (s : DriverState E) (k : ℕ) (ch : Channel E) : Prop where
  own : s.channels k = some ch
  active : ch.active = true
  latched : ∀ d, ch.dispatchError = some d → d.cls = .eventDispatchError
  others : ∀ a, a ≠ k → ∀ c, s.channels a = some c → c.active = false

/-- Creating an exception object finishes no channel and opens none. -/
lemma AllFinished.congr {s s' : DriverState E} (h : AllFinished s)
    (hs : s'.channels = s.channels) : AllFinished s' := by
  intro a ch hch
  rw [hs] at hch
  exact h a ch hch

/-- Creating an exception object changes no channel. -/
lemma OpenAt.congr {s s' : DriverState E} {k : ℕ} {ch : Channel E} (h : OpenAt s k ch)
    (hs : s'.channels = s.channels) : OpenAt s' k ch :=
  ⟨hs ▸ h.own, h.active, h.latched, hs ▸ h.others⟩

/-- Replacing the open channel by one that is open as well. -/
lemma OpenAt.update {k n : ℕ} {ch ch' : Channel E} (h : OpenAt s k ch)
    (ha : ch'.active = true) (hd : ∀ d, ch'.dispatchError = some d → d.cls = .eventDispatchError) :
    OpenAt ⟨Function.update s.channels k (some ch'), n⟩ k ch' := by
  refine ⟨Function.update_self .., ha, hd, fun a hak c hc => ?_⟩
  simp only [Function.update_of_ne hak] at hc
  exact h.others a hak c hc

/-- Making a channel when all others are finished opens it. -/
lemma AllFinished.openAt {k n : ℕ} {ch : Channel E} (h : AllFinished s) (ha : ch.active = true)
    (hd : ch.dispatchError = none) :
    OpenAt ⟨Function.update s.channels k (some ch), n⟩ k ch := by
  refine ⟨Function.update_self .., ha, fun d hd' => ?_, fun a hak c hc => ?_⟩
  · rw [hd] at hd'
    cases hd'
  · simp only [Function.update_of_ne hak] at hc
    exact h a c hc

/-- Finishing the open channel finishes all. -/
lemma OpenAt.finish {k n : ℕ} {ch : Channel E} (h : OpenAt s k ch) :
    AllFinished ⟨Function.update s.channels k (some { ch with active := false }), n⟩ := by
  intro a c hc
  by_cases hak : a = k
  · subst hak
    simp only [Function.update_self, Option.some.injEq] at hc
    rw [← hc]
  · simp only [Function.update_of_ne hak] at hc
    exact h.others a hak c hc

/-- On a finished channel, `report_progress` calls nobody and raises `InvalidRunStateError`. -/
theorem reportProgress_finished {a : ℕ} {p : V}
    (h : ∀ ch, s.channels a = some ch → ch.active = false) :
    ∃ (e : Exc) (s' : DriverState E), reportProgress a p s = .ret (.error e, s') ∧
      e.cls = .invalidRunStateError ∧ s'.channels = s.channels := by
  cases hch : s.channels a with
  | none =>
    refine ⟨invalidRunStateError s.made "No such progress channel.",
      { s with made := s.made + 1 }, ?_, rfl, rfl⟩
    rw [reportProgress, Routine.get_bind, hch]
    rfl
  | some ch =>
    refine ⟨invalidRunStateError s.made ("Cannot report progress after effect " ++
      pyRepr ch.effectId ++ " has finished."), { s with made := s.made + 1 }, ?_, rfl, rfl⟩
    rw [reportProgress, Routine.get_bind, hch]
    simp only [h ch hch, Bool.not_false, ↓reduceIte]
    rfl

/-- The rule of `report_progress` on a finished channel. -/
lemma wp_reportProgress_finished {a : ℕ} {p : V}
    (h : ∀ ch, s.channels a = some ch → ch.active = false)
    (hQ : ∀ (s' : DriverState E) e, s'.channels = s.channels → e.cls = .invalidRunStateError →
      Q (.error e) s' m) :
    Routine.wp M (reportProgress a p) Q s m := by
  obtain ⟨e, s', heq, he, hs'⟩ := reportProgress_finished (p := p) h
  unfold Routine.wp
  rw [heq]
  exact hQ s' e hs' he

/-- On a channel that has latched a dispatch failure, `report_progress` raises it again. -/
theorem wp_reportProgress_latched {k : ℕ} {ch : Channel E} {d : Exc} {p : V}
    (h : OpenAt s k ch) (hd : ch.dispatchError = some d) (hQ : Q (.error d) s m) :
    Routine.wp M (reportProgress k p) Q s m := by
  unfold reportProgress
  rw [Routine.wp_bind, Routine.wp_get, Routine.onOk_ok, h.own]
  simp only [h.active, hd, Bool.not_true, Bool.false_eq_true, ↓reduceIte]
  exact hQ

/-- On an open channel, `report_progress` emits, and latches a dispatch failure. -/
theorem wp_reportProgress_open [Quiet M] {k : ℕ} {ch : Channel E} {p : V} {K : σ → Prop}
    {raise : Exc → σ → Prop} (h : OpenAt s k ch) (hd : ch.dispatchError = none)
    (hem : Reports M m
      (fun t _ => .effectProgress ch.runId t ch.effectId ch.stepIndex ch.effect p) K raise)
    (hK : ∀ m', K m' → Q (.ok ()) s m')
    (hraise : ∀ (s' : DriverState E) e m', raise e m' →
      OpenAt s' k { ch with dispatchError := latch e } → Q (.error e) s' m') :
    Routine.wp M (reportProgress k p) Q s m := by
  have hna : ¬(!ch.active) = true := by simp [h.active]
  unfold reportProgress
  rw [Routine.wp_bind, Routine.wp_get, Routine.onOk_ok, h.own]
  simp only [hna, hd, Bool.false_eq_true, ↓reduceIte]
  rw [Routine.wp_tryCatch]
  refine wp_emitAt hem hK fun s' e m' hs' he => ?_
  rw [Routine.onError_error]
  by_cases hc : e.cls = .eventDispatchError
  · rw [if_pos hc, Routine.wp_bind, Routine.wp_modify, Routine.onOk_ok, Routine.wp_throw]
    refine hraise _ e m' he ?_
    rw [latch, if_pos hc]
    refine (h.congr hs').update ?_ ?_
    · exact h.active
    · rintro d ⟨⟩
      exact hc
  · rw [if_neg hc]
    refine hraise _ e m' he ?_
    rw [latch, if_neg hc, ← hd]
    exact h.congr hs'

/-! ### Executing an effect -/

/-- The rule of the executor at work.

**Proof sketch.** Induction on the number of progress reports that are followed. A report on
another address meets a finished channel; one on the open channel is answered by the latched
failure, or emitted. In each case the outcome is handed back and the executor goes on. -/
theorem wp_awaitExecutor [Quiet M] {k : ℕ} {ch : Channel E}
    {J : Option Exc → ExecReply V → σ → Prop} {Q : Except Exc V → DriverState E → σ → Prop}
    (h : Progresses M k ch J)
    (hQ : ∀ (s' : DriverState E) d o m', OpenAt s' k { ch with dispatchError := d } →
      J d (.done o) m' → Q o s' m') (fuel : ℕ) :
    ∀ {s : DriverState E} {m : σ} {d : Option Exc} {r : ExecReply V},
      OpenAt s k { ch with dispatchError := d } → J d r m →
      Routine.wp M (awaitExecutor fuel r) Q s m := by
  induction fuel with
  | zero =>
    intro s m d r hs hJ
    cases r with
    | done o => exact hQ s d o m hs hJ
    | progress a p => exact Routine.wp_cut M Q s m
  | succ fuel ih =>
    intro s m d r hs hJ
    cases r with
    | done o => exact hQ s d o m hs hJ
    | progress a p =>
      -- after the report, with the outcome `o` handed back
      have back : ∀ (s' : DriverState E) o m' d', OpenAt s' k { ch with dispatchError := d' } →
          Resumes M m' o (J d') → Routine.wp M (do
            let r ← call (.resume o)
            awaitExecutor fuel r) Q s' m' := by
        intro s' o m' d' hs' hr
        rw [Routine.wp_bind, wp_callOut]
        exact ⟨hr.1, fun r hr' => ih hs' (hr.2 r hr')⟩
      rw [awaitExecutor, Routine.wp_bind, Routine.wp_attempt]
      by_cases ha : a = k
      · subst ha
        cases d with
        | some d =>
          exact wp_reportProgress_latched hs rfl (back s _ m _ hs (h.latched d p m hJ))
        | none =>
          exact wp_reportProgress_open hs rfl (h.fresh p m hJ)
            (fun m' hm' => back s _ m' _ hs hm')
            fun s' e m' he hs' => back s' _ m' _ hs' he
      · refine wp_reportProgress_finished (hs.others a ha) fun s' e hs' he => ?_
        exact back s' _ m _ (hs.congr hs') (h.stale d a p m ha hJ e he)

/-- `finish_progress` hands over what the open channel has latched, and finishes it. -/
lemma wp_finishProgress {k : ℕ} {ch : Channel E} {Q : Except Exc (Option Exc) → DriverState E →
    σ → Prop} (hs : OpenAt s k ch)
    (hQ : ∀ s' : DriverState E, AllFinished s' → Q (.ok ch.dispatchError) s' m) :
    Routine.wp M (finishProgress k) Q s m := by
  unfold finishProgress
  rw [Routine.wp_bind, Routine.wp_get, Routine.onOk_ok, hs.own]
  exact hQ _ hs.finish

/-- The rule of the inner `try`: a latched dispatch failure wins over the outcome of the
executor. -/
theorem wp_executeEffect [Quiet M] {fuel k : ℕ} {ch : Channel E} {effect : E}
    {context : ExecutionContext V} {J : Option Exc → ExecReply V → σ → Prop}
    {Q : Except Exc V → DriverState E → σ → Prop} (hk : context.channel = k)
    (hs : OpenAt s k { ch with dispatchError := none }) (h : Progresses M k ch J)
    (hallow : M.allow m (.execute effect context))
    (hexecute : ∀ r, M.expect m (.execute effect context) r →
      J none r (M.next m (.execute effect context) r))
    (hQ : ∀ (s' : DriverState E) d o m', AllFinished s' → J d (.done o) m' →
      Q (resolve d o) s' m') :
    Routine.wp M (executeEffect fuel effect context) Q s m := by
  unfold executeEffect
  rw [Routine.wp_bind, Routine.wp_attempt, Routine.wp_bind, wp_callOut]
  refine ⟨hallow, fun r hr => ?_⟩
  rw [Routine.onOk_ok]
  refine wp_awaitExecutor h (fun s' d o m' hs' hJ => ?_) fuel hs (hexecute r hr)
  rw [Routine.onOk_ok]
  cases o with
  | ok value =>
    simp only [hk]
    rw [Routine.wp_bind]
    refine wp_finishProgress hs' fun s'' hs'' => ?_
    cases d with
    | none => exact hQ s'' none (.ok value) m' hs'' hJ
    | some d => exact hQ s'' (some d) (.ok value) m' hs'' hJ
  | error executionError =>
    simp only [hk]
    rw [Routine.wp_bind]
    refine wp_finishProgress hs' fun s'' hs'' => ?_
    cases d with
    | none => exact hQ s'' none (.error executionError) m' hs'' hJ
    | some d =>
      have hd := hQ s'' (some d) (.error executionError) m' hs'' hJ
      simp only [Routine.onOk_ok]
      by_cases hne : d = executionError
      · rw [if_neg (not_not_intro hne), ← hne]
        exact hd
      · rw [if_pos hne, Routine.wp_bind]
        exact wp_note (.addNote _ _) rfl fun _ => hd

end AgentDriver

/-! ### The proof outline -/

/-- The exception that leaves the cancellation handler when dispatching `RunCancelled` raises
`e`: a dispatch failure does not replace the cancellation. -/
def preserve (cancellation e : Exc) : Exc :=
  if e.cls = .eventDispatchError then cancellation else e

/-- **Proof outline of a driver run.** The assertions at the head of the loop, while an executor
is at work, and where an exception reaches the outer handlers, with the steps between them. `m₀`
is the state of the monitor before the first event, and `Q` holds of the outcome of the run. -/
structure Outline (M : Monitor (Call V E) (Reply V E) σ) (runId : String) (host : V)
    (metadata : List (String × V)) (Q : Except Exc V → σ → Prop) (m₀ : σ) where
  /-- The assertion when step `k` begins and the run is in the given state. -/
  head : ℕ → RunState V E → σ → Prop
  /-- The assertion while the effect of step `k` executes, as in `Progresses`. -/
  working : ℕ → String → E → Option Exc → ExecReply V → σ → Prop
  /-- The assertion when an exception reaches the outer handlers. -/
  raised : Exc → σ → Prop
  started : Reports M m₀ (fun t _ => .runStarted runId t metadata)
    (fun m => Advances M m .start id (head 0) raised) raised
  returned : ∀ k v m, head k (.returned v) m →
    Reports M m (fun t d => .runSucceeded runId t v d) (Q (.ok v)) raised
  unsupported : ∀ k n m, head k (.unsupported n) m → ∀ e : Exc, e.cls = .typeError → raised e m
  yielded : ∀ k effect m, head k (.yielded effect) m → ∀ effectId,
    Reports M m (fun t _ => .effectStarted runId t effectId k effect)
      (fun m' => M.allow m' (.execute effect ⟨runId, effectId, k, host, metadata, k⟩) ∧
        ∀ r, M.expect m' (.execute effect ⟨runId, effectId, k, host, metadata, k⟩) r →
          working k effectId effect none r
            (M.next m' (.execute effect ⟨runId, effectId, k, host, metadata, k⟩) r)) raised
  progress : ∀ k effectId effect,
    Progresses M k ⟨runId, effectId, k, effect, true, none⟩ (working k effectId effect)
  /-- The effect has ended in a way that the run does not get to see. -/
  aborted : ∀ k effectId effect d o m, working k effectId effect d (.done o) m → ∀ e : Exc,
    resolve d o = .error e → e.cls.isException = false ∨ e.cls = .eventDispatchError → raised e m
  effectFailed : ∀ k effectId effect d o m, working k effectId effect d (.done o) m →
    ∀ e : Exc, resolve d o = .error e → e.cls.isException = true → e.cls ≠ .eventDispatchError →
    Reports M m (fun t x => .effectFailed runId t effectId k effect e x)
      (fun m' => Advances M m' (.throw e) id (head (k + 1)) raised) raised
  effectSucceeded : ∀ k effectId effect d o m, working k effectId effect d (.done o) m → ∀ v,
    resolve d o = .ok v →
    Reports M m (fun t x => .effectSucceeded runId t effectId k effect v x)
      (fun m' => Advances M m' (.send v) id (head (k + 1)) raised) raised
  /-- The handler of cancellations. -/
  cancelled : ∀ e m, raised e m → e.cls = .cancelledError → Closes M m fun m' =>
    Reports M m' (fun t d => .runCancelled runId t d) (Q (.error e))
      (fun x => Q (.error (preserve e x)))
  /-- The handlers of dispatch failures and of other exceptions outside `Exception`. -/
  closed : ∀ e m, raised e m → e.cls = .eventDispatchError ∨ e.cls = .baseException →
    Closes M m (Q (.error e))
  /-- The handler of ordinary exceptions. -/
  failed : ∀ e m, raised e m → e.cls.isException = true → e.cls ≠ .eventDispatchError →
    Reports M m (fun t d => .runFailed runId t e d) (fun m' => Closes M m' (Q (.error e)))
      (fun x m' => Closes M m' (Q (.error x)))

namespace Outline

open AgentDriver

variable {M : Monitor (Call V E) (Reply V E) σ} [Quiet M] {runId : String} {host : V}
  {metadata : List (String × V)} {Q : Except Exc V → σ → Prop} {m₀ m : σ} {s : DriverState E}

/-- The postcondition of a part of the run before the outer handlers: every channel is finished,
and the outcome satisfies the assertions of the outline. -/
def Within {α : Type} (O : Outline M runId host metadata Q m₀) (K : α → σ → Prop)
    (o : Except Exc α) (s : DriverState E) (m : σ) : Prop :=
  AllFinished s ∧ Ends K O.raised o m

omit [Quiet M] in
/-- The rule of `start`, `send` and `throw`. -/
lemma wp_advance (O : Outline M runId host metadata Q m₀) {k : ℕ} (c : Call V E)
    (read : Reply V E c → Except Exc (RunState V E)) (hs : AllFinished s)
    (h : Advances M m c read (O.head k) O.raised) :
    Routine.wp M (call c >>= fun r => Routine.ofExcept (read r)) (O.Within (O.head k)) s m := by
  rw [Routine.wp_bind, wp_callOut]
  refine ⟨h.allow, fun r hr => ?_⟩
  rw [Routine.onOk_ok, Routine.wp_ofExcept]
  exact ⟨hs, h.reply r hr⟩

/-- The rule of one turn of the loop. -/
theorem wp_runEffect (O : Outline M runId host metadata Q m₀) {fuel k : ℕ} {effect : E}
    (hs : AllFinished s) (hm : O.head k (.yielded effect) m) :
    Routine.wp M (runEffect fuel runId host metadata k effect) (O.Within (O.head (k + 1))) s
      m := by
  have hstart := O.yielded k effect m hm
  unfold runEffect
  rw [Routine.wp_bind]
  refine wp_idFactory (fun effectId => ?_) fun e he => ⟨hs, (hstart "").service e he⟩
  rw [Routine.onOk_ok, Routine.wp_bind]
  refine wp_monotonic (fun effectStartedAt => ?_) fun e he => ⟨hs, (hstart "").service e he⟩
  rw [Routine.onOk_ok]
  refine wp_emitAt_then (hstart effectId) (fun m' hm' => ?_) fun _ _ _ hs' hr => ⟨hs.congr hs', hr⟩
  rw [Routine.wp_bind, makeProgressChannel, Routine.wp_modify, Routine.onOk_ok, Routine.wp_bind,
    Routine.wp_attempt]
  refine wp_executeEffect rfl (hs.openAt rfl rfl) (O.progress k effectId effect) hm'.1 hm'.2 ?_
  intro s' d o m'' hs' hJ
  rw [Routine.onOk_ok]
  cases hr : resolve d o with
  | ok value =>
    refine wp_emitElapsed_then (O.effectSucceeded k effectId effect d o m'' hJ value hr)
      (fun m₁ hm₁ => ?_) fun _ _ _ hs'' hr => ⟨hs'.congr hs'', hr⟩
    exact O.wp_advance (.send value) id hs' hm₁
  | error e =>
    have habort : e.cls.isException = false ∨ e.cls = .eventDispatchError → O.raised e m'' :=
      O.aborted k effectId effect d o m'' hJ e hr
    by_cases hc : e.cls = .cancelledError
    · simp only [hc, ↓reduceIte]
      exact ⟨hs', habort (.inl (by rw [hc]; rfl))⟩
    · by_cases hd : e.cls = .eventDispatchError
      · simp only [hd, ↓reduceIte]
        exact ⟨hs', habort (.inr hd)⟩
      · by_cases hx : e.cls.isException = true
        · simp only [hc, hd, hx, ↓reduceIte]
          refine wp_emitElapsed_then (O.effectFailed k effectId effect d o m'' hJ e hr hx hd)
            (fun m₁ hm₁ => ?_) fun _ _ _ hs'' hr => ⟨hs'.congr hs'', hr⟩
          exact O.wp_advance (.throw e) id hs' hm₁
        · simp only [hc, hd, hx, ↓reduceIte]
          exact ⟨hs', habort (.inl (by simpa using hx))⟩

/-- The loop when the run has returned. -/
lemma wp_returned (O : Outline M runId host metadata Q m₀) {fuel k : ℕ} {v : V}
    {runStartedAt : Seconds} (hs : AllFinished s) (hm : O.head k (.returned v) m) :
    Routine.wp M (driveLoop runId runStartedAt host metadata fuel (.returned v) k)
      (O.Within fun v => Q (.ok v)) s m := by
  rw [driveLoop]
  exact wp_emitElapsed_then (O.returned k v m hm) (fun m' hm' => ⟨hs, hm'⟩)
    fun _ _ _ hs' hr => ⟨hs.congr hs', hr⟩

omit [Quiet M] in
/-- The loop when the run has returned something else than a run state. -/
lemma wp_unsupported (O : Outline M runId host metadata Q m₀) {fuel k : ℕ} {n : String}
    {runStartedAt : Seconds} (hs : AllFinished s) (hm : O.head k (.unsupported n) m) :
    Routine.wp M (driveLoop runId runStartedAt host metadata fuel (.unsupported n) k)
      (O.Within fun v => Q (.ok v)) s m := by
  rw [driveLoop, Routine.wp_bind]
  exact wp_newObject fun _ _ hs' => ⟨hs.congr hs', O.unsupported k n m hm _ rfl⟩

/-- The rule of the main loop.

**Proof sketch.** Induction on the number of turns that are followed; a turn ends at the head of
the next one. -/
theorem wp_driveLoop (O : Outline M runId host metadata Q m₀) {runStartedAt : Seconds}
    (fuel : ℕ) : ∀ {k : ℕ} {state : RunState V E} {s : DriverState E} {m : σ}, AllFinished s →
      O.head k state m →
      Routine.wp M (driveLoop runId runStartedAt host metadata fuel state k)
        (O.Within fun v => Q (.ok v)) s m := by
  induction fuel with
  | zero =>
    intro k state s m hs hm
    cases state with
    | returned v => exact O.wp_returned hs hm
    | unsupported n => exact O.wp_unsupported hs hm
    | yielded effect => exact Routine.wp_cut M _ s m
  | succ fuel ih =>
    intro k state s m hs hm
    cases state with
    | returned v => exact O.wp_returned hs hm
    | unsupported n => exact O.wp_unsupported hs hm
    | yielded effect =>
      rw [driveLoop, Routine.wp_bind]
      refine Routine.wp_mono (fun o s' m' ho => ?_) (O.wp_runEffect hs hm)
      cases o with
      | ok state => exact ih ho.1 ho.2
      | error e => exact ho

/-- The postcondition of the run: every channel is finished, and the outcome satisfies `Q`. -/
def Post (Q : Except Exc V → σ → Prop) (o : Except Exc V) (s : DriverState E) (m : σ) : Prop :=
  AllFinished s ∧ Q o m

/-- The rule of the handlers around the loop. -/
theorem wp_handleFailure (O : Outline M runId host metadata Q m₀) {runStartedAt : Seconds}
    {e : Exc} (hs : AllFinished s) (hm : O.raised e m) :
    Routine.wp M (handleFailure runId runStartedAt e) (Post Q) s m := by
  unfold handleFailure
  by_cases hc : e.cls = .cancelledError
  · have hclose := O.cancelled e m hm hc
    rw [if_pos hc, Routine.wp_bind]
    refine wp_closePreserving hclose fun m' hm' => ?_
    rw [Routine.onOk_ok, Routine.wp_bind, Routine.wp_tryCatch]
    refine wp_emitElapsed hm' (fun m'' hm'' => ⟨hs, hm''⟩) fun s'' x m'' hs'' hx => ?_
    rw [Routine.onError_error]
    by_cases hd : x.cls = .eventDispatchError
    · rw [preserve, if_pos hd] at hx
      rw [if_pos hd, Routine.wp_bind]
      refine wp_note (.addNote e _) rfl fun _ => ?_
      rw [Routine.onOk_ok, Routine.wp_bind]
      exact wp_note (.setCause e x) rfl fun _ => ⟨hs.congr hs'', hx⟩
    · rw [preserve, if_neg hd] at hx
      rw [if_neg hd]
      exact ⟨hs.congr hs'', hx⟩
  · rw [if_neg hc]
    by_cases hd : e.cls = .eventDispatchError
    · rw [if_pos hd, Routine.wp_bind]
      exact wp_closePreserving (O.closed e m hm (.inl hd)) fun m' hm' => ⟨hs, hm'⟩
    · rw [if_neg hd]
      by_cases hx : e.cls.isException = true
      · rw [if_pos hx, Routine.wp_bind, Routine.wp_tryFinally]
        refine wp_emitElapsed (O.failed e m hm hx hd) (fun m' hm' => ?_)
          fun s' x m' hs' hm' => ?_
        · exact wp_closePreserving hm' fun m'' hm'' => ⟨hs, hm''⟩
        · exact wp_closePreserving hm' fun m'' hm'' => ⟨hs.congr hs', hm''⟩
      · have hb : e.cls = .baseException := by
          cases h : e.cls <;> simp_all [ExcClass.isException]
        rw [if_neg hx, Routine.wp_bind]
        exact wp_closePreserving (O.closed e m hm (.inr hb)) fun m' hm' => ⟨hs, hm'⟩

/-- The rule of the run from its first event on. -/
theorem wp_runStarted (O : Outline M runId host metadata Q m₀) {fuel : ℕ}
    {runStartedAt : Seconds} (hs : AllFinished s) :
    Routine.wp M (runStarted fuel host metadata runId runStartedAt) (Post Q) s m₀ := by
  unfold runStarted
  rw [Routine.wp_bind, Routine.wp_attempt]
  refine wp_emitAt_then O.started (fun m hm => ?_) fun s' d m' hs' hr =>
    O.wp_handleFailure (hs.congr hs') hr
  rw [Routine.wp_bind]
  refine Routine.wp_mono (fun o s' m' ho => ?_) (O.wp_advance .start id hs hm)
  cases o with
  | ok state =>
    rw [Routine.onOk_ok]
    refine Routine.wp_mono (fun o s'' m'' ho' => ?_) (O.wp_driveLoop fuel ho.1 ho.2)
    cases o with
    | ok v => exact ho'
    | error e => exact O.wp_handleFailure ho'.1 ho'.2
  | error e => exact O.wp_handleFailure ho.1 ho.2

omit [Quiet M] in
/-- At first there is no progress channel. -/
lemma allFinished_initialState : AllFinished (initialState : DriverState E) := by
  intro a ch h
  cases h

/-- What precedes the first lifecycle event has brought a run id, which is the given one if there is
one, or a service has raised. -/
inductive Preflight (M : Monitor (Call V E) (Reply V E) σ) (given : Option String) (m : σ) :
    Except Exc (String × Seconds) → Prop
  | ok (runId : String) (t : Seconds) (h : ∀ r, given = some r → runId = r) :
      Preflight M given m (.ok (runId, t))
  | error (e : Exc) (h : ServiceRaises M m e) : Preflight M given m (.error e)

/-- What precedes the first lifecycle event. -/
lemma wp_preflight (given : Option String) {s : DriverState E} {m : σ} :
    Routine.wp M (preflight given)
      (fun o s' m' => s' = s ∧ m' = m ∧ Preflight M given m o) s m := by
  have hclock (runId : String) (hrun : ∀ r, given = some r → runId = r) :
      Routine.wp M (monotonic >>= fun t => pure (runId, t) : DriverM V E (String × Seconds))
        (fun o s' m' => s' = s ∧ m' = m ∧ Preflight M given m o) s m := by
    rw [Routine.wp_bind]
    exact wp_monotonic (fun t => ⟨rfl, rfl, .ok runId t hrun⟩) fun e he => ⟨rfl, rfl, .error e he⟩
  unfold preflight
  cases given with
  | some runId => exact hclock runId fun r hr => Option.some.inj hr
  | none =>
    dsimp only
    rw [Routine.wp_bind]
    exact wp_idFactory (fun runId => hclock runId fun r hr => by cases hr)
      fun e he => ⟨rfl, rfl, .error e he⟩

/-- The rule of the body of the run. -/
theorem wp_runBody {fuel : ℕ} (given : Option String)
    (O : ∀ runId, (∀ r, given = some r → runId = r) → Outline M runId host metadata Q m₀)
    (hpre : ∀ e, ServiceRaises M m₀ e → Closes M m₀ (Q (.error e))) :
    Routine.wp M (runBody fuel host metadata given) (Post Q) initialState m₀ := by
  have hs : AllFinished (initialState : DriverState E) := allFinished_initialState
  unfold runBody
  rw [Routine.wp_bind, Routine.wp_attempt]
  refine Routine.wp_mono (fun o s m ho => ?_) (wp_preflight given)
  obtain ⟨rfl, rfl, ho⟩ := ho
  cases ho with
  | ok runId t h => exact (O runId h).wp_runStarted hs
  | error e h =>
    rw [Routine.onOk_ok, Routine.wp_bind]
    exact wp_closePreserving (hpre e h) fun m' hm' => ⟨hs, hm'⟩

/-- **Soundness of the outline.** If there is a proof outline for each run id the run can get,
closing the run after a failure of the preflight is accounted for, and so is what leaves the
coroutine, then the whole run keeps to the monitor and its outcome satisfies the postcondition. -/
theorem wp_run {Q' : Except Exc V → σ → Prop} {fuel : ℕ} (given : Option String)
    (O : ∀ runId, (∀ r, given = some r → runId = r) → Outline M runId host metadata Q m₀)
    (hpre : ∀ e, ServiceRaises M m₀ e → Closes M m₀ (Q (.error e)))
    (hleave : ∀ o id m, Q o m → Q' (leaving "coroutine" id o) m) :
    Routine.wp M (run fuel host metadata given) (Post Q') initialState m₀ := by
  unfold run
  rw [Routine.wp_tryCatch]
  refine Routine.wp_mono (fun o s m ho => ?_) (wp_runBody given O hpre)
  obtain ⟨hs, hQ⟩ := ho
  cases o with
  | ok value => exact ⟨hs, hleave (.ok value) (.made 0) m hQ⟩
  | error e =>
    rw [Routine.onError_error, Routine.wp_bind]
    exact wp_newObject fun s' n hs' => ⟨hs.congr hs', hleave (.error e) (.made n) m hQ⟩

end Outline

end PurrceptCore
