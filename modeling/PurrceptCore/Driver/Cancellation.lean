import PurrceptCore.Driver.Observations

set_option relaxedAutoImplicit false
set_option autoImplicit false

/-!
# Cancellation

When the executor ends with a cancellation, the run of the driver raises that very exception,
unless a progress dispatch of the effect had failed before: then the latched dispatch failure takes
its place.

## Main definitions

* `PurrceptCore.cancellations` — the cancellations with which the executor has ended.
* `PurrceptCore.failedProgress` — the progress events whose dispatch has failed.

## Main results

* `PurrceptCore.AgentDriver.cancellation_raised_iff` — when the cancellation is what the run raises.

## Design

* An exception is formatted into a note and gets it without raising, as `Exceptions` says: the notes
  of a cancellation do not replace it.
-/

namespace PurrceptCore

open Interaction

variable {V E : Type}

/-- The cancellation in an outcome. -/
def cancellationOf : Except Exc V → Option Exc
  | .ok _ => none
  | .error e => if e.cls = .cancelledError then some e else none

lemma cancellationOf_eq_some {o : Except Exc V} {e : Exc} :
    cancellationOf o = some e ↔ o = .error e ∧ e.cls = .cancelledError := by
  cases o with
  | ok v => simp [cancellationOf]
  | error e' =>
    rw [cancellationOf, Except.error.injEq]
    by_cases h : e'.cls = .cancelledError
    · rw [if_pos h, Option.some.injEq]
      exact ⟨fun he => ⟨he, he ▸ h⟩, fun he => he.1⟩
    · rw [if_neg h]
      exact ⟨fun he => (nomatch he), fun he => absurd (he.1 ▸ he.2) h⟩

/-- A progress event. -/
def RunEvent.progress : RunEvent V E → Option (RunEvent V E)
  | .effectProgress r t i k e p => some (.effectProgress r t i k e p)
  | _ => none

/-- The cancellations with which the executor has ended. -/
abbrev cancellations : Observation V E Exc := outcomes.filterMap cancellationOf

/-- The progress events whose dispatch has failed. -/
abbrev failedProgress : Observation V E (RunEvent V E) := undelivered.filterMap RunEvent.progress

namespace Cancellation

/-- The monitor: every call is allowed; the services are total, and the sink raises ordinary
exceptions only. -/
abbrev monitor : Monitor (Call V E) (Reply V E) (DriverTrace V E) :=
  observer (fun _ _ => True) fun c r => TotalServices c r ∧ OrdinarySink c r

/-- Neither a cancellation nor a failed progress dispatch. -/
structure Clean (tr : DriverTrace V E) : Prop where
  cancellations : cancellations tr = []
  failedProgress : failedProgress tr = []

/-- A cancellation is raised as `e` exactly if no progress dispatch has failed. -/
def Raised (e : Exc) (tr : DriverTrace V E) : Prop :=
  ∀ c ∈ cancellations tr, e = c ↔ failedProgress tr = []

/-- The assertion while an executor is at work: the channel has latched a failure exactly if a
progress dispatch has failed. -/
structure Working (d : Option Exc) (r : ExecReply V) (tr : DriverTrace V E) : Prop where
  latched : ∀ e, d = some e → e.cls = .eventDispatchError ∧ failedProgress tr ≠ []
  unlatched : d = none → failedProgress tr = []
  cancellations : cancellations tr = (r.outcome.bind cancellationOf).toList

/-- The condition when the run of the driver ends. -/
def Post : Except Exc V → DriverTrace V E → Prop
  | .ok _, tr => cancellations tr = []
  | .error e, tr => Raised e tr

variable {tr tr' : DriverTrace V E}

/-- What is a cancellation. -/
lemma cls_of_mem {e : Exc} (h : e ∈ cancellations tr) : e.cls = .cancelledError := by
  rw [observe_filterMap] at h
  obtain ⟨o, -, ho⟩ := List.mem_filterMap.1 h
  exact (cancellationOf_eq_some.1 ho).2

/-- Without a cancellation, anything may be raised. -/
lemma Clean.raised (h : Clean tr) (e : Exc) : Raised e tr := by
  intro c hc
  rw [h.cancellations] at hc
  cases hc

/-- An exception that is no cancellation may replace another one. -/
lemma Raised.replace {e e' : Exc} (h : Raised e tr) (he : e.cls ≠ .cancelledError)
    (he' : e'.cls ≠ .cancelledError) : Raised e' tr := by
  intro c hc
  have hcls := cls_of_mem hc
  have hne : e ≠ c := fun h => he (h ▸ hcls)
  have hne' : e' ≠ c := fun h => he' (h ▸ hcls)
  rw [← h c hc]
  exact iff_of_false hne' hne

/-- What leaves the coroutine is a cancellation exactly if it was raised as one. -/
lemma Raised.leaving {e : Exc} (h : Raised e tr) (id : ObjId) :
    Raised (e.leaving "coroutine" id) tr := by
  by_cases hstop : e.cls = .stopIteration
  · have he : e.cls ≠ .cancelledError := by
      rw [hstop]
      decide
    refine h.replace he fun hleft => he ?_
    exact (Exc.leaving_cls_iff "coroutine" id (by decide) (by decide)).1 hleft
  · rwa [Exc.leaving_eq _ _ hstop]

/-- Nothing that matters has happened. -/
structure Same (tr tr' : DriverTrace V E) : Prop where
  cancellations : cancellations tr' = cancellations tr
  failedProgress : failedProgress tr' = failedProgress tr

lemma Same.raised (h : Same tr tr') {e : Exc} (he : Raised e tr) : Raised e tr' := by
  intro c hc
  rw [h.cancellations] at hc
  rw [h.failedProgress]
  exact he c hc

lemma Same.clean (h : Same tr tr') (hc : Clean tr) : Clean tr' :=
  ⟨h.cancellations.trans hc.cancellations, h.failedProgress.trans hc.failedProgress⟩

/-- Emitting an event other than progress. -/
lemma reports {f : Instant → Seconds → RunEvent V E} {K : DriverTrace V E → Prop}
    {raise : Exc → DriverTrace V E → Prop} (hf : ∀ t d, (f t d).progress = none)
    (hK : ∀ tr', Same tr tr' → K tr')
    (hraise : ∀ e tr', Same tr tr' → e.cls = .eventDispatchError → raise e tr') :
    Reports monitor tr f K raise where
  service e he := absurd he (TotalServices.not_raises fun _ _ h => h.1)
  emits t d := by
    have hsame : ∀ r, Same tr (tr ++ [⟨.emit (f t d), r⟩]) := by
      refine fun r => ⟨observe_snoc_none _ rfl, observe_snoc_none _ ?_⟩
      rw [Observation.filterMap_of, undelivered_of, failureOf]
      split
      · exact hf t d
      · rfl
    refine ⟨.inr trivial, fun r _ _ => ?_, fun r d' _ _ hd => ?_, fun e he hx => ?_⟩
    · rw [observer_next rfl]
      exact hK _ (hsame r)
    · rw [observer_next rfl]
      exact hraise d' _ (hsame r) hd
    · have hord : e.cls.isException = true := he.2
      rw [hx] at hord
      cases hord

/-- Closing the run, or advancing it, changes nothing that matters. -/
lemma same_snoc (x : Σ c, Reply V E c) (ha : activityOf x = none) (hf : failureOf x = none) :
    Same tr (tr ++ [x]) :=
  ⟨observe_snoc_none _ (Observation.filterMap_none (Observation.filterMap_none ha)),
    observe_snoc_none _ (Observation.filterMap_none hf)⟩

/-- Closing the run. -/
lemma closes {K : DriverTrace V E → Prop} (hK : ∀ tr', Same tr tr' → K tr') :
    Closes monitor tr K := by
  refine ⟨.inr trivial, fun r _ => ?_⟩
  rw [observer_next rfl]
  exact hK _ (same_snoc _ rfl rfl)

/-- Advancing the run. -/
lemma advances {c : Call V E} {read : Reply V E c → Except Exc (RunState V E)}
    (hc : c.isService = false) (ha : ∀ r, activityOf ⟨c, r⟩ = none)
    (hf : ∀ r, failureOf ⟨c, r⟩ = none) (h : Clean tr) :
    Advances monitor tr c read (fun _ => Clean) Raised where
  allow := .inr trivial
  reply r _ := by
    have hsame : Same tr (tr ++ [⟨c, r⟩]) := same_snoc _ (ha r) (hf r)
    have hclean := hsame.clean h
    rw [observer_next hc]
    cases read r with
    | ok state => exact hclean
    | error e => exact hclean.raised e

/-- Handing an outcome to the executor. -/
lemma resumes {d' : Option Exc} {o : Except Exc Unit}
    (h : cancellations tr = [])
    (hd : ∀ e, d' = some e → e.cls = .eventDispatchError ∧ failedProgress tr ≠ [])
    (hd' : d' = none → failedProgress tr = []) :
    Resumes monitor tr o (Working d') := by
  refine ⟨.inr trivial, fun r _ => ?_⟩
  rw [observer_next rfl]
  have hfailed : failedProgress (tr ++ [⟨.resume o, r⟩]) = failedProgress tr :=
    observe_snoc_none _ rfl
  refine ⟨fun e he => ?_, fun hn => ?_, ?_⟩
  · rw [hfailed]
    exact hd e he
  · rw [hfailed]
    exact hd' hn
  · simp [h]

/-- The steps of an executor at work. -/
lemma progresses (k : ℕ) (channel : Channel E) :
    Progresses (monitor (V := V)) k channel Working where
  stale d a p tr _ h e _ := resumes h.cancellations h.latched h.unlatched
  latched d p tr h := resumes h.cancellations h.latched h.unlatched
  fresh p tr h := by
    have hclean : failedProgress tr = [] := h.unlatched rfl
    refine ⟨fun e he => absurd he (TotalServices.not_raises fun _ _ h => h.1), fun t _ => ?_⟩
    have hcanc : ∀ r, PurrceptCore.cancellations (tr ++ [⟨.emit (.effectProgress channel.runId t
        channel.effectId channel.stepIndex channel.effect p), r⟩]) = [] :=
      fun r => (observe_snoc_none _ rfl).trans h.cancellations
    refine ⟨.inr trivial, fun r _ hr => ?_, fun r d _ hr hd => ?_, fun e he hx => ?_⟩
    · rw [observer_next rfl]
      refine resumes (hcanc r) (fun _ he => by cases he) fun _ => ?_
      simp [hclean, hr.not_failed]
    · rw [observer_next rfl]
      rw [latch, if_pos hd]
      refine resumes (hcanc r) ?_ fun hn => by cases hn
      intro e he
      cases he
      exact ⟨hd, by simp [hclean, hr, RunEvent.progress]⟩
    · have hord : e.cls.isException = true := he.2
      rw [hx] at hord
      cases hord

/-- When the executor has ended, its cancellation is raised unless a failure was latched. -/
lemma Working.raised {d : Option Exc} {o : Except Exc V} (h : Working d (.done o) tr) {e : Exc}
    (he : resolve d o = .error e) : Raised e tr := by
  intro c hc
  rw [h.cancellations] at hc
  cases d with
  | some d =>
    cases he
    obtain ⟨hd, hfailed⟩ := h.latched e rfl
    have hcls : c.cls = .cancelledError := by
      cases ho : cancellationOf o with
      | none => simp [ho] at hc
      | some c' =>
        simp only [ExecReply.outcome, Option.bind_some, ho, Option.toList_some,
          List.mem_singleton] at hc
        rw [hc]
        exact (cancellationOf_eq_some.1 ho).2
    refine iff_of_false (fun hec => ?_) hfailed
    rw [hec, hcls] at hd
    cases hd
  | none =>
    cases he
    refine iff_of_true ?_ (h.unlatched rfl)
    cases ho : cancellationOf (V := V) (.error e) with
    | none => simp [ho] at hc
    | some c' =>
      simp only [ExecReply.outcome, Option.bind_some, ho, Option.toList_some,
        List.mem_singleton] at hc
      rw [hc]
      exact Except.error.inj (cancellationOf_eq_some.1 ho).1

/-- An effect whose outcome the run gets to see was not cancelled. -/
lemma Working.clean {d : Option Exc} {o : Except Exc V} (h : Working d (.done o) tr)
    (ho : ∀ e, resolve d o = .error e → e.cls.isException = true ∧ e.cls ≠ .eventDispatchError) :
    Clean tr := by
  obtain rfl : d = none := by
    cases d with
    | none => rfl
    | some e => exact absurd (h.latched e rfl).1 (ho e rfl).2
  refine ⟨?_, h.unlatched rfl⟩
  rw [h.cancellations]
  cases hc : cancellationOf o with
  | none => simp [hc]
  | some c =>
    obtain ⟨rfl, hcls⟩ := cancellationOf_eq_some.1 hc
    have hx := (ho c rfl).1
    rw [hcls] at hx
    cases hx

/-- **Proof outline.** -/
def outline (runId : String) (host : V) (metadata : List (String × V)) :
    Outline (E := E) monitor runId host metadata Post [] where
  head _ _ := Clean
  working _ _ _ := Working
  raised := Raised
  started := reports (fun _ _ => rfl)
    (fun tr h => advances rfl (fun _ => rfl) (fun _ => rfl) (h.clean ⟨rfl, rfl⟩))
    fun e tr h _ => (h.clean ⟨rfl, rfl⟩).raised e
  returned k v tr h := reports (fun _ _ => rfl) (fun tr' h' => (h'.clean h).cancellations)
    fun e tr' h' _ => (h'.clean h).raised e
  unsupported k n tr h e _ := h.raised e
  yielded k effect tr h effectId := by
    refine reports (fun _ _ => rfl) (fun tr' h' => ⟨.inr trivial, fun r _ => ?_⟩)
      fun e tr' h' _ => (h'.clean h).raised e
    have hclean := h'.clean h
    rw [observer_next rfl]
    refine ⟨fun _ he => (nomatch he), fun _ => ?_, ?_⟩
    · exact (observe_snoc_none _ rfl).trans hclean.failedProgress
    · simp [hclean.cancellations]
  progress k effectId effect := progresses k _
  aborted k effectId effect d o tr h e ho _ := h.raised ho
  effectFailed k effectId effect d o tr h e ho hx hd := by
    have hclean : Clean tr := h.clean fun e' he' => by
      rw [ho] at he'
      cases he'
      exact ⟨hx, hd⟩
    exact reports (fun _ _ => rfl)
      (fun tr' h' => advances rfl (fun _ => rfl) (fun _ => rfl) (h'.clean hclean))
      fun e' tr' h' _ => (h'.clean hclean).raised e'
  effectSucceeded k effectId effect d o tr h v ho := by
    have hclean : Clean tr := h.clean fun e' he' => by
      rw [ho] at he'
      cases he'
    exact reports (fun _ _ => rfl)
      (fun tr' h' => advances rfl (fun _ => rfl) (fun _ => rfl) (h'.clean hclean))
      fun e' tr' h' _ => (h'.clean hclean).raised e'
  cancelled e tr h he := closes fun tr' h' => reports (fun _ _ => rfl)
    (fun tr'' h'' => h''.raised (h'.raised h)) fun x tr'' h'' hx => by
      rw [preserve, if_pos hx]
      exact h''.raised (h'.raised h)
  closed e tr h _ := closes fun tr' h' => h'.raised h
  failed e tr h hx hd := by
    have he : e.cls ≠ .cancelledError := by
      intro hc
      rw [hc] at hx
      cases hx
    refine reports (fun _ _ => rfl) (fun tr' h' => closes fun tr'' h'' => h''.raised (h'.raised h))
      fun x tr' h' hx' => closes fun tr'' h'' => h''.raised (h'.raised (h.replace he ?_))
    rw [hx']
    decide

/-- The driver keeps to the monitor. -/
lemma keeps (fuel : ℕ) (host : V) (metadata : List (String × V)) (given : Option String) :
    Routine.wp (monitor (E := E)) (AgentDriver.run fuel host metadata given) (Outline.Post Post)
      AgentDriver.initialState [] :=
  Outline.wp_run given (fun runId _ => outline runId host metadata)
    (fun _ he => absurd he (TotalServices.not_raises fun _ _ h => h.1))
    fun o id _ h => by
      cases o with
      | ok v => exact h
      | error e => exact h.leaving id

end Cancellation

namespace AgentDriver

variable {host : V} {metadata : List (String × V)} {given : Option String}
  {tr : DriverTrace V E}

/-- **When a cancellation is what the run raises.** Let the clocks and the id factory be total and
let the sink raise ordinary exceptions only. If the executor has ended with the cancellation `e`,
the run raises `e` exactly if no progress dispatch had failed; whatever `close` and the dispatch of
`RunCancelled` do makes no difference. -/
theorem cancellation_raised_iff {o : Except Exc V} {s : DriverState E} {e : Exc}
    (h : DriverRuns host metadata given tr (.ret (o, s)))
    (htotal : ∀ x ∈ tr, TotalServices x.1 x.2) (hsink : ∀ x ∈ tr, OrdinarySink x.1 x.2)
    (he : .error e ∈ outcomes tr) (hc : e.cls = .cancelledError) :
    o = .error e ↔ failedProgress tr = [] := by
  have hpost := (h.ret (fun fuel => Cancellation.keeps fuel host metadata given)
    fun x hx => ⟨htotal x hx, hsink x hx⟩).2
  have hmem : e ∈ cancellations tr := by
    rw [observe_filterMap]
    exact List.mem_filterMap.2 ⟨_, he, cancellationOf_eq_some.2 ⟨rfl, hc⟩⟩
  cases o with
  | ok v =>
    have hnone : cancellations tr = [] := by simpa [Cancellation.Post] using hpost
    rw [hnone] at hmem
    cases hmem
  | error e' =>
    have hraised := hpost e (by rwa [observe_visible])
    rw [observe_visible] at hraised
    rw [Except.error.injEq]
    exact hraised

/-- A cancellation of the task. -/
def taskCancelled : Exc := ⟨.given 0, .cancelledError, "asyncio.exceptions.CancelledError", ""⟩

/-- A flow whose executor reports progress, catches the failure of that dispatch, and is then
cancelled. -/
def suppressedProgress : Collaborators Unit Unit where
  sink
    | .effectProgress .. => .error ⟨.given 1, .exception, "builtins.ValueError", "disk full"⟩
    | _ => .ok .none
  flow _ := .ok (.yielded ())
  executor
    | none => .progress 0 ()
    | some _ => .done (.error taskCancelled)
  close := .ok ()

lemma suppressedProgress_ordinary (event : RunEvent Unit Unit) (e : Exc)
    (h : suppressedProgress.sink event = .error e) : e.cls.isException = true := by
  cases event <;> cases h
  rfl

/-- The run raises the latched dispatch failure, and not the cancellation. -/
theorem cancellation_replaced :
    ∃ s, DriverRuns () [] (some "run") (suppressedProgress.play () [] (some "run") 20).1
      (.ret (.error (eventDispatchError 0
        (.effectProgress "run" 0 "id" 0 () () : RunEvent Unit Unit)), s)) ∧
    (∀ x ∈ (suppressedProgress.play () [] (some "run") 20).1,
      TotalServices x.1 x.2 ∧ OrdinarySink x.1 x.2) ∧
    .error taskCancelled ∈ outcomes (suppressedProgress.play () [] (some "run") 20).1 ∧
    taskCancelled.cls = .cancelledError ∧
    eventDispatchError 0 (.effectProgress "run" 0 "id" 0 () () : RunEvent Unit Unit) ≠
      taskCancelled :=
  ⟨_, suppressedProgress.runs () [] (some "run") 20,
    fun _ hx => ⟨Collaborators.total hx, Collaborators.ordinary suppressedProgress_ordinary hx⟩,
    List.mem_singleton_self _, rfl, fun h => nomatch congrArg Exc.cls h⟩

/-- A cancellation with no progress reported is what the run raises, though closing the run
fails and so does dispatching `RunCancelled`. -/
theorem cancellation_raised_unreported :
    let w : Collaborators Unit Unit :=
      { sink := fun
          | .runCancelled .. => .error ⟨.given 1, .exception, "builtins.ValueError", "disk full"⟩
          | _ => .ok .none
        flow := fun _ => .ok (.yielded ())
        executor := fun _ => .done (.error taskCancelled)
        close := .error ⟨.given 2, .exception, "builtins.ValueError", "still open"⟩ }
    ∃ s, (w.play () [] (some "run") 20).2 = .ret (.error taskCancelled, s) ∧
      ((.error taskCancelled : Except Exc Unit) = .error taskCancelled ↔
        failedProgress (w.play () [] (some "run") 20).1 = []) := by
  intro w
  refine ⟨_, rfl, cancellation_raised_iff (w.runs () [] (some "run") 20)
    (fun _ hx => Collaborators.total hx) (fun _ hx => Collaborators.ordinary ?_ hx)
    (List.mem_singleton_self _) rfl⟩
  intro event e h
  cases event <;> cases h
  rfl

end AgentDriver

end PurrceptCore
