import PurrceptCore.Driver.Observations

set_option relaxedAutoImplicit false
set_option autoImplicit false

/-!
# How a run ends

When every event is delivered, the last event of a run is its only terminal event and matches the
way the run of the driver ends, with two exceptions. A dispatch failure of another run that comes
out of the executor or out of the flow passes through without any terminal event. A `StopIteration`
that an advancement of the flow raises is reported by `RunFailed`, but does not leave the coroutine
`run`.

## Main definitions

* `PurrceptCore.EndsObservably` — the events end with the one terminal event that matches.
* `PurrceptCore.foreignFailures` — the dispatch failures raised by the flow and by the executor.
* `PurrceptCore.stopIterations` — the `StopIteration`s raised by the flow.

## Main results

* `PurrceptCore.AgentDriver.endsObservably_iff` — when a run ends observably.

## Design

* An exception is formatted into a note and gets it without raising, as `Exceptions` says.
-/

namespace PurrceptCore

open Interaction

variable {V E : Type}

/-- The events after which a run is over. -/
def RunEvent.terminal : RunEvent V E → Option (RunEvent V E)
  | .runSucceeded r t v d => some (.runSucceeded r t v d)
  | .runFailed r t e d => some (.runFailed r t e d)
  | .runCancelled r t d => some (.runCancelled r t d)
  | _ => none

/-- The terminal event matches the outcome of the run. -/
def RunEvent.Matches : RunEvent V E → Except Exc V → Prop
  | .runSucceeded _ _ v _, .ok v' => v = v'
  | .runFailed _ _ e _, .error e' => e = e' ∧ e.cls.isException = true
  | .runCancelled _ _ _, .error e => e.cls = .cancelledError
  | _, _ => False

/-- The last event is a terminal event that matches the outcome, and no other event is
terminal. -/
def EndsObservably (events : List (RunEvent V E)) (o : Except Exc V) : Prop :=
  ∃ before last, events = before ++ [last] ∧ before.filterMap RunEvent.terminal = [] ∧
    last.Matches o

/-- The dispatch failure in an outcome. -/
def dispatchErrorOf {α : Type} : Except Exc α → Option Exc
  | .ok _ => none
  | .error e => if e.cls = .eventDispatchError then some e else none

/-- What the flow and the executor raise. -/
def raisedOf : (Σ c, Reply V E c) → Option (Except Exc Unit)
  | ⟨.start, r⟩ => some (r.map fun _ => ())
  | ⟨.send _, r⟩ => some (r.map fun _ => ())
  | ⟨.throw _, r⟩ => some (r.map fun _ => ())
  | ⟨.execute _ _, .done r⟩ => some (r.map fun _ => ())
  | ⟨.resume _, .done r⟩ => some (r.map fun _ => ())
  | _ => none

/-- How the advancements of the flow and the executions of its effects ended. -/
@[simps]
def raisings : Observation V E (Except Exc Unit) where
  of := raisedOf
  service := by rintro ⟨_ | _, _⟩ h <;> first | rfl | cases h

/-- The dispatch failures raised by the flow and by the executor. -/
abbrev foreignFailures : Observation V E Exc := raisings.filterMap dispatchErrorOf

/-- The `StopIteration` in an outcome. -/
def stopIterationOf {α : Type} : Except Exc α → Option Exc
  | .ok _ => none
  | .error e => if e.cls = .stopIteration then some e else none

/-- The `StopIteration`s raised by `start`, `send` and `throw` of the flow. -/
abbrev stopIterations : Observation V E Exc := advancements.filterMap stopIterationOf

/-- The terminal events. -/
abbrev terminals : Observation V E (RunEvent V E) := emitted.filterMap RunEvent.terminal

/-- Every event is delivered. -/
def DeliveringSink : (c : Call V E) → Reply V E c → Prop
  | .emit _, r => Delivered r
  | _, _ => True

/-- The flow and the executor raise `Exception` and `CancelledError` only. -/
def NoBaseException (c : Call V E) (r : Reply V E c) : Prop :=
  ∀ e, raisedOf ⟨c, r⟩ = some (.error e) → e.cls ≠ .baseException

namespace Endings

/-- The monitor: every call is allowed; the services are total, every event is delivered, and
there is no `BaseException` but cancellations. -/
abbrev monitor : Monitor (Call V E) (Reply V E) (DriverTrace V E) :=
  observer (fun _ _ => True) fun c r => TotalServices c r ∧ DeliveringSink c r ∧ NoBaseException c r

/-- The run is not over, no foreign dispatch failure has come, and no `StopIteration`. -/
structure Open (tr : DriverTrace V E) : Prop where
  terminals : terminals tr = []
  foreignFailures : foreignFailures tr = []
  stopIterations : stopIterations tr = []

/-- The assertion where an exception reaches the outer handlers: the run is not over, the exception
is a dispatch failure exactly if that came from outside, and a `StopIteration` exactly if the flow
has raised one. -/
structure Raised (e : Exc) (tr : DriverTrace V E) : Prop where
  terminals : terminals tr = []
  foreign : foreignFailures tr = [] ↔ e.cls ≠ .eventDispatchError
  stop : stopIterations tr = [] ↔ e.cls ≠ .stopIteration
  cls : e.cls ≠ .baseException

/-- The assertion while an executor is at work: nothing is latched, since no dispatch fails. -/
structure Working (d : Option Exc) (r : ExecReply V) (tr : DriverTrace V E) : Prop where
  latched : d = none
  terminals : terminals tr = []
  foreignFailures : foreignFailures tr = (r.outcome.bind dispatchErrorOf).toList
  stopIterations : stopIterations tr = []
  cls : ∀ e, r = .done (.error e) → e.cls ≠ .baseException

/-- What the assertion says about the outcome that the body of the run ends with. -/
lemma Raised.stops {e : Exc} {tr : DriverTrace V E} (h : Raised e tr) :
    stopIterations tr = [] ↔
      ∀ e', (.error e : Except Exc V) = .error e' → e'.cls ≠ .stopIteration := by
  rw [h.stop]
  refine ⟨fun hcls e' he => ?_, fun hcls => hcls e rfl⟩
  cases he
  exact hcls

/-- How the body of the run ends: with the terminal event that matches, or without one if a foreign
dispatch failure has come. -/
structure Ended (o : Except Exc V) (tr : DriverTrace V E) : Prop where
  reported : EndsObservably (emitted tr) o ∧ foreignFailures tr = [] ∨
    terminals tr = [] ∧ foreignFailures tr ≠ []
  stop : stopIterations tr = [] ↔ ∀ e, o = .error e → e.cls ≠ .stopIteration

/-- The condition when the run of the driver ends. -/
def Post (o : Except Exc V) (tr : DriverTrace V E) : Prop :=
  EndsObservably (emitted tr) o ↔ foreignFailures tr = [] ∧ stopIterations tr = []

variable {tr : DriverTrace V E}

/-- Emitting an event. -/
lemma reports {f : Instant → Seconds → RunEvent V E} {K : DriverTrace V E → Prop}
    {raise : Exc → DriverTrace V E → Prop}
    (hK : ∀ t d r, K (tr ++ [⟨.emit (f t d), r⟩])) : Reports monitor tr f K raise where
  service e he := absurd he (TotalServices.not_raises fun _ _ h => h.1)
  emits t d := by
    refine ⟨.inr trivial, fun r _ _ => ?_, fun r d' he hr _ => ?_, fun e he _ => ?_⟩
    · rw [observer_next rfl]
      exact hK t d r
    · exact absurd hr (Delivered.not_failed he.2.1)
    · cases he.2.1

/-- Closing the run. -/
lemma closes {K : DriverTrace V E → Prop} (hK : ∀ r, K (tr ++ [⟨.close, r⟩])) :
    Closes monitor tr K := by
  refine ⟨.inr trivial, fun r _ => ?_⟩
  rw [observer_next rfl]
  exact hK r

/-- An event that is not terminal leaves the run open. -/
lemma Open.emit (h : Open tr) {event : RunEvent V E} (he : event.terminal = none)
    (r : Except Exc SinkResult) : Open (tr ++ [⟨.emit event, r⟩]) :=
  ⟨(observe_snoc_none _ he).trans h.terminals, (observe_snoc_none _ rfl).trans h.foreignFailures,
    (observe_snoc_none _ rfl).trans h.stopIterations⟩

/-- Advancing the run. -/
lemma advances {c : Call V E} {read : Reply V E c → Except Exc (RunState V E)}
    (hc : c.isService = false) (he : ∀ r, emissionOf ⟨c, r⟩ = none)
    (hr : ∀ r, raisedOf ⟨c, r⟩ = some ((read r).map fun _ => ()))
    (ha : ∀ r, advancementOf ⟨c, r⟩ = some (read r)) (h : Open tr) :
    Advances monitor tr c read (fun _ => Open) Raised where
  allow := .inr trivial
  reply r hexpect := by
    have hterm : terminals (tr ++ [⟨c, r⟩]) = [] :=
      (observe_snoc_none _ (Observation.filterMap_none (he r))).trans h.terminals
    have hforeign : foreignFailures (tr ++ [⟨c, r⟩]) =
        (dispatchErrorOf ((read r).map fun _ => ())).toList := by
      rw [observe_append, h.foreignFailures, observe_cons, Observation.filterMap_of, raisings_of,
        hr]
      simp
    have hstop : stopIterations (tr ++ [⟨c, r⟩]) = (stopIterationOf (read r)).toList := by
      rw [observe_append, h.stopIterations, observe_cons, Observation.filterMap_of,
        advancements_of, ha]
      simp
    have hbase := hexpect.2.2
    rw [observer_next hc]
    cases hread : read r with
    | ok state =>
      rw [hread] at hforeign hstop
      exact ⟨hterm, hforeign, hstop⟩
    | error e =>
      rw [hread] at hforeign hstop
      refine ⟨hterm, ?_, ?_, hbase e (by rw [hr, hread]; rfl)⟩
      · rw [hforeign]
        by_cases hd : e.cls = .eventDispatchError <;> simp [Except.map, dispatchErrorOf, hd]
      · rw [hstop]
        by_cases hs : e.cls = .stopIteration <;> simp [stopIterationOf, hs]

/-- Handing the yielded effect, or the answer to a progress report, to the executor. -/
lemma works {c : Call V E} (r : Reply V E c) (read : Reply V E c → ExecReply V)
    (hc : c.isService = false) (he : emissionOf ⟨c, r⟩ = none)
    (ha : advancementOf ⟨c, r⟩ = none)
    (hr : raisedOf ⟨c, r⟩ = (read r).outcome.map (·.map fun _ => ()))
    (hexpect : monitor.expect tr c r) (h : Open tr) :
    Working none (read r) (monitor.next tr c r) := by
  have hbase := hexpect.2.2
  rw [observer_next hc]
  refine ⟨rfl, (observe_snoc_none _ (Observation.filterMap_none he)).trans h.terminals, ?_,
    (observe_snoc_none _ (Observation.filterMap_none ha)).trans h.stopIterations, ?_⟩
  · rw [observe_append, h.foreignFailures, observe_cons, Observation.filterMap_of, raisings_of, hr]
    cases (read r).outcome with
    | none => rfl
    | some o => cases o <;> simp [Except.map, dispatchErrorOf]
  · intro e heq
    exact hbase e (by rw [hr, heq]; rfl)

/-- Handing an outcome to the executor. -/
lemma resumes {a : ℕ} {p : V} {o : Except Exc Unit} (h : Working none (.progress a p) tr) :
    Resumes monitor tr o (Working none) := by
  refine ⟨.inr trivial, fun r hexpect => ?_⟩
  refine works r id rfl rfl rfl ?_ hexpect ⟨h.terminals, h.foreignFailures, h.stopIterations⟩
  cases r <;> rfl

/-- The steps of an executor at work. -/
lemma progresses (k : ℕ) (channel : Channel E) :
    Progresses (monitor (V := V)) k channel Working where
  stale d a p tr _ h e _ := by
    obtain rfl := h.latched
    exact resumes h
  latched d p tr h := nomatch h.latched
  fresh p tr h := reports fun t d r => by
    refine resumes (a := k) (p := p) ⟨rfl, ?_, ?_, ?_, fun _ he => by cases he⟩
    · exact (observe_snoc_none _ rfl).trans h.terminals
    · exact (observe_snoc_none _ rfl).trans h.foreignFailures
    · exact (observe_snoc_none _ rfl).trans h.stopIterations

/-- When the executor has ended, what the run does not get to see is raised. -/
lemma Working.raised {d : Option Exc} {o : Except Exc V} (h : Working d (.done o) tr) {e : Exc}
    (he : resolve d o = .error e)
    (haborted : e.cls.isException = false ∨ e.cls = .eventDispatchError) : Raised e tr := by
  obtain rfl := h.latched
  cases he
  have hstop : e.cls ≠ .stopIteration := by
    intro hstop
    rw [hstop] at haborted
    rcases haborted with haborted | haborted <;> cases haborted
  refine ⟨h.terminals, ?_, iff_of_true h.stopIterations hstop, h.cls e rfl⟩
  rw [h.foreignFailures]
  by_cases hd : e.cls = .eventDispatchError <;> simp [dispatchErrorOf, hd]

/-- An effect whose outcome the run gets to see leaves the run open. -/
lemma Working.open {d : Option Exc} {o : Except Exc V} (h : Working d (.done o) tr)
    (ho : ∀ e, resolve d o = .error e → e.cls ≠ .eventDispatchError) : Open tr := by
  obtain rfl := h.latched
  refine ⟨h.terminals, ?_, h.stopIterations⟩
  rw [h.foreignFailures]
  cases o with
  | ok v => rfl
  | error e => simp [dispatchErrorOf, ho e rfl]

/-- A terminal event that matches. -/
lemma ended_terminal {event : RunEvent V E} {o : Except Exc V} (ht : terminals tr = [])
    (hf : foreignFailures tr = [])
    (hs : stopIterations tr = [] ↔ ∀ e, o = .error e → e.cls ≠ .stopIteration)
    (hm : event.Matches o) (r : Except Exc SinkResult) :
    Ended o (tr ++ [⟨.emit event, r⟩]) := by
  refine ⟨.inl ⟨⟨emitted tr, event, by simp, ?_, hm⟩, ?_⟩, ?_⟩
  · rwa [← observe_filterMap]
  · exact (observe_snoc_none _ rfl).trans hf
  · rwa [observe_snoc_none stopIterations rfl]

/-- Closing the run changes neither the events nor what was raised. -/
lemma Ended.close {o : Except Exc V} (h : Ended o tr) (r : Except Exc Unit) :
    Ended o (tr ++ [⟨.close, r⟩]) := by
  obtain ⟨hreported, hstop⟩ := h
  constructor
  · rw [observe_snoc_none emitted rfl, observe_snoc_none foreignFailures rfl,
      observe_snoc_none terminals rfl]
    exact hreported
  · rwa [observe_snoc_none stopIterations rfl]

/-- An event that matches an outcome is terminal. -/
lemma terminal_of_matches {event : RunEvent V E} {o : Except Exc V} (h : event.Matches o) :
    event.terminal = some event := by
  cases event <;> first | rfl | cases h

/-- Without a terminal event, no run ends observably. -/
lemma not_endsObservably {o : Except Exc V} (ht : terminals tr = []) :
    ¬ EndsObservably (emitted tr) o := by
  rintro ⟨before, last, hevents, -, hm⟩
  rw [observe_filterMap, hevents, List.filterMap_append, List.append_eq_nil_iff] at ht
  have hlast := ht.2
  simp [terminal_of_matches hm] at hlast

/-- The terminal event that reports a `StopIteration` matches nothing else. -/
lemma endsObservably_stop {events : List (RunEvent V E)} {e e' : Exc}
    (h : EndsObservably events (.error e)) (hstop : e.cls = .stopIteration) (hne : e' ≠ e) :
    ¬ EndsObservably events (.error e') := by
  obtain ⟨before, last, hevents, -, hm⟩ := h
  rintro ⟨before', last', hevents', -, hm'⟩
  obtain ⟨-, hlast⟩ := List.append_inj' (hevents.symm.trans hevents') rfl
  obtain rfl := List.singleton_inj.1 hlast
  cases last with
  | runFailed _ _ error _ => exact hne (hm'.1.symm.trans hm.1)
  | runCancelled =>
    have hcancelled : e.cls = .cancelledError := hm
    rw [hstop] at hcancelled
    cases hcancelled
  | _ => cases hm

/-- When the body has ended, what leaves the coroutine is what was reported, unless that is a
`StopIteration`. -/
lemma Ended.post {o : Except Exc V} (h : Ended o tr) (id : ObjId) :
    Post (leaving "coroutine" id o) tr := by
  obtain ⟨hreported, hstop⟩ := h
  have hsame (hnone : stopIterations tr = []) : Post o tr := by
    rcases hreported with ⟨hends, hf⟩ | ⟨ht, hf⟩
    · exact iff_of_true hends ⟨hf, hnone⟩
    · exact iff_of_false (not_endsObservably ht) fun h => hf h.1
  cases o with
  | ok v => exact hsame (hstop.2 fun _ he => by cases he)
  | error e =>
    show Post (.error (e.leaving "coroutine" id)) tr
    by_cases hcls : e.cls = .stopIteration
    · have hne : e.leaving "coroutine" id ≠ e := by
        intro heq
        exact Exc.leaving_cls "coroutine" id e (by rw [heq, hcls])
      refine iff_of_false ?_ fun h => hstop.1 h.2 e rfl hcls
      rcases hreported with ⟨hends, -⟩ | ⟨ht, -⟩
      · exact endsObservably_stop hends hcls hne
      · exact not_endsObservably ht
    · rw [Exc.leaving_eq _ _ hcls]
      refine hsame (hstop.2 fun e' he => ?_)
      cases he
      exact hcls

/-- **Proof outline.** -/
def outline (runId : String) (host : V) (metadata : List (String × V)) :
    Outline (E := E) monitor runId host metadata Ended [] where
  head _ _ := Open
  working _ _ _ := Working
  raised := Raised
  started := reports fun t d r => advances rfl (fun _ => rfl) (fun _ => rfl) (fun _ => rfl)
    (Open.emit ⟨rfl, rfl, rfl⟩ rfl r)
  returned k v tr h := reports fun t d r => ended_terminal h.terminals h.foreignFailures
    (iff_of_true h.stopIterations fun _ he => by cases he) (by exact rfl) r
  unsupported k n tr h e he := by
    refine ⟨h.terminals, iff_of_true h.foreignFailures ?_, iff_of_true h.stopIterations ?_, ?_⟩ <;>
      rw [he] <;> decide
  yielded k effect tr h effectId := by
    refine reports fun t d r => ⟨.inr trivial, fun r' hexpect => ?_⟩
    have hopen : Open (tr ++ [⟨.emit (.effectStarted runId t effectId k effect), r⟩]) :=
      h.emit rfl r
    refine works r' id rfl rfl rfl ?_ hexpect hopen
    cases r' <;> rfl
  progress k effectId effect := progresses k _
  aborted k effectId effect d o tr h e ho he := h.raised ho he
  effectFailed k effectId effect d o tr h e ho hx hd := by
    have hopen : Open tr := h.open fun e' he' => by
      rw [ho] at he'
      cases he'
      exact hd
    exact reports fun t x r => advances rfl (fun _ => rfl) (fun _ => rfl) (fun _ => rfl)
      (hopen.emit rfl r)
  effectSucceeded k effectId effect d o tr h v ho := by
    have hopen : Open tr := h.open fun e' he' => by
      rw [ho] at he'
      cases he'
    exact reports fun t x r => advances rfl (fun _ => rfl) (fun _ => rfl) (fun _ => rfl)
      (hopen.emit rfl r)
  cancelled e tr h he := by
    have hf : foreignFailures tr = [] := h.foreign.2 (by rw [he]; decide)
    refine closes fun r => reports fun t d r' => ended_terminal ?_ ?_ ?_ (by exact he) r'
    · exact (observe_snoc_none _ rfl).trans h.terminals
    · exact (observe_snoc_none _ rfl).trans hf
    · rw [observe_snoc_none stopIterations rfl]
      exact h.stops
  closed e tr h he := by
    have hd : e.cls = .eventDispatchError := he.resolve_right h.cls
    refine closes fun r => Ended.close ⟨.inr ⟨h.terminals, fun hnil => ?_⟩, h.stops⟩ r
    exact h.foreign.1 hnil hd
  failed e tr h hx hd := reports fun t d r => closes fun r' => (ended_terminal h.terminals
    (h.foreign.2 hd) h.stops (by exact ⟨rfl, hx⟩) r).close r'

/-- The driver keeps to the monitor. -/
lemma keeps (fuel : ℕ) (host : V) (metadata : List (String × V)) (given : Option String) :
    Routine.wp (monitor (E := E)) (AgentDriver.run fuel host metadata given) (Outline.Post Post)
      AgentDriver.initialState [] :=
  Outline.wp_run given (fun runId _ => outline runId host metadata)
    (fun _ he => absurd he (TotalServices.not_raises fun _ _ h => h.1)) fun _ id _ h => h.post id

end Endings

namespace AgentDriver

variable {host : V} {metadata : List (String × V)} {given : Option String}
  {tr : DriverTrace V E}

/-- **When a run ends observably.** Let the clocks and the id factory be total, let every event be
delivered, and let the flow and the executor raise `Exception` and `CancelledError` only. Then the
events of a run that has ended conclude with the one terminal event that matches its outcome,
exactly if neither the flow nor the executor has raised a dispatch failure, and the flow has raised
no `StopIteration`. -/
theorem endsObservably_iff {o : Except Exc V} {s : DriverState E}
    (h : DriverRuns host metadata given tr (.ret (o, s)))
    (htotal : ∀ x ∈ tr, TotalServices x.1 x.2) (hsink : ∀ x ∈ tr, DeliveringSink x.1 x.2)
    (hbase : ∀ x ∈ tr, NoBaseException x.1 x.2) :
    EndsObservably (emitted tr) o ↔ foreignFailures tr = [] ∧ stopIterations tr = [] := by
  have hpost := (h.ret (fun fuel => Endings.keeps fuel host metadata given)
    fun x hx => ⟨htotal x hx, hsink x hx, hbase x hx⟩).2
  simpa [Endings.Post] using hpost

/-- A flow whose only effect runs another driver that raises a dispatch failure of its own. -/
def nestedFailure : Exc :=
  ⟨.given 0, .eventDispatchError, "purrcept_core.errors.EventDispatchError",
    "Failed to dispatch purrcept_core.events.RunStarted for run 'inner'."⟩

@[inherit_doc nestedFailure]
def nestedFailureRun : Collaborators Unit Unit :=
  { Collaborators.plain with executor := fun _ => .done (.error nestedFailure) }

/-- The outer run raises the dispatch failure of the inner one after `EffectStarted`, although its
own sink has delivered every event: there is no terminal event. -/
theorem nestedFailure_ends_unobserved :
    ∃ s, DriverRuns () [] (some "outer") (nestedFailureRun.play () [] (some "outer") 20).1
      (.ret (.error nestedFailure, s)) ∧
    (∀ x ∈ (nestedFailureRun.play () [] (some "outer") 20).1,
      TotalServices x.1 x.2 ∧ DeliveringSink x.1 x.2 ∧ NoBaseException x.1 x.2) ∧
    ¬EndsObservably (emitted (nestedFailureRun.play () [] (some "outer") 20).1)
      (.error nestedFailure) := by
  refine ⟨_, nestedFailureRun.runs () [] (some "outer") 20, fun x hx => ?_, ?_⟩
  · refine ⟨nestedFailureRun.total hx, ?_⟩
    obtain ⟨c, r⟩ := x
    obtain rfl : r = nestedFailureRun.answer c := Prog.mem_play hx
    cases c <;> refine ⟨?_, fun e he => ?_⟩ <;> first | trivial | (cases he <;> decide)
  · rintro ⟨before, last, hevents, -, hm⟩
    have hlast : some (RunEvent.effectStarted "outer" 0 "id" 0 ()) = some last := by
      have h := congrArg List.getLast? hevents
      rwa [List.getLast?_append_of_ne_nil _ (List.cons_ne_nil _ _)] at h
    obtain rfl := Option.some.inj hlast
    exact hm

/-- A run whose effect succeeds ends observably. -/
theorem endsObservably_plain :
    EndsObservably (emitted (Collaborators.plain.play () [] (some "run") 20).1) (.ok ()) := by
  refine (endsObservably_iff (Collaborators.plain.runs () [] (some "run") 20)
    (fun _ hx => Collaborators.total hx) ?_ ?_).2 ⟨rfl, rfl⟩
  · rintro ⟨c, r⟩ hx
    obtain rfl : r = Collaborators.plain.answer c := Prog.mem_play hx
    cases c <;> trivial
  · rintro ⟨c, r⟩ hx e he
    obtain rfl : r = Collaborators.plain.answer c := Prog.mem_play hx
    cases c <;> cases he

end AgentDriver

end PurrceptCore
