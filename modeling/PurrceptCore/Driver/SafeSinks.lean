import PurrceptCore.Driver.EventSinks

set_option relaxedAutoImplicit false
set_option autoImplicit false

/-!
# Isolated event sinks

`SafeEventSink` of `events.py`, and a driver run whose sink is an isolated one.

## Main definitions

* `PurrceptCore.SafeEventSink.emit` — deliver an event to the sink, and contain its failure.
* `PurrceptCore.isolate` — carry out the emissions of a driver run by an isolated sink.
* `PurrceptCore.driverView` — the run without what the sink and the error callback do.
* `PurrceptCore.ContainedReply` — the sink raises ordinary exceptions or returns values that are not
  awaitable, and the error callback returns `None`.

## Main results

* `PurrceptCore.SafeEventSink.emit_inv`, `PurrceptCore.SafeEventSink.emit_exec` — one emission.
* `PurrceptCore.isolated_observers` — the runs with an isolated sink and the runs with a sink that
  discards every event are the same runs.
-/

namespace PurrceptCore

open Interaction

variable {V E : Type}

/-! ### The code -/

/-- The calls of a driver run whose sink is an isolated one: its own calls, those of the sink, and
those of the error callback. -/
inductive SafeCall (V E : Type)
  | driver (c : Call V E)
  | sink (event : RunEvent V E)
  | onError (error : Exc)

/-- The replies to these calls. -/
abbrev SafeReply (V E : Type) : SafeCall V E → Type
  | .driver c => Reply V E c
  | .sink _ => Except Exc SinkResult
  | .onError _ => Except Exc SinkResult

/-- The calls of such a run, with their replies. -/
abbrev SafeTrace (V E : Type) : Type := Trace (SafeCall V E) (SafeReply V E)

/-- `SafeEventSink.emit`, from the reply of the error callback on. -/
def SafeEventSink.report (object : ObjId) (reply : Except Exc SinkResult) :
    Prog (SafeCall V E) (SafeReply V E) (Except Exc SinkResult) :=
  match reply.bind fun result =>
    requireSynchronousCallback object result "SafeEventSink error callback" with
  | .ok () => .ret (.ok .none)
  | .error error => .ret (.error error)

/-- `SafeEventSink.emit`, from the reply of the sink on; `onError` tells whether there is an error
callback. -/
def SafeEventSink.contain (object : ObjId) (onError : Bool) (reply : Except Exc SinkResult) :
    Prog (SafeCall V E) (SafeReply V E) (Except Exc SinkResult) :=
  match reply.bind fun result => requireSynchronousCallback object result "Event sink" with
  | .ok () => .ret (.ok .none)
  | .error error =>
    if !error.cls.isException then .ret (.error error)
    else if !onError then .ret (.ok .none)
    else .call (.onError error) (SafeEventSink.report object)

/-- `SafeEventSink.emit`. -/
def SafeEventSink.emit (object : ObjId) (onError : Bool) (event : RunEvent V E) :
    Prog (SafeCall V E) (SafeReply V E) (Except Exc SinkResult) :=
  .call (.sink event) (SafeEventSink.contain object onError)

/-- The sink of the driver is an isolated one. -/
def isolate (object : ObjId) (onError : Bool) :
    ∀ c : Call V E, Prog (SafeCall V E) (SafeReply V E) (Reply V E c)
  | .emit event => SafeEventSink.emit object onError event
  | c => .call (.driver c) .ret

/-- A driver run with an isolated sink: its calls so far are `tr`, and `q` is what is left of it. -/
def SafeRuns (object : ObjId) (onError : Bool) (host : V) (metadata : List (String × V))
    (given : Option String) (tr : SafeTrace V E)
    (q : Prog (SafeCall V E) (SafeReply V E) (Except Exc V × DriverState E)) : Prop :=
  ∃ fuel, Exec ((AgentDriver.run fuel host metadata given AgentDriver.initialState).handle
    (isolate object onError)) tr q

/-! ### Observers that keep to their contract -/

/-- The sink raises ordinary exceptions or returns values that are not awaitable, and the error
callback returns `None`. -/
def ContainedReply : (c : SafeCall V E) → SafeReply V E c → Prop
  | .sink _, .error error => error.cls.isException = true
  | .sink _, .ok result => result ≠ .awaitable
  | .onError _, reply => reply = .ok .none
  | .driver _, _ => True

/-- All observers keep to their contract. -/
def Contained (tr : SafeTrace V E) : Prop := ∀ x ∈ tr, ContainedReply x.1 x.2

/-- What the driver sees of a call: the sink has accepted the event. -/
def driverViewOf : (Σ c, SafeReply V E c) → Option (Σ c, Reply V E c)
  | ⟨.driver c, reply⟩ => some ⟨c, reply⟩
  | ⟨.sink event, _⟩ => some ⟨.emit event, .ok .none⟩
  | ⟨.onError _, _⟩ => none

/-- What the driver sees of a run. -/
def driverView (tr : SafeTrace V E) : DriverTrace V E := tr.filterMap driverViewOf

/-- The event of a call of the sink. -/
def observedOf : (Σ c, SafeReply V E c) → Option (RunEvent V E)
  | ⟨.sink event, _⟩ => some event
  | _ => none

/-- The events that the sink is called with. -/
def observed (tr : SafeTrace V E) : List (RunEvent V E) := tr.filterMap observedOf

/-- The sink is a `NullEventSink`: it accepts every event. -/
def AcceptsAll (tr : DriverTrace V E) : Prop :=
  ∀ event reply, ⟨.emit event, reply⟩ ∈ tr → reply = .ok .none

/-- The reply of the sink is the one that `sink` chooses, given all that has happened before. -/
def ChosenReply (sink : SafeTrace V E → RunEvent V E → Except Exc SinkResult)
    (before : SafeTrace V E) : (Σ c, SafeReply V E c) → Prop
  | ⟨.sink event, reply⟩ => reply = sink before event
  | _ => True

/-- The sink of a run behaves as `sink` chooses. -/
def Chosen (sink : SafeTrace V E → RunEvent V E → Except Exc SinkResult) :
    SafeTrace V E → SafeTrace V E → Prop
  | _, [] => True
  | before, x :: tr => ChosenReply sink before x ∧ Chosen sink (before ++ [x]) tr

lemma Chosen.append {sink : SafeTrace V E → RunEvent V E → Except Exc SinkResult}
    {before tr tr' : SafeTrace V E} (h : Chosen sink before tr)
    (h' : Chosen sink (before ++ tr) tr') : Chosen sink before (tr ++ tr') := by
  induction tr generalizing before with
  | nil => rwa [List.append_nil] at h'
  | cons x tr ih =>
    refine ⟨h.1, ih h.2 ?_⟩
    rwa [List.append_assoc, List.singleton_append]

/-- The error callback leaves the sink its choice. -/
lemma Chosen.of_onError {sink : SafeTrace V E → RunEvent V E → Except Exc SinkResult}
    {before tr : SafeTrace V E} (h : ∀ y ∈ tr, ∃ error, y = ⟨.onError error, .ok .none⟩) :
    Chosen sink before tr := by
  induction tr generalizing before with
  | nil => trivial
  | cons y tr ih =>
    obtain ⟨error, rfl⟩ := h y List.mem_cons_self
    exact ⟨trivial, ih fun z hz => h z (List.mem_cons_of_mem _ hz)⟩

lemma driverView_append (tr tr' : SafeTrace V E) :
    driverView (tr ++ tr') = driverView tr ++ driverView tr' := List.filterMap_append

lemma observed_append (tr tr' : SafeTrace V E) :
    observed (tr ++ tr') = observed tr ++ observed tr' := List.filterMap_append

namespace SafeEventSink

variable {object : ObjId} {onError : Bool} {event : RunEvent V E}

/-- A failed check of a value that is not awaitable, and an ordinary exception, are ordinary
exceptions. -/
lemma isException_of_contained {reply : Except Exc SinkResult} {error : Exc}
    (hreply : ContainedReply (V := V) (.sink event) reply)
    (h : (reply.bind fun result => requireSynchronousCallback object result "Event sink") =
      .error error) : error.cls.isException = true := by
  cases reply with
  | error e =>
    cases h
    exact hreply
  | ok result => exact CompositeEventSink.requireSynchronousCallback_error h

/-- After the reply of the sink the emission is over, or the error callback is called. -/
lemma contain_cases {reply : Except Exc SinkResult}
    (hreply : ContainedReply (V := V) (.sink event) reply) :
    contain object onError reply = (.ret (.ok .none) : Prog (SafeCall V E) (SafeReply V E) _) ∨
      ∃ error, contain object onError reply =
        (.call (.onError error) (report object) : Prog (SafeCall V E) (SafeReply V E) _) := by
  unfold contain
  cases hcheck : reply.bind fun result => requireSynchronousCallback object result "Event sink" with
  | ok u => exact .inl rfl
  | error error =>
    have hexception := isException_of_contained hreply hcheck
    cases onError with
    | false =>
      refine .inl ?_
      simp only [hexception]
      rfl
    | true =>
      refine .inr ⟨error, ?_⟩
      simp only [hexception]
      rfl

/-- **One emission**, if the observers keep to their contract: nothing has happened yet, or the sink
has been called with the event, and the driver sees that it has accepted the event. -/
lemma emit_inv {e : SafeTrace V E} {x : Prog (SafeCall V E) (SafeReply V E) (Except Exc SinkResult)}
    (hcontained : Contained e) (h : Exec (emit object onError event) e x) :
    (e = [] ∧ x = emit object onError event) ∨
      (driverView e = [⟨.emit event, .ok .none⟩] ∧ observed e = [event] ∧
        (x = .ret (.ok .none) ∨ ∃ error, x = .call (.onError error) (report object))) := by
  cases h with
  | refl => exact .inl ⟨rfl, rfl⟩
  | @step _ _ reply _ _ h =>
    right
    have hreply := hcontained _ List.mem_cons_self
    rcases contain_cases hreply with hdone | ⟨error, hcallback⟩
    · rw [hdone] at h
      obtain ⟨rfl, rfl⟩ := Exec.ret_inv h
      exact ⟨rfl, rfl, .inl rfl⟩
    · rw [hcallback] at h
      cases h with
      | refl => exact ⟨rfl, rfl, .inr ⟨error, rfl⟩⟩
      | @step _ _ reply' _ _ h =>
        have hreply' : reply' = .ok .none :=
          hcontained ⟨.onError error, reply'⟩ (List.mem_cons_of_mem _ List.mem_cons_self)
        subst hreply'
        obtain ⟨rfl, rfl⟩ := Exec.ret_inv h
        exact ⟨rfl, rfl, .inl rfl⟩

/-- **Every behaviour of the sink is possible**: whatever it does within its contract, the emission
ends. -/
lemma emit_exec {reply : Except Exc SinkResult}
    (hreply : ContainedReply (V := V) (.sink event) reply) :
    ∃ e, Exec (emit object onError event) (⟨.sink event, reply⟩ :: e) (.ret (.ok .none)) ∧
      ∀ y ∈ e, ∃ error, y = ⟨.onError error, .ok .none⟩ := by
  rcases contain_cases hreply with hdone | ⟨error, hcallback⟩
  · refine ⟨[], .step ?_, fun _ hy => absurd hy List.not_mem_nil⟩
    rw [hdone]
    exact .refl _
  · refine ⟨[⟨.onError error, .ok .none⟩], .step ?_, fun y hy => ?_⟩
    · rw [hcallback]
      exact .step (.refl _)
    · exact ⟨error, List.mem_singleton.1 hy⟩

end SafeEventSink

/-! ### The two runs -/

section Runs

variable {object : ObjId} {onError : Bool}

/-- A call of the driver, carried out with an isolated sink: it is made as it is, or it is an
emission. -/
lemma isolate_cases (object : ObjId) (onError : Bool) (c : Call V E) :
    (∃ event, c = .emit event) ∨
      (isolate object onError c = .call (.driver c) .ret ∧
        ∀ reply, emissionOf ⟨c, reply⟩ = none) := by
  cases c with
  | emit event => exact .inl ⟨event, rfl⟩
  | _ => exact .inr ⟨rfl, fun _ => rfl⟩

/-- One call of the driver, carried out with an isolated sink. -/
lemma isolate_inv {c : Call V E} {r : Reply V E c} {e : SafeTrace V E} (hcontained : Contained e)
    (h : Exec (isolate object onError c) e (.ret r)) :
    driverView e = [⟨c, r⟩] ∧ AcceptsAll [⟨c, r⟩] ∧ observed e = emitted [⟨c, r⟩] := by
  rcases isolate_cases object onError c with ⟨event, rfl⟩ | ⟨hcall, hemission⟩
  · rcases SafeEventSink.emit_inv hcontained h with ⟨-, hret⟩ | ⟨hview, hobserved, hret⟩
    · cases hret
    · rcases hret with hret | ⟨error, hret⟩
      · cases hret
        refine ⟨hview, fun event' reply hmem => ?_, hobserved⟩
        cases List.mem_singleton.1 hmem
        rfl
      · cases hret
  · rw [hcall] at h
    cases h with
    | step h =>
      obtain ⟨rfl, hret⟩ := Exec.ret_inv h
      cases hret
      refine ⟨rfl, fun event reply hmem => ?_, ?_⟩
      · have hsome := hemission r
        cases List.mem_singleton.1 hmem
        cases hsome
      · simp only [observe_cons, emitted_of, hemission]
        rfl

/-- What the driver sees of its calls is what it has done. -/
lemma handled_inv {tr : DriverTrace V E} {tr' : SafeTrace V E}
    (h : Handled (isolate object onError) tr tr') (hcontained : Contained tr') :
    driverView tr' = tr ∧ AcceptsAll tr ∧ observed tr' = emitted tr := by
  induction h with
  | nil => exact ⟨rfl, fun _ _ h => absurd h List.not_mem_nil, rfl⟩
  | @cons c r e tr tr' he _ ih =>
    obtain ⟨hview, haccepts, hobserved⟩ :=
      isolate_inv (fun x hx => hcontained x (List.mem_append_left _ hx)) he
    obtain ⟨hview', haccepts', hobserved'⟩ :=
      ih fun x hx => hcontained x (List.mem_append_right _ hx)
    refine ⟨?_, fun event reply hmem => ?_, ?_⟩
    · rw [driverView_append, hview, hview']
      rfl
    · rcases List.mem_cons.1 hmem with heq | hmem
      · exact haccepts event reply (List.mem_singleton.2 heq)
      · exact haccepts' event reply hmem
    · rw [observed_append, hobserved, hobserved', ← observe_append]
      rfl

/-- What is left of the two runs: the same, or the error callback is about to be called in one of
them. -/
inductive Beside (object : ObjId) (onError : Bool) {α : Type} :
    Prog (SafeCall V E) (SafeReply V E) α → Prog (Call V E) (Reply V E) α → Prop
  | level (q₀ : Prog (Call V E) (Reply V E) α) :
      Beside object onError (q₀.handle (isolate object onError)) q₀
  | reporting (error : Exc) (k : Except Exc SinkResult → Prog (SafeCall V E) (SafeReply V E) α)
      (q₀ : Prog (Call V E) (Reply V E) α)
      (h : k (.ok .none) = q₀.handle (isolate object onError)) :
      Beside object onError (.call (.onError error) k) q₀

/-- Each run has a run beside it. -/
lemma exists_beside {α : Type} {p : Prog (Call V E) (Reply V E) α} {tr' : SafeTrace V E}
    {q : Prog (SafeCall V E) (SafeReply V E) α}
    (h : Exec (p.handle (isolate object onError)) tr' q) (hcontained : Contained tr') :
    ∃ q₀, Exec p (driverView tr') q₀ ∧ AcceptsAll (driverView tr') ∧
      observed tr' = emitted (driverView tr') ∧ Beside object onError q q₀ := by
  obtain ⟨tr, before, q₁, hp, hhandled, hend⟩ := h.handle_inv
  rcases hend with ⟨rfl, rfl⟩ | ⟨c, k, e, x, rfl, rfl, hx, hne, rfl⟩
  · obtain ⟨hview, haccepts, hobserved⟩ := handled_inv hhandled hcontained
    rw [hview]
    exact ⟨q₁, hp, haccepts, hobserved, .level q₁⟩
  obtain ⟨hview, haccepts, hobserved⟩ :=
    handled_inv hhandled fun y hy => hcontained y (List.mem_append_left _ hy)
  have hcontained' : Contained e := fun y hy => hcontained y (List.mem_append_right _ hy)
  rw [driverView_append, observed_append, hview, hobserved]
  rcases isolate_cases object onError c with ⟨event, rfl⟩ | ⟨hcall, -⟩
  · rcases SafeEventSink.emit_inv hcontained' hx with ⟨rfl, rfl⟩ | ⟨hview', hobserved', hleft⟩
    · refine ⟨.call (.emit event) k, ?_⟩
      rw [show driverView ([] : SafeTrace V E) = [] from rfl, List.append_nil]
      exact ⟨hp, haccepts, List.append_nil _, .level (.call (.emit event) k)⟩
    · rcases hleft with rfl | ⟨error, rfl⟩
      · exact absurd rfl (hne _)
      rw [hview', hobserved']
      refine ⟨k (.ok .none), hp.snoc _, fun event' reply hmem => ?_, ?_, ?_⟩
      · rcases List.mem_append.1 hmem with hmem | hmem
        · exact haccepts event' reply hmem
        · cases List.mem_singleton.1 hmem
          rfl
      · rw [observe_append]
        rfl
      · exact .reporting error _ _ rfl
  · rw [hcall] at hx
    cases hx with
    | refl =>
      refine ⟨.call c k, ?_⟩
      rw [show driverView ([] : SafeTrace V E) = [] from rfl, List.append_nil]
      refine ⟨hp, haccepts, List.append_nil _, ?_⟩
      have hlevel : Beside object onError ((Prog.call c k).handle _) _ := .level (Prog.call c k)
      rwa [Prog.handle, hcall] at hlevel
    | step hx =>
      obtain ⟨-, rfl⟩ := Exec.ret_inv hx
      exact absurd rfl (hne _)

/-- What comes next in two runs is the same: both have ended with one outcome, or make one call, but
for the call of the error callback, which only one of them makes. -/
inductive SameNext {α : Type} :
    Prog (SafeCall V E) (SafeReply V E) α → Prog (Call V E) (Reply V E) α → Prop
  | ret (a : α) : SameNext (.ret a) (.ret a)
  | cut : SameNext .cut .cut
  | driver (c : Call V E) (k : Reply V E c → Prog (SafeCall V E) (SafeReply V E) α)
      (k₀ : Reply V E c → Prog (Call V E) (Reply V E) α) :
      SameNext (.call (.driver c) k) (.call c k₀)
  | sink (event : RunEvent V E)
      (k : Except Exc SinkResult → Prog (SafeCall V E) (SafeReply V E) α)
      (k₀ : Except Exc SinkResult → Prog (Call V E) (Reply V E) α) :
      SameNext (.call (.sink event) k) (.call (.emit event) k₀)
  | onError (error : Exc) (k : Except Exc SinkResult → Prog (SafeCall V E) (SafeReply V E) α)
      (q₀ : Prog (Call V E) (Reply V E) α) : SameNext (.call (.onError error) k) q₀

lemma Beside.sameNext {α : Type} {q : Prog (SafeCall V E) (SafeReply V E) α}
    {q₀ : Prog (Call V E) (Reply V E) α} (h : Beside object onError q q₀) : SameNext q q₀ := by
  cases h with
  | reporting error k q₀ => exact .onError error k q₀
  | level q₀ =>
    cases q₀ with
    | ret a => exact .ret a
    | cut => exact .cut
    | call c k =>
      rcases isolate_cases object onError c with ⟨event, rfl⟩ | ⟨hcall, -⟩
      · exact .sink event _ k
      · rw [Prog.handle, hcall]
        exact .driver c _ k

/-- **Every behaviour of the sink is possible beside a run whose events are all accepted.**

**Proof sketch.** Induction on the run, call by call; an emission is carried out with the reply that
the sink chooses. -/
lemma exists_handled {tr₀ : DriverTrace V E} (haccepts : AcceptsAll tr₀)
    {sink : SafeTrace V E → RunEvent V E → Except Exc SinkResult}
    (hsink : ∀ before event, ContainedReply (V := V) (.sink event) (sink before event)) :
    ∃ tr, Handled (isolate object onError) tr₀ tr ∧ Contained tr ∧ Chosen sink [] tr := by
  induction tr₀ using List.reverseRecOn with
  | nil => exact ⟨[], .nil, fun _ hx => absurd hx List.not_mem_nil, trivial⟩
  | append_singleton tr₀ x ih =>
    obtain ⟨tr, hhandled, hcontained, hchosen⟩ :=
      ih fun event reply hmem => haccepts event reply (List.mem_append_left _ hmem)
    obtain ⟨c, r⟩ := x
    rcases isolate_cases object onError c with ⟨event, rfl⟩ | ⟨hcall, hemission⟩
    · have hr : r = .ok .none := haccepts event r (List.mem_append_right _ List.mem_cons_self)
      subst hr
      have hemit := @SafeEventSink.emit_exec V E object onError event _ (hsink tr event)
      obtain ⟨e, he, hcallback⟩ := hemit
      refine ⟨_, hhandled.snoc he, fun y hy => ?_, hchosen.append ⟨rfl, ?_⟩⟩
      · rcases List.mem_append.1 hy with hy | hy
        · exact hcontained y hy
        · rcases List.mem_cons.1 hy with rfl | hy
          · exact hsink tr event
          · obtain ⟨error, rfl⟩ := hcallback y hy
            exact rfl
      · exact Chosen.of_onError hcallback
    · refine ⟨tr ++ [⟨.driver c, r⟩], hhandled.snoc ?_, fun y hy => ?_, ?_⟩
      · rw [hcall]
        exact .step (.refl _)
      · rcases List.mem_append.1 hy with hy | hy
        · exact hcontained y hy
        · rw [List.mem_singleton.1 hy]
          trivial
      · exact hchosen.append ⟨trivial, trivial⟩

/-- **Isolated observers cannot influence a run**, for every behaviour of the agent run, the
executor, the clocks, the sink and the error callback. A run with an isolated sink, whose sink
raises ordinary exceptions or returns values that are not awaitable and whose error callback returns
`None`, is a run whose events are all accepted: the same calls have had the same replies, the sink
has been called with the events of that run, and both runs go on alike. Conversely, whatever the
sink does, every run whose events are all accepted is, with the sink isolated, a run with the same
calls and events, of which the same is left: if one has ended, the other has ended with the same
outcome. -/
theorem isolated_observers (object : ObjId) (onError : Bool) (host : V)
    (metadata : List (String × V)) (given : Option String) :
    (∀ (tr : SafeTrace V E) q, SafeRuns object onError host metadata given tr q → Contained tr →
      ∃ q₀, DriverRuns host metadata given (driverView tr) q₀ ∧ AcceptsAll (driverView tr) ∧
        observed tr = emitted (driverView tr) ∧ SameNext q q₀) ∧
    ∀ (tr₀ : DriverTrace V E) q₀, DriverRuns host metadata given tr₀ q₀ → AcceptsAll tr₀ →
      ∀ sink : SafeTrace V E → RunEvent V E → Except Exc SinkResult,
        (∀ before event, ContainedReply (V := V) (.sink event) (sink before event)) →
        ∃ tr, SafeRuns object onError host metadata given tr
            (q₀.handle (isolate object onError)) ∧
          Contained tr ∧ Chosen sink [] tr ∧ driverView tr = tr₀ ∧ observed tr = emitted tr₀ := by
  constructor
  · rintro tr q ⟨fuel, hexec⟩ hcontained
    obtain ⟨q₀, hexec₀, haccepts, hobserved, hbeside⟩ := exists_beside hexec hcontained
    exact ⟨q₀, ⟨fuel, hexec₀⟩, haccepts, hobserved, hbeside.sameNext⟩
  · rintro tr₀ q₀ ⟨fuel, hexec₀⟩ haccepts sink hsink
    obtain ⟨tr, hhandled, hcontained, hchosen⟩ :=
      @exists_handled V E object onError tr₀ haccepts sink hsink
    obtain ⟨hview, -, hobserved⟩ := handled_inv hhandled hcontained
    exact ⟨tr, ⟨fuel, hexec₀.handle hhandled⟩, hcontained, hchosen, hview, hobserved⟩

end Runs

/-- A sink that raises at every event is called with all events of the run, which returns. -/
theorem isolated_observers_raising : ∃ tr s q₀,
    SafeRuns (.given 1) true () [] (some "run") tr (.ret (.ok (), s)) ∧
    Chosen (fun _ _ => .error ⟨.given 0, .exception, "builtins.ValueError", "disk full"⟩) [] tr ∧
    observed tr = emitted (Collaborators.plain.play () [] (some "run") 20).1 ∧
    DriverRuns () [] (some "run") (driverView tr) q₀ ∧ (observed tr).length = 4 := by
  have haccepts : AcceptsAll (Collaborators.plain.play () [] (some "run") 20).1 :=
    fun event reply hmem => Prog.mem_play hmem
  have hobservers := @isolated_observers Unit Unit (.given 1) true () [] (some "run")
  obtain ⟨tr, hruns, hcontained, hchosen, -, hobserved⟩ := hobservers.2 _ _
    (Collaborators.plain.runs () [] (some "run") 20) haccepts
    (fun _ _ => .error ⟨.given 0, .exception, "builtins.ValueError", "disk full"⟩) fun _ _ => rfl
  obtain ⟨q₀, hruns₀, -⟩ := hobservers.1 tr _ hruns hcontained
  refine ⟨tr, _, q₀, hruns, hchosen, hobserved, hruns₀, ?_⟩
  rw [hobserved]
  rfl

end PurrceptCore
