import Mathlib.Data.List.Range
import PurrceptCore.Driver.FailStop
import PurrceptCore.Interaction.Handle

set_option relaxedAutoImplicit false
set_option autoImplicit false

/-!
# Event sinks

`CompositeEventSink` of `events.py`, and a driver run whose sink is a composite one.

## Main definitions

* `PurrceptCore.CompositeEventSink.emit` — deliver an event to the sinks in order.
* `PurrceptCore.fanOut` — carry out the emissions of a driver run by a composite sink.
* `PurrceptCore.received` — the events that one of the sinks has received.

## Main results

* `PurrceptCore.staircase_fanOut` — later sinks lag behind earlier ones by at most one event.

## Design

* An exception is formatted into a note and gets it without raising, as `Exceptions` says.
-/

namespace PurrceptCore

open Interaction

variable {V E : Type}

/-- The calls of a driver run whose sink is a composite one: its own calls, and those of the
sinks, which are told apart by their position. -/
inductive FanCall (V E : Type)
  | driver (c : Call V E)
  | sink (i : ℕ) (event : RunEvent V E)

/-- The replies to these calls. -/
abbrev FanReply (V E : Type) : FanCall V E → Type
  | .driver c => Reply V E c
  | .sink _ _ => Except Exc SinkResult

/-- `_require_synchronous_callback`. The `TypeError` it may create has the identity `object`. -/
def requireSynchronousCallback (object : ObjId) (result : SinkResult) (callbackName : String) :
    Except Exc Unit :=
  match result with
  | .none => pure ()
  | .awaitable => throw ⟨object, .typeError, "builtins.TypeError",
      callbackName ++ " must be synchronous and return None."⟩
  | .other typeName => throw ⟨object, .typeError, "builtins.TypeError",
      callbackName ++ " must return None, got " ++ typeName ++ "."⟩

/-- `CompositeEventSink.emit`, over the sinks at the given positions: dispatch stops at the first
sink that fails. -/
def CompositeEventSink.emit (object : ObjId) (event : RunEvent V E) :
    List ℕ → Prog (FanCall V E) (FanReply V E) (Except Exc SinkResult)
  | [] => .ret (.ok .none)
  | i :: sinks => .call (.sink i event) fun r =>
    match r.bind fun result => requireSynchronousCallback object result "Event sink" with
    | .ok () => emit object event sinks
    | .error error => .ret (.error error)

/-- The sink of the driver is a composite of `n` sinks. -/
def fanOut (object : ObjId) (n : ℕ) :
    ∀ c : Call V E, Prog (FanCall V E) (FanReply V E) (Reply V E c)
  | .emit event => CompositeEventSink.emit object event (List.range n)
  | c => .call (.driver c) .ret

/-- The event received by the sink at position `i`. -/
@[simp] def receivedOf (i : ℕ) : (Σ c, FanReply V E c) → Option (RunEvent V E)
  | ⟨.sink j event, _⟩ => if j = i then some event else none
  | _ => none

/-- The events received by the sink at position `i`, in order. -/
def received (i : ℕ) (tr : Trace (FanCall V E) (FanReply V E)) : List (RunEvent V E) :=
  tr.filterMap (receivedOf i)

/-- Each of `n` sinks has received a prefix of what any earlier one has, and lags behind it by at
most one event. -/
def Staircase (n : ℕ) (tr : Trace (FanCall V E) (FanReply V E)) : Prop :=
  ∀ i j, i < j → j < n → received j tr <+: received i tr ∧
    (received i tr).length ≤ (received j tr).length + 1

/-- At first no sink has received anything. -/
lemma staircase_nil (n : ℕ) : Staircase (V := V) (E := E) n [] :=
  fun _ _ _ _ => ⟨List.prefix_rfl, Nat.zero_le _⟩

/-- The sinks raise ordinary exceptions only. -/
def OrdinarySinks : (c : FanCall V E) → FanReply V E c → Prop
  | .sink _ _, .error e => e.cls.isException = true
  | _, _ => True

namespace CompositeEventSink

/-- The monitor: every call keeps the staircase. -/
abbrev monitor (n : ℕ) :
    Monitor (FanCall V E) (FanReply V E) (Trace (FanCall V E) (FanReply V E)) :=
  .history (fun _ => true) (fun tr c => ∀ r, Staircase n (tr ++ [⟨c, r⟩])) OrdinarySinks

variable {n : ℕ} {tr : Trace (FanCall V E) (FanReply V E)}

/-- While an event is dispatched, the sinks before position `k` have received it. -/
def Dispatching (n k : ℕ) (log : List (RunEvent V E)) (event : RunEvent V E)
    (tr : Trace (FanCall V E) (FanReply V E)) : Prop :=
  ∀ i, i < n → received i tr = if i < k then log ++ [event] else log

/-- One more sink receives the event. -/
lemma Dispatching.step {k : ℕ} {log : List (RunEvent V E)} {event : RunEvent V E}
    (h : Dispatching n k log event tr) (r : FanReply V E (.sink k event)) :
    Dispatching n (k + 1) log event (tr ++ [⟨.sink k event, r⟩]) := by
  intro i hi
  have hrec := h i hi
  unfold received at hrec ⊢
  rw [List.filterMap_append, hrec]
  by_cases hk : k = i
  · subst hk
    simp
  · have hlt : i < k + 1 ↔ i < k := by omega
    simp [hk, hlt]

/-- A dispatch in progress keeps the staircase. -/
lemma Dispatching.staircase {k : ℕ} {log : List (RunEvent V E)} {event : RunEvent V E}
    (h : Dispatching n k log event tr) : Staircase n tr := by
  intro i j hij hj
  rw [h i (by omega), h j hj]
  by_cases hik : i < k
  · by_cases hjk : j < k
    · simp [hik, hjk]
    · simp [hik, hjk]
  · have hjk : ¬j < k := by omega
    simp [hik, hjk]

/-- A failed check is an ordinary exception. -/
lemma requireSynchronousCallback_error {object : ObjId} {result : SinkResult} {name : String}
    {e : Exc} (h : requireSynchronousCallback object result name = .error e) :
    e.cls.isException = true := by
  cases result <;> cases h <;> rfl

/-- How a dispatch ends: every sink has received the event, or an ordinary exception has stopped
it. -/
def Dispatched (n : ℕ) (log : List (RunEvent V E)) (event : RunEvent V E)
    (r : Except Exc SinkResult) (tr : Trace (FanCall V E) (FanReply V E)) : Prop :=
  (r = .ok .none ∧ Dispatching n n log event tr) ∨
    ((∃ e, r = .error e ∧ e.cls.isException = true) ∧ Staircase n tr)

/-- The rule of a dispatch.

**Proof sketch.** Induction on the sinks left. One of them receives the event; if it raises or
breaks its contract the dispatch stops there, and otherwise the rest receive it too. -/
lemma wp_emit (object : ObjId) (event : RunEvent V E) (log : List (RunEvent V E)) (m : ℕ) :
    ∀ {k : ℕ} {tr : Trace (FanCall V E) (FanReply V E)}, k + m = n →
      Dispatching n k log event tr →
      Prog.wp (monitor n) (Dispatched n log event) (emit object event (List.range' k m)) tr := by
  induction m with
  | zero =>
    intro k tr hk h
    rw [Nat.add_zero] at hk
    subst hk
    exact .inl ⟨rfl, h⟩
  | succ m ih =>
    intro k tr hk h
    rw [List.range'_succ]
    refine ⟨fun r => (h.step r).staircase, fun r hr => ?_⟩
    have hnext := h.step r
    change Prog.wp (monitor n) _ _ (tr ++ [⟨.sink k event, r⟩])
    cases hcheck : r.bind fun result => requireSynchronousCallback object result "Event sink" with
    | ok _ =>
      simp only [hcheck]
      exact ih (by omega) hnext
    | error e =>
      simp only [hcheck]
      refine .inr ⟨⟨e, rfl, ?_⟩, hnext.staircase⟩
      cases r with
      | error e' =>
        cases hcheck
        exact hr
      | ok result => exact requireSynchronousCallback_error hcheck

/-- What the driver knows and what the sinks have received: while no dispatch has failed, every
sink has received every event. -/
structure Agrees (n : ℕ) (s : DriverTrace V E) (tr : Trace (FanCall V E) (FanReply V E)) :
    Prop where
  staircase : Staircase n tr
  level : undelivered s = [] → ∀ i, i < n → received i tr = emitted s

/-- A call that is no emission reaches no sink. -/
lemma Agrees.driver {s s' : DriverTrace V E} (h : Agrees n s tr) (c : Call V E) (r : Reply V E c)
    (hu : undelivered s' = [] → undelivered s = []) (he : emitted s' = emitted s) :
    Agrees n s' (tr ++ [⟨.driver c, r⟩]) := by
  have hrec : ∀ i, received i (tr ++ [⟨.driver c, r⟩]) = received i tr := fun i => by
    simp [received]
  refine ⟨fun i j hij hj => ?_, fun hs i hi => ?_⟩
  · rw [hrec i, hrec j]
    exact h.staircase i j hij hj
  · rw [hrec i, he]
    exact h.level (hu hs) i hi

/-- A call of the driver that is no emission, handled by the composite sink. -/
lemma wp_driver {s : DriverTrace V E} (h : Agrees n s tr) (c : Call V E)
    (hf : ∀ r, failureOf ⟨c, r⟩ = none) (he : ∀ r, emissionOf ⟨c, r⟩ = none) :
    Prog.wp (monitor n) (fun r tr' => FailStop.monitor.expect s c r ∧
      Agrees n (FailStop.monitor.next s c r) tr') (.call (.driver c) .ret) tr := by
  have hnext : ∀ r, Agrees n (FailStop.monitor.next s c r) (tr ++ [⟨.driver c, r⟩]) := by
    intro r
    cases hc : c.isService with
    | true =>
      rw [Quiet.next s c r hc]
      exact h.driver c r id rfl
    | false =>
      rw [observer_next hc]
      refine h.driver c r (fun hu => ?_) ?_
      · simp only [observe_append, observe_cons, undelivered_of, hf, List.append_eq_nil_iff] at hu
        exact hu.1
      · simp only [observe_append, observe_cons, emitted_of, he]
        exact List.append_nil _
  exact ⟨fun r => (hnext r).staircase, fun r _ => ⟨trivial, hnext r⟩⟩

/-- An emission, handled by the composite sink. -/
lemma wp_emission {s : DriverTrace V E} (h : Agrees n s tr) (object : ObjId)
    (event : RunEvent V E) (hu : undelivered s = []) :
    Prog.wp (monitor n) (fun r tr' => FailStop.monitor.expect s (.emit event) r ∧
      Agrees n (FailStop.monitor.next s (.emit event) r) tr')
      (emit object event (List.range n)) tr := by
  rw [List.range_eq_range']
  refine Prog.wp_mono (fun r tr' hr => ⟨trivial, ?_⟩)
    (wp_emit object event (emitted s) n (Nat.zero_add n) fun i hi => by simp [h.level hu i hi])
  rw [observer_next rfl]
  rcases hr with ⟨rfl, hlevel⟩ | ⟨⟨e, rfl, he⟩, hstairs⟩
  · refine ⟨hlevel.staircase, fun _ i hi => ?_⟩
    rw [hlevel i hi, if_pos hi]
    simp
  · refine ⟨hstairs, fun hu' => ?_⟩
    simp [Failed, he] at hu'

/-- Handling the calls of the driver by a composite sink simulates the driver. -/
lemma wp_fanOut {s : DriverTrace V E} (object : ObjId) (c : Call V E) (h : Agrees n s tr)
    (hallow : FailStop.monitor.allow s c) :
    Prog.wp (monitor n) (fun r tr' => FailStop.monitor.expect s c r ∧
      Agrees n (FailStop.monitor.next s c r) tr') (fanOut object n c) tr := by
  cases c with
  | emit event =>
    exact wp_emission h object event (hallow.resolve_left nofun rfl)
  | _ => exact wp_driver h _ (fun _ => rfl) fun _ => rfl

end CompositeEventSink

/-- A driver run with a composite sink of `n` sinks: its calls so far are `tr`, and `q` is what is
left of it. -/
def FanOutRuns (object : ObjId) (n : ℕ) (host : V) (metadata : List (String × V))
    (given : Option String) (tr : Trace (FanCall V E) (FanReply V E))
    (q : Prog (FanCall V E) (FanReply V E) (Except Exc V × DriverState E)) : Prop :=
  ∃ fuel, Exec ((AgentDriver.run fuel host metadata given AgentDriver.initialState).handle
    (fanOut object n)) tr q

/-- **Fan-out.** The sinks of a composite sink have received the same events, up to the last one,
which the later sinks may lack. -/
theorem staircase_fanOut {object : ObjId} {n : ℕ} {host : V} {metadata : List (String × V)}
    {given : Option String} {tr : Trace (FanCall V E) (FanReply V E)}
    {q : Prog (FanCall V E) (FanReply V E) (Except Exc V × DriverState E)}
    (h : FanOutRuns object n host metadata given tr q)
    (hsinks : ∀ x ∈ tr, OrdinarySinks x.1 x.2) : Staircase n tr := by
  obtain ⟨fuel, hx⟩ := h
  have hkeeps : Prog.wp (CompositeEventSink.monitor (V := V) (E := E) n) (fun _ _ => True)
      ((AgentDriver.run fuel host metadata given AgentDriver.initialState).handle
        (fanOut object n)) [] :=
    Prog.wp_handle (fanOut object n) (CompositeEventSink.Agrees n)
      (fun _ _ c hagrees hallow => CompositeEventSink.wp_fanOut object c hagrees hallow)
      (fun _ _ _ _ _ => trivial) ⟨staircase_nil n, fun _ _ _ => rfl⟩
      (FailStop.keeps fuel host metadata given)
  refine hx.trace_induction (I := fun tr => (∀ x ∈ tr, OrdinarySinks x.1 x.2) → Staircase n tr)
    ?_ ?_ hsinks
  · exact fun _ => staircase_nil n
  · intro tr c k r hk _ hsinks
    have hallow := Prog.history_call hk hkeeps fun x hx => hsinks x (List.mem_append_left _ hx)
    rw [show kept (fun _ => true) tr = tr from List.filter_eq_self.2 fun _ _ => rfl] at hallow
    exact hallow r

namespace AgentDriver

/-- **Fail-stop.** Once a dispatch has failed, the run emits nothing, advances nothing and executes
nothing any more, and does not return a result; so the sinks of a composite sink that raise ordinary
exceptions only have received the same events, up to the last one. -/
theorem fail_stop (host : V) (metadata : List (String × V)) (given : Option String) :
    (∀ (tr : DriverTrace V E) q, DriverRuns host metadata given tr q → undelivered tr ≠ [] →
      (∀ c k, q = .call c k → c.drives = false) ∧ ∀ v s, q ≠ .ret (.ok v, s)) ∧
    (∀ object n (tr : Trace (FanCall V E) (FanReply V E)) q,
      FanOutRuns object n host metadata given tr q → (∀ x ∈ tr, OrdinarySinks x.1 x.2) →
      Staircase n tr) := by
  refine ⟨fun tr q h hfailed => ⟨?_, ?_⟩, fun object n tr q h hsinks =>
    staircase_fanOut h hsinks⟩
  · rintro c k rfl
    cases hc : c.drives with
    | false => rfl
    | true =>
      have hservice : c.isService = false := by cases c <;> first | rfl | cases hc
      have hallow := h.call (fun fuel => FailStop.keeps fuel host metadata given)
        (fun _ _ => trivial) hservice
      rw [observe_visible] at hallow
      exact absurd (hallow hc) hfailed
  · rintro v s rfl
    have hpost := (h.ret (fun fuel => FailStop.keeps fuel host metadata given)
      fun _ _ => trivial).2
    rw [FailStop.Post, observe_visible] at hpost
    exact hfailed hpost

/-- Two sinks, of which the second raises. -/
def secondSinkFails : (c : FanCall Unit Unit) → FanReply Unit Unit c
  | .driver c => Collaborators.plain.answer c
  | .sink 0 _ => .ok .none
  | .sink (_ + 1) _ => .error ⟨.given 0, .exception, "builtins.ValueError", "disk full"⟩

@[inherit_doc secondSinkFails]
def secondSinkFailsRun :
    Trace (FanCall Unit Unit) (FanReply Unit Unit) ×
      Prog (FanCall Unit Unit) (FanReply Unit Unit) (Except Exc Unit × DriverState Unit) :=
  ((run 20 () [] (some "run") initialState).handle (fanOut (.given 1) 2)).play
    (List.replicate 20 secondSinkFails)

/-- A run whose first event is not accepted does not return, and neither sink of the pair above
gets ahead of the other. -/
theorem fail_stop_rejected :
    let w : Collaborators Unit Unit := { Collaborators.plain with sink := fun _ => .ok .awaitable }
    (∀ v s, (w.play () [] (some "run") 20).2 ≠ .ret (.ok v, s)) ∧
    Staircase 2 secondSinkFailsRun.1 := by
  refine ⟨((fail_stop () [] (some "run")).1 _ _ (Collaborators.runs _ () [] (some "run") 20)
      (by exact List.cons_ne_nil _ _)).2,
    (fail_stop () [] (some "run")).2 (.given 1) 2 _ _ ⟨20, .play _ _⟩ ?_⟩
  rintro ⟨c, r⟩ hx
  obtain rfl : r = secondSinkFails c := Prog.mem_play hx
  match c with
  | .driver _ => trivial
  | .sink 0 _ => trivial
  | .sink (_ + 1) _ => rfl

end AgentDriver

end PurrceptCore
