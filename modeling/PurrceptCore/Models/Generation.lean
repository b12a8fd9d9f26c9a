import PurrceptCore.Interaction.Answers
import PurrceptCore.Interaction.Serve
import PurrceptCore.Models.Requests

set_option relaxedAutoImplicit false
set_option autoImplicit false

/-!
# Generating a response

`Generate.execute` (`effects.py`): it calls the backend of a model, hands the stream events that the
backend emits to the progress callback, and validates the response.

## Main definitions

* `PurrceptCore.ModelStreamEvent`, `PurrceptCore.ModelBackend` — what a backend emits and does.
* `PurrceptCore.StreamForwarder` — the slots of `_StreamForwarder`, with its methods
  `PurrceptCore.StreamForwarder.call` and `PurrceptCore.StreamForwarder.validateResponse`.
* `PurrceptCore.Generate.execute` — one generation.
* `PurrceptCore.IsStream`, `PurrceptCore.Violates` — the stream protocol.
* `PurrceptCore.Emitted` — what a sequence of emitted objects amounts to.

## Main results

* `PurrceptCore.StreamForwarder.wp_call` — what an emission does to the forwarder and the progress.
* `PurrceptCore.generate_streams` — a generation returns exactly if the backend has kept to the
  protocol and has returned the response it has completed the stream with.

## Design

* A backend is a program: it calls `emit`, sees whether that raises, and ends. It may swallow what
  `emit` raises, or raise it, or anything else. When there is no forwarder, `emit` is `None`, and
  calling it raises.
* Of an event only its class and the response of a completed stream are looked at; of everything
  else the identity matters. Whether two responses are equal is a parameter.
* The progress callback is a call, which may raise.
-/

namespace PurrceptCore

open Interaction Routine

/-! ### The code -/

/-- `ModelStreamCompleted`. -/
structure ModelStreamCompleted where
  object : ObjId
  response : ModelResponse

/-- A `ModelStreamEvent`: a `ModelStreamStarted`, a `ModelStreamCompleted`, or any other: a delta, a
usage update, an event of another package. -/
inductive ModelStreamEvent
  | started (object : ObjId)
  | completed (event : ModelStreamCompleted)
  | other (object : ObjId)

/-- `isinstance(event, ModelStreamStarted)`. -/
def ModelStreamEvent.isStarted : ModelStreamEvent → Bool
  | started _ => true
  | _ => false

/-- `isinstance(event, ModelStreamCompleted)`, with the event it is. -/
def ModelStreamEvent.completed? : ModelStreamEvent → Option ModelStreamCompleted
  | completed event => some event
  | _ => none

/-- What a backend calls `emit` with: an event, or any other object. -/
inductive StreamObject
  | event (event : ModelStreamEvent)
  | other (object : ObjId)

/-- What a call of `emit` does. -/
abbrev EmitReply (_ : StreamObject) : Type := Except Exc Unit

/-- What a backend returns. -/
inductive Generated
  | response (response : ModelResponse)
  | other (object : ObjId)

/-- `ModelBackend.generate`, by what it does: given the request, the name of the model, and whether
`emit` is a callback or `None`. -/
abbrev ModelBackend : Type :=
  (request : ModelRequest) → (model : NonEmptyString) → (emit : Bool) →
    Prog StreamObject EmitReply (Except Exc Generated)

/-- The slots of a `_StreamForwarder` that change. -/
structure StreamForwarder where
  seenEvent : Bool
  completedEvent : Option ModelStreamCompleted
  protocolError : Option Exc

/-- `_StreamForwarder(context)`. -/
def StreamForwarder.new : StreamForwarder := ⟨false, none, none⟩

/-- What the progress callback does with a payload. -/
abbrev ProgressReply (_ : ModelStreamEvent) : Type := Except Exc Unit

/-- Parts of a generation. They call the progress callback. -/
abbrev GenerateM (α : Type) : Type :=
  Routine StreamForwarder ModelStreamEvent ProgressReply Exc α

/-- `context.progress(event)`. -/
def progress (event : ModelStreamEvent) : GenerateM Unit := do
  Routine.ofExcept (← Routine.call event)

/-- The `TypeError` of a violation. -/
def streamError (text : String) : Exc := ⟨.made 0, .typeError, "builtins.TypeError", text⟩

/-- `_require_model_stream_event`. -/
def requireModelStreamEvent : StreamObject → Except Exc ModelStreamEvent
  | .event event => .ok event
  | .other _ => .error (streamError "model backend must emit ModelStreamEvent instances.")

/-- `_require_model_response`. -/
def requireModelResponse : Generated → Except Exc ModelResponse
  | .response response => .ok response
  | .other _ => .error
    ⟨.made 1, .typeError, "builtins.TypeError", "model backend must return a ModelResponse."⟩

namespace StreamForwarder

/-- The checks of `__call__`. -/
def check (self : StreamForwarder) (object : StreamObject) : Except Exc ModelStreamEvent := do
  let event ← requireModelStreamEvent object
  if self.completedEvent.isSome then
    .error (streamError "model backend must not emit events after ModelStreamCompleted.")
  else if event.isStarted && self.seenEvent then
    .error (streamError "ModelStreamStarted must be the first stream event and emitted once.")
  else
    .ok event

/-- `_StreamForwarder.__call__`. -/
def call (object : StreamObject) : GenerateM Unit := do
  let self ← get
  match self.protocolError with
  | some error => throw error
  | none =>
    match self.check object with
    | .error error => do
      set { self with protocolError := some error }
      throw error
    | .ok (.completed event) => set { self with seenEvent := true, completedEvent := some event }
    | .ok event => do
      set { self with seenEvent := true }
      progress event

/-- `_StreamForwarder.validate_response`. -/
def validateResponse [BEq ModelResponse] (response : ModelResponse) : GenerateM Unit := do
  let self ← get
  match self.protocolError with
  | some error => throw error
  | none =>
    match self.completedEvent with
    | none => pure ()
    | some event =>
      if event.response != response then do
        let error := streamError ("ModelStreamCompleted.response must equal the ModelResponse " ++
          "returned by the backend.")
        set { self with protocolError := some error }
        throw error
      else
        progress (.completed event)

end StreamForwarder

/-- `Generate`. -/
structure Generate where
  model : Model
  request : ModelRequest
  emitStreamEvents : Bool

/-- What calling `None` raises. -/
def noneNotCallable : Exc :=
  ⟨.made 2, .typeError, "builtins.TypeError", "'NoneType' object is not callable"⟩

/-- What a call of `emit` does: it is the forwarder, or `None`. What it raises is raised in the
backend. -/
def StreamForwarder.emit (forward : Bool) (object : StreamObject) : GenerateM (EmitReply object) :=
  if forward then Routine.attempt (StreamForwarder.call object)
  else pure (.error noneNotCallable)

/-- `Generate.execute`. -/
def Generate.execute [BEq ModelResponse] (self : Generate) (backend : ModelBackend) :
    GenerateM ModelResponse := do
  let outcome ← (backend self.request self.model.name self.emitStreamEvents).serve
    (StreamForwarder.emit self.emitStreamEvents)
  let response ← Routine.ofExcept (requireModelResponse (← Routine.ofExcept outcome))
  if self.emitStreamEvents then do
    StreamForwarder.validateResponse response
    return response
  else
    return response

/-! ### The protocol -/

/-- `isinstance(event, ModelStreamCompleted)`. -/
def ModelStreamEvent.isCompleted (event : ModelStreamEvent) : Bool := event.completed?.isSome

/-- **A stream**: `ModelStreamStarted` is at most the first event, `ModelStreamCompleted` at most
the last one. -/
structure IsStream (events : List ModelStreamEvent) : Prop where
  started : ∀ event ∈ events.tail, event.isStarted = false
  completed : ∀ event ∈ events.dropLast, event.isCompleted = false

/-- **A violation**: an object that is emitted after the events of a stream, with the text of the
error. -/
inductive Violates (events : List ModelStreamEvent) : StreamObject → String → Prop
  | notEvent (object : ObjId) :
      Violates events (.other object) "model backend must emit ModelStreamEvent instances."
  | afterCompleted (event : ModelStreamEvent) (h : ∃ e ∈ events, e.isCompleted = true) :
      Violates events (.event event)
        "model backend must not emit events after ModelStreamCompleted."
  | notFirst (event : ModelStreamEvent) (hopen : ∀ e ∈ events, e.isCompleted = false)
      (hstarted : event.isStarted = true) (hfirst : events ≠ []) :
      Violates events (.event event)
        "ModelStreamStarted must be the first stream event and emitted once."

/-- **What the objects amount to** that a backend has emitted: they are the events of a stream, or
there is a first violation after such events. -/
inductive AmountsTo : List StreamObject → List ModelStreamEvent → Option Exc → Prop
  | stream (events : List ModelStreamEvent) (h : IsStream events) :
      AmountsTo (events.map .event) events none
  | violation (events : List ModelStreamEvent) (object : StreamObject)
      (objects : List StreamObject) (text : String) (h : IsStream events)
      (hviolates : Violates events object text) :
      AmountsTo (events.map .event ++ object :: objects) events (some (streamError text))

/-- No events are a stream. -/
lemma IsStream.nil : IsStream [] where
  started _ h := absurd h List.not_mem_nil
  completed _ h := absurd h List.not_mem_nil

/-- A stream with one more event. -/
lemma isStream_concat {events : List ModelStreamEvent} {event : ModelStreamEvent} :
    IsStream (events ++ [event]) ↔ IsStream events ∧
      (∀ e ∈ events, e.isCompleted = false) ∧ (event.isStarted = true → events = []) := by
  have htail (h : events ≠ []) : (events ++ [event]).tail = events.tail ++ [event] :=
    List.tail_append_of_ne_nil h
  constructor
  · intro h
    have hopen : ∀ e ∈ events, e.isCompleted = false := by
      have hdrop := h.completed
      rwa [List.dropLast_concat] at hdrop
    refine ⟨⟨fun e he => ?_, fun e he => hopen e (List.dropLast_subset _ he)⟩, hopen, ?_⟩
    · have hne : events ≠ [] := by
        rintro rfl
        exact absurd he List.not_mem_nil
      exact h.started e (by rw [htail hne]; exact List.mem_append_left _ he)
    · intro hstarted
      by_contra hne
      have hlast := h.started event (by rw [htail hne]; simp)
      rw [hstarted] at hlast
      cases hlast
  · rintro ⟨h, hopen, hfirst⟩
    refine ⟨fun e he => ?_, by rwa [List.dropLast_concat]⟩
    by_cases hne : events = []
    · subst hne
      exact absurd he List.not_mem_nil
    · rw [htail hne] at he
      rcases List.mem_append.1 he with he | he
      · exact h.started e he
      · rw [List.mem_singleton.1 he]
        by_contra hstarted
        exact hne (hfirst (eq_true_of_ne_false hstarted))

/-- Events that a stream begins with are a stream. -/
lemma IsStream.of_append {events events' : List ModelStreamEvent}
    (h : IsStream (events ++ events')) : IsStream events := by
  induction events' using List.reverseRecOn with
  | nil => rwa [List.append_nil] at h
  | append_singleton events' event ih =>
    rw [← List.append_assoc] at h
    exact ih (isStream_concat.1 h).1

/-- A violation does not continue a stream. -/
lemma Violates.not_stream {events : List ModelStreamEvent} {event : ModelStreamEvent}
    {text : String} (h : Violates events (.event event) text) :
    ¬ IsStream (events ++ [event]) := by
  rw [isStream_concat]
  rintro ⟨-, hopen, hfirst⟩
  cases h with
  | afterCompleted _ h =>
    obtain ⟨e, he, hcompleted⟩ := h
    rw [hopen e he] at hcompleted
    cases hcompleted
  | notFirst _ _ hstarted hne => exact hne (hfirst hstarted)

/-- A violation after some events is not among the events of a stream. -/
lemma Violates.not_append {events events' : List ModelStreamEvent} {object : StreamObject}
    {text : String} (h : Violates events object text) {objects : List StreamObject}
    (hevents : events'.map StreamObject.event = events.map .event ++ object :: objects) :
    ¬ IsStream events' := by
  have hinj : Function.Injective StreamObject.event := fun _ _ h => StreamObject.event.inj h
  intro hstream
  obtain ⟨before, after, rfl, hbefore, hafter⟩ := List.map_eq_append_iff.1 hevents
  obtain rfl := List.map_injective_iff.2 hinj hbefore
  obtain ⟨event, rest, rfl, rfl, -⟩ := List.map_eq_cons_iff.1 hafter
  rw [← List.singleton_append, ← List.append_assoc] at hstream
  exact h.not_stream hstream.of_append

/-- What comes after a violation is no stream. -/
lemma AmountsTo.eq_none {objects : List StreamObject} {events events' : List ModelStreamEvent}
    {violation : Option Exc} (h : AmountsTo objects events violation)
    (hobjects : objects = events'.map .event) (hstream : IsStream events') :
    violation = none ∧ events = events' := by
  have hinj : Function.Injective StreamObject.event := fun _ _ h => StreamObject.event.inj h
  cases h with
  | stream _ h => exact ⟨rfl, List.map_injective_iff.2 hinj hobjects⟩
  | violation _ object objects text h hviolates =>
    exact (hviolates.not_append hobjects.symm hstream).elim

/-- Without a violation there is a stream. -/
lemma AmountsTo.of_none {objects : List StreamObject} {events : List ModelStreamEvent}
    (h : AmountsTo objects events none) : objects = events.map .event ∧ IsStream events := by
  cases h with
  | stream _ h => exact ⟨rfl, h⟩

/-- After a violation nothing changes. -/
lemma AmountsTo.after {objects : List StreamObject} {events : List ModelStreamEvent} {error : Exc}
    (h : AmountsTo objects events (some error)) (object : StreamObject) :
    AmountsTo (objects ++ [object]) events (some error) := by
  cases h with
  | violation _ first objects text h hviolates =>
    rw [List.append_assoc, List.cons_append]
    exact .violation events first _ text h hviolates

/-- One more event of a stream, or the first violation. -/
lemma AmountsTo.next {objects : List StreamObject} {events : List ModelStreamEvent}
    (h : AmountsTo objects events none) (object : StreamObject) :
    (∃ event, object = .event event ∧ IsStream (events ++ [event]) ∧
        AmountsTo (objects ++ [object]) (events ++ [event]) none) ∨
      ∃ text, Violates events object text ∧
        AmountsTo (objects ++ [object]) events (some (streamError text)) := by
  cases h with
  | stream _ h =>
    have hviolation {text : String} (hviolates : Violates events object text) :
        AmountsTo (events.map .event ++ [object]) events (some (streamError text)) :=
      .violation events object [] text h hviolates
    cases object with
    | other object => exact .inr ⟨_, .notEvent object, hviolation (.notEvent object)⟩
    | event event =>
      by_cases hcompleted : ∃ e ∈ events, e.isCompleted = true
      · have hviolates := Violates.afterCompleted event hcompleted
        exact .inr ⟨_, hviolates, hviolation hviolates⟩
      have hopen : ∀ e ∈ events, e.isCompleted = false := by
        intro e he
        by_contra hne
        exact hcompleted ⟨e, he, eq_true_of_ne_false hne⟩
      by_cases hfirst : event.isStarted = true → events = []
      · have hstream : IsStream (events ++ [event]) := isStream_concat.2 ⟨h, hopen, hfirst⟩
        refine .inl ⟨event, rfl, hstream, ?_⟩
        have hnext := AmountsTo.stream _ hstream
        rwa [List.map_append] at hnext
      · rw [Classical.not_imp] at hfirst
        have hviolates := Violates.notFirst event hopen hfirst.1 hfirst.2
        exact .inr ⟨_, hviolates, hviolation hviolates⟩

/-! ### The forwarder keeps to the protocol -/

/-- The monitor that remembers the payloads and assumes that the progress callback does not
raise. -/
def Monitor.payloads : Monitor ModelStreamEvent ProgressReply (List ModelStreamEvent) where
  allow _ _ := True
  expect _ _ reply := reply = .ok ()
  next payloads event _ := payloads ++ [event]

lemma Monitor.payloads_run (payloads : List ModelStreamEvent)
    (tr : Trace ModelStreamEvent ProgressReply) :
    Monitor.payloads.run payloads tr = payloads ++ tr.map Sigma.fst := by
  induction tr generalizing payloads with
  | nil => simp
  | cons x tr ih =>
    rw [Monitor.run_cons, ih, List.map_cons]
    exact List.append_assoc payloads [x.1] _

lemma Monitor.payloads_assumed (payloads : List ModelStreamEvent)
    {tr : Trace ModelStreamEvent ProgressReply} (h : ∀ x ∈ tr, x.2 = .ok ()) :
    Monitor.payloads.Assumed payloads tr := by
  induction tr generalizing payloads with
  | nil => trivial
  | cons x tr ih =>
    rw [List.forall_mem_cons] at h
    exact ⟨h.1, ih _ h.2⟩

/-- The events that are reported at once. -/
def reported (events : List ModelStreamEvent) : List ModelStreamEvent :=
  events.filter fun event => !event.isCompleted

/-- The event that has completed a stream. -/
def completion? (events : List ModelStreamEvent) : Option ModelStreamCompleted :=
  events.findSome? ModelStreamEvent.completed?

/-- What an emission does, if this is the first violation so far. -/
def emission : Option Exc → Except Exc Unit
  | none => .ok ()
  | some error => .error error

/-- The backend has made these attempts. The forwarder and the payloads are as the protocol says,
and each attempt has raised the first violation, once there was one. -/
structure Forwards (attempts : Trace StreamObject EmitReply) (forwarder : StreamForwarder)
    (payloads events : List ModelStreamEvent) (violation : Option Exc) : Prop where
  amounts : AmountsTo (attempts.map Sigma.fst) events violation
  protocolError : forwarder.protocolError = violation
  completedEvent : violation = none → forwarder.completedEvent = completion? events
  seenEvent : violation = none → forwarder.seenEvent = !events.isEmpty
  payloads : payloads = reported events
  replies : ∀ before x after, attempts = before ++ x :: after → ∃ events' violation',
    AmountsTo ((before ++ [x]).map Sigma.fst) events' violation' ∧ x.2 = emission violation'

lemma completion?_eq_none {events : List ModelStreamEvent} :
    completion? events = none ↔ ∀ e ∈ events, e.isCompleted = false := by
  simp [completion?, ModelStreamEvent.isCompleted]

namespace StreamForwarder

variable {attempts : Trace StreamObject EmitReply} {forwarder : StreamForwarder}
  {payloads events : List ModelStreamEvent} {violation : Option Exc}

/-- Before the first attempt. -/
lemma forwards_new : Forwards [] .new [] [] none where
  amounts := .stream [] .nil
  protocolError := rfl
  completedEvent _ := rfl
  seenEvent _ := rfl
  payloads := rfl
  replies before x after h := by simp at h

/-- The checks find exactly the violations. -/
lemma check_violation (h : Forwards attempts forwarder payloads events none) {object : StreamObject}
    {text : String} (hviolates : Violates events object text) :
    forwarder.check object = .error (streamError text) := by
  unfold check
  cases hviolates with
  | notEvent object => rfl
  | afterCompleted event hcompleted =>
    have hsome : forwarder.completedEvent.isSome = true := by
      rw [h.completedEvent rfl, Option.isSome_iff_ne_none, Ne, completion?_eq_none]
      intro hopen
      obtain ⟨e, he, hcompleted⟩ := hcompleted
      rw [hopen e he] at hcompleted
      cases hcompleted
    simp [requireModelStreamEvent, bind, Except.bind, hsome]
  | notFirst event hopen hstarted hfirst =>
    have hnone : forwarder.completedEvent = none := by
      rw [h.completedEvent rfl, completion?_eq_none]
      exact hopen
    have hseen : forwarder.seenEvent = true := by
      rw [h.seenEvent rfl, Bool.not_eq_true', List.isEmpty_eq_false_iff]
      exact hfirst
    simp [requireModelStreamEvent, bind, Except.bind, hnone, hseen, hstarted]

/-- The checks accept what continues the stream. -/
lemma check_stream (h : Forwards attempts forwarder payloads events none) {event : ModelStreamEvent}
    (hstream : IsStream (events ++ [event])) : forwarder.check (.event event) = .ok event := by
  obtain ⟨-, hopen, hfirst⟩ := isStream_concat.1 hstream
  have hnone : forwarder.completedEvent = none := by
    rw [h.completedEvent rfl, completion?_eq_none]
    exact hopen
  have hseen : (event.isStarted && forwarder.seenEvent) = false := by
    rw [h.seenEvent rfl]
    cases hstarted : event.isStarted with
    | false => rfl
    | true => rw [hfirst hstarted]; rfl
  unfold check
  simp only [requireModelStreamEvent, bind, Except.bind, hnone, hseen]
  rfl

/-- One more attempt, which has done what it should. -/
lemma replies_snoc (h : Forwards attempts forwarder payloads events violation)
    {object : StreamObject} {reply : EmitReply object} {events' : List ModelStreamEvent}
    {violation' : Option Exc}
    (hnext : AmountsTo (attempts.map Sigma.fst ++ [object]) events' violation')
    (hreply : reply = emission violation') (before : Trace StreamObject EmitReply)
    (x : Σ object, EmitReply object) (after : Trace StreamObject EmitReply)
    (hsplit : attempts ++ [⟨object, reply⟩] = before ++ x :: after) :
    ∃ events'' violation'', AmountsTo ((before ++ [x]).map Sigma.fst) events'' violation'' ∧
      x.2 = emission violation'' := by
  rcases List.eq_nil_or_concat after with rfl | ⟨after, last, rfl⟩
  · obtain ⟨rfl, hx⟩ := List.append_inj' hsplit rfl
    cases hx
    exact ⟨events', violation', by rwa [List.map_append], hreply⟩
  · rw [List.concat_eq_append, ← List.cons_append, ← List.append_assoc] at hsplit
    obtain ⟨hattempts, -⟩ := List.append_inj' hsplit rfl
    exact h.replies before x after hattempts

/-- The stream goes on with an event. -/
lemma forwards_stream (h : Forwards attempts forwarder payloads events none)
    {event : ModelStreamEvent} (hstream : IsStream (events ++ [event]))
    (hnext : AmountsTo (attempts.map Sigma.fst ++ [.event event]) (events ++ [event]) none) :
    Forwards (attempts ++ [⟨.event event, .ok ()⟩])
      ⟨true, event.completed?, none⟩ (payloads ++ reported [event]) (events ++ [event]) none where
  amounts := by
    rw [List.map_append]
    exact hnext
  protocolError := rfl
  completedEvent _ := by
    have hnone : completion? events = none :=
      completion?_eq_none.2 (isStream_concat.1 hstream).2.1
    unfold completion? at hnone ⊢
    rw [List.findSome?_append, hnone, Option.none_or, List.findSome?_singleton]
  seenEvent _ := by simp
  payloads := by
    rw [h.payloads]
    exact (List.filter_append events [event]).symm
  replies := replies_snoc h hnext rfl

/-- There is a violation now. -/
lemma forwards_violation (h : Forwards attempts forwarder payloads events violation)
    {object : StreamObject} {error : Exc}
    (hnext : AmountsTo (attempts.map Sigma.fst ++ [object]) events (some error)) :
    Forwards (attempts ++ [⟨object, .error error⟩])
      { forwarder with protocolError := some error } payloads events (some error) where
  amounts := by
    rw [List.map_append]
    exact hnext
  protocolError := rfl
  completedEvent h := by cases h
  seenEvent h := by cases h
  payloads := h.payloads
  replies := replies_snoc h hnext rfl

/-- **An emission** continues the stream, or it is or comes after the first violation. -/
theorem wp_call (h : Forwards attempts forwarder payloads events violation)
    (object : StreamObject) :
    Routine.wp Monitor.payloads (emit true object) (fun o forwarder' payloads' =>
      ∃ reply, o = .ok reply ∧ ∃ events' violation',
        Forwards (attempts ++ [⟨object, reply⟩]) forwarder' payloads' events' violation')
      forwarder payloads := by
  unfold emit
  rw [if_pos rfl, wp_attempt]
  obtain ⟨seenEvent, completedEvent, protocolError⟩ := forwarder
  obtain rfl : protocolError = violation := h.protocolError
  unfold call
  rw [wp_bind, wp_get, onOk_ok]
  cases protocolError with
  | some error =>
    exact ⟨.error error, rfl, _, _, forwards_violation h (h.amounts.after object)⟩
  | none =>
    rcases h.amounts.next object with ⟨event, rfl, hstream, hnext⟩ | ⟨text, hviolates, hnext⟩
    · have hforwards := forwards_stream h hstream hnext
      have hnone : completedEvent = none :=
        (h.completedEvent rfl).trans (completion?_eq_none.2 (isStream_concat.1 hstream).2.1)
      subst hnone
      simp only [check_stream h hstream]
      cases event with
      | completed completed =>
        have hnot : reported [.completed completed] = [] := rfl
        rw [hnot, List.append_nil] at hforwards
        exact ⟨.ok (), rfl, _, _, hforwards⟩
      | started object =>
        refine ⟨trivial, fun reply hreply => ?_⟩
        obtain rfl : reply = .ok () := hreply
        exact ⟨.ok (), rfl, _, _, hforwards⟩
      | other object =>
        refine ⟨trivial, fun reply hreply => ?_⟩
        obtain rfl : reply = .ok () := hreply
        exact ⟨.ok (), rfl, _, _, hforwards⟩
    · simp only [check_violation h hviolates]
      exact ⟨.error (streamError text), rfl, _, _, forwards_violation h hnext⟩

end StreamForwarder

/-! ### The whole generation -/

/-- A stream that is completed ends with its completion, and everything before it was reported. -/
lemma IsStream.eq_reported {events : List ModelStreamEvent} (h : IsStream events)
    {completed : ModelStreamCompleted} (hcompleted : completion? events = some completed) :
    events = reported events ++ [.completed completed] := by
  rcases List.eq_nil_or_concat events with rfl | ⟨before, last, rfl⟩
  · cases hcompleted
  rw [List.concat_eq_append] at h hcompleted ⊢
  have hopen := (isStream_concat.1 h).2.1
  have hlast : last = .completed completed := by
    have hnone : completion? before = none := completion?_eq_none.2 hopen
    unfold completion? at hnone hcompleted
    rw [List.findSome?_append, hnone, Option.none_or, List.findSome?_singleton] at hcompleted
    cases last with
    | completed event => rw [Option.some.inj hcompleted]
    | started object => cases hcompleted
    | other object => cases hcompleted
  subst hlast
  have hbefore : reported before = before :=
    List.filter_eq_self.2 fun e he => by rw [hopen e he]; rfl
  have hall : reported (before ++ [.completed completed]) = reported before ++ [] :=
    List.filter_append before _
  rw [hall, List.append_nil, hbefore]

/-- A stream that is not completed was reported. -/
lemma reported_eq_self {events : List ModelStreamEvent} (h : completion? events = none) :
    reported events = events :=
  List.filter_eq_self.2 fun e he => by rw [completion?_eq_none.1 h e he]; rfl

section Execute

variable [BEq ModelResponse]

/-- A completion carries an equal response, if there is one. -/
def AgreesWith (response : ModelResponse) (events : List ModelStreamEvent) : Prop :=
  ∀ completed, .completed completed ∈ events → (completed.response == response) = true

/-- **The first violation** of a backend that has emitted the objects and returned the response. -/
inductive FirstViolation (objects : List StreamObject) (response : ModelResponse) : Exc → Prop
  | emission (events : List ModelStreamEvent) (error : Exc)
      (h : AmountsTo objects events (some error)) : FirstViolation objects response error
  | response (events : List ModelStreamEvent) (h : AmountsTo objects events none)
      (hnot : ¬ AgreesWith response events) : FirstViolation objects response
        (streamError ("ModelStreamCompleted.response must equal the ModelResponse " ++
          "returned by the backend."))

/-- **How a generation has gone**, whose backend has made the given attempts to emit and has ended
so, and whose progress callback was called with the payloads. -/
structure Generation (attempts : Trace StreamObject EmitReply) (ending : Except Exc Generated)
    (outcome : Except Exc ModelResponse) (payloads : List ModelStreamEvent) : Prop where
  /-- An attempt raises the first violation, once there is one, and succeeds before. -/
  replies : ∀ before x after, attempts = before ++ x :: after → ∃ events violation,
    AmountsTo ((before ++ [x]).map Sigma.fst) events violation ∧ x.2 = emission violation
  /-- It returns the response that the backend has returned, if the emitted objects are a stream
  that agrees with it. -/
  returns : ∀ response, outcome = .ok response ↔ ending = .ok (.response response) ∧
    ∃ events, attempts.map Sigma.fst = events.map .event ∧ IsStream events ∧
      AgreesWith response events
  /-- Then everything that was emitted is reported. -/
  forwards : ∀ response, outcome = .ok response → attempts.map Sigma.fst = payloads.map .event
  /-- Otherwise what was emitted before the first violation, but for the completion. -/
  withholds : ∀ error, outcome = .error error → ∃ events violation,
    AmountsTo (attempts.map Sigma.fst) events violation ∧ payloads = reported events
  /-- If the backend has returned a response nevertheless, the error is the first violation. -/
  raises : ∀ error response, outcome = .error error → ending = .ok (.response response) →
    FirstViolation (attempts.map Sigma.fst) response error
  /-- What the backend has raised is raised. -/
  propagates : ∀ error, ending = .error error → outcome = .error error

variable {attempts : Trace StreamObject EmitReply} {forwarder : StreamForwarder}
  {payloads events : List ModelStreamEvent} {violation : Option Exc}

/-- The backend has not returned a response. -/
lemma Forwards.generation_failed (h : Forwards attempts forwarder payloads events violation)
    {ending : Except Exc Generated} {error : Exc}
    (hending : ∀ response, ending ≠ .ok (.response response))
    (herror : ∀ e, ending = .error e → e = error) :
    Generation attempts ending (.error error) payloads where
  replies := h.replies
  returns response := by
    refine iff_of_false (fun h => (by cases h)) fun h => hending response h.1
  forwards response h := by cases h
  withholds _ _ := ⟨events, violation, h.amounts, h.payloads⟩
  raises _ response _ hresponse := absurd hresponse (hending response)
  propagates e he := by rw [herror e he]

/-- The backend has returned a response, which is not returned. -/
lemma Forwards.generation_raised (h : Forwards attempts forwarder payloads events violation)
    {response : ModelResponse} {error : Exc}
    (hfirst : FirstViolation (attempts.map Sigma.fst) response error) :
    Generation attempts (.ok (.response response)) (.error error) payloads where
  replies := h.replies
  returns response' := by
    refine iff_of_false (fun h => (by cases h)) ?_
    rintro ⟨hresponse, events', hobjects, hstream, hagrees⟩
    cases hresponse
    cases hfirst with
    | emission events'' _ hamounts => cases (hamounts.eq_none hobjects hstream).1
    | response events'' hamounts hnot =>
      obtain ⟨-, rfl⟩ := hamounts.eq_none hobjects hstream
      exact hnot hagrees
  forwards response h := by cases h
  withholds _ _ := ⟨events, violation, h.amounts, h.payloads⟩
  raises e response' he hresponse := by
    cases he
    cases hresponse
    exact hfirst
  propagates e he := by cases he

/-- The backend has returned a response, which is returned. -/
lemma Forwards.generation_returned (h : Forwards attempts forwarder payloads events none)
    {response : ModelResponse} (hagrees : AgreesWith response events) :
    Generation attempts (.ok (.response response)) (.ok response) events := by
  have hobjects := h.amounts.of_none
  refine ⟨h.replies, fun response' => ⟨fun ho => ?_, fun ho => ?_⟩, fun _ _ => hobjects.1,
    fun _ he => (by cases he), fun _ _ he => (by cases he), fun _ he => (by cases he)⟩
  · cases ho
    exact ⟨rfl, events, hobjects.1, hobjects.2, hagrees⟩
  · cases ho.1
    rfl

/-- **The validation of the response** completes the stream, or raises the first violation. -/
lemma StreamForwarder.wp_validateResponse
    (h : Forwards attempts forwarder payloads events violation) (response : ModelResponse) :
    Routine.wp Monitor.payloads (validateResponse response >>= fun _ => Pure.pure response)
      (fun o _ payloads' => Generation attempts (.ok (.response response)) o payloads')
      forwarder payloads := by
  obtain ⟨seenEvent, completedEvent, protocolError⟩ := forwarder
  obtain rfl : protocolError = violation := h.protocolError
  refine (wp_bind _ _ _ _ _).2 ?_
  unfold validateResponse
  rw [wp_bind, wp_get, onOk_ok]
  cases protocolError with
  | some error => exact h.generation_raised (.emission events error h.amounts)
  | none =>
    have hcompleted : completedEvent = completion? events := h.completedEvent rfl
    cases completedEvent with
    | none =>
      have hopen := completion?_eq_none.1 hcompleted.symm
      have hpayloads : payloads = events := by
        rw [h.payloads]
        exact reported_eq_self hcompleted.symm
      subst hpayloads
      refine h.generation_returned fun completed hmem => ?_
      cases hopen _ hmem
    | some completed =>
      have hevents := h.amounts.of_none.2.eq_reported hcompleted.symm
      change Routine.wp _ (if (completed.response != response) = true then _ else _) _ _ _
      split
      · next hne =>
        refine h.generation_raised (.response events h.amounts fun hagrees => ?_)
        have hequal := hagrees completed (by rw [hevents]; simp)
        rw [bne, hequal] at hne
        cases hne
      · next heq =>
        have hequal : (completed.response == response) = true := by simpa [bne] using heq
        refine ⟨trivial, fun reply hreply => ?_⟩
        obtain rfl : reply = .ok () := hreply
        have hpayloads : payloads ++ [.completed completed] = events := by
          rw [h.payloads]
          exact hevents.symm
        change Generation attempts _ _ (payloads ++ [.completed completed])
        rw [hpayloads]
        refine h.generation_returned fun completed' hmem => ?_
        rw [hevents, List.mem_append, List.mem_singleton] at hmem
        rcases hmem with hmem | hmem
        · have hnot := (List.mem_filter.1 hmem).2
          cases hnot
        · cases hmem
          exact hequal

/-- **A generation**, whatever the backend does. -/
theorem Generate.wp_execute (self : Generate) (hforward : self.emitStreamEvents = true)
    (backend : ModelBackend) :
    Routine.wp Monitor.payloads (self.execute backend)
      (fun o _ payloads => ∃ attempts ending,
        Exec (backend self.request self.model.name true) attempts (.ret ending) ∧
          Generation attempts ending o payloads) .new [] := by
  unfold execute
  rw [hforward]
  have hnew : ∃ events violation, Forwards [] .new [] events violation :=
    ⟨[], none, StreamForwarder.forwards_new⟩
  have hserve := Prog.wp_serve (M := Monitor.payloads) (h := StreamForwarder.emit true)
    (I := fun attempts forwarder payloads => ∃ events violation,
      Forwards attempts forwarder payloads events violation)
    (fun attempts object forwarder payloads h => by
      obtain ⟨events, violation, h⟩ := h
      exact StreamForwarder.wp_call h object)
    (backend self.request self.model.name true) hnew
  refine (wp_bind _ _ _ _ _).2 (wp_mono ?_ hserve)
  rintro o forwarder payloads ⟨ending, attempts, rfl, hexec, events, violation, h⟩
  rw [List.nil_append] at h
  rw [onOk_ok]
  have hgeneration {o : Except Exc ModelResponse} {payloads' : List ModelStreamEvent}
      (hgen : Generation attempts ending o payloads') : ∃ attempts ending,
        Exec (backend self.request self.model.name true) attempts (.ret ending) ∧
          Generation attempts ending o payloads' := ⟨attempts, ending, hexec, hgen⟩
  cases ending with
  | error error =>
    exact hgeneration (h.generation_failed (fun _ h => (by cases h)) fun e he => by cases he; rfl)
  | ok generated =>
    cases generated with
    | other object =>
      exact hgeneration (h.generation_failed (fun _ h => (by cases h)) fun e he => by cases he)
    | response response =>
      exact wp_mono (fun _ _ _ hgen => hgeneration hgen)
        (StreamForwarder.wp_validateResponse h response)

/-- A generation goes on until its backend has ended. -/
lemma Generate.execute_uncut (self : Generate) {backend : ModelBackend}
    (h : (backend self.request self.model.name self.emitStreamEvents).Uncut) :
    Routine.Uncut (self.execute backend) := by
  have hprogress (event : ModelStreamEvent) : Routine.Uncut (progress event) :=
    (Uncut.call event).bind fun reply => Uncut.ofExcept reply
  have hcall (object : StreamObject) : Routine.Uncut (StreamForwarder.call object) := by
    refine Uncut.get.bind fun forwarder => ?_
    split
    · exact Uncut.throw _
    split
    · exact (Uncut.set _).bind fun _ => Uncut.throw _
    · exact Uncut.set _
    · exact (Uncut.set _).bind fun _ => hprogress _
  have hemit (object : StreamObject) :
      Routine.Uncut (StreamForwarder.emit self.emitStreamEvents object) := by
    unfold StreamForwarder.emit
    split
    · exact Uncut.attempt (hcall object)
    · exact Uncut.pure _
  have hvalidate (response : ModelResponse) :
      Routine.Uncut (StreamForwarder.validateResponse response) := by
    refine Uncut.get.bind fun forwarder => ?_
    split
    · exact Uncut.throw _
    split
    · exact Uncut.pure _
    split
    · exact (Uncut.set _).bind fun _ => Uncut.throw _
    · exact hprogress _
  refine (h.serve hemit).bind fun outcome => (Uncut.ofExcept _).bind fun generated =>
    (Uncut.ofExcept _).bind fun response => ?_
  split
  · exact (hvalidate response).bind fun _ => Uncut.pure _
  · exact Uncut.pure _

/-- **What a generation does**, for every backend, with stream events on and a progress callback
that does not raise. If the backend ends, the generation ends. Then it has returned the response
that the backend has returned if the emitted objects are a stream that agrees with it, and all of
them are reported. Otherwise it has raised, what was emitted before the first violation is reported,
but for the completion, and a backend that has returned a response does not hide the first
violation. -/
theorem generate_streams (self : Generate) (hforward : self.emitStreamEvents = true)
    (backend : ModelBackend) :
    ((backend self.request self.model.name true).Uncut → ∃ tr o,
      Exec (self.execute backend .new) tr (.ret o) ∧ ∀ x ∈ tr, x.2 = .ok ()) ∧
    ∀ tr outcome forwarder, Exec (self.execute backend .new) tr (.ret (outcome, forwarder)) →
      (∀ x ∈ tr, x.2 = .ok ()) → ∃ attempts ending,
        Exec (backend self.request self.model.name true) attempts (.ret ending) ∧
          Generation attempts ending outcome (tr.map Sigma.fst) := by
  constructor
  · intro huncut
    rw [← hforward] at huncut
    obtain ⟨tr, o, hexec, hanswers⟩ :=
      (self.execute_uncut huncut .new).exec fun _ => (.ok () : Except Exc Unit)
    exact ⟨tr, o, hexec, hanswers⟩
  · intro tr outcome forwarder hexec hquiet
    have hgeneration := wp_sound_ret hexec (self.wp_execute hforward backend)
      (Monitor.payloads_assumed [] hquiet)
    rw [Monitor.payloads_run, List.nil_append] at hgeneration
    exact hgeneration

end Execute

/-- A backend that starts a stream, swallows whatever happens, and completes the stream with the
response that it returns. -/
def completingBackend (response : ModelResponse) : ModelBackend := fun _ _ _ =>
  .call (.event (.started (.given 1))) fun _ =>
    .call (.event (.completed ⟨.given 2, response⟩)) fun _ => .ret (.ok (.response response))

/-- A response. -/
def hello : ModelResponse :=
  ⟨⟨.assistant, [.text "hello"], none, [], ContentBlock.text_ne_nil _⟩, none, rfl⟩

/-- A generation. -/
def greeting : Generate where
  model := ⟨.given 0, "greeter", by decide⟩
  request := {
    messages := [.user "hi"]
    instructions := []
    reminders := []
    tools := []
    settings := ⟨.auto⟩
    cache := ⟨.auto, none, none, false⟩
    continuation := none
    metadata := []
    providerOptions := []
    nonempty := fun h => List.cons_ne_nil _ _ h.1
    tool_names := List.nodup_nil
    instruction_keys := List.nodup_nil
    reminder_keys := List.nodup_nil
    required_tools := fun h => ToolChoice.noConfusion h }
  emitStreamEvents := true

/-- Both events of a completed stream are reported. -/
theorem generate_streams_completing : ∃ tr forwarder attempts ending,
    Exec (@Generate.execute ⟨fun _ _ => true⟩ greeting (completingBackend hello) .new) tr
      (.ret (.ok hello, forwarder)) ∧
    @Generation ⟨fun _ _ => true⟩ attempts ending (.ok hello) (tr.map Sigma.fst) ∧
    tr.length = 2 := by
  have hexec := Exec.play [fun _ => .ok (), fun _ => .ok ()]
    (@Generate.execute ⟨fun _ _ => true⟩ greeting (completingBackend hello) .new)
  obtain ⟨attempts, ending, -, hgeneration⟩ :=
    (@generate_streams ⟨fun _ _ => true⟩ greeting rfl (completingBackend hello)).2 _ _ _ hexec
      fun x hx => Prog.mem_play (n := 2) hx
  exact ⟨_, _, attempts, ending, hexec, hgeneration, rfl⟩

end PurrceptCore
