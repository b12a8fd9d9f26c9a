import PurrceptCore.Driver.Outline
import PurrceptCore.Interaction.History

set_option relaxedAutoImplicit false
set_option autoImplicit false

/-!
# What can be observed of a driver run

The calls of a driver run, read off its trace: the events passed to the sink, the effects that
were yielded and executed, the outcomes of the executor and what was delivered to the run. The
statements about the driver are about these.

## Main definitions

* `PurrceptCore.DriverTrace` — the calls of a driver run, each with its reply.
* `PurrceptCore.emitted`, `yields`, `executed`, `outcomes`, `deliveries`, `closes` — the
  observations.
* `PurrceptCore.observer` — the monitor that remembers all calls but the service calls.
* `PurrceptCore.DriverRuns` — a trace of a driver run.

## Main results

* `PurrceptCore.DriverRuns.call`, `PurrceptCore.DriverRuns.ret` — what an outline over the observer
  establishes at every call of a run, and at its end.
-/

namespace PurrceptCore

open Interaction

variable {V E : Type}

/-- The calls of a driver run, each with its reply. -/
abbrev DriverTrace (V E : Type) : Type := Trace (Call V E) (Reply V E)

/-! ### Observations -/

/-- Something that a call and its reply may show. Service calls show nothing. -/
structure Observation (V E β : Type) where
  /-- What a call and its reply show. -/
  of : (Σ c, Reply V E c) → Option β
  service : ∀ x, x.1.isService = true → of x = none

/-- What the calls of a trace show, in order. -/
def Observation.observe {β : Type} (f : Observation V E β) (tr : DriverTrace V E) : List β :=
  tr.filterMap f.of

instance {β : Type} : CoeFun (Observation V E β) fun _ => DriverTrace V E → List β :=
  ⟨Observation.observe⟩

section Observe

variable {β : Type} (f : Observation V E β)

@[simp] lemma observe_nil : f [] = [] := rfl

@[simp] lemma observe_append (tr tr' : DriverTrace V E) :
    f (tr ++ tr') = f tr ++ f tr' := List.filterMap_append

@[simp] lemma observe_cons (x : Σ c, Reply V E c) (tr : DriverTrace V E) :
    f (x :: tr) = (f.of x).toList ++ f tr := by
  cases h : f.of x <;> simp [Observation.observe, h]

/-- A call that shows nothing. -/
lemma observe_snoc_none {tr : DriverTrace V E} {x : Σ c, Reply V E c} (h : f.of x = none) :
    f (tr ++ [x]) = f tr := by
  rw [observe_append, observe_cons, h]
  exact List.append_nil _

end Observe

/-- A further look at what is observed. -/
@[simps]
def Observation.filterMap {β γ : Type} (f : Observation V E β) (g : β → Option γ) :
    Observation V E γ where
  of x := (f.of x).bind g
  service x hx := by rw [f.service x hx]; rfl

/-- A further look at all that is observed. -/
lemma observe_filterMap {β γ : Type} (f : Observation V E β) (g : β → Option γ)
    (tr : DriverTrace V E) : f.filterMap g tr = (f tr).filterMap g :=
  (List.filterMap_filterMap ..).symm

/-- Nothing to look at. -/
lemma Observation.filterMap_none {β γ : Type} {f : Observation V E β} {g : β → Option γ}
    {x : Σ c, Reply V E c} (h : f.of x = none) : (f.filterMap g).of x = none := by
  rw [filterMap_of, h]
  rfl

/-- The event passed to the sink. -/
@[simp] def emissionOf : (Σ c, Reply V E c) → Option (RunEvent V E)
  | ⟨.emit event, _⟩ => some event
  | _ => none

/-- The event whose dispatch failed in an ordinary way. -/
@[simp] def failureOf : (Σ c, Reply V E c) → Option (RunEvent V E)
  | ⟨.emit event, r⟩ => if Failed r then some event else none
  | _ => none

/-- What `start`, `send` or `throw` came to. -/
@[simp] def advancementOf : (Σ c, Reply V E c) → Option (Except Exc (RunState V E))
  | ⟨.start, r⟩ => some r
  | ⟨.send _, r⟩ => some r
  | ⟨.throw _, r⟩ => some r
  | _ => none

/-- The effect handed to the executor, with its context. -/
@[simp] def executionOf : (Σ c, Reply V E c) → Option (E × ExecutionContext V)
  | ⟨.execute effect context, _⟩ => some (effect, context)
  | _ => none

/-- What the executor does next. -/
@[simp] def activityOf : (Σ c, Reply V E c) → Option (ExecReply V)
  | ⟨.execute _ _, r⟩ => some r
  | ⟨.resume _, r⟩ => some r
  | _ => none

/-- What was delivered to the run. -/
@[simp] def deliveryOf : (Σ c, Reply V E c) → Option (Except Exc V)
  | ⟨.send v, _⟩ => some (.ok v)
  | ⟨.throw e, _⟩ => some (.error e)
  | _ => none

/-- A call of `close`. -/
@[simp] def closingOf : (Σ c, Reply V E c) → Option Unit
  | ⟨.close, _⟩ => some ()
  | _ => none

/-- The effect of an advancement that yielded. -/
@[simp] def yieldedEffect : Except Exc (RunState V E) → Option E
  | .ok (.yielded effect) => some effect
  | _ => none

/-- The outcome of an executor that has ended. -/
@[simp] def ExecReply.outcome : ExecReply V → Option (Except Exc V)
  | .done o => some o
  | .progress _ _ => none

/-- The events passed to the sink. -/
@[simps]
def emitted : Observation V E (RunEvent V E) where
  of := emissionOf
  service := by rintro ⟨_ | _, _⟩ h <;> first | rfl | cases h

/-- The events whose dispatch failed in an ordinary way. -/
@[simps]
def undelivered : Observation V E (RunEvent V E) where
  of := failureOf
  service := by rintro ⟨_ | _, _⟩ h <;> first | rfl | cases h

/-- What the advancements of the run came to. -/
@[simps]
def advancements : Observation V E (Except Exc (RunState V E)) where
  of := advancementOf
  service := by rintro ⟨_ | _, _⟩ h <;> first | rfl | cases h

/-- The effects handed to the executor, with their contexts. -/
@[simps]
def executions : Observation V E (E × ExecutionContext V) where
  of := executionOf
  service := by rintro ⟨_ | _, _⟩ h <;> first | rfl | cases h

/-- What the executor does, step by step. -/
@[simps]
def activities : Observation V E (ExecReply V) where
  of := activityOf
  service := by rintro ⟨_ | _, _⟩ h <;> first | rfl | cases h

/-- The values sent and the errors thrown into the run. -/
@[simps]
def deliveries : Observation V E (Except Exc V) where
  of := deliveryOf
  service := by rintro ⟨_ | _, _⟩ h <;> first | rfl | cases h

/-- The calls of `close`. -/
@[simps]
def closes : Observation V E Unit where
  of := closingOf
  service := by rintro ⟨_ | _, _⟩ h <;> first | rfl | cases h

/-- The effects yielded by the run. -/
abbrev yields : Observation V E E := advancements.filterMap yieldedEffect

/-- The effects handed to the executor. -/
abbrev executed : Observation V E E := executions.filterMap fun x => some x.1

/-- The outcomes of the executor. -/
abbrev outcomes : Observation V E (Except Exc V) := activities.filterMap ExecReply.outcome

/-! ### The observer -/

/-- The part of a trace that the observer remembers: all calls but the service calls. -/
def visible (tr : DriverTrace V E) : DriverTrace V E := kept (fun c => !c.isService) tr

/-- The monitor that remembers all calls but the service calls, allows these, and any other
call as `allow` says; replies are assumed to satisfy `expect`. -/
def observer (allow : DriverTrace V E → Call V E → Prop)
    (expect : (c : Call V E) → Reply V E c → Prop) :
    Monitor (Call V E) (Reply V E) (DriverTrace V E) :=
  .history (fun c => !c.isService) (fun tr c => c.isService = true ∨ allow tr c) expect

section Observer

variable {allow : DriverTrace V E → Call V E → Prop} {expect : (c : Call V E) → Reply V E c → Prop}

@[simp] lemma observer_allow (tr : DriverTrace V E) (c : Call V E) :
    (observer allow expect).allow tr c ↔ c.isService = true ∨ allow tr c := Iff.rfl

@[simp] lemma observer_expect (tr : DriverTrace V E) (c : Call V E) (r : Reply V E c) :
    (observer allow expect).expect tr c r ↔ expect c r := Iff.rfl

/-- The observer appends a call with its reply. -/
lemma observer_next {tr : DriverTrace V E} {c : Call V E} {r : Reply V E c}
    (hc : c.isService = false) : (observer allow expect).next tr c r = tr ++ [⟨c, r⟩] := by
  simp [observer, Monitor.history, hc]

instance : Quiet (observer allow expect) where
  allow _ _ hc := .inl hc
  next m c r hc := by simp [observer, Monitor.history, hc]

end Observer

/-- The observer sees all there is to observe. -/
@[simp] lemma observe_visible {β : Type} (f : Observation V E β) (tr : DriverTrace V E) :
    f (visible tr) = f tr :=
  filterMap_kept (fun x hx => f.service x (by simpa using hx)) tr

/-- A call the observer remembers is remembered last. -/
lemma visible_snoc {tr : DriverTrace V E} {c : Call V E} (r : Reply V E c)
    (hc : c.isService = false) : visible (tr ++ [⟨c, r⟩]) = visible tr ++ [⟨c, r⟩] := by
  simp [visible, kept, List.filter_append, hc]

/-! ### Driver runs -/

/-- The clocks and the id factory are total. -/
def TotalServices : (c : Call V E) → Reply V E c → Prop
  | .idFactory, .error _ | .clock, .error _ | .monotonic, .error _ => False
  | _, _ => True

/-- The event sink raises ordinary exceptions only. -/
def OrdinarySink : (c : Call V E) → Reply V E c → Prop
  | .emit _, .error e => e.cls.isException = true
  | _, _ => True

/-- Total services raise nothing. -/
lemma TotalServices.not_raises {allow : DriverTrace V E → Call V E → Prop}
    {expect : (c : Call V E) → Reply V E c → Prop} (h : ∀ c r, expect c r → TotalServices c r)
    {tr : DriverTrace V E} {e : Exc} : ¬ServiceRaises (observer allow expect) tr e := by
  rintro (hr | hr | hr) <;> exact h _ _ hr

/-- A driver run, with the run id it is given: its calls so far are `tr`, and `q` is what is left
of it. -/
def DriverRuns (host : V) (metadata : List (String × V)) (given : Option String)
    (tr : DriverTrace V E) (q : Prog (Call V E) (Reply V E) (Except Exc V × DriverState E)) :
    Prop :=
  ∃ fuel, Exec (AgentDriver.run fuel host metadata given AgentDriver.initialState) tr q

/-- Collaborators without memory: the sink, the run by what is delivered to it, the executor by the
answer it gets to a progress report, and closing the run. -/
structure Collaborators (V E : Type) where
  sink : RunEvent V E → Except Exc SinkResult
  flow : Option (Except Exc V) → Except Exc (RunState V E)
  executor : Option (Except Exc Unit) → ExecReply V
  close : Except Exc Unit

/-- Their replies; the clocks stand still. -/
def Collaborators.answer (w : Collaborators V E) : (c : Call V E) → Reply V E c
  | .idFactory => .ok "id"
  | .clock => .ok 0
  | .monotonic => .ok 0
  | .emit event => w.sink event
  | .start => w.flow none
  | .send v => w.flow (some (.ok v))
  | .throw e => w.flow (some (.error e))
  | .close => w.close
  | .execute _ _ => w.executor none
  | .resume o => w.executor (some o)
  | .addNote _ _ => ()
  | .setCause _ _ => ()

/-- The first `n` calls of a driver run with given collaborators. -/
def Collaborators.play (w : Collaborators V E) (host : V) (metadata : List (String × V))
    (given : Option String) (n : ℕ) :
    DriverTrace V E × Prog (Call V E) (Reply V E) (Except Exc V × DriverState E) :=
  (AgentDriver.run n host metadata given AgentDriver.initialState).play
    (List.replicate n w.answer)

lemma Collaborators.runs (w : Collaborators V E) (host : V) (metadata : List (String × V))
    (given : Option String) (n : ℕ) :
    DriverRuns host metadata given (w.play host metadata given n).1
      (w.play host metadata given n).2 :=
  ⟨n, .play _ _⟩

section Collaborators

variable {w : Collaborators V E} {host : V} {metadata : List (String × V)}
  {given : Option String} {n : ℕ} {x : Σ c, Reply V E c}

/-- The clocks and the id factory of the play are total. -/
lemma Collaborators.total (hx : x ∈ (w.play host metadata given n).1) :
    TotalServices x.1 x.2 := by
  obtain ⟨c, r⟩ := x
  obtain rfl : r = w.answer c := Prog.mem_play hx
  cases c <;> trivial

/-- The sink of the play raises what the sink of the collaborators does. -/
lemma Collaborators.ordinary (hw : ∀ event e, w.sink event = .error e → e.cls.isException = true)
    (hx : x ∈ (w.play host metadata given n).1) : OrdinarySink x.1 x.2 := by
  obtain ⟨c, r⟩ := x
  obtain rfl : r = w.answer c := Prog.mem_play hx
  cases c with
  | emit event =>
    cases hr : w.sink event with
    | ok result => simp [OrdinarySink, answer, hr]
    | error e => simpa [OrdinarySink, answer, hr] using hw event e hr
  | _ => trivial

end Collaborators

/-- Collaborators of a flow that yields once and returns; nothing fails. -/
def Collaborators.plain : Collaborators Unit Unit where
  sink _ := .ok .none
  flow
    | none => .ok (.yielded ())
    | some _ => .ok (.returned ())
  executor _ := .done (.ok ())
  close := .ok ()

section Soundness

variable {allow : DriverTrace V E → Call V E → Prop} {expect : (c : Call V E) → Reply V E c → Prop}
  {host : V} {metadata : List (String × V)} {given : Option String}
  {Q : Except Exc V → DriverTrace V E → Prop} {tr : DriverTrace V E}

/-- **Soundness at a call.** At every call of a driver run but the service calls, the condition of
an observer with an outline holds. -/
theorem DriverRuns.call {c : Call V E}
    {k : Reply V E c → Prog (Call V E) (Reply V E) (Except Exc V × DriverState E)}
    (h : DriverRuns host metadata given tr (.call c k))
    (O : ∀ fuel, Routine.wp (observer allow expect) (AgentDriver.run fuel host metadata given)
      (Outline.Post Q) AgentDriver.initialState [])
    (he : ∀ x ∈ tr, expect x.1 x.2) (hc : c.isService = false) : allow (visible tr) c := by
  obtain ⟨fuel, hx⟩ := h
  have hcall := Prog.history_call hx (O fuel) he
  rcases hcall with hservice | hallow
  · rw [hc] at hservice
    cases hservice
  · exact hallow

/-- **Soundness at the end.** When a driver run has ended, every progress channel is finished and
the postcondition of an observer with an outline holds. -/
theorem DriverRuns.ret {o : Except Exc V} {s : DriverState E}
    (h : DriverRuns host metadata given tr (.ret (o, s)))
    (O : ∀ fuel, Routine.wp (observer allow expect) (AgentDriver.run fuel host metadata given)
      (Outline.Post Q) AgentDriver.initialState [])
    (he : ∀ x ∈ tr, expect x.1 x.2) : AgentDriver.AllFinished s ∧ Q o (visible tr) := by
  obtain ⟨fuel, hx⟩ := h
  exact Prog.history_ret hx (O fuel) he

end Soundness

end PurrceptCore
